/-! Devices, what they answer, and what can go wrong on the way to them.
-/

set_option autoImplicit false

namespace Runbook

structure DeviceId where
  text : String
  deriving DecidableEq, Repr

namespace DeviceId

instance : ToString DeviceId := ⟨text⟩

end DeviceId

namespace Device

structure Output where
  text : String
  exitCode : Option Int32 := none
  deriving DecidableEq, Repr

inductive Error where
  | transport (message : String)
  | timeout (millis : UInt64)
  | closed
  | unavailable (message : String)
  deriving DecidableEq, Repr

namespace Error

def message : Error → String
  | .transport message => s!"Transport error: {message}"
  | .timeout millis => s!"Command timed out after {millis}ms"
  | .closed => "Session is closed"
  | .unavailable message => s!"Device unavailable: {message}"

def isTimeout : Error → Bool
  | .timeout _ => true
  | _ => false

end Error

abbrev Reply := Except Error Output

end Device

end Runbook
