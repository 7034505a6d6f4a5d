/-! What can go wrong when an event is delivered.
-/

set_option autoImplicit false

namespace Runbook.Notification

inductive Error where
  /-- The request could not be made, or got no answer. -/
  | request (message : String)
  /-- The endpoint answered, but not with success. -/
  | status (code : Nat)
  | serialization (message : String)
  | signingKey (message : String)
  deriving DecidableEq, Repr

namespace Error

def message : Error → String
  | .request message => s!"HTTP request failed: {message}"
  | .status code => s!"Endpoint returned status {code}"
  | .serialization message => s!"Serialization error: {message}"
  | .signingKey message => s!"Invalid signing key: {message}"

end Error

end Runbook.Notification
