import Runbook.Error

/-! What a store can answer instead of doing what it was asked.
-/

set_option autoImplicit false

namespace Runbook.Store

inductive Error where
  | notFound (message : String)
  | validation (message : String)
  | conflict (message : String)
  | storage (message : String)
  | internal (message : String)
  deriving DecidableEq, Repr

namespace Error

def message : Error → String
  | .notFound message => s!"Not found: {message}"
  | .validation message => s!"Validation error: {message}"
  | .conflict message => s!"Conflict: {message}"
  | .storage message => s!"Storage error: {message}"
  | .internal message => s!"Internal error: {message}"

/-- For those who asked for something else than storage: only what is missing or wrong keeps its
kind. -/
def toError : Error → Runbook.Error
  | .notFound message => .notFound message
  | .validation message => .validation message
  | other => .persistence other.message

end Error

end Runbook.Store
