/-! What can go wrong when workflows are checked, started and run.
-/

set_option autoImplicit false

namespace Runbook

inductive Error where
  | notFound (id : String)
  | validation (message : String)
  | variableResolution (message : String)
  | commandExecution (message : String)
  | matchFailure (message : String)
  | rollbackFailure (message : String)
  | invalidTransition (source target : String)
  | sessionUnavailable (device message : String)
  | persistence (message : String)
  deriving DecidableEq, Repr

namespace Error

def message : Error → String
  | .notFound id => s!"Workflow not found: {id}"
  | .validation message => s!"Validation error: {message}"
  | .variableResolution message => s!"Variable resolution failed: {message}"
  | .commandExecution message => s!"Command execution failed: {message}"
  | .matchFailure message => s!"Match failure: {message}"
  | .rollbackFailure message => s!"Rollback failed: {message}"
  | .invalidTransition source target => s!"Invalid run transition from '{source}' to '{target}'"
  | .sessionUnavailable device message =>
    s!"Device session unavailable for '{device}': {message}"
  | .persistence message => s!"Persistence error: {message}"

/-- Whether it comes up before any command is sent. -/
def isValidation : Error → Bool
  | .validation _ | .notFound _ => true
  | _ => false

end Error

end Runbook
