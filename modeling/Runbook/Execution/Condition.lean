import Runbook.Error
import Runbook.Run.Step
import Runbook.Template
import Runbook.Workflow.Matching

/-! The branch that follows a command: chosen by its condition from what the command gave.
-/

set_option autoImplicit false

namespace Runbook.Condition

/-- What a condition compares: a subject from the outcome of the command, and its parameter with all
tokens resolved. An exit code that the device did not report is an empty text. -/
def operands (condition : Condition) (parent : Step) (context : Template.Context) :
    Except Step.Error (String × String) := do
  match condition.test with
  | .regexMatches pattern => return (parent.rawOutput, ← resolve pattern)
  | .outputContains text => return (parent.rawOutput, ← resolve text)
  | .exitCodeEquals exitCode =>
    return ((parent.exitCode.map toString).getD "", toString exitCode)
  | .variableEquals variableName value =>
    match context.bound.get? variableName with
    | none =>
      throw ⟨.variableResolution, (Template.Fault.unboundVariable variableName).message⟩
    | some current => return (current, ← resolve value)
where
  resolve (template : String) : Except Step.Error String :=
    (context.resolve template).mapError fun fault =>
      ⟨.variableResolution, (Error.variableResolution fault.message).message⟩

/-- The arm that a command has earned. -/
def select (condition : Condition) (parent : Step) (context : Template.Context) :
    Except Step.Error Arm := do
  let (subject, parameter) ← condition.operands parent context
  match condition.effectiveOperator.evaluate subject parameter with
  | .ok true => return .then_
  | .ok false => return .else_
  | .error invalid => throw ⟨.invalidPattern, (Error.validation invalid.message).message⟩

end Runbook.Condition
