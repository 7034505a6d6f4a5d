import Runbook.Execution.Procedure
import Runbook.Template
import Runbook.Workflow.Matching

/-! One command: its template is resolved, the device asked, the output judged, a value bound.

Whatever goes wrong is noted on the step; only a step without an error changes the variables.
-/

set_option autoImplicit false

namespace Runbook.Execution

structure Settings where
  /-- For commands that do not set one. -/
  defaultTimeoutMillis : UInt64 := 30000
  deriving DecidableEq, Repr

namespace Settings

def timeoutFor (settings : Settings) (command : Command) : UInt64 :=
  command.timeoutMillis.getD settings.defaultTimeoutMillis

end Settings

def unresolvedMessage (fault : Template.Fault) : String :=
  (Error.variableResolution fault.message).message

def resolveRule (context : Template.Context) (rule : MatchRule) :
    Except Template.Fault MatchRule := do
  return { rule with pattern := ← context.resolve rule.pattern }

def resolveRule? (context : Template.Context) :
    Option MatchRule → Except Template.Fault (Option MatchRule)
  | none => .ok none
  | some rule => (resolveRule context rule).map some

def rejectionKind : Matching.Rejection → FailureKind
  | .patternNotSatisfied _ _ => .matchFailure
  | .exitCodeMismatch _ _ => .exitCodeMismatch

/-- Keeps the extracted value on the step and under the name of the binding. -/
def keep (binding : Option Binding) (extracted : Option String) (step : Step)
    (context : Template.Context) : Step × Template.Context :=
  match binding, extracted with
  | some binding, some value =>
    ({ step with extractedValue := some value }, context.bind binding.name value)
  | _, _ => (step, context)

def judge (command : Command) (step : Step) (context : Template.Context)
    (output : Device.Output) : Step × Template.Context :=
  let step := { step with rawOutput := output.text, exitCode := output.exitCode }
  match resolveRule? context command.rule with
  | .error fault => (step.fail .variableResolution (unresolvedMessage fault), context)
  | .ok rule =>
    match Matching.evaluate output.text output.exitCode rule command.expectedExitCode
        command.binding.isSome with
    | .error invalid =>
      (step.fail .invalidPattern (Error.validation invalid.message).message, context)
    | .ok verdict =>
      let step := { step with matched := verdict.matched }
      match verdict.rejection with
      | some rejection => (step.fail (rejectionKind rejection) rejection.message, context)
      | none => keep command.binding verdict.extracted step context

/-- What a reply makes of the step of a command. -/
def receive (command : Command) (step : Step) (context : Template.Context) :
    Device.Reply → Step × Template.Context
  | .ok output => judge command step context output
  | .error error =>
    (step.fail (if error.isTimeout then .timeout else .commandExecution) error.message, context)

/-- Carries out a command, starting from a fresh step. -/
def evaluate (settings : Settings) (command : Command) (step : Step)
    (context : Template.Context) : Procedure (Step × Template.Context) := do
  let (step, context) ←
    match context.resolve command.template with
    | .error fault =>
      Procedure.done (step.fail .variableResolution (unresolvedMessage fault), context)
    | .ok text => do
      let reply ← Procedure.ask text (settings.timeoutFor command)
      Procedure.done (receive command { step with commandSent := text } context reply)
  return (step.finish (← Procedure.now), context)

end Runbook.Execution
