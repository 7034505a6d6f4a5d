import Runbook.Execution.Condition
import Runbook.Execution.Evaluate

/-! The commands of a stage one after the other, each with the branch that its condition chooses.

A stage ends early with the first command that fails, or before a command when the run is cancelled.
Every step is handed on as soon as it is finished, and where that fails nothing more happens.
-/

set_option autoImplicit false

namespace Runbook.Execution

abbrev Action := ExceptT Error Procedure

inductive StageOutcome where
  | passed
  | failed (failure : Failure)
  | cancelled
  deriving DecidableEq, Repr

inductive BranchOutcome where
  | completed
  | failed (error : Step.Error)
  | cancelled
  deriving DecidableEq, Repr

/-- What a stage changes as it goes on: the variables, and whatever collects the steps. -/
structure Progress (σ : Type) where
  context : Template.Context
  collected : σ

/-- How a stage is run: the settings of its commands, where steps go, and whether it can be
cancelled. -/
structure StageRunner (σ : Type) where
  settings : Settings
  sink : σ → Step → Action σ
  cancellable : Bool := true

namespace StageRunner

variable {σ : Type}

def isCancelled (runner : StageRunner σ) : Action Bool :=
  if runner.cancellable then Procedure.isCancelled else pure false

def begin_ (stage : Stage) (commandIndex : Nat) (branch : Option Step.Branch)
    (description : Option String) (template : String) : Action Step := do
  let startedAt ← Procedure.now
  return { stage, commandIndex, branch, description, template, startedAt }

def runBranch (runner : StageRunner σ) (parent : Step) (arm : Arm) (index : Nat) :
    List BranchCommand → Progress σ → Action (BranchOutcome × Progress σ)
  | [], progress => pure (.completed, progress)
  | branch :: rest, progress => do
    if ← runner.isCancelled then return (.cancelled, progress)
    let step ← begin_ parent.stage parent.commandIndex
      (some ⟨parent.commandIndex, arm, index⟩) branch.description branch.template
    let (step, context) ← evaluate runner.settings branch.toCommand step progress.context
    let collected ← runner.sink progress.collected step
    let progress : Progress σ := ⟨context, collected⟩
    match step.error with
    | some error => return (.failed error, progress)
    | none => runner.runBranch parent arm (index + 1) rest progress

/-- The arm that follows a step; a condition that has no answer is an error of the step. -/
def chooseArm (command : Command) (step : Step) (context : Template.Context) :
    Step × Option (Condition × Arm) :=
  match command.condition, step.isSuccess with
  | some condition, true =>
    match condition.select step context with
    | .ok arm => (step, some (condition, arm))
    | .error error => ({ step with error := some error }, none)
  | _, _ => (step, none)

def commandFailure (stage : Stage) (index : Nat) (error : Step.Error) : Failure :=
  ⟨stage, index, error.kind, error.message⟩

def branchFailure (stage : Stage) (index : Nat) (arm : Arm) (error : Step.Error) : Failure :=
  ⟨stage, index, error.kind, s!"{arm} branch: {error.message}"⟩

def runFrom (runner : StageRunner σ) (stage : Stage) (index : Nat) :
    List Command → Progress σ → Action (StageOutcome × Progress σ)
  | [], progress => pure (.passed, progress)
  | command :: rest, progress => do
    if ← runner.isCancelled then return (.cancelled, progress)
    let step ← begin_ stage index none command.description command.template
    let (step, context) ← evaluate runner.settings command step progress.context
    let (step, chosen) := chooseArm command step context
    -- The step of a command is handed on before those of its branch.
    let collected ← runner.sink progress.collected step
    let progress : Progress σ := ⟨context, collected⟩
    match step.error, chosen with
    | some error, _ => return (.failed (commandFailure stage index error), progress)
    | none, none => runner.runFrom stage (index + 1) rest progress
    | none, some (condition, arm) => do
      let (outcome, progress) ← runner.runBranch step arm 0 (condition.commands arm) progress
      match outcome with
      | .completed => runner.runFrom stage (index + 1) rest progress
      | .cancelled => return (.cancelled, progress)
      | .failed error => return (.failed (branchFailure stage index arm error), progress)

def run (runner : StageRunner σ) (stage : Stage) (commands : List Command)
    (progress : Progress σ) : Action (StageOutcome × Progress σ) :=
  runner.runFrom stage 0 commands progress

end StageRunner

end Runbook.Execution
