import Runbook.Bindings
import Runbook.Device.Session
import Runbook.Error
import Runbook.Number.Binary64
import Runbook.Run.Id
import Runbook.Run.Status
import Runbook.Run.Step
import Runbook.Workflow.Id

/-! The record of one workflow on one device, and the changes it may go through.

Every change is refused where the status does not allow it, and then leaves the record as it was.
-/

set_option autoImplicit false

namespace Runbook

structure Run where
  id : RunId
  workflowId : WorkflowId
  deviceId : DeviceId
  status : Run.Status := .pending
  currentStage : Option Stage := none
  parameters : Bindings := .empty
  /-- In the order of execution. -/
  steps : List Step := []
  /-- What sent the run into rollback. -/
  failure : Option Failure := none
  rollbackFailure : Option Failure := none
  createdAt : Time.Instant
  startedAt : Option Time.Instant := none
  completedAt : Option Time.Instant := none
  deriving DecidableEq, Repr

namespace Run

def new (id : RunId) (workflowId : WorkflowId) (deviceId : DeviceId) (parameters : Bindings)
    (now : Time.Instant) : Run :=
  { id, workflowId, deviceId, parameters, createdAt := now }

def isTerminal (run : Run) : Bool :=
  run.status.isTerminal

def stepsOf (run : Run) (stage : Stage) : List Step :=
  run.steps.filter fun step => step.stage == stage

/-- Seconds from start to completion, to the millisecond. -/
def duration? (run : Run) : Option Number.Binary64 := do
  let started ← run.startedAt
  let completed ← run.completedAt
  let millis := Time.Instant.millisBetween started completed
  let exact ← Number.Binary64.ofRatio (millis < 0) millis.natAbs 1
  exact.div (← Number.Binary64.ofNat 1000)

def errorMessage? (run : Run) : Option String :=
  match run.failure, run.rollbackFailure with
  | some failure, some rollback => some s!"{failure.text}; rollback: {rollback.text}"
  | some failure, none => some failure.text
  | none, some rollback => some s!"rollback: {rollback.text}"
  | none, none => none

def become (run : Run) (target : Status) : Except Error Run :=
  if run.status.canBecome target then .ok { run with status := target }
  else .error (.invalidTransition run.status.name target.name)

def start (run : Run) (stage : Stage) (now : Time.Instant) : Except Error Run := do
  let run ← run.become .running
  return { run with currentStage := some stage, startedAt := some now }

/-- The stage of a run in the words of a refused change. -/
def stageText : Option Stage → String
  | none => "None"
  | some stage => s!"Some(\"{stage}\")"

def enterStage (run : Run) (stage : Stage) : Except Error Run :=
  if run.status = .running ∧ stage ≠ .rollback then .ok { run with currentStage := some stage }
  else
    .error (.invalidTransition s!"{run.status}({stageText run.currentStage})" s!"running({stage})")

def record (run : Run) (step : Step) : Except Error Run :=
  if run.isTerminal then .error (.invalidTransition run.status.name "record_step")
  else .ok { run with steps := run.steps ++ [step] }

def rollBack (run : Run) (failure : Failure) : Except Error Run := do
  let run ← run.become .rollingBack
  return { run with failure := some failure, currentStage := some .rollback }

def finishAs (run : Run) (target : Status) (now : Time.Instant) : Except Error Run := do
  let run ← run.become target
  return { run with completedAt := some now }

def complete (run : Run) (now : Time.Instant) : Except Error Run :=
  run.finishAs .completed now

def finishRollback (run : Run) (now : Time.Instant) : Except Error Run :=
  run.finishAs .rolledBack now

/-- The end of a rollback that failed, or had nothing to do. -/
def fail (run : Run) (rollbackFailure : Option Failure) (now : Time.Instant) :
    Except Error Run := do
  let run ← run.finishAs .failed now
  return { run with rollbackFailure }

def cancel (run : Run) (now : Time.Instant) : Except Error Run :=
  run.finishAs .cancelled now

end Run

end Runbook
