import Runbook.Execution.StageRun

/-! A whole run: the forward stages, and the rollback after the first failure.

Every change of the record is stored before anything else happens, and where storing fails the run
ends there with that error. A run is announced when it has started and when it has ended.
-/

set_option autoImplicit false

namespace Runbook.Execution

open Notification (EventKind)

def persist (run : Run) : Action Unit := do
  match ← (Procedure.update run .done : Procedure (Except Store.Error Unit)) with
  | .ok () => return ()
  | .error error => throw (.persistence error.message)

def recordStep (run : Run) (step : Step) : Action Run := do
  let run ← liftM (run.record step)
  persist run
  return run

def announce (kind : EventKind) (run : Run) : Action Unit :=
  (Procedure.announce kind run (.done ()) : Procedure Unit)

def finish (run : Run) : Action Run := do
  persist run
  match EventKind.terminal? run.status with
  | some kind => announce kind run
  | none => pure ()
  return run

def finishBy (change : Time.Instant → Except Error Run) : Action Run := do
  let now ← Procedure.now
  finish (← liftM (change now))

def runner (settings : Settings) (cancellable : Bool) : StageRunner Run where
  settings := settings
  sink := recordStep
  cancellable := cancellable

/-- Runs the rollback stage of a run that has failed. It cannot be cancelled. -/
def rollBack (settings : Settings) (workflow : Workflow) (run : Run) (failure : Failure)
    (context : Template.Context) : Action Run := do
  let run ← liftM (run.rollBack failure)
  persist run
  if !workflow.hasRollback then finishBy (run.fail none)
  else
    let (outcome, progress) ←
      (runner settings false).run .rollback (workflow.commands .rollback) ⟨context, run⟩
    let run := progress.collected
    match outcome with
    | .failed rollbackFailure => finishBy (run.fail (some rollbackFailure))
    -- Nobody asks whether it is cancelled, so this is its success.
    | .passed | .cancelled => finishBy run.finishRollback

def enter (stage : Stage) (run : Run) : Action Run := do
  let run ← liftM (run.enterStage stage)
  persist run
  return run

/-- Carries out a stage, and what follows from how it ends: where it passed, `next`. -/
def stageThen (settings : Settings) (workflow : Workflow) (stage : Stage)
    (next : Progress Run → Action Run) (progress : Progress Run) : Action Run := do
  let (outcome, progress) ← (runner settings true).run stage (workflow.commands stage) progress
  match outcome with
  | .passed => next progress
  | .cancelled => finishBy progress.collected.cancel
  | .failed failure => rollBack settings workflow progress.collected failure progress.context

/-- Stages one after the other. Before each but the first the run may be cancelled. -/
def forwardFrom (settings : Settings) (workflow : Workflow) :
    List Stage → Progress Run → Action Run
  | [], progress => finishBy progress.collected.complete
  | stage :: rest, progress => do
    let next := stageThen settings workflow stage (forwardFrom settings workflow rest)
    -- A run starts in its first stage, so it need not enter it.
    if stage = .preCheck then next progress
    else if ← Procedure.isCancelled then finishBy progress.collected.cancel
    else next { progress with collected := ← enter stage progress.collected }

def execute (settings : Settings) (workflow : Workflow) (run : Run) : Action Run := do
  if ← Procedure.isCancelled then finishBy run.cancel
  else
    let now ← Procedure.now
    let run ← liftM (run.start .preCheck now)
    persist run
    announce .started run
    forwardFrom settings workflow Stage.forward ⟨⟨run.parameters, .empty⟩, run⟩

end Runbook.Execution
