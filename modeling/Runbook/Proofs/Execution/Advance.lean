import Runbook.Proofs.Execution.Course

/-! What one update may change of a record, and that two records tell which change lies between them.
-/

set_option autoImplicit false

namespace Runbook

def Stage.Follows (stage earlier : Stage) : Prop :=
  ∃ before after, Stage.forward = before ++ earlier :: stage :: after

namespace Execution

/-- The ways in which a record goes on from one update to the next. -/
inductive Change where
  | start (now : Time.Instant)
  | enter (stage : Stage)
  | record (step : Step)
  | rollBack (failure : Failure)
  | finish (status : Run.Status) (rollbackFailure : Option Failure) (now : Time.Instant)

namespace Change

def apply : Change → Run → Run
  | .start now, run => begun run now
  | .enter stage, run => { run with currentStage := some stage }
  | .record step, run => run.append [step]
  | .rollBack failure, run => rollingBack run failure
  | .finish status rollbackFailure now, run => { run.closed status now with rollbackFailure }

/-- Stages are entered in their order, a step is one of the current stage, and only a failed rollback
has a failure of its own. -/
def Allowed (run : Run) : Change → Prop
  | .start _ => run.status = .pending
  | .enter stage => run.status = .running ∧
      ∃ earlier, run.currentStage = some earlier ∧ stage.Follows earlier
  | .record step => run.isTerminal = false ∧ run.currentStage = some step.stage
  | .rollBack _ => run.status = .running
  | .finish status rollbackFailure _ =>
      run.status.canBecome status = true ∧ status.isTerminal = true ∧
        (status ≠ .failed → rollbackFailure = run.rollbackFailure)

def Leads (change : Change) (run next : Run) : Prop :=
  change.Allowed run ∧ next = change.apply run

/-- The change between two records: the status tells a start, a rollback and an end, and the number of
steps tells a new step from the entry into a stage. -/
def between? (run next : Run) : Option Change :=
  if next.isTerminal then next.completedAt.map (.finish next.status next.rollbackFailure)
  else if next.status ≠ run.status then
    match next.status with
    | .running => next.startedAt.map .start
    | _ => next.failure.map .rollBack
  else
    match next.steps.drop run.steps.length with
    | step :: _ => some (.record step)
    | [] => next.currentStage.map .enter

section
variable {change : Change} {run next : Run}

theorem between?_apply (allowed : change.Allowed run) :
    between? run (change.apply run) = some change := by
  cases change with
  | start now =>
    have pending : run.status = .pending := allowed
    simp [between?, apply, begun, Run.isTerminal, Run.Status.isTerminal, pending]
  | enter stage =>
    obtain ⟨running, -⟩ := allowed
    simp [between?, apply, Run.isTerminal, Run.Status.isTerminal, running]
  | record step =>
    obtain ⟨unfinished, -⟩ := allowed
    have unended : (run.append [step]).isTerminal = false := unfinished
    have status : (run.append [step]).status = run.status := rfl
    simp [between?, apply, unended, status]
  | rollBack failure =>
    have running : run.status = .running := allowed
    simp [between?, apply, rollingBack, Run.isTerminal, Run.Status.isTerminal, running]
  | finish status rollbackFailure now =>
    obtain ⟨-, terminal, -⟩ := allowed
    simp [between?, apply, Run.closed, Run.isTerminal, terminal]

theorem Leads.between? (leads : change.Leads run next) : between? run next = some change := by
  obtain ⟨allowed, rfl⟩ := leads
  exact between?_apply allowed

theorem Leads.unique {other : Change} (leads : change.Leads run next)
    (also : other.Leads run next) : change = other :=
  Option.some.inj (leads.between?.symm.trans also.between?)

theorem Allowed.unfinished (allowed : change.Allowed run) : run.isTerminal = false := by
  cases change with
  | start now =>
    have pending : run.status = .pending := allowed
    simp [Run.isTerminal, Run.Status.isTerminal, pending]
  | enter stage => simp [Run.isTerminal, Run.Status.isTerminal, allowed.1]
  | record step => exact allowed.1
  | rollBack failure =>
    have running : run.status = .running := allowed
    simp [Run.isTerminal, Run.Status.isTerminal, running]
  | finish status rollbackFailure now => exact Run.Status.isTerminal_of_canBecome allowed.1

@[simp] theorem apply_origin : (change.apply run).origin = run.origin := by
  cases change <;> rfl

theorem steps_prefix_apply : run.steps <+: (change.apply run).steps := by
  cases change with
  | record step => exact List.prefix_append _ _
  | start now => exact List.prefix_rfl
  | enter stage => exact List.prefix_rfl
  | rollBack failure => exact List.prefix_rfl
  | finish status rollbackFailure now => exact List.prefix_rfl

end

end Change

end Execution

end Runbook
