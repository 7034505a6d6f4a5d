import Runbook.Run.Record

/-! When each change of a record is allowed, and what it changes.
-/

set_option autoImplicit false

namespace Runbook.Run

/-- What a run is from its creation on. -/
structure Origin where
  id : RunId
  workflowId : WorkflowId
  deviceId : DeviceId
  parameters : Bindings
  createdAt : Time.Instant

def origin (run : Run) : Origin where
  id := run.id
  workflowId := run.workflowId
  deviceId := run.deviceId
  parameters := run.parameters
  createdAt := run.createdAt

def append (run : Run) (steps : List Step) : Run :=
  { run with steps := run.steps ++ steps }

section
variable (run : Run) (steps more : List Step)

@[simp] theorem append_nil : run.append [] = run := by
  simp [append]

@[simp] theorem append_append : (run.append steps).append more = run.append (steps ++ more) := by
  simp [append]

@[simp] theorem append_steps : (run.append steps).steps = run.steps ++ steps := rfl

@[simp] theorem append_failure : (run.append steps).failure = run.failure := rfl

@[simp] theorem append_rollbackFailure :
    (run.append steps).rollbackFailure = run.rollbackFailure := rfl

end

theorem Status.isTerminal_of_canBecome {status target : Status} :
    status.canBecome target = true → status.isTerminal = false := by
  cases status <;> cases target <;> decide

variable {run after : Run}

theorem start_eq_ok_iff {stage : Stage} {now : Time.Instant} :
    run.start stage now = .ok after ↔ run.status = .pending ∧
      after = { run with status := .running, currentStage := some stage, startedAt := some now } := by
  unfold start become
  cases run.status <;> simp [Status.canBecome, bind, Except.bind, pure, Except.pure, eq_comm]

theorem enterStage_eq_ok_iff {stage : Stage} :
    run.enterStage stage = .ok after ↔ run.status = .running ∧ stage ≠ .rollback ∧
      after = { run with currentStage := some stage } := by
  by_cases allowed : run.status = .running ∧ stage ≠ .rollback
  · simp [enterStage, allowed, eq_comm]
  · have refused : ¬(run.status = .running ∧ stage ≠ .rollback ∧
        after = { run with currentStage := some stage }) :=
      fun ⟨running, forward, _⟩ => allowed ⟨running, forward⟩
    simp only [enterStage, if_neg allowed, refused, reduceCtorEq]

theorem record_eq_ok_iff {step : Step} :
    run.record step = .ok after ↔ run.isTerminal = false ∧ after = run.append [step] := by
  by_cases ended : run.isTerminal = true <;> simp [record, append, ended, eq_comm]

theorem rollBack_eq_ok_iff {failure : Failure} :
    run.rollBack failure = .ok after ↔ run.status = .running ∧
      after = { run with
        status := .rollingBack, failure := some failure, currentStage := some .rollback } := by
  unfold rollBack become
  cases run.status <;> simp [Status.canBecome, bind, Except.bind, pure, Except.pure, eq_comm]

theorem finishAs_eq_ok_iff {target : Status} {now : Time.Instant} :
    run.finishAs target now = .ok after ↔ run.status.canBecome target = true ∧
      after = { run with status := target, completedAt := some now } := by
  by_cases allowed : run.status.canBecome target = true <;>
    simp [finishAs, become, allowed, bind, Except.bind, pure, Except.pure, eq_comm]

theorem complete_eq_ok_iff {now : Time.Instant} :
    run.complete now = .ok after ↔ run.status = .running ∧
      after = { run with status := .completed, completedAt := some now } := by
  rw [complete, finishAs_eq_ok_iff]
  cases run.status <;> simp [Status.canBecome]

theorem finishRollback_eq_ok_iff {now : Time.Instant} :
    run.finishRollback now = .ok after ↔ run.status = .rollingBack ∧
      after = { run with status := .rolledBack, completedAt := some now } := by
  rw [finishRollback, finishAs_eq_ok_iff]
  cases run.status <;> simp [Status.canBecome]

theorem cancel_eq_ok_iff {now : Time.Instant} :
    run.cancel now = .ok after ↔ (run.status = .pending ∨ run.status = .running) ∧
      after = { run with status := .cancelled, completedAt := some now } := by
  rw [cancel, finishAs_eq_ok_iff]
  cases run.status <;> simp [Status.canBecome]

theorem fail_eq_ok_iff {rollbackFailure : Option Failure} {now : Time.Instant} :
    run.fail rollbackFailure now = .ok after ↔ run.status = .rollingBack ∧
      after = { run with status := .failed, completedAt := some now, rollbackFailure } := by
  unfold fail finishAs become
  cases run.status <;> simp [Status.canBecome, bind, Except.bind, pure, Except.pure, eq_comm]

end Runbook.Run
