import Runbook.Proofs.Run.Changes

/-! A record under any use of its interface: eight operations, in any order, with any arguments.

In place an operation first asks for its status and then writes one field after the other. It leaves behind
what the change of a record by itself gives, and where it is refused the record as it was.
-/

set_option autoImplicit false

namespace Runbook.Run

inductive Operation where
  | start (stage : Stage)
  | enterStage (stage : Stage)
  | record (step : Step)
  | rollBack (failure : Failure)
  | complete
  | finishRollback
  | fail (rollbackFailure : Option Failure)
  | cancel

namespace Operation

def apply (now : Time.Instant) : Operation → Run → Except Error Run
  | .start stage, run => run.start stage now
  | .enterStage stage, run => run.enterStage stage
  | .record step, run => run.record step
  | .rollBack failure, run => run.rollBack failure
  | .complete, run => run.complete now
  | .finishRollback, run => run.finishRollback now
  | .fail rollbackFailure, run => run.fail rollbackFailure now
  | .cancel, run => run.cancel now

/-- Writes to a record. What has been written stays, also where an error follows. -/
abbrev Edit := EStateM Error Run

def become (target : Status) : Edit Unit := do
  let run ← get
  if run.status.canBecome target then set { run with status := target }
  else throw (.invalidTransition run.status.name target.name)

def edit (now : Time.Instant) : Operation → Edit Unit
  | .start stage => do
    become .running
    modify fun run => { run with currentStage := some stage }
    modify fun run => { run with startedAt := some now }
  | .enterStage stage => do
    let run ← get
    if run.status ≠ .running ∨ stage = .rollback then
      throw (.invalidTransition s!"{run.status}({stageText run.currentStage})" s!"running({stage})")
    modify fun run => { run with currentStage := some stage }
  | .record step => do
    let run ← get
    if run.isTerminal then throw (.invalidTransition run.status.name "record_step")
    modify fun run => { run with steps := run.steps ++ [step] }
  | .rollBack failure => do
    become .rollingBack
    modify fun run => { run with failure := some failure }
    modify fun run => { run with currentStage := some .rollback }
  | .complete => do
    become .completed
    modify fun run => { run with completedAt := some now }
  | .finishRollback => do
    become .rolledBack
    modify fun run => { run with completedAt := some now }
  | .fail rollbackFailure => do
    become .failed
    modify fun run => { run with rollbackFailure }
    modify fun run => { run with completedAt := some now }
  | .cancel => do
    become .cancelled
    modify fun run => { run with completedAt := some now }

/-- A record and the answer that goes with it, where a change of it was asked for: a refused one leaves it
as it was. -/
def settled (run : Run) : Except Error Run → EStateM.Result Error Run Unit
  | .ok after => .ok () after
  | .error error => .error error run

section
variable {operation : Operation} {now : Time.Instant} {run after : Run}

theorem get_bind (reads : Run → Edit Unit) (run : Run) : (get >>= reads) run = reads run run := rfl

theorem become_eq (target : Status) (run : Run) : become target run = settled run (run.become target) := by
  rw [become, get_bind, Run.become]
  split <;> rfl

/-- What is written after the status is written only where the status was taken. -/
theorem become_bind {rest : Edit Unit} {change : Run → Run}
    (writes : ∀ run, rest run = .ok () (change run)) (target : Status) (run : Run) :
    (become target >>= fun _ => rest) run =
      settled run (run.become target >>= fun run => .ok (change run)) := by
  simp only [bind, EStateM.bind, become_eq]
  cases run.become target with
  | ok after => exact writes after
  | error error => rfl

theorem edit_eq_settled (operation : Operation) (now : Time.Instant) (run : Run) :
    operation.edit now run = settled run (operation.apply now run) := by
  cases operation with
  | start stage => exact become_bind (fun _ => rfl) .running run
  | enterStage stage =>
    rw [edit, get_bind, apply, Run.enterStage]
    by_cases allowed : run.status = .running ∧ stage ≠ .rollback
    · have unrefused : ¬(run.status ≠ .running ∨ stage = .rollback) := by simpa using allowed
      rw [if_pos allowed, if_neg unrefused]
      rfl
    · have refused : run.status ≠ .running ∨ stage = .rollback :=
        (Decidable.not_and_iff_not_or_not.1 allowed).imp_right Decidable.not_not.1
      rw [if_neg allowed, if_pos refused]
      rfl
  | record step =>
    rw [edit, get_bind, apply, Run.record]
    cases run.isTerminal <;> rfl
  | rollBack failure => exact become_bind (fun _ => rfl) .rollingBack run
  | complete => exact become_bind (fun _ => rfl) .completed run
  | finishRollback => exact become_bind (fun _ => rfl) .rolledBack run
  | fail rollbackFailure =>
    refine (become_bind (fun _ => rfl) .failed run).trans ?_
    simp only [apply, Run.fail, finishAs]
    cases run.become .failed <;> rfl
  | cancel => exact become_bind (fun _ => rfl) .cancelled run

/-- All that an operation changes, where it is not refused. -/
inductive Amended (run : Run) : Run → Prop
  | started {stage : Stage} {now : Time.Instant} : run.status = .pending →
      Amended run { run with status := .running, currentStage := some stage, startedAt := some now }
  | entered {stage : Stage} : run.status = .running →
      Amended run { run with currentStage := some stage }
  | recorded {step : Step} : run.isTerminal = false → Amended run (run.append [step])
  | rollingBack {failure : Failure} : run.status = .running →
      Amended run { run with
        status := .rollingBack, failure := some failure, currentStage := some .rollback }
  | ended {target : Status} {rollbackFailure : Option Failure} {now : Time.Instant} :
      run.status.canBecome target = true → target.isTerminal = true →
      (target ≠ .failed → rollbackFailure = run.rollbackFailure) →
      Amended run { run with status := target, completedAt := some now, rollbackFailure }

theorem amended_of_apply (changed : operation.apply now run = .ok after) : Amended run after := by
  cases operation with
  | start stage =>
    obtain ⟨pending, rfl⟩ := start_eq_ok_iff.1 changed
    exact .started pending
  | enterStage stage =>
    obtain ⟨running, -, rfl⟩ := enterStage_eq_ok_iff.1 changed
    exact .entered running
  | record step =>
    obtain ⟨unfinished, rfl⟩ := record_eq_ok_iff.1 changed
    exact .recorded unfinished
  | rollBack failure =>
    obtain ⟨running, rfl⟩ := rollBack_eq_ok_iff.1 changed
    exact .rollingBack running
  | complete =>
    obtain ⟨allowed, rfl⟩ := finishAs_eq_ok_iff.1 changed
    exact .ended allowed rfl fun _ => rfl
  | finishRollback =>
    obtain ⟨allowed, rfl⟩ := finishAs_eq_ok_iff.1 changed
    exact .ended allowed rfl fun _ => rfl
  | fail rollbackFailure =>
    obtain ⟨rolling, rfl⟩ := fail_eq_ok_iff.1 changed
    exact .ended (by rw [rolling]; rfl) rfl fun other => absurd rfl other
  | cancel =>
    obtain ⟨allowed, rfl⟩ := finishAs_eq_ok_iff.1 changed
    exact .ended allowed rfl fun _ => rfl

theorem Amended.unfinished (amended : Amended run after) : run.isTerminal = false := by
  cases amended with
  | started pending => rw [isTerminal, pending, Status.isTerminal]
  | entered running => rw [isTerminal, running, Status.isTerminal]
  | recorded unfinished => exact unfinished
  | rollingBack running => rw [isTerminal, running, Status.isTerminal]
  | ended allowed => exact Status.isTerminal_of_canBecome allowed

theorem Amended.keeps (amended : Amended run after) :
    after.origin = run.origin ∧ run.steps <+: after.steps := by
  cases amended with
  | started => exact ⟨rfl, List.prefix_rfl⟩
  | entered => exact ⟨rfl, List.prefix_rfl⟩
  | recorded => exact ⟨rfl, List.prefix_append _ _⟩
  | rollingBack => exact ⟨rfl, List.prefix_rfl⟩
  | ended => exact ⟨rfl, List.prefix_rfl⟩

end

end Operation

def Status.followsFailure : Status → Bool
  | .rollingBack | .rolledBack | .failed => true
  | .pending | .running | .completed | .cancelled => false

/-- The last change of status tells neither a failure from none nor a pending run from another, but for its
cancellation. -/
theorem Status.of_canBecome_terminal {status target : Status} : status.canBecome target = true →
    target.isTerminal = true →
    target.followsFailure = status.followsFailure ∧ (status = .pending → target = .cancelled) := by
  cases status <;> cases target <;> decide

/-- The fields of a record agree with its status. -/
structure Consistent (run : Run) : Prop where
  completed : run.completedAt.isSome = run.isTerminal
  started : run.startedAt.isSome = run.currentStage.isSome
  unstarted : run.startedAt = none → run.status = .pending ∨ run.status = .cancelled
  pending : run.status = .pending → run.startedAt = none
  failed : run.failure.isSome = run.status.followsFailure
  inRollback : run.failure.isSome = true → run.currentStage = some .rollback
  rollbackFailed : run.rollbackFailure.isSome = true → run.status = .failed

theorem consistent_new (id : RunId) (workflowId : WorkflowId) (deviceId : DeviceId)
    (parameters : Bindings) (now : Time.Instant) :
    (Run.new id workflowId deviceId parameters now).Consistent where
  completed := rfl
  started := rfl
  unstarted _ := .inl rfl
  pending _ := rfl
  failed := rfl
  inRollback := nofun
  rollbackFailed := nofun

section
variable {run after : Run}

theorem Consistent.failure_eq_none (consistent : run.Consistent)
    (unfailed : run.status.followsFailure = false) : run.failure = none := by
  have absent : run.failure.isSome = false := consistent.failed.trans unfailed
  simpa using absent

theorem Consistent.startedAt_ne_none (consistent : run.Consistent) (running : run.status = .running) :
    run.startedAt ≠ none := by
  intro absent
  have atRest := consistent.unstarted absent
  rw [running] at atRest
  rcases atRest with same | same <;> cases same

theorem Consistent.errorMessage? (consistent : run.Consistent) :
    run.errorMessage?.isSome = run.failure.isSome := by
  cases failed : run.failure with
  | some failure =>
    rw [Run.errorMessage?, failed]
    cases run.rollbackFailure <;> rfl
  | none =>
    cases rollbackFailed : run.rollbackFailure with
    | none =>
      rw [Run.errorMessage?, failed, rollbackFailed]
      rfl
    | some failure =>
      have status := consistent.rollbackFailed (by rw [rollbackFailed]; rfl)
      have present := consistent.failed
      rw [failed, status] at present
      cases present

theorem Consistent.ended (consistent : run.Consistent) {target : Status}
    {rollbackFailure : Option Failure} {now : Time.Instant}
    (allowed : run.status.canBecome target = true) (terminal : target.isTerminal = true)
    (same : target ≠ .failed → rollbackFailure = run.rollbackFailure) :
    Consistent { run with status := target, completedAt := some now, rollbackFailure } := by
  obtain ⟨followed, atRest⟩ := Status.of_canBecome_terminal allowed terminal
  have unfinished : run.status.isTerminal = false := Status.isTerminal_of_canBecome allowed
  constructor
  case completed => exact terminal.symm
  case started => exact consistent.started
  case unstarted =>
    intro absent
    rcases consistent.unstarted absent with pending | cancelled
    · exact .inr (atRest pending)
    · rw [cancelled] at unfinished
      cases unfinished
  case pending =>
    rintro rfl
    cases terminal
  case failed => exact consistent.failed.trans followed.symm
  case inRollback => exact consistent.inRollback
  case rollbackFailed =>
    intro present
    by_cases failed : target = .failed
    · exact failed
    · -- What failed before is the record as it was, and that has not failed.
      have kept : run.rollbackFailure.isSome = true := same failed ▸ present
      rw [consistent.rollbackFailed kept] at unfinished
      cases unfinished

theorem Operation.Amended.consistent (amended : Amended run after) (consistent : run.Consistent) :
    after.Consistent := by
  have incomplete : run.completedAt.isSome = false := consistent.completed.trans amended.unfinished
  -- With a failed rollback the record has ended, so nothing amends it.
  have noRollback {status : Status} (present : run.rollbackFailure.isSome = true) :
      status = .failed := by
    have unfinished := amended.unfinished
    rw [isTerminal, consistent.rollbackFailed present] at unfinished
    cases unfinished
  cases amended with
  | started pending =>
    have none : run.failure = none := consistent.failure_eq_none (by rw [pending]; rfl)
    constructor
    case completed => exact incomplete
    case started => rfl
    case unstarted => nofun
    case pending => nofun
    case failed => rw [none]; rfl
    case inRollback => rw [none]; nofun
    case rollbackFailed => exact noRollback
  | entered running =>
    have none : run.failure = none := consistent.failure_eq_none (by rw [running]; rfl)
    have begun := consistent.startedAt_ne_none running
    constructor
    case completed => exact consistent.completed
    case started => exact Option.isSome_iff_ne_none.2 begun
    case unstarted => exact fun absent => absurd absent begun
    case pending => exact consistent.pending
    case failed => exact consistent.failed
    case inRollback => rw [none]; nofun
    case rollbackFailed => exact noRollback
  | recorded =>
    obtain ⟨completed, started, unstarted, pending, failed, inRollback, rollbackFailed⟩ := consistent
    exact ⟨completed, started, unstarted, pending, failed, inRollback, rollbackFailed⟩
  | rollingBack running =>
    have begun := consistent.startedAt_ne_none running
    constructor
    case completed => exact incomplete
    case started => exact Option.isSome_iff_ne_none.2 begun
    case unstarted => exact fun absent => absurd absent begun
    case pending => nofun
    case failed => rfl
    case inRollback => exact fun _ => rfl
    case rollbackFailed => exact noRollback
  | ended allowed terminal same => exact consistent.ended allowed terminal same

end

/-! ### Series of operations -/

namespace Operation

def left : EStateM.Result Error Run Unit → Run
  | .ok _ run | .error _ run => run

/-- The record after operations at their times, those that were refused included. -/
def after (run : Run) (operations : List (Time.Instant × Operation)) : Run :=
  operations.foldl (fun run operation => left (operation.2.edit operation.1 run)) run

section
variable {operation : Operation} {now : Time.Instant} {run : Run}

theorem edit_cases (operation : Operation) (now : Time.Instant) (run : Run) :
    (∃ changed, operation.edit now run = .ok () changed ∧ Amended run changed) ∨
      ∃ error, operation.edit now run = .error error run := by
  rw [edit_eq_settled]
  cases result : operation.apply now run with
  | ok changed => exact .inl ⟨changed, rfl, amended_of_apply result⟩
  | error error => exact .inr ⟨error, rfl⟩

theorem consistent_left (consistent : run.Consistent) :
    (left (operation.edit now run)).Consistent := by
  rcases edit_cases operation now run with ⟨changed, edited, amended⟩ | ⟨error, refused⟩
  · rw [edited]
    exact amended.consistent consistent
  · rw [refused]
    exact consistent

theorem keeps_left (operation : Operation) (now : Time.Instant) (run : Run) :
    (left (operation.edit now run)).origin = run.origin ∧
      run.steps <+: (left (operation.edit now run)).steps := by
  rcases edit_cases operation now run with ⟨changed, edited, amended⟩ | ⟨error, refused⟩
  · rw [edited]
    exact amended.keeps
  · rw [refused]
    exact ⟨rfl, List.prefix_rfl⟩

theorem consistent_after (consistent : run.Consistent)
    (operations : List (Time.Instant × Operation)) : (after run operations).Consistent := by
  induction operations generalizing run with
  | nil => exact consistent
  | cons operation rest ih => exact ih (consistent_left consistent)

end

end Operation

/-- However the operations on a new record were mixed, its fields agree with its status. One more operation
is refused without a trace, always so after the end, or leaves everything that is fixed as it is. -/
theorem record_consistent (id : RunId) (workflowId : WorkflowId) (deviceId : DeviceId)
    (parameters : Bindings) (createdAt : Time.Instant)
    (operations : List (Time.Instant × Operation)) :
    let run := Operation.after (.new id workflowId deviceId parameters createdAt) operations
    run.Consistent ∧ run.errorMessage?.isSome = run.failure.isSome ∧
      ∀ (operation : Operation) (now : Time.Instant),
        operation.edit now run = Operation.settled run (operation.apply now run) ∧
        (∀ error left, operation.edit now run = .error error left → left = run) ∧
        (run.isTerminal = true → ∃ error, operation.edit now run = .error error run) ∧
        (Operation.left (operation.edit now run)).origin = run.origin ∧
        run.steps <+: (Operation.left (operation.edit now run)).steps := by
  intro run
  have consistent : run.Consistent := Operation.consistent_after (consistent_new ..) operations
  refine ⟨consistent, consistent.errorMessage?, fun operation now => ?_⟩
  refine ⟨operation.edit_eq_settled now run, ?_, ?_, operation.keeps_left now run⟩
  case refine_1 =>
    intro error left refused
    rcases operation.edit_cases now run with ⟨changed, edited, -⟩ | ⟨reason, same⟩
    · cases edited.symm.trans refused
    · cases same.symm.trans refused
      rfl
  case refine_2 =>
    intro terminal
    rcases operation.edit_cases now run with ⟨changed, -, amended⟩ | refused
    · rw [amended.unfinished] at terminal
      cases terminal
    · exact refused

end Runbook.Run
