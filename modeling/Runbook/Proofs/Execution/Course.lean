import Runbook.Proofs.Execution.History

/-! The course of a whole run, as derivations: the forward stages, the rollback, and how a record is
closed.
-/

set_option autoImplicit false

namespace Runbook

def Run.closed (run : Run) (status : Run.Status) (now : Time.Instant) : Run :=
  { run with status, completedAt := some now }

namespace Execution

def begun (run : Run) (now : Time.Instant) : Run :=
  { run with status := .running, currentStage := some .preCheck, startedAt := some now }

def rollingBack (run : Run) (failure : Failure) : Run :=
  { run with status := .rollingBack, failure := some failure, currentStage := some .rollback }

inductive RollbackCourse (settings : Settings) (workflow : Workflow) (run : Run)
    (failure : Failure) (context : Template.Context) : List Exchange → Run → Prop
  | nothing {now : Time.Instant} :
      workflow.hasRollback = false →
      RollbackCourse settings workflow run failure context
        (.stored (rollingBack run failure) (.ok ()) :: .read now ::
          closing { (rollingBack run failure).closed .failed now with rollbackFailure := none })
        { (rollingBack run failure).closed .failed now with rollbackFailure := none }
  | rolledBack {dialogue : List Exchange} {after : Progress Run} {now : Time.Instant} :
      workflow.hasRollback = true →
      StageHistory settings false .rollback 0 (workflow.commands .rollback)
        ⟨context, rollingBack run failure⟩ dialogue .passed after →
      RollbackCourse settings workflow run failure context
        (.stored (rollingBack run failure) (.ok ()) ::
          (dialogue ++ .read now :: closing (after.collected.closed .rolledBack now)))
        (after.collected.closed .rolledBack now)
  | failed {dialogue : List Exchange} {after : Progress Run} {now : Time.Instant}
      {rollbackFailure : Failure} :
      workflow.hasRollback = true →
      StageHistory settings false .rollback 0 (workflow.commands .rollback)
        ⟨context, rollingBack run failure⟩ dialogue (.failed rollbackFailure) after →
      RollbackCourse settings workflow run failure context
        (.stored (rollingBack run failure) (.ok ()) ::
          (dialogue ++ .read now :: closing
            { after.collected.closed .failed now with rollbackFailure := some rollbackFailure }))
        { after.collected.closed .failed now with rollbackFailure := some rollbackFailure }

/-- The entry into a stage. A run is in the first one from its start on. -/
inductive Entered (stage : Stage) (progress : Progress Run) :
    List Exchange → Progress Run → Prop
  | first : stage = .preCheck → Entered stage progress [] progress
  | later : stage ≠ .preCheck →
      Entered stage progress
        [.polled false, .stored { progress.collected with currentStage := some stage } (.ok ())]
        { progress with collected := { progress.collected with currentStage := some stage } }

inductive ForwardCourse (settings : Settings) (workflow : Workflow) :
    List Stage → Progress Run → List Exchange → Run → Prop
  | completed {progress : Progress Run} {now : Time.Instant} :
      ForwardCourse settings workflow [] progress
        (.read now :: closing (progress.collected.closed .completed now))
        (progress.collected.closed .completed now)
  | stopped {stage : Stage} {rest : List Stage} {progress : Progress Run} {now : Time.Instant} :
      stage ≠ .preCheck →
      ForwardCourse settings workflow (stage :: rest) progress
        (.polled true :: .read now :: closing (progress.collected.closed .cancelled now))
        (progress.collected.closed .cancelled now)
  | passed {stage : Stage} {rest : List Stage} {progress entered after : Progress Run}
      {entry dialogue later : List Exchange} {run : Run} :
      Entered stage progress entry entered →
      StageHistory settings true stage 0 (workflow.commands stage) entered dialogue .passed after →
      ForwardCourse settings workflow rest after later run →
      ForwardCourse settings workflow (stage :: rest) progress (entry ++ (dialogue ++ later)) run
  | cancelled {stage : Stage} {rest : List Stage} {progress entered after : Progress Run}
      {entry dialogue : List Exchange} {now : Time.Instant} :
      Entered stage progress entry entered →
      StageHistory settings true stage 0 (workflow.commands stage) entered dialogue .cancelled
        after →
      ForwardCourse settings workflow (stage :: rest) progress
        (entry ++ (dialogue ++ .read now :: closing (after.collected.closed .cancelled now)))
        (after.collected.closed .cancelled now)
  | failed {stage : Stage} {rest : List Stage} {progress entered after : Progress Run}
      {entry dialogue later : List Exchange} {failure : Failure} {run : Run} :
      Entered stage progress entry entered →
      StageHistory settings true stage 0 (workflow.commands stage) entered dialogue
        (.failed failure) after →
      RollbackCourse settings workflow after.collected failure after.context later run →
      ForwardCourse settings workflow (stage :: rest) progress (entry ++ (dialogue ++ later)) run

/-- A run from its pending record on. -/
inductive Course (settings : Settings) (workflow : Workflow) (run : Run) :
    List Exchange → Run → Prop
  | cancelled {now : Time.Instant} :
      Course settings workflow run
        (.polled true :: .read now :: closing (run.closed .cancelled now))
        (run.closed .cancelled now)
  | started {now : Time.Instant} {dialogue : List Exchange} {after : Run} :
      run.status = .pending →
      ForwardCourse settings workflow Stage.forward
        ⟨⟨run.parameters, .empty⟩, begun run now⟩ dialogue after →
      Course settings workflow run
        (.polled false :: .read now :: .stored (begun run now) (.ok ()) ::
          .announced .started (begun run now) :: dialogue) after

section
variable {settings : Settings} {workflow : Workflow} {dialogue : List Exchange}

theorem yields_rollBack {run after : Run} {failure : Failure} {context : Template.Context}
    (given : Yields (rollBack settings workflow run failure context) dialogue after) :
    RollbackCourse settings workflow run failure context dialogue after := by
  obtain ⟨_, _, rolling, rfl, lifted, goneOn⟩ := given.of_bind
  obtain ⟨rfl, change⟩ := yields_except_iff.1 lifted
  obtain ⟨running, rfl⟩ := Run.rollBack_eq_ok_iff.1 change
  obtain ⟨_, _, u, rfl, stored, decided⟩ := goneOn.of_bind
  rw [yields_persist_iff.1 stored]
  cases defined : workflow.hasRollback with
  | false =>
    simp only [defined, Bool.not_false, if_true] at decided
    obtain ⟨now, change, rfl⟩ := yields_finishBy decided
    obtain ⟨-, rfl⟩ := Run.fail_eq_ok_iff.1 change
    exact .nothing defined
  | true =>
    simp only [defined, Bool.not_true, Bool.false_eq_true, if_false] at decided
    obtain ⟨stageDialogue, _, ⟨outcome, progress⟩, rfl, ran, finished⟩ := decided.of_bind
    have history := stageHistory ran
    cases outcome with
    | passed =>
      obtain ⟨now, change, rfl⟩ := yields_finishBy finished
      obtain ⟨-, rfl⟩ := Run.finishRollback_eq_ok_iff.1 change
      exact .rolledBack defined history
    | cancelled =>
      -- The runner of the rollback does not look for a cancellation.
      exact absurd (history.polled_of_cancelled rfl).1 Bool.false_ne_true
    | failed rollbackFailure =>
      obtain ⟨now, change, rfl⟩ := yields_finishBy finished
      obtain ⟨-, rfl⟩ := Run.fail_eq_ok_iff.1 change
      exact .failed defined history

theorem yields_forwardFrom {stages : List Stage} {progress : Progress Run} {after : Run}
    (given : Yields (forwardFrom settings workflow stages progress) dialogue after) :
    ForwardCourse settings workflow stages progress dialogue after := by
  induction stages generalizing progress dialogue with
  | nil =>
    obtain ⟨now, change, rfl⟩ := yields_finishBy given
    obtain ⟨-, rfl⟩ := Run.complete_eq_ok_iff.1 change
    exact .completed
  | cons stage rest ih =>
    -- However the stage was entered, it is carried out in the same way.
    have stageCourse {entry later : List Exchange} {entered : Progress Run}
        (entering : Entered stage progress entry entered)
        (carriedOut : Yields (stageThen settings workflow stage
          (forwardFrom settings workflow rest) entered) later after) :
        ForwardCourse settings workflow (stage :: rest) progress (entry ++ later) after := by
      obtain ⟨_, _, ⟨outcome, middle⟩, rfl, ran, followed⟩ := carriedOut.of_bind
      have history := stageHistory ran
      cases outcome with
      | passed => exact .passed entering history (ih followed)
      | cancelled =>
        obtain ⟨now, change, rfl⟩ := yields_finishBy followed
        obtain ⟨-, rfl⟩ := Run.cancel_eq_ok_iff.1 change
        exact .cancelled entering history
      | failed failure => exact .failed entering history (yields_rollBack followed)
    rw [forwardFrom] at given
    by_cases first : stage = .preCheck
    · rw [if_pos first] at given
      exact stageCourse (.first first) given
    · rw [if_neg first] at given
      obtain ⟨_, _, cancelled, rfl, polled, decided⟩ := given.of_bind
      rw [yields_isCancelled_iff.1 polled]
      cases cancelled with
      | true =>
        obtain ⟨now, change, rfl⟩ := yields_finishBy decided
        obtain ⟨-, rfl⟩ := Run.cancel_eq_ok_iff.1 change
        exact .stopped first
      | false =>
        obtain ⟨_, _, run, rfl, entered, carriedOut⟩ := decided.of_bind
        obtain ⟨change, rfl⟩ := yields_enter entered
        obtain ⟨-, -, rfl⟩ := Run.enterStage_eq_ok_iff.1 change
        exact (stageCourse (.later first) carriedOut :)

theorem course {run after : Run}
    (given : Yields (execute settings workflow run) dialogue after) :
    Course settings workflow run dialogue after := by
  obtain ⟨_, _, cancelled, rfl, polled, decided⟩ := given.of_bind
  rw [yields_isCancelled_iff.1 polled]
  cases cancelled with
  | true =>
    obtain ⟨now, change, rfl⟩ := yields_finishBy decided
    obtain ⟨-, rfl⟩ := Run.cancel_eq_ok_iff.1 change
    exact .cancelled
  | false =>
    obtain ⟨_, _, now, rfl, read, starting⟩ := decided.of_bind
    obtain ⟨_, _, run', rfl, lifted, storing⟩ := starting.of_bind
    obtain ⟨rfl, change⟩ := yields_except_iff.1 lifted
    obtain ⟨pending, rfl⟩ := Run.start_eq_ok_iff.1 change
    obtain ⟨_, _, u, rfl, stored, announcing⟩ := storing.of_bind
    obtain ⟨_, _, u, rfl, announced, forward⟩ := announcing.of_bind
    rw [yields_now_iff.1 read, yields_persist_iff.1 stored, yields_announce_iff.1 announced]
    exact .started pending (yields_forwardFrom forward)

theorem RollbackCourse.status_ne_cancelled {run after : Run} {failure : Failure}
    {context : Template.Context}
    (course : RollbackCourse settings workflow run failure context dialogue after) :
    after.status ≠ .cancelled := by
  cases course with
  | nothing => nofun
  | rolledBack => nofun
  | failed => nofun

theorem ForwardCourse.polled_of_cancelled {stages : List Stage} {progress : Progress Run}
    {after : Run} (course : ForwardCourse settings workflow stages progress dialogue after)
    (stopped : after.status = .cancelled) : .polled true ∈ dialogue := by
  induction course with
  | completed => cases stopped
  | stopped => exact List.mem_cons_self
  | passed _ _ _ ih => exact List.mem_append_right _ (List.mem_append_right _ (ih stopped))
  | cancelled _ history =>
    obtain ⟨-, polled⟩ := history.polled_of_cancelled rfl
    exact List.mem_append_right _ (List.mem_append_left _ polled)
  | failed _ _ rollback => exact absurd stopped rollback.status_ne_cancelled

theorem Course.polled_of_cancelled {run after : Run}
    (course : Course settings workflow run dialogue after)
    (stopped : after.status = .cancelled) : .polled true ∈ dialogue := by
  cases course with
  | cancelled => exact List.mem_cons_self
  | started _ forward =>
    have polled := forward.polled_of_cancelled stopped
    exact List.mem_append_right [_, _, _, _] polled

/-- What passed while a run was carried out to its end is a course of it. -/
theorem course_of_returned {σ : Type} {world : World σ} {s : σ} {run after : Run}
    (returned : ((execute settings workflow run).run.runIn world s).1 = .ok after) :
    Course settings workflow run ((execute settings workflow run).run.dialogue world s) after := by
  have given := Procedure.gives_dialogue world (execute settings workflow run).run s
  rw [returned] at given
  exact course given

end

end Execution

end Runbook
