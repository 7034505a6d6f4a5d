import Runbook.Proofs.Execution.Shape

/-! The only error that an action of a run can end with is an outage of the store, and with the first
one it ends at once.

That no change of the record is refused rests on the status that the record has before it.
-/

set_option autoImplicit false

namespace Runbook.Execution

variable {α β : Type}

def Quiet (dialogue : List Exchange) : Prop :=
  ∀ exchange ∈ dialogue, exchange.isOutage = false

theorem quiet_nil : Quiet [] :=
  fun _ member => absurd member List.not_mem_nil

theorem Quiet.append {first rest : List Exchange} (before : Quiet first) (after : Quiet rest) :
    Quiet (first ++ rest) :=
  List.forall_mem_append.2 ⟨before, after⟩

/-- An action that ends with an error only at an outage of the store. -/
structure FailStop (action : Action α) : Prop where
  stores (dialogue : List Exchange) (a : α) : Yields action dialogue a → Quiet dialogue
  stops (dialogue : List Exchange) (error : Error) : Refuses action dialogue error →
    ∃ before run cause, dialogue = before ++ [.stored run (.error cause)] ∧ Quiet before ∧
      error = .persistence cause.message

namespace FailStop

theorem pure (a : α) : FailStop (pure a : Action α) where
  stores dialogue b yielded := by
    rw [(yields_pure_iff.1 yielded).1]
    exact quiet_nil
  stops _ _ refused := absurd refused not_refuses_pure

theorem except {result : Except Error α} {a : α} (succeeds : result = .ok a) :
    FailStop (liftM result : Action α) where
  stores dialogue b yielded := by
    rw [(yields_except_iff.1 yielded).1]
    exact quiet_nil
  stops _ _ refused := by
    have failed := (refuses_except_iff.1 refused).2
    rw [succeeds] at failed
    cases failed

theorem lift {procedure : Procedure α}
    (quiet : ∀ dialogue a, procedure.Gives dialogue a → Quiet dialogue) :
    FailStop (liftM procedure : Action α) where
  stores dialogue a yielded := quiet dialogue a (yields_lift_iff.1 yielded)
  stops _ _ refused := absurd refused not_refuses_lift

theorem bind {action : Action α} {next : α → Action β} (first : FailStop action)
    (rest : ∀ dialogue a, Yields action dialogue a → FailStop (next a)) :
    FailStop (action >>= next) where
  stores dialogue b yielded := by
    obtain ⟨before, after, a, rfl, head, tail⟩ := yielded.of_bind
    exact (first.stores before a head).append ((rest before a head).stores after b tail)
  stops dialogue error refused := by
    rcases refused.of_bind with early | ⟨before, after, a, rfl, head, tail⟩
    · exact first.stops dialogue error early
    · obtain ⟨middle, run, cause, rfl, quiet, carried⟩ := (rest before a head).stops after error tail
      refine ⟨before ++ middle, run, cause, (List.append_assoc _ _ _).symm, ?_, carried⟩
      exact (first.stores before a head).append quiet

end FailStop

/-! ### The requests -/

theorem quiet_singleton {exchange : Exchange} (kept : exchange.isOutage = false) :
    Quiet [exchange] :=
  List.forall_mem_singleton.2 kept

theorem failStop_persist (run : Run) : FailStop (persist run) where
  stores dialogue u yielded := by
    rw [yields_persist_iff.1 yielded]
    exact quiet_singleton rfl
  stops dialogue error refused := by
    obtain ⟨cause, rfl, carried⟩ := refuses_persist_iff.1 refused
    exact ⟨[], run, cause, rfl, quiet_nil, carried⟩

theorem failStop_announce (kind : Notification.EventKind) (run : Run) :
    FailStop (announce kind run) where
  stores dialogue u yielded := by
    rw [yields_announce_iff.1 yielded]
    exact quiet_singleton rfl
  stops _ _ refused := absurd refused not_refuses_lift

theorem failStop_now : FailStop (liftM Procedure.now : Action Time.Instant) :=
  .lift fun dialogue now given => by
    rw [yields_now_iff.1 (yields_lift_iff.2 given)]
    exact quiet_singleton rfl

theorem failStop_poll : FailStop (liftM Procedure.isCancelled : Action Bool) :=
  .lift fun dialogue cancelled given => by
    rw [yields_isCancelled_iff.1 (yields_lift_iff.2 given)]
    exact quiet_singleton rfl

/-! ### Changes of the record -/

section
variable {run : Run}

theorem failStop_recordStep (unfinished : run.isTerminal = false) (step : Step) :
    FailStop (recordStep run step) :=
  .bind (.except (Run.record_eq_ok_iff.2 ⟨unfinished, rfl⟩)) fun _ recorded _ =>
    .bind (failStop_persist recorded) fun _ _ _ => .pure recorded

theorem failStop_enter {stage : Stage} (running : run.status = .running)
    (forward : stage ≠ .rollback) : FailStop (enter stage run) :=
  .bind (.except (Run.enterStage_eq_ok_iff.2 ⟨running, forward, rfl⟩)) fun _ entered _ =>
    .bind (failStop_persist entered) fun _ _ _ => .pure entered

theorem failStop_finish (run : Run) : FailStop (finish run) := by
  refine .bind (failStop_persist run) fun _ _ _ => ?_
  cases Notification.EventKind.terminal? run.status with
  | none => exact .pure run
  | some kind => exact .bind (failStop_announce kind run) fun _ _ _ => .pure run

theorem failStop_finishBy {change : Time.Instant → Except Error Run}
    (allowed : ∀ now, ∃ after, change now = .ok after) : FailStop (finishBy change) := by
  refine .bind failStop_now fun _ now _ => ?_
  obtain ⟨after, changed⟩ := allowed now
  exact .bind (.except changed) fun _ ended _ => failStop_finish ended

end

/-! ### Commands and stages -/

section
variable {settings : Settings} {cancellable : Bool} {stage : Stage} {index : Nat}

open StageRunner (begin_ chooseArm)

theorem failStop_isCancelled : FailStop (runner settings cancellable).isCancelled := by
  cases cancellable with
  | true => exact failStop_poll
  | false => exact .pure false

theorem failStop_begin {branch : Option Step.Branch} {description : Option String}
    {template : String} : FailStop (begin_ stage index branch description template) :=
  .bind failStop_now fun _ _ _ => .pure _

theorem Attempt.quiet {command : Command} {fresh step : Step} {context after : Template.Context}
    {dialogue : List Exchange}
    (attempt : Attempt settings command fresh context dialogue step after) : Quiet dialogue := by
  cases attempt with
  | unresolved => exact quiet_singleton rfl
  | answered => exact List.forall_mem_cons.2 ⟨rfl, quiet_singleton rfl⟩

theorem failStop_evaluate {command : Command} {fresh : Step} {context : Template.Context} :
    FailStop (liftM (evaluate settings command fresh context) : Action (Step × Template.Context)) :=
  .lift fun _ _ given => (attempt given).quiet

theorem failStop_runBranch {parent : Step} {arm : Arm} {branches : List BranchCommand}
    {progress : Progress Run} (unfinished : progress.collected.isTerminal = false) :
    FailStop ((runner settings cancellable).runBranch parent arm index branches progress) := by
  induction branches generalizing index progress with
  | nil => exact .pure _
  | cons branch rest ih =>
    rw [StageRunner.runBranch]
    refine .bind failStop_isCancelled fun _ cancelled _ => ?_
    cases cancelled with
    | true => exact .pure _
    | false =>
      refine .bind failStop_begin fun _ fresh _ => .bind failStop_evaluate fun _ attempted _ => ?_
      obtain ⟨step, context⟩ := attempted
      refine .bind (failStop_recordStep unfinished step) fun _ collected recorded => ?_
      obtain ⟨-, rfl, -⟩ := yields_recordStep recorded
      cases failure : step.error with
      | some error =>
        exact .pure _
      | none =>
        exact ih unfinished

theorem failStop_runFrom {commands : List Command} {progress : Progress Run}
    (unfinished : progress.collected.isTerminal = false) :
    FailStop ((runner settings cancellable).runFrom stage index commands progress) := by
  induction commands generalizing index progress with
  | nil => exact .pure _
  | cons command rest ih =>
    rw [StageRunner.runFrom]
    refine .bind failStop_isCancelled fun _ cancelled _ => ?_
    cases cancelled with
    | true => exact .pure _
    | false =>
      refine .bind failStop_begin fun _ fresh _ => .bind failStop_evaluate fun _ attempted _ => ?_
      obtain ⟨attempted, context⟩ := attempted
      obtain ⟨⟨step, chosen⟩, choice⟩ : ∃ choice, chooseArm command attempted context = choice :=
        ⟨_, rfl⟩
      simp only [choice]
      refine .bind (failStop_recordStep unfinished step) fun _ collected recorded => ?_
      obtain ⟨-, rfl, -⟩ := yields_recordStep recorded
      cases failure : step.error with
      | some error =>
        exact .pure _
      | none =>
        cases chosen with
        | none =>
          exact ih unfinished
        | some chosen =>
          obtain ⟨condition, arm⟩ := chosen
          refine .bind (failStop_runBranch unfinished) fun _ result branched => ?_
          obtain ⟨outcome, middle⟩ := result
          cases outcome with
          | completed =>
            -- Steps of a branch do not end the record either.
            obtain ⟨steps, collected, -⟩ := (branchHistory branched).shape
            apply ih
            rw [collected]
            exact unfinished
          | cancelled => exact .pure _
          | failed error => exact .pure _

end

/-! ### Whole runs -/

section
variable {settings : Settings} {workflow : Workflow} {run : Run}

theorem failStop_rollBack {failure : Failure} {context : Template.Context}
    (running : run.status = .running) :
    FailStop (rollBack settings workflow run failure context) := by
  refine .bind (.except (Run.rollBack_eq_ok_iff.2 ⟨running, rfl⟩)) fun _ rolled lifted => ?_
  obtain ⟨-, changed⟩ := yields_except_iff.1 lifted
  obtain ⟨-, rfl⟩ := Run.rollBack_eq_ok_iff.1 changed
  refine .bind (failStop_persist _) fun _ _ _ => ?_
  cases defined : workflow.hasRollback with
  | false =>
    simp only [Bool.not_false, if_true]
    exact failStop_finishBy fun now => ⟨_, Run.fail_eq_ok_iff.2 ⟨rfl, rfl⟩⟩
  | true =>
    simp only [Bool.not_true, Bool.false_eq_true, if_false]
    refine .bind (failStop_runFrom rfl) fun _ result ran => ?_
    obtain ⟨outcome, progress⟩ := result
    -- The stage leaves the status as it is, so the last change is allowed.
    obtain ⟨blocks, collected, -⟩ := (stageHistory ran).shape
    have status : progress.collected.status = .rollingBack := by rw [collected]; rfl
    cases outcome with
    | passed =>
      exact failStop_finishBy fun now => ⟨_, Run.finishRollback_eq_ok_iff.2 ⟨status, rfl⟩⟩
    | cancelled =>
      exact failStop_finishBy fun now => ⟨_, Run.finishRollback_eq_ok_iff.2 ⟨status, rfl⟩⟩
    | failed rollbackFailure =>
      exact failStop_finishBy fun now => ⟨_, Run.fail_eq_ok_iff.2 ⟨status, rfl⟩⟩

theorem failStop_stageThen {stage : Stage} {next : Progress Run → Action Run}
    {progress : Progress Run} (running : progress.collected.status = .running)
    (goesOn : ∀ after : Progress Run, after.collected.status = .running → FailStop (next after)) :
    FailStop (stageThen settings workflow stage next progress) := by
  have unfinished : progress.collected.isTerminal = false := by rw [Run.isTerminal, running]; rfl
  refine .bind (failStop_runFrom unfinished) fun _ result ran => ?_
  obtain ⟨outcome, after⟩ := result
  obtain ⟨blocks, collected, -⟩ := (stageHistory ran).shape
  have status : after.collected.status = .running := by rw [collected]; exact running
  cases outcome with
  | passed => exact goesOn after status
  | cancelled => exact failStop_finishBy fun now => ⟨_, Run.cancel_eq_ok_iff.2 ⟨.inr status, rfl⟩⟩
  | failed failure => exact failStop_rollBack status

theorem failStop_forwardFrom {stages : List Stage} {progress : Progress Run}
    (running : progress.collected.status = .running) (forward : .rollback ∉ stages) :
    FailStop (forwardFrom settings workflow stages progress) := by
  -- The record is running before every forward stage, which allows all changes there are.
  induction stages generalizing progress with
  | nil => exact failStop_finishBy fun now => ⟨_, Run.complete_eq_ok_iff.2 ⟨running, rfl⟩⟩
  | cons stage rest ih =>
    obtain ⟨ahead, others⟩ := List.ne_and_not_mem_of_not_mem_cons forward
    rw [forwardFrom]
    by_cases first : stage = .preCheck
    · rw [if_pos first]
      exact failStop_stageThen running fun after status => ih status others
    · rw [if_neg first]
      refine .bind failStop_poll fun _ cancelled _ => ?_
      cases cancelled with
      | true =>
        exact failStop_finishBy fun now => ⟨_, Run.cancel_eq_ok_iff.2 ⟨.inr running, rfl⟩⟩
      | false =>
        refine .bind (failStop_enter running (Ne.symm ahead)) fun _ entered yielded => ?_
        obtain ⟨changed, -⟩ := yields_enter yielded
        obtain ⟨-, -, rfl⟩ := Run.enterStage_eq_ok_iff.1 changed
        exact failStop_stageThen running fun after status => ih status others

theorem failStop_execute (pending : run.status = .pending) :
    FailStop (execute settings workflow run) := by
  refine .bind failStop_poll fun _ cancelled _ => ?_
  cases cancelled with
  | true =>
    exact failStop_finishBy fun now => ⟨_, Run.cancel_eq_ok_iff.2 ⟨.inl pending, rfl⟩⟩
  | false =>
    refine .bind failStop_now fun _ now _ => ?_
    refine .bind (.except (Run.start_eq_ok_iff.2 ⟨pending, rfl⟩)) fun _ begun lifted => ?_
    obtain ⟨-, changed⟩ := yields_except_iff.1 lifted
    obtain ⟨-, rfl⟩ := Run.start_eq_ok_iff.1 changed
    refine .bind (failStop_persist _) fun _ _ _ => .bind (failStop_announce _ _) fun _ _ _ => ?_
    exact failStop_forwardFrom rfl (by decide)

theorem returns_of_quiet {σ : Type} {world : World σ} (pending : run.status = .pending) {s : σ}
    (kept : Quiet ((execute settings workflow run).run.dialogue world s)) :
    ∃ after, ((execute settings workflow run).run.runIn world s).1 = .ok after := by
  have given := Procedure.gives_dialogue world (execute settings workflow run).run s
  cases result : ((execute settings workflow run).run.runIn world s).1 with
  | ok after => exact ⟨after, rfl⟩
  | error error =>
    -- An error is the store's, and this store refuses nothing.
    rw [result] at given
    obtain ⟨before, stored, cause, split, -, -⟩ := (failStop_execute pending).stops _ error given
    have refused := kept (.stored stored (.error cause)) (by simp [split])
    cases refused

theorem returns_of_storesAll (settings : Settings) (workflow : Workflow) {σ : Type}
    {world : World σ} (reliable : world.StoresAll) (pending : run.status = .pending) (s : σ) :
    ∃ after, ((execute settings workflow run).run.runIn world s).1 = .ok after :=
  returns_of_quiet pending
    (Procedure.isOutage_of_storesAll reliable (execute settings workflow run).run s)

end

end Runbook.Execution
