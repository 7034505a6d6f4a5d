import Runbook.Proofs.Execution.Provenance
import Runbook.Proofs.Run.Conveyance
import Runbook.Proofs.Run.Operation

/-! Whatever is done with a record, it stays within the bounds in which it can be written and read
back.

Changes of a record by itself bring along what they are given. An execution makes its steps and
failures itself, from positions in the lists of the workflow and from the moments that it reads.
-/

set_option autoImplicit false

namespace Runbook

/-! ## Changes of a record -/

namespace Run

def Operation.IsBounded : Operation → Prop
  | .record step => step.IsBounded
  | .rollBack failure => failure.IsBounded
  | .fail rollbackFailure => ∀ failure ∈ rollbackFailure, failure.IsBounded
  | .start _ | .enterStage _ | .complete | .finishRollback | .cancel => True

theorem isBounded_new {id : RunId} {workflowId : WorkflowId} {deviceId : DeviceId}
    {parameters : Bindings} {createdAt : Time.Instant} (kept : createdAt.IsKept) :
    (Run.new id workflowId deviceId parameters createdAt).IsBounded where
  steps _ present := absurd present List.not_mem_nil
  failure _ present := absurd present (Option.not_mem_none _)
  rollbackFailure _ present := absurd present (Option.not_mem_none _)
  createdAt := kept
  startedAt _ present := absurd present (Option.not_mem_none _)
  completedAt _ present := absurd present (Option.not_mem_none _)

section
variable {run after : Run} {now : Time.Instant}

theorem IsBounded.finishAs {target : Status} (bounded : run.IsBounded) (kept : now.IsKept)
    (changed : run.finishAs target now = .ok after) : after.IsBounded := by
  obtain ⟨-, rfl⟩ := finishAs_eq_ok_iff.1 changed
  exact { bounded with completedAt := fun _ present => Option.some.inj present ▸ kept }

theorem IsBounded.start {stage : Stage} (bounded : run.IsBounded) (kept : now.IsKept)
    (changed : run.start stage now = .ok after) : after.IsBounded := by
  obtain ⟨-, rfl⟩ := start_eq_ok_iff.1 changed
  exact { bounded with startedAt := fun _ present => Option.some.inj present ▸ kept }

theorem IsBounded.enterStage {stage : Stage} (bounded : run.IsBounded)
    (changed : run.enterStage stage = .ok after) : after.IsBounded := by
  obtain ⟨-, -, rfl⟩ := enterStage_eq_ok_iff.1 changed
  exact { bounded with }

theorem IsBounded.record {step : Step} (bounded : run.IsBounded) (within : step.IsBounded)
    (changed : run.record step = .ok after) : after.IsBounded := by
  obtain ⟨-, rfl⟩ := record_eq_ok_iff.1 changed
  exact { bounded with
    steps := List.forall_mem_append.2 ⟨bounded.steps, List.forall_mem_singleton.2 within⟩ }

theorem IsBounded.rollBack {failure : Failure} (bounded : run.IsBounded)
    (within : failure.IsBounded) (changed : run.rollBack failure = .ok after) :
    after.IsBounded := by
  obtain ⟨-, rfl⟩ := rollBack_eq_ok_iff.1 changed
  exact { bounded with failure := fun _ present => Option.some.inj present ▸ within }

theorem IsBounded.apply {operation : Operation} (bounded : run.IsBounded) (kept : now.IsKept)
    (within : operation.IsBounded) (changed : operation.apply now run = .ok after) :
    after.IsBounded := by
  cases operation with
  | start stage => exact bounded.start kept changed
  | enterStage stage => exact bounded.enterStage changed
  | record step => exact bounded.record within changed
  | rollBack failure => exact bounded.rollBack within changed
  | complete => exact bounded.finishAs kept changed
  | finishRollback => exact bounded.finishAs kept changed
  | fail rollbackFailure =>
    obtain ⟨-, rfl⟩ := fail_eq_ok_iff.1 changed
    exact { bounded with
      rollbackFailure := within
      completedAt := fun _ present => Option.some.inj present ▸ kept }
  | cancel => exact bounded.finishAs kept changed

theorem IsBounded.left {operation : Operation} (bounded : run.IsBounded) (kept : now.IsKept)
    (within : operation.IsBounded) : (Operation.left (operation.edit now run)).IsBounded := by
  rw [Operation.edit_eq_settled]
  cases changed : operation.apply now run with
  | ok after => exact bounded.apply kept within changed
  | error error => exact bounded

end

end Run

theorem Step.IsBounded.of_same {step after : Step} (bounded : step.IsBounded)
    (index : after.commandIndex = step.commandIndex) (branch : after.branch = step.branch)
    (startedAt : after.startedAt = step.startedAt) : after.IsBounded where
  commandIndex := index ▸ bounded.commandIndex
  branch := branch ▸ bounded.branch
  startedAt := startedAt ▸ bounded.startedAt

/-! ## Execution -/

/-- The lists of a workflow fit a memory. -/
structure Workflow.IsSized (workflow : Workflow) : Prop where
  commands (stage : Stage) : (workflow.commands stage).length < UInt64.size
  arms (stage : Stage) : ∀ command ∈ workflow.commands stage, ∀ condition ∈ command.condition,
    ∀ arm, (condition.commands arm).length < UInt64.size

namespace Execution

variable {α β : Type}

/-- Every moment that was read has a text. -/
def Timely (dialogue : List Exchange) : Prop :=
  ∀ now, .read now ∈ dialogue → now.IsKept

/-- As long as the moments that it reads have a text, an action hands on only records within bounds,
and what it yields satisfies `result`. -/
structure Upholds (action : Action α) (result : α → Prop) : Prop where
  stores (dialogue : List Exchange) (outcome : Except Error α) :
    action.run.Gives dialogue outcome → Timely dialogue →
      ∀ record ∈ updatesOf dialogue, record.IsBounded
  yields (dialogue : List Exchange) (a : α) : Yields action dialogue a → Timely dialogue → result a

namespace Timely

variable {first rest : List Exchange}

theorem before (timely : Timely (first ++ rest)) : Timely first :=
  fun now read => timely now (List.mem_append_left rest read)

theorem behind (timely : Timely (first ++ rest)) : Timely rest :=
  fun now read => timely now (List.mem_append_right first read)

end Timely

namespace Upholds

variable {result : α → Prop}

theorem pure {a : α} (holds : result a) : Upholds (pure a : Action α) result where
  stores dialogue outcome given timely := by
    obtain ⟨rfl, -⟩ := Procedure.gives_done_iff.1 given
    exact fun _ stored => absurd stored List.not_mem_nil
  yields dialogue b yielded _ := by
    rw [(yields_pure_iff.1 yielded).2]
    exact holds

theorem except {decided : Except Error α} (holds : ∀ a, decided = .ok a → result a) :
    Upholds (liftM decided : Action α) result where
  stores dialogue outcome given _ := by
    have silent : dialogue = [] := by
      cases outcome with
      | ok a => exact (yields_except_iff.1 given).1
      | error error => exact (refuses_except_iff.1 given).1
    rw [silent]
    exact fun _ stored => absurd stored List.not_mem_nil
  yields dialogue a yielded _ := holds a (yields_except_iff.1 yielded).2

theorem lift {procedure : Procedure α}
    (silent : ∀ dialogue a, procedure.Gives dialogue a → updatesOf dialogue = [])
    (holds : ∀ dialogue a, procedure.Gives dialogue a → Timely dialogue → result a) :
    Upholds (liftM procedure : Action α) result where
  stores dialogue outcome given _ := by
    cases outcome with
    | ok a =>
      rw [silent dialogue a (yields_lift_iff.1 given)]
      exact fun _ stored => absurd stored List.not_mem_nil
    | error error => exact absurd given not_refuses_lift
  yields dialogue a yielded := holds dialogue a (yields_lift_iff.1 yielded)

theorem bind {action : Action α} {next : α → Action β} {final : β → Prop}
    (first : Upholds action result) (rest : ∀ a, result a → Upholds (next a) final) :
    Upholds (action >>= next) final where
  stores dialogue outcome given timely := by
    obtain ⟨before, behind, reached, rfl, head, tail⟩ := Procedure.Gives.of_bind given
    have early := first.stores before reached head timely.before
    rw [updatesOf_append]
    refine List.forall_mem_append.2 ⟨early, ?_⟩
    cases reached with
    | ok a =>
      have holds := first.yields before a head timely.before
      exact (rest a holds).stores behind outcome tail timely.behind
    | error error =>
      obtain ⟨rfl, -⟩ := Procedure.gives_done_iff.1 tail
      exact fun _ stored => absurd stored List.not_mem_nil
  yields dialogue b yielded timely := by
    obtain ⟨before, behind, a, rfl, head, tail⟩ := yielded.of_bind
    have holds := first.yields before a head timely.before
    exact (rest a holds).yields behind b tail timely.behind

end Upholds

/-! ### The requests -/

theorem upholds_persist {run : Run} (bounded : run.IsBounded) :
    Upholds (persist run) fun _ => True where
  stores dialogue outcome given _ := by
    rw [persist_run, Procedure.gives_update_iff] at given
    obtain ⟨result, _, rfl, tail⟩ := given
    obtain ⟨rfl, -⟩ := Procedure.gives_done_iff.1 tail
    exact List.forall_mem_singleton.2 bounded
  yields _ _ _ _ := trivial

theorem upholds_announce (kind : Notification.EventKind) (run : Run) :
    Upholds (announce kind run) fun _ => True := by
  refine .lift (fun dialogue a given => ?_) fun _ _ _ _ => trivial
  obtain ⟨_, rfl, tail⟩ := Procedure.gives_announce_iff.1 given
  obtain ⟨rfl, -⟩ := Procedure.gives_done_iff.1 tail
  rfl

theorem upholds_now : Upholds (liftM Procedure.now : Action Time.Instant) Time.Instant.IsKept := by
  have read {dialogue : List Exchange} {now : Time.Instant}
      (given : Procedure.now.Gives dialogue now) : dialogue = [.read now] :=
    yields_now_iff.1 (yields_lift_iff.2 given)
  refine .lift (fun dialogue now given => ?_) fun dialogue now given timely => ?_
  · rw [read given]
    rfl
  · rw [read given] at timely
    exact timely now List.mem_cons_self

theorem upholds_poll : Upholds (liftM Procedure.isCancelled : Action Bool) fun _ => True := by
  refine .lift (fun dialogue cancelled given => ?_) fun _ _ _ _ => trivial
  rw [yields_isCancelled_iff.1 (yields_lift_iff.2 given)]
  rfl

/-! ### Changes of the record -/

section
variable {run : Run}

theorem upholds_recordStep {step : Step} (bounded : run.IsBounded) (within : step.IsBounded) :
    Upholds (recordStep run step) Run.IsBounded := by
  refine .bind (.except fun after => bounded.record within) fun after bounded => ?_
  exact .bind (upholds_persist bounded) fun _ _ => .pure bounded

theorem upholds_enter {stage : Stage} (bounded : run.IsBounded) :
    Upholds (enter stage run) Run.IsBounded := by
  refine .bind (.except fun after => bounded.enterStage) fun after bounded => ?_
  exact .bind (upholds_persist bounded) fun _ _ => .pure bounded

theorem upholds_finish (bounded : run.IsBounded) : Upholds (finish run) Run.IsBounded := by
  refine .bind (upholds_persist bounded) fun _ _ => ?_
  cases Notification.EventKind.terminal? run.status with
  | none => exact .pure bounded
  | some kind => exact .bind (upholds_announce kind run) fun _ _ => .pure bounded

/-- However a record is brought to its end, this is an operation on it at the present time. -/
theorem upholds_finishBy (operation : Run.Operation) (within : operation.IsBounded)
    (bounded : run.IsBounded) :
    Upholds (finishBy fun now => operation.apply now run) Run.IsBounded :=
  .bind upholds_now fun _ kept =>
    .bind (.except fun _ changed => bounded.apply kept within changed) fun _ => upholds_finish

end

/-! ### Commands and stages -/

section
variable {settings : Settings} {cancellable : Bool} {stage : Stage} {index : Nat}

open StageRunner (begin_ chooseArm)

theorem upholds_isCancelled : Upholds (runner settings cancellable).isCancelled fun _ => True := by
  cases cancellable with
  | true => exact upholds_poll
  | false => exact .pure trivial

theorem upholds_begin {branch : Option Step.Branch} {description : Option String}
    {template : String} (inList : index < UInt64.size) (inArm : ∀ place ∈ branch, place.IsBounded) :
    Upholds (begin_ stage index branch description template) Step.IsBounded :=
  .bind upholds_now fun _ kept => .pure ⟨inList, inArm, kept⟩

section
variable {command : Command} {context : Template.Context} {step : Step}

theorem Judgement.isBounded {after : Step} {later : Template.Context}
    (judgement : Judgement command step context after later) (bounded : step.IsBounded) :
    after.IsBounded := by
  cases judgement <;> exact bounded.of_same rfl rfl rfl

theorem isBounded_receive (bounded : step.IsBounded) (reply : Device.Reply) :
    (receive command step context reply).1.IsBounded := by
  cases reply with
  | error error => exact bounded.of_same rfl rfl rfl
  | ok output =>
    have answered : { step with rawOutput := output.text, exitCode := output.exitCode }.IsBounded :=
      bounded.of_same rfl rfl rfl
    exact (judgement command step context output).isBounded answered

theorem upholds_evaluate (bounded : step.IsBounded) :
    Upholds (liftM (evaluate settings command step context) : Action (Step × Template.Context))
      fun attempted => attempted.1.IsBounded := by
  refine .lift (fun dialogue attempted given => ?_) fun dialogue attempted given _ => ?_
  · obtain ⟨attempted, after⟩ := attempted
    cases attempt given <;> rfl
  · obtain ⟨attempted, after⟩ := attempted
    cases attempt given with
    | unresolved => exact bounded.of_same rfl rfl rfl
    | @answered text reply now =>
      have sent : { step with commandSent := text }.IsBounded := bounded.of_same rfl rfl rfl
      exact (isBounded_receive sent reply).of_same rfl rfl rfl

theorem isBounded_chooseArm {attempted : Step} {chosen : Option (Condition × Arm)}
    (choice : chooseArm command attempted context = (step, chosen))
    (bounded : attempted.IsBounded) : step.IsBounded := by
  rw [chooseArm_step choice]
  exact bounded.of_same rfl rfl rfl

end

theorem upholds_runBranch {parent : Step} {arm : Arm} {branches : List BranchCommand}
    {progress : Progress Run} (bounded : progress.collected.IsBounded)
    (inList : parent.commandIndex < UInt64.size) (sized : index + branches.length < UInt64.size) :
    Upholds ((runner settings cancellable).runBranch parent arm index branches progress)
      fun result => result.2.collected.IsBounded := by
  induction branches generalizing index progress with
  | nil => exact .pure bounded
  | cons branch rest ih =>
    rw [List.length_cons] at sized
    have position : index < UInt64.size := by omega
    have inArm : ∀ place ∈ some (⟨parent.commandIndex, arm, index⟩ : Step.Branch),
        place.IsBounded := by
      rintro place ⟨⟩
      exact ⟨inList, position⟩
    rw [StageRunner.runBranch]
    refine .bind upholds_isCancelled fun cancelled _ => ?_
    cases cancelled with
    | true => exact .pure bounded
    | false =>
      refine .bind (upholds_begin inList inArm) fun fresh begun => ?_
      refine .bind (upholds_evaluate begun) fun attempted within => ?_
      obtain ⟨step, context⟩ := attempted
      refine .bind (upholds_recordStep bounded within) fun collected recorded => ?_
      cases step.error with
      | some error => exact .pure recorded
      | none => exact ih recorded (by omega)

/-- A stage leaves its record within bounds, and the failure that it may have ended with. -/
structure LeavesBounded (result : StageOutcome × Progress Run) : Prop where
  collected : result.2.collected.IsBounded
  failure : ∀ failure, result.1 = .failed failure → failure.IsBounded

theorem upholds_runFrom {commands : List Command} {progress : Progress Run}
    (bounded : progress.collected.IsBounded) (sized : index + commands.length < UInt64.size)
    (arms : ∀ command ∈ commands, ∀ condition ∈ command.condition, ∀ arm,
      (condition.commands arm).length < UInt64.size) :
    Upholds ((runner settings cancellable).runFrom stage index commands progress)
      LeavesBounded := by
  induction commands generalizing index progress with
  | nil => exact .pure ⟨bounded, fun _ failed => StageOutcome.noConfusion failed⟩
  | cons command rest ih =>
    rw [List.length_cons] at sized
    have inList : index < UInt64.size := by omega
    have others := fun other member => arms other (List.mem_cons_of_mem command member)
    -- A failure is noted at the position of the command, also that of one of its branches.
    have failed {after : Progress Run} (within : after.collected.IsBounded) {failure : Failure}
        (place : failure.commandIndex = index) :
        Upholds (pure (.failed failure, after) : Action (StageOutcome × Progress Run))
          LeavesBounded := by
      refine .pure ⟨within, fun _ same => ?_⟩
      cases same
      exact ⟨place ▸ inList⟩
    rw [StageRunner.runFrom]
    refine .bind upholds_isCancelled fun cancelled _ => ?_
    cases cancelled with
    | true => exact .pure ⟨bounded, fun _ failed => StageOutcome.noConfusion failed⟩
    | false =>
      have nowhere : ∀ place ∈ (none : Option Step.Branch), place.IsBounded :=
        fun _ inside => absurd inside (Option.not_mem_none _)
      refine .bind (upholds_begin inList nowhere) fun fresh begun => ?_
      refine .bind (upholds_evaluate begun) fun attempted within => ?_
      obtain ⟨attempted, context⟩ := attempted
      obtain ⟨⟨step, chosen⟩, choice⟩ : ∃ choice, chooseArm command attempted context = choice :=
        ⟨_, rfl⟩
      have kept := isBounded_chooseArm choice within
      simp only [choice]
      refine .bind (upholds_recordStep bounded kept) fun collected recorded => ?_
      cases step.error with
      | some error => exact failed recorded rfl
      | none =>
        cases chosen with
        | none => exact ih recorded (by omega) others
        | some chosen =>
          obtain ⟨condition, arm⟩ := chosen
          obtain ⟨defined, -⟩ := chooseArm_some choice
          have armSized := arms command List.mem_cons_self condition defined arm
          refine .bind (upholds_runBranch recorded kept.commandIndex (by omega))
            fun result branched => ?_
          obtain ⟨outcome, after⟩ := result
          cases outcome with
          | completed => exact ih branched (by omega) others
          | cancelled => exact .pure ⟨branched, fun _ failed => StageOutcome.noConfusion failed⟩
          | failed error => exact failed branched rfl

end

/-! ### Whole runs -/

section
variable {settings : Settings} {workflow : Workflow} {run : Run} {progress : Progress Run}

theorem upholds_stage (sized : workflow.IsSized) {cancellable : Bool} {stage : Stage}
    (bounded : progress.collected.IsBounded) :
    Upholds ((runner settings cancellable).run stage (workflow.commands stage) progress)
      LeavesBounded := by
  have whole := sized.commands stage
  exact upholds_runFrom bounded (by omega) (sized.arms stage)

theorem upholds_rollBack (sized : workflow.IsSized) {failure : Failure}
    {context : Template.Context} (bounded : run.IsBounded) (within : failure.IsBounded) :
    Upholds (rollBack settings workflow run failure context) Run.IsBounded := by
  refine .bind (.except fun rolling => bounded.rollBack within) fun rolling bounded => ?_
  refine .bind (upholds_persist bounded) fun _ _ => ?_
  cases workflow.hasRollback with
  | false => exact upholds_finishBy (.fail none) nofun bounded
  | true =>
    refine .bind (upholds_stage sized bounded) fun result leaves => ?_
    obtain ⟨outcome, after⟩ := result
    obtain ⟨left, failed⟩ := leaves
    cases outcome with
    | passed => exact upholds_finishBy .finishRollback trivial left
    | cancelled => exact upholds_finishBy .finishRollback trivial left
    | failed rollbackFailure =>
      refine upholds_finishBy (.fail (some rollbackFailure)) (fun _ present => ?_) left
      exact Option.some.inj present ▸ failed rollbackFailure rfl

theorem upholds_stageThen (sized : workflow.IsSized) {stage : Stage}
    {next : Progress Run → Action Run} (bounded : progress.collected.IsBounded)
    (goesOn : ∀ after : Progress Run, after.collected.IsBounded →
      Upholds (next after) Run.IsBounded) :
    Upholds (stageThen settings workflow stage next progress) Run.IsBounded := by
  refine .bind (upholds_stage sized bounded) fun result leaves => ?_
  obtain ⟨outcome, after⟩ := result
  obtain ⟨left, failed⟩ := leaves
  cases outcome with
  | passed => exact goesOn after left
  | cancelled => exact upholds_finishBy .cancel trivial left
  | failed failure => exact upholds_rollBack sized left (failed failure rfl)

theorem upholds_forwardFrom (sized : workflow.IsSized) {stages : List Stage}
    (bounded : progress.collected.IsBounded) :
    Upholds (forwardFrom settings workflow stages progress) Run.IsBounded := by
  induction stages generalizing progress with
  | nil => exact upholds_finishBy .complete trivial bounded
  | cons stage rest ih =>
    have carriedOut {entered : Progress Run} (within : entered.collected.IsBounded) :
        Upholds (stageThen settings workflow stage (forwardFrom settings workflow rest) entered)
          Run.IsBounded :=
      upholds_stageThen sized within fun _ => ih
    rw [forwardFrom]
    by_cases first : stage = .preCheck
    · rw [if_pos first]
      exact carriedOut bounded
    · rw [if_neg first]
      refine .bind upholds_poll fun cancelled _ => ?_
      cases cancelled with
      | true => exact upholds_finishBy .cancel trivial bounded
      | false => exact .bind (upholds_enter bounded) fun _ entered => carriedOut entered

theorem upholds_execute (sized : workflow.IsSized) (bounded : run.IsBounded) :
    Upholds (execute settings workflow run) Run.IsBounded := by
  refine .bind upholds_poll fun cancelled _ => ?_
  cases cancelled with
  | true => exact upholds_finishBy .cancel trivial bounded
  | false =>
    refine .bind upholds_now fun now kept => ?_
    refine .bind (.except fun begun => bounded.start kept) fun begun within => ?_
    refine .bind (upholds_persist within) fun _ _ => ?_
    exact .bind (upholds_announce .started begun) fun _ _ => upholds_forwardFrom sized within

end

end Execution

end Runbook
