import Runbook.Proofs.Execution.Shape

/-! A run as a walk: one command, one entry or the end after the other, each with the record that it
starts from.

What the stages, the branches and the rollback nest is laid out in one line here, so an induction
over walks sees every request of a run in turn.
-/

set_option autoImplicit false

namespace Runbook.Execution

/-- What passes while a command is carried out and its step comes onto the record. -/
inductive Carried (record : Run) (step : Step) : List Exchange → Prop
  | unsent {startedAt now : Time.Instant} :
      step.commandSent = "" → step.error.isSome = true →
      Carried record step
        [.read startedAt, .read now, .stored (record.append [step]) (.ok ())]
  | sent {startedAt now : Time.Instant} {text : String} {timeout : UInt64}
      {reply : Device.Reply} :
      step.commandSent = text →
      Carried record step
        [.read startedAt, .sent text timeout reply, .read now,
          .stored (record.append [step]) (.ok ())]

/-- From a record on to the end of the run. In the forward stages a run can be cancelled. -/
inductive Walk : Bool → Run → List Exchange → Run → Prop
  | carried {cancellable : Bool} {record after : Run} {step : Step} {item rest : List Exchange} :
      Carried record step item → record.currentStage = some step.stage → step.error = none →
      Walk cancellable (record.append [step]) rest after →
      Walk cancellable record (polls cancellable ++ (item ++ rest)) after
  | failed {record after : Run} {step : Step} {item rest : List Exchange} {failure : Failure} :
      Carried record step item → record.currentStage = some step.stage →
      step.failure? = some failure →
      Walk false (rollingBack (record.append [step]) failure) rest after →
      Walk true record
        (.polled false ::
          (item ++ .stored (rollingBack (record.append [step]) failure) (.ok ()) :: rest))
        after
  | entered {record after : Run} {stage : Stage} {rest : List Exchange} :
      stage ≠ .rollback →
      Walk true { record with currentStage := some stage } rest after →
      Walk true record
        (.polled false :: .stored { record with currentStage := some stage } (.ok ()) :: rest) after
  | cancelled {record : Run} {now : Time.Instant} :
      Walk true record (.polled true :: .read now :: closing (record.closed .cancelled now))
        (record.closed .cancelled now)
  | completed {record : Run} {now : Time.Instant} :
      Walk true record (.read now :: closing (record.closed .completed now))
        (record.closed .completed now)
  | rolledBack {record : Run} {now : Time.Instant} :
      Walk false record (.read now :: closing (record.closed .rolledBack now))
        (record.closed .rolledBack now)
  | nothingToDo {record : Run} {now : Time.Instant} :
      Walk false record
        (.read now :: closing { record.closed .failed now with rollbackFailure := none })
        { record.closed .failed now with rollbackFailure := none }
  | rollbackFailed {record : Run} {step : Step} {item : List Exchange} {failure : Failure}
      {now : Time.Instant} :
      Carried record step item → record.currentStage = some step.stage →
      step.failure? = some failure →
      Walk false record
        (item ++ .read now :: closing
          { (record.append [step]).closed .failed now with rollbackFailure := some failure })
        { (record.append [step]).closed .failed now with rollbackFailure := some failure }

/-- How a run goes on after a stage, or after a part of one. -/
def Continues (cancellable : Bool) (record : Run) (rest : List Exchange) (after : Run) :
    Option StageOutcome → Prop
  | none | some .passed => Walk cancellable record rest after
  | some .cancelled => ∃ now, after = record.closed .cancelled now ∧ rest = .read now :: closing after
  | some (.failed failure) =>
    if cancellable then
      ∃ later, rest = .stored (rollingBack record failure) (.ok ()) :: later ∧
        Walk false (rollingBack record failure) later after
    else
      ∃ now, after = { record.closed .failed now with rollbackFailure := some failure } ∧
        rest = .read now :: closing after

section
variable {settings : Settings} {cancellable : Bool} {stage : Stage} {index : Nat}
  {command : Command} {dialogue rest : List Exchange} {progress after : Progress Run} {run : Run}

theorem Recorded.carried {branch : Option Step.Branch} {step : Step}
    {chosen : Option (Condition × Arm)}
    (recorded : Recorded settings stage index branch command progress dialogue step chosen after) :
    Carried progress.collected step dialogue := by
  cases recorded with
  | @mk startedAt _ attempted _ context _ attempt choice unfinished =>
    have only := chooseArm_step choice
    cases attempt with
    | unresolved absent =>
      have same := chooseArm_of_error rfl choice
      refine .unsent ?_ ?_ <;> rw [same] <;> rfl
    | @answered text reply now present =>
      refine .sent ?_
      rw [only]
      exact (framed_receive command { freshStep stage index branch command startedAt with
        commandSent := text } _ reply rfl).commandSent

theorem Recorded.walk {branch : Option Step.Branch} {step : Step}
    {chosen : Option (Condition × Arm)}
    (recorded : Recorded settings stage index branch command progress dialogue step chosen after)
    (current : progress.collected.currentStage = some stage) (success : step.error = none)
    (goesOn : after.collected.currentStage = some stage →
      Walk cancellable after.collected rest run) :
    Walk cancellable progress.collected (polls cancellable ++ (dialogue ++ rest)) run := by
  have collected := recorded.collected
  have later := goesOn (by rw [collected]; exact current)
  rw [collected] at later
  rw [← recorded.place.1] at current
  exact .carried recorded.carried current success later

theorem Recorded.walk_of_failure {branch : Option Step.Branch} {step : Step}
    {chosen : Option (Condition × Arm)} {failure : Failure}
    (recorded : Recorded settings stage index branch command progress dialogue step chosen after)
    (current : progress.collected.currentStage = some stage)
    (failed : step.failure? = some failure)
    (goesOn : Continues cancellable after.collected rest run (some (.failed failure))) :
    Walk cancellable progress.collected (polls cancellable ++ (dialogue ++ rest)) run := by
  rw [recorded.collected] at goesOn
  rw [← recorded.place.1] at current
  -- A failure of the rollback ends the run, any other one leads to the rollback.
  cases cancellable with
  | true =>
    obtain ⟨later, rfl, rolling⟩ := goesOn
    exact .failed recorded.carried current failed rolling
  | false =>
    obtain ⟨now, rfl, rfl⟩ := goesOn
    exact .rollbackFailed recorded.carried current failed

/-! ### Stages -/

theorem BranchHistory.walk {parent : Step} {arm : Arm} {branches : List BranchCommand}
    {outcome : BranchOutcome}
    (history : BranchHistory settings cancellable parent arm index branches progress dialogue
      outcome after)
    (current : progress.collected.currentStage = some parent.stage)
    (goesOn : Continues cancellable after.collected rest run
      (outcome.toStage? parent.stage parent.commandIndex arm)) :
    Walk cancellable progress.collected (dialogue ++ rest) run := by
  induction history with
  | completed => exact goesOn
  | cancelled allowed =>
    subst allowed
    obtain ⟨now, rfl, rfl⟩ := goesOn
    exact .cancelled
  | failed recorded failed =>
    rw [List.append_assoc]
    exact recorded.walk_of_failure current (recorded.failure? failed) goesOn
  | next recorded success _ ih =>
    rw [List.append_assoc, List.append_assoc]
    exact recorded.walk current success fun still => ih still goesOn

theorem BlockHistory.walk {ending : Option StageOutcome}
    (history : BlockHistory settings cancellable stage index command progress dialogue ending
      after)
    (current : progress.collected.currentStage = some stage)
    (goesOn : Continues cancellable after.collected rest run ending) :
    Walk cancellable progress.collected (dialogue ++ rest) run := by
  cases history with
  | cancelled allowed =>
    subst allowed
    obtain ⟨now, rfl, rfl⟩ := goesOn
    exact .cancelled
  | failed recorded failed =>
    rw [List.append_assoc]
    exact recorded.walk_of_failure current (recorded.failure? failed) goesOn
  | plain recorded success =>
    rw [List.append_assoc]
    exact recorded.walk current success fun _ => goesOn
  | branched recorded success branch =>
    rw [List.append_assoc, List.append_assoc]
    refine recorded.walk current success fun still => ?_
    obtain ⟨atStage, atIndex, -⟩ := recorded.place
    rw [← atStage] at still
    rw [← atStage, ← atIndex] at goesOn
    exact branch.walk still goesOn

theorem StageHistory.walk {commands : List Command} {outcome : StageOutcome}
    (history : StageHistory settings cancellable stage index commands progress dialogue outcome
      after)
    (current : progress.collected.currentStage = some stage)
    (goesOn : Continues cancellable after.collected rest run (some outcome)) :
    Walk cancellable progress.collected (dialogue ++ rest) run := by
  induction history with
  | passed => exact goesOn
  | ended block => exact block.walk current goesOn
  | next block _ ih =>
    rw [List.append_assoc]
    refine block.walk current (ih ?_ goesOn)
    rcases block.shape with ⟨-, rfl⟩ | ⟨own, shape⟩
    · exact current
    · rw [shape.collected]
      exact current

end

/-! ### Whole runs -/

section
variable {settings : Settings} {workflow : Workflow} {dialogue : List Exchange} {after : Run}

theorem RollbackCourse.continues {run : Run} {failure : Failure} {context : Template.Context}
    (course : RollbackCourse settings workflow run failure context dialogue after) :
    Continues true run dialogue after (some (.failed failure)) := by
  cases course with
  | nothing => exact ⟨_, rfl, .nothingToDo⟩
  | rolledBack _ history => exact ⟨_, rfl, history.walk rfl .rolledBack⟩
  | failed _ history => exact ⟨_, rfl, history.walk rfl ⟨_, rfl, rfl⟩⟩

theorem Entered.walk {stage : Stage} {progress entered : Progress Run} {entry rest : List Exchange}
    (entering : Entered stage progress entry entered) (forward : stage ≠ .rollback)
    (current : stage = .preCheck → progress.collected.currentStage = some stage)
    (goesOn : entered.collected.currentStage = some stage →
      Walk true entered.collected rest after) :
    Walk true progress.collected (entry ++ rest) after := by
  cases entering with
  | first start => exact goesOn (current start)
  | later => exact .entered forward (goesOn rfl)

theorem ForwardCourse.walk {stages : List Stage} {progress : Progress Run}
    (course : ForwardCourse settings workflow stages progress dialogue after)
    (forward : .rollback ∉ stages)
    (start : ∀ stage rest, stages = stage :: rest → .preCheck ∉ rest ∧
      (stage = .preCheck → progress.collected.currentStage = some stage)) :
    Walk true progress.collected dialogue after := by
  induction course with
  | completed => exact .completed
  | stopped => exact .cancelled
  | @passed stage rest progress entered _ _ _ _ _ entering history _ ih =>
    obtain ⟨outside, current⟩ := start stage rest rfl
    obtain ⟨ahead, others⟩ := List.ne_and_not_mem_of_not_mem_cons forward
    refine entering.walk (Ne.symm ahead) current fun at_ => history.walk at_ (ih others ?_)
    -- The first stage does not come again, so the next one is entered.
    rintro next others rfl
    refine ⟨fun inside => outside (.tail _ inside), ?_⟩
    rintro rfl
    exact absurd List.mem_cons_self outside
  | @cancelled stage rest progress entered _ _ _ _ entering history =>
    obtain ⟨-, current⟩ := start stage rest rfl
    obtain ⟨ahead, -⟩ := List.ne_and_not_mem_of_not_mem_cons forward
    exact entering.walk (Ne.symm ahead) current fun at_ => history.walk at_ ⟨_, rfl, rfl⟩
  | @failed stage rest progress entered _ _ _ _ _ _ entering history rollback =>
    obtain ⟨-, current⟩ := start stage rest rfl
    obtain ⟨ahead, -⟩ := List.ne_and_not_mem_of_not_mem_cons forward
    exact entering.walk (Ne.symm ahead) current fun at_ => history.walk at_ rollback.continues

theorem Course.walk {run : Run} (course : Course settings workflow run dialogue after) :
    (∃ now, after = run.closed .cancelled now ∧
      dialogue = .polled true :: .read now :: closing after) ∨
    ∃ now rest, dialogue = .polled false :: .read now :: .stored (begun run now) (.ok ()) ::
      .announced .started (begun run now) :: rest ∧ Walk true (begun run now) rest after := by
  cases course with
  | cancelled => exact .inl ⟨_, rfl, rfl⟩
  | started _ forward =>
    refine .inr ⟨_, _, rfl, forward.walk (by decide) fun stage rest split => ?_⟩
    cases split
    exact ⟨by decide, fun _ => rfl⟩

end

/-! ### Along a walk -/

section
variable {cancellable : Bool} {record after : Run} {dialogue : List Exchange}

theorem Walk.steps (walk : Walk cancellable record dialogue after) :
    ∃ later, after.steps = record.steps ++ later := by
  induction walk with
  | @carried _ record after step _ _ carried current success rest ih =>
    obtain ⟨later, steps⟩ := ih
    exact ⟨step :: later, by rw [steps, Run.append_steps, List.append_assoc]; rfl⟩
  | @failed record after step _ _ _ carried current failed rest ih =>
    obtain ⟨later, steps⟩ := ih
    refine ⟨step :: later, steps.trans ?_⟩
    exact List.append_assoc record.steps [step] later
  | entered forward rest ih => exact ih
  | cancelled => exact ⟨[], (List.append_nil _).symm⟩
  | completed => exact ⟨[], (List.append_nil _).symm⟩
  | rolledBack => exact ⟨[], (List.append_nil _).symm⟩
  | nothingToDo => exact ⟨[], (List.append_nil _).symm⟩
  | rollbackFailed => exact ⟨_, rfl⟩

def Unasked (dialogue : List Exchange) : Prop :=
  ∀ exchange ∈ dialogue, exchange.isPoll = false

theorem Unasked.append {first rest : List Exchange} (before : Unasked first)
    (after : Unasked rest) : Unasked (first ++ rest) :=
  List.forall_mem_append.2 ⟨before, after⟩

theorem unasked_closing (now : Time.Instant) (run : Run) : Unasked (.read now :: closing run) := by
  refine List.forall_mem_cons.2 ⟨rfl, List.forall_mem_cons.2 ⟨rfl, ?_⟩⟩
  exact List.forall_mem_map.2 fun _ _ => rfl

theorem commandsOf_closing (now : Time.Instant) (run : Run) :
    commandsOf (.read now :: closing run) = [] := by
  refine List.filterMap_eq_nil_iff.2 fun exchange member => ?_
  rcases List.mem_cons.1 member with rfl | closed
  · rfl
  · rcases List.mem_cons.1 closed with rfl | announced
    · rfl
    · obtain ⟨kind, -, rfl⟩ := List.mem_map.1 announced
      rfl

theorem Carried.unasked {step : Step} (carried : Carried record step dialogue) :
    Unasked dialogue := by
  cases carried with
  | unsent => exact List.forall_mem_cons.2 ⟨rfl, by simp [Exchange.isPoll]⟩
  | sent => exact List.forall_mem_cons.2 ⟨rfl, by simp [Exchange.isPoll]⟩

theorem Walk.unasked (walk : Walk cancellable record dialogue after)
    (rolling : cancellable = false) : Unasked dialogue := by
  induction walk with
  | carried carried current success rest ih =>
    subst rolling
    exact carried.unasked.append (ih rfl)
  | failed => cases rolling
  | entered => cases rolling
  | cancelled => cases rolling
  | completed => cases rolling
  | rolledBack => exact unasked_closing _ _
  | nothingToDo => exact unasked_closing _ _
  | rollbackFailed carried => exact carried.unasked.append (unasked_closing _ _)

end

end Runbook.Execution
