import Runbook.Proofs.Execution.Itinerary

/-! Every history is an itinerary.

Along the commands of a stage two things are kept in mind: that the record recalls the variables, and
what is left to be done after its last step.
-/

set_option autoImplicit false

namespace Runbook.Execution

/-- The poll with which a part of a stage ended, if it was cancelled. -/
def lastPoll : Option StageOutcome → List Exchange
  | some .cancelled => [.polled true]
  | _ => []

section
variable (workflow : Workflow) (parameters : Bindings)

/-- What is left of the last forward stage of a running record, if it is in that stage: branch commands
first, then commands. -/
def Left (run : Run) (branches : List BranchCommand) (commands : List Command) : Prop :=
  run.status = .running → ∀ before step, run.steps = before ++ [step] → step.stage = .postCheck →
    workflow.branchesAfter (contextAfter workflow parameters run.steps) step = branches ∧
      workflow.commandsAfter step = commands

/-- How a record stands after a part of a stage that these commands come after. -/
def Stands (run : Run) (commands : List Command) : Option StageOutcome → Prop
  | none => Left workflow parameters run [] commands
  | some .passed => Left workflow parameters run [] []
  | some .cancelled => run.status = .running ∧ ¬AtEnd workflow parameters run
  | some (.failed failure) => LastFails failure run

/-- A part of a stage as an itinerary, and how it leaves record and variables. -/
structure Conducted (cancellable : Bool) (stage : Stage) (commands : List Command)
    (progress after : Progress Run) (ending : Option StageOutcome) (dialogue : List Exchange) :
    Prop where
  path : ∃ passed, dialogue = passed ++ lastPoll ending ∧
    Proceeds workflow parameters progress.collected passed after.collected
  during : During cancellable stage after.collected
  recalls : Recalls workflow parameters after
  stands : Stands workflow parameters after.collected commands ending

end

section
variable {workflow : Workflow} {parameters : Bindings} {run : Run}
  {branches : List BranchCommand} {commands : List Command}

theorem left_of_last {before : List Step} {step : Step} (steps : run.steps = before ++ [step])
    (branchesLeft :
      workflow.branchesAfter (contextAfter workflow parameters run.steps) step = branches)
    (commandsLeft : workflow.commandsAfter step = commands) :
    Left workflow parameters run branches commands := by
  intro _ others last split _
  obtain ⟨-, same⟩ := List.append_inj' (steps.symm.trans split) rfl
  cases same
  exact ⟨branchesLeft, commandsLeft⟩

theorem Left.not_atEnd (left : Left workflow parameters run branches commands)
    (running : run.status = .running) (more : branches ≠ [] ∨ commands ≠ []) :
    ¬AtEnd workflow parameters run := by
  rintro ⟨before, step, steps, final⟩
  obtain ⟨branchesLeft, commandsLeft⟩ := left running before step steps final.stage
  rw [steps, final.branches] at branchesLeft
  rw [final.commands] at commandsLeft
  rcases more with branch | command
  · exact branch branchesLeft.symm
  · exact command commandsLeft.symm

theorem Left.exhausted (left : Left workflow parameters run [] []) (running : run.status = .running)
    (current : run.currentStage = some .postCheck) : Exhausted workflow parameters run where
  currentStage := current
  final before step steps last := by
    obtain ⟨branchesLeft, commandsLeft⟩ := left running before step steps last
    rw [steps] at branchesLeft
    exact ⟨last, commandsLeft, branchesLeft⟩

theorem During.running {stage : Stage} (during : During true stage run) :
    run.status = .running := by
  cases during with
  | forward running => exact running

theorem During.rolling {stage : Stage} (during : During false stage run) :
    run.status = .rollingBack := by
  cases during with
  | rollback rolling => exact rolling

section
variable {cancellable : Bool} {stage : Stage} {progress middle after : Progress Run}
  {ending : Option StageOutcome} {first dialogue : List Exchange}

theorem Conducted.proceeds
    (conducted : Conducted workflow parameters cancellable stage commands progress after ending
      dialogue) (unpolled : lastPoll ending = []) :
    Proceeds workflow parameters progress.collected dialogue after.collected := by
  obtain ⟨passed, rfl, proceeds⟩ := conducted.path
  rwa [unpolled, List.append_nil]

theorem conducted_of_proceeds
    (path : Proceeds workflow parameters progress.collected dialogue after.collected)
    (during : During cancellable stage after.collected) (recalls : Recalls workflow parameters after)
    (stands : Stands workflow parameters after.collected commands ending)
    (unpolled : lastPoll ending = []) :
    Conducted workflow parameters cancellable stage commands progress after ending dialogue where
  path := ⟨dialogue, by rw [unpolled, List.append_nil], path⟩
  during := during
  recalls := recalls
  stands := stands

theorem Conducted.prepend
    (head : Proceeds workflow parameters progress.collected first middle.collected)
    (rest : Conducted workflow parameters cancellable stage commands middle after ending dialogue) :
    Conducted workflow parameters cancellable stage commands progress after ending
      (first ++ dialogue) where
  path := by
    obtain ⟨passed, rfl, proceeds⟩ := rest.path
    exact ⟨first ++ passed, (List.append_assoc _ _ _).symm, head.append proceeds⟩
  during := rest.during
  recalls := rest.recalls
  stands := rest.stands

theorem conducted_of_cancelled
    (during : During true stage progress.collected) (recalls : Recalls workflow parameters progress)
    (unfinished : ¬AtEnd workflow parameters progress.collected) :
    Conducted workflow parameters true stage commands progress progress (some .cancelled)
      [.polled true] where
  path := ⟨[], rfl, .refl⟩
  during := during
  recalls := recalls
  stands := ⟨during.running, unfinished⟩

end

end

section
variable {settings : Settings} {cancellable : Bool} {stage : Stage} {index : Nat}
  {dialogue : List Exchange} {progress after : Progress Run} {workflow : Workflow}
  {parameters : Bindings}

/-! ### One command -/

section
variable {branch : Option Step.Branch} {command : Command} {step : Step}
  {chosen : Option (Condition × Arm)}

theorem Recorded.proceeds
    (recorded : Recorded settings stage index branch command progress dialogue step chosen after)
    (during : During cancellable stage progress.collected)
    (recalls : Recalls workflow parameters progress) :
    Proceeds workflow parameters progress.collected (polls cancellable ++ dialogue)
      after.collected := by
  have explained := recorded.explained recalls
  have template : step.template = command.template :=
    congrArg Step.Heading.template recorded.framed.1
  rw [← recorded.place.1] at during
  cases recorded with
  | @mk startedAt _ attempted _ context _ attempt choice unfinished =>
    rw [recalls] at attempt
    cases attempt with
    | unresolved absent =>
      rw [← template] at absent
      exact proceeds_of_step during (.unresolved absent)
    | answered present =>
      rw [← template] at present
      obtain rfl := explained.resolved _ present
      exact proceeds_of_step during (.answered present)

theorem Recorded.steps
    (recorded : Recorded settings stage index branch command progress dialogue step chosen after) :
    after.collected.steps = progress.collected.steps ++ [step] := by
  rw [recorded.collected]
  rfl

theorem Recorded.lastFails {error : Step.Error}
    (recorded : Recorded settings stage index branch command progress dialogue step chosen after)
    (failed : step.error = some error) :
    LastFails ⟨stage, index, error.kind, error.messageIn branch⟩ after.collected :=
  ⟨_, step, recorded.steps, recorded.failure? failed⟩

theorem Recorded.during
    (recorded : Recorded settings stage index branch command progress dialogue step chosen after)
    (during : During cancellable stage progress.collected) :
    During cancellable stage after.collected := by
  rw [recorded.collected]
  exact during.append [step]

theorem Recorded.commandsAfter
    (recorded : Recorded settings stage index branch command progress dialogue step chosen after) :
    workflow.commandsAfter step = (workflow.commands stage).drop (index + 1) := by
  obtain ⟨atStage, atIndex, -⟩ := recorded.place
  rw [Workflow.commandsAfter, atStage, atIndex]

end

def earned : Option (Condition × Arm) → List BranchCommand
  | none => []
  | some (condition, arm) => condition.commands arm

theorem Recorded.left {command : Command} {step : Step} {chosen : Option (Condition × Arm)}
    (recorded : Recorded settings stage index none command progress dialogue step chosen after)
    (present : (workflow.commands stage)[index]? = some command)
    (recalls : Recalls workflow parameters progress) (success : step.error = none) :
    Left workflow parameters after.collected (earned chosen)
      ((workflow.commands stage).drop (index + 1)) := by
  obtain ⟨plain, own⟩ := recorded.commandOf present
  refine left_of_last recorded.steps ?_ recorded.commandsAfter
  rw [← recorded.recalls_of_command present recalls, Workflow.branchesAfter, own]
  cases chosen with
  | none =>
    rw [Option.bind_some, recorded.plain success]
    rfl
  | some chosen =>
    obtain ⟨condition, arm⟩ := chosen
    obtain ⟨defined, selected⟩ := recorded.selected
    simp only [Option.bind_some, defined, plain, selected, earned]

theorem Recorded.left_of_branch {arm : Arm} {position : Nat} {branch : BranchCommand}
    {command : Command} {condition : Condition} {step : Step} {chosen : Option (Condition × Arm)}
    (recorded : Recorded settings stage index (some ⟨index, arm, position⟩) branch.toCommand
      progress dialogue step chosen after)
    (present : (workflow.commands stage)[index]? = some command)
    (defined : command.condition = some condition) :
    Left workflow parameters after.collected ((condition.commands arm).drop (position + 1))
      ((workflow.commands stage).drop (index + 1)) := by
  obtain ⟨atStage, atIndex, below⟩ := recorded.place
  have own : workflow.commandOf step = some command := by
    rw [Workflow.commandOf, atStage, atIndex]
    exact present
  refine left_of_last recorded.steps ?_ recorded.commandsAfter
  simp only [Workflow.branchesAfter, own, Option.bind_some, defined, below]

/-! ### Stages -/

/-- An arm as an itinerary, by its condition under the command of its parent. -/
theorem BranchHistory.conducted {parent : Step} {arm : Arm} {position : Nat}
    {branches : List BranchCommand} {outcome : BranchOutcome} {command : Command}
    {condition : Condition}
    (history : BranchHistory settings cancellable parent arm position branches progress dialogue
      outcome after)
    (present : (workflow.commands parent.stage)[parent.commandIndex]? = some command)
    (defined : command.condition = some condition)
    (ahead : branches = (condition.commands arm).drop position)
    (during : During cancellable parent.stage progress.collected)
    (recalls : Recalls workflow parameters progress)
    (left : Left workflow parameters progress.collected branches
      ((workflow.commands parent.stage).drop (parent.commandIndex + 1))) :
    Conducted workflow parameters cancellable parent.stage
      ((workflow.commands parent.stage).drop (parent.commandIndex + 1)) progress after
      (outcome.toStage? parent.stage parent.commandIndex arm) dialogue := by
  induction history with
  | completed => exact conducted_of_proceeds .refl during recalls left rfl
  | cancelled allowed =>
    subst allowed
    have unfinished := left.not_atEnd during.running (.inl (List.cons_ne_nil _ _))
    exact conducted_of_cancelled during recalls unfinished
  | failed recorded failed =>
    exact conducted_of_proceeds (recorded.proceeds during recalls) (recorded.during during)
      (recorded.recalls_of_branch recalls) (recorded.lastFails failed) rfl
  | @next position branch rest _ _ _ _ _ _ _ _ recorded success _ ih =>
    -- With each command of the arm one less of it is left.
    have tail : rest = (condition.commands arm).drop (position + 1) := by
      rw [← List.tail_drop, ← ahead]
      rfl
    have leftThen : Left workflow parameters _ _ _ := recorded.left_of_branch present defined
    rw [← tail] at leftThen
    rw [← List.append_assoc]
    exact .prepend (recorded.proceeds during recalls)
      (ih tail (recorded.during during) (recorded.recalls_of_branch recalls) leftThen)

theorem BlockHistory.conducted {command : Command} {ending : Option StageOutcome}
    (history : BlockHistory settings cancellable stage index command progress dialogue ending
      after)
    (present : (workflow.commands stage)[index]? = some command)
    (during : During cancellable stage progress.collected)
    (recalls : Recalls workflow parameters progress)
    (unfinished : cancellable = true → ¬AtEnd workflow parameters progress.collected) :
    Conducted workflow parameters cancellable stage ((workflow.commands stage).drop (index + 1))
      progress after ending dialogue := by
  cases history with
  | cancelled allowed =>
    subst allowed
    exact conducted_of_cancelled during recalls (unfinished rfl)
  | failed recorded failed =>
    exact conducted_of_proceeds (recorded.proceeds during recalls) (recorded.during during)
      (recorded.recalls_of_command present recalls) (recorded.lastFails failed) rfl
  | plain recorded success =>
    exact conducted_of_proceeds (recorded.proceeds during recalls) (recorded.during during)
      (recorded.recalls_of_command present recalls) (recorded.left present recalls success) rfl
  | branched recorded success branch =>
    obtain ⟨defined, -⟩ := recorded.selected
    have duringThen := recorded.during during
    have leftThen := recorded.left present recalls success
    obtain ⟨atStage, atIndex, -⟩ := recorded.place
    rw [← List.append_assoc]
    refine .prepend (recorded.proceeds during recalls) ?_
    -- The history of an arm speaks of the place of its parent, which is that of the command.
    have recalled := recorded.recalls_of_command present recalls
    rw [← atStage, ← atIndex] at present leftThen ⊢
    rw [← atStage] at duringThen
    exact branch.conducted present defined List.drop_zero.symm duringThen recalled leftThen

theorem StageHistory.conducted {commands : List Command} {outcome : StageOutcome}
    (history : StageHistory settings cancellable stage index commands progress dialogue outcome
      after)
    (ahead : commands = (workflow.commands stage).drop index)
    (during : During cancellable stage progress.collected)
    (recalls : Recalls workflow parameters progress)
    (left : Left workflow parameters progress.collected [] commands) :
    Conducted workflow parameters cancellable stage [] progress after (some outcome) dialogue := by
  have unfinished {command : Command} {rest : List Command} {run : Run}
      (running : During cancellable stage run)
      (more : Left workflow parameters run [] (command :: rest)) (allowed : cancellable = true) :
      ¬AtEnd workflow parameters run := by
    subst allowed
    exact more.not_atEnd running.running (.inr (List.cons_ne_nil _ _))
  induction history with
  | passed => exact conducted_of_proceeds .refl during recalls left rfl
  | @ended _ _ _ _ _ _ outcome block =>
    obtain ⟨present, -⟩ := getElem?_of_drop ahead
    have conducted := block.conducted present during recalls (unfinished during left)
    have stands := conducted.stands
    refine ⟨conducted.path, conducted.during, conducted.recalls, ?_⟩
    cases outcome with
    | passed => exact absurd rfl block.not_passed
    | cancelled => exact stands
    | failed failure => exact stands
  | next block _ ih =>
    obtain ⟨present, remaining⟩ := getElem?_of_drop ahead
    have conducted := block.conducted present during recalls (unfinished during left)
    -- What the block leaves to be done is what the rest of the stage begins with.
    have stands := conducted.stands
    rw [← remaining] at stands
    exact .prepend (conducted.proceeds rfl)
      (ih remaining conducted.during conducted.recalls stands)

end

/-! ### Whole runs -/

section
variable {settings : Settings} {workflow : Workflow} {parameters : Bindings}
  {dialogue : List Exchange}

theorem RollbackCourse.proceeds {run after : Run} {failure : Failure} {context : Template.Context}
    (course : RollbackCourse settings workflow run failure context dialogue after)
    (running : run.status = .running) (fails : LastFails failure run)
    (recalls : Recalls workflow parameters ⟨context, run⟩) :
    Proceeds workflow parameters run dialogue after := by
  have rolling {rest : List Exchange} (goesOn : Proceeds workflow parameters
      (rollingBack run failure) rest after) :
      Proceeds workflow parameters run (.stored (rollingBack run failure) (.ok ()) :: rest) after :=
    .change (.rollBack running fails) goesOn
  have during : During false .rollback (rollingBack run failure) := .rollback rfl rfl rfl
  -- The record is not running any more, so nothing is claimed of what is left.
  have left : Left workflow parameters (rollingBack run failure) [] (workflow.commands .rollback) :=
    nofun
  cases course with
  | nothing => exact rolling ((Ends.failed rfl).proceeds _)
  | rolledBack _ history =>
    have conducted := history.conducted List.drop_zero.symm during recalls left
    exact rolling ((conducted.proceeds rfl).append
      ((Ends.rolledBack conducted.during.rolling).proceeds _))
  | failed _ history =>
    have conducted := history.conducted List.drop_zero.symm during recalls left
    exact rolling ((conducted.proceeds rfl).append
      ((Ends.failed conducted.during.rolling).proceeds _))

/-- A running record between two stages: some have been passed, and their steps are all there are. -/
structure Poised (workflow : Workflow) (parameters : Bindings) (passed : List Stage)
    (progress : Progress Run) : Prop where
  running : progress.collected.status = .running
  currentStage : progress.collected.currentStage = some (passed.getLastD .preCheck)
  stages (step : Step) : step ∈ progress.collected.steps → step.stage ∈ passed
  recalls : Recalls workflow parameters progress
  left : Left workflow parameters progress.collected [] []

section
variable {passed rest : List Stage} {stage : Stage} {progress entered after : Progress Run}
  {entry : List Exchange}

theorem postCheck_not_mem_passed (split : passed ++ stage :: rest = Stage.forward) :
    .postCheck ∉ passed := by
  rcases passed with _ | ⟨first, _ | ⟨second, _ | ⟨third, others⟩⟩⟩ <;>
    simp_all [Stage.forward]

theorem Poised.not_atEnd (poised : Poised workflow parameters passed progress)
    (split : passed ++ stage :: rest = Stage.forward) :
    ¬AtEnd workflow parameters progress.collected := by
  rintro ⟨before, step, steps, final⟩
  have member : step.stage ∈ passed := poised.stages step (by simp [steps])
  rw [final.stage] at member
  exact postCheck_not_mem_passed split member

theorem Poised.left_of_entered (poised : Poised workflow parameters passed progress)
    (split : passed ++ stage :: rest = Stage.forward) {run : Run}
    (steps : run.steps = progress.collected.steps) (commands : List Command) :
    Left workflow parameters run [] commands := by
  intro _ before step ending last
  have member : step.stage ∈ passed := poised.stages step (by simp [← steps, ending])
  rw [last] at member
  exact absurd member (postCheck_not_mem_passed split)

theorem Entered.proceeds (entering : Entered stage progress entry entered)
    (split : passed ++ stage :: rest = Stage.forward)
    (poised : Poised workflow parameters passed progress) :
    Proceeds workflow parameters progress.collected entry entered.collected ∧
      During true stage entered.collected ∧ Recalls workflow parameters entered ∧
      entered.collected.steps = progress.collected.steps := by
  have ahead : stage ≠ .rollback := by
    rintro rfl
    have outside : Stage.rollback ∉ Stage.forward := by decide
    exact outside (by simp [← split])
  have current := poised.currentStage
  cases entering with
  | first start =>
    subst start
    have none : passed = [] := by
      rcases passed with _ | ⟨first, _ | ⟨second, _ | ⟨third, others⟩⟩⟩ <;>
        simp_all [Stage.forward]
    subst none
    exact ⟨.refl, .forward poised.running current ahead, poised.recalls, rfl⟩
  | later other =>
    rcases List.eq_nil_or_concat passed with rfl | ⟨earlier, last, rfl⟩
    · exact absurd (List.cons.inj split).1 other
    · have follows : stage.Follows last := ⟨earlier, rest, by simp [← split]⟩
      rw [List.concat_eq_append, List.getLastD_concat] at current
      have leg : Leg workflow parameters progress.collected (.enter stage) [.polled false] :=
        .enter poised.running current follows
      exact ⟨leg.proceeds, .forward poised.running rfl ahead, poised.recalls, rfl⟩

theorem Entered.conducted {outcome : StageOutcome}
    (entering : Entered stage progress entry entered)
    (history : StageHistory settings true stage 0 (workflow.commands stage) entered dialogue outcome
      after)
    (split : passed ++ stage :: rest = Stage.forward)
    (poised : Poised workflow parameters passed progress) :
    Conducted workflow parameters true stage [] progress after (some outcome)
        (entry ++ dialogue) ∧
      ∀ step ∈ after.collected.steps, step.stage ∈ passed ++ [stage] := by
  obtain ⟨proceeds, during, recalls, steps⟩ := entering.proceeds split poised
  have left := poised.left_of_entered split steps (workflow.commands stage)
  refine ⟨.prepend proceeds (history.conducted List.drop_zero.symm during recalls left), ?_⟩
  intro step member
  obtain ⟨blocks, shape⟩ := history.shape
  rw [shape.collected, Run.append_steps, steps] at member
  rcases List.mem_append.1 member with former | own
  · exact List.mem_append_left _ (poised.stages step former)
  · rw [shape.segment.stage_eq own]
    exact List.mem_append_right _ List.mem_cons_self

end

theorem ForwardCourse.proceeds {passed stages : List Stage} {progress : Progress Run} {after : Run}
    (course : ForwardCourse settings workflow stages progress dialogue after)
    (split : passed ++ stages = Stage.forward)
    (poised : Poised workflow parameters passed progress) :
    Proceeds workflow parameters progress.collected dialogue after := by
  -- Along the stages: those that have been passed grow by one each time.
  induction course generalizing passed with
  | completed =>
    rw [List.append_nil] at split
    subst split
    exact (Ends.completed poised.running
      (poised.left.exhausted poised.running poised.currentStage)).proceeds _
  | stopped =>
    have allowed : _ = true := congrArg (Run.Status.canBecome · .cancelled) poised.running
    exact (Ends.cancelled allowed (poised.not_atEnd split)).proceeds _
  | @passed stage rest _ _ _ _ _ _ _ entering history _ ih =>
    obtain ⟨conducted, stages⟩ := entering.conducted history split poised
    rw [← List.append_assoc]
    refine (conducted.proceeds rfl).append
      (ih ((List.append_assoc passed [stage] rest).trans split) ?_)
    refine ⟨conducted.during.running, ?_, stages, conducted.recalls, conducted.stands⟩
    rw [conducted.during.currentStage, List.getLastD_concat]
  | cancelled entering history =>
    obtain ⟨conducted, -⟩ := entering.conducted history split poised
    obtain ⟨path, same, proceeds⟩ := conducted.path
    obtain ⟨running, unfinished⟩ := conducted.stands
    have allowed : _ = true := congrArg (Run.Status.canBecome · .cancelled) running
    rw [← List.append_assoc, same, List.append_assoc]
    exact proceeds.append ((Ends.cancelled allowed unfinished).proceeds _)
  | failed entering history rollback =>
    obtain ⟨conducted, -⟩ := entering.conducted history split poised
    rw [← List.append_assoc]
    exact (conducted.proceeds rfl).append
      (rollback.proceeds conducted.during.running conducted.stands conducted.recalls)

theorem Course.proceeds {run after : Run} (course : Course settings workflow run dialogue after)
    (pending : run.status = .pending) (nothing : run.steps = []) :
    Proceeds workflow run.parameters run dialogue after := by
  cases course with
  | cancelled =>
    have allowed : _ = true := congrArg (Run.Status.canBecome · .cancelled) pending
    have unfinished : ¬AtEnd workflow run.parameters run := by
      rintro ⟨before, step, steps, -⟩
      simp [nothing] at steps
    exact (Ends.cancelled allowed unfinished).proceeds _
  | @started now _ _ _ forward =>
    have poised : Poised workflow run.parameters [] ⟨⟨run.parameters, .empty⟩, begun run now⟩ := by
      refine ⟨rfl, rfl, fun step member => ?_, ?_, fun _ before step steps _ => ?_⟩
      · simp [begun, nothing] at member
      · simp only [Recalls, begun, nothing]
        rfl
      · simp [begun, nothing] at steps
    exact .change (.start pending) (.announce (forward.proceeds rfl poised))

end

end Runbook.Execution
