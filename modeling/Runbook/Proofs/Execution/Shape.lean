import Runbook.Proofs.Execution.Course
import Runbook.Proofs.Execution.Reconstruction

/-! What a history leaves on the record: the steps of a branch, the block of a command, the segment of a
stage.
-/

set_option autoImplicit false

namespace Runbook.Execution

def StageOutcome.failure? : StageOutcome → Option Failure
  | .failed failure => some failure
  | .passed | .cancelled => none

/-- The steps that a branch leaves. -/
structure BranchShape (parent : Step) (arm : Arm) (index : Nat) (branches : List BranchCommand)
    (progress after : Progress Run) (outcome : BranchOutcome) (steps : List Step) : Prop where
  collected : after.collected = progress.collected.append steps
  headings : steps.map Step.heading <+:
    armHeadings parent.stage parent.commandIndex arm index branches
  whole : outcome = .completed → steps.length = branches.length
  ends : EndsWith
    ((outcome.toStage? parent.stage parent.commandIndex arm).bind StageOutcome.failure?) steps
  told {workflow : Workflow} {parameters : Bindings} : Recalls workflow parameters progress →
    Along (Explained workflow parameters) progress.collected.steps steps ∧
      Recalls workflow parameters after

structure BlockShape (stage : Stage) (index : Nat) (command : Command)
    (progress after : Progress Run) (ending : Option StageOutcome) (block : Block) : Prop where
  collected : after.collected = progress.collected.append block.steps
  fits : block.Fits stage index command
  whole : ending = none → block.IsWhole command
  ends : EndsWith (ending.bind StageOutcome.failure?) block.steps
  told {workflow : Workflow} {parameters : Bindings} :
    (workflow.commands stage)[index]? = some command → Recalls workflow parameters progress →
    Told workflow parameters progress.collected.steps block ∧ Recalls workflow parameters after

structure StageShape (stage : Stage) (index : Nat) (commands : List Command)
    (progress after : Progress Run) (outcome : StageOutcome) (blocks : List Block) : Prop where
  collected : after.collected = progress.collected.append (stepsOfBlocks blocks)
  segment : Segment stage index commands blocks
  complete : outcome = .passed → Complete commands blocks
  ends : EndsWith outcome.failure? (stepsOfBlocks blocks)
  told {workflow : Workflow} {parameters : Bindings} :
    commands = (workflow.commands stage).drop index → Recalls workflow parameters progress →
    AlongBlocks (Told workflow parameters) progress.collected.steps blocks ∧
      Recalls workflow parameters after

section
variable {settings : Settings} {cancellable : Bool} {stage : Stage} {index : Nat}
  {dialogue : List Exchange} {progress after : Progress Run}

theorem Recorded.failure? {branch : Option Step.Branch} {command : Command} {step : Step}
    {chosen : Option (Condition × Arm)} {error : Step.Error}
    (recorded : Recorded settings stage index branch command progress dialogue step chosen after)
    (failed : step.error = some error) :
    step.failure? = some ⟨stage, index, error.kind, error.messageIn branch⟩ :=
  Step.failure?_of_heading recorded.framed.1 failed

/-! ### Branches -/

section
variable {parent : Step} {arm : Arm} {branches : List BranchCommand}

theorem branchShape_nil {outcome : BranchOutcome}
    (quiet : (outcome.toStage? parent.stage parent.commandIndex arm).bind StageOutcome.failure? =
      none) (whole : outcome = .completed → branches = []) :
    BranchShape parent arm index branches progress progress outcome [] where
  collected := (Run.append_nil _).symm
  headings := List.nil_prefix
  whole completed := by rw [whole completed]; rfl
  ends := by rw [quiet]; exact faultless_nil
  told recalls := ⟨along_nil, recalls⟩

theorem BranchHistory.shape {outcome : BranchOutcome}
    (history : BranchHistory settings cancellable parent arm index branches progress dialogue
      outcome after) :
    ∃ steps, BranchShape parent arm index branches progress after outcome steps := by
  induction history with
  | completed => exact ⟨[], branchShape_nil rfl fun _ => rfl⟩
  | cancelled allowed => exact ⟨[], branchShape_nil rfl nofun⟩
  | @failed index branch rest progress after dialogue step chosen error recorded failed =>
    refine ⟨[step], recorded.collected, ?_, nofun, ?_, fun recalls => ?_⟩
    · exact List.cons_prefix_cons.2 ⟨recorded.framed.1, List.nil_prefix⟩
    · exact ⟨[], step, rfl, faultless_nil, recorded.failure? failed⟩
    · exact ⟨.cons (recorded.explained recalls) along_nil, recorded.recalls_of_branch recalls⟩
  | @next index branch rest progress middle after dialogue later step chosen outcome recorded
      success _ ih =>
    obtain ⟨steps, shape⟩ := ih
    have collected : after.collected = progress.collected.append (step :: steps) := by
      rw [shape.collected, recorded.collected, Run.append_append]
      rfl
    refine ⟨step :: steps, collected, ?_, fun completed => ?_, ?_, fun recalls => ?_⟩
    · exact List.cons_prefix_cons.2 ⟨recorded.framed.1, shape.headings⟩
    · exact congrArg (· + 1) (shape.whole completed)
    · exact shape.ends.append (faultless_cons success faultless_nil)
    · -- The later steps are explained by the record that has this one.
      obtain ⟨explained, recalled⟩ := shape.told (recorded.recalls_of_branch recalls)
      rw [recorded.collected] at explained
      exact ⟨.cons (recorded.explained recalls) explained, recalled⟩

end

/-! ### Commands with their branches -/

section
variable {command : Command}

theorem Recorded.blockShape {step : Step} {chosen : Option (Condition × Arm)}
    {ending : Option StageOutcome}
    (recorded : Recorded settings stage index none command progress dialogue step chosen after)
    (unbranched : command.condition = none ∨ step.error.isSome = true)
    (whole : ending = none → command.condition = none)
    (ends : EndsWith (ending.bind StageOutcome.failure?) [step]) :
    BlockShape stage index command progress after ending ⟨step, .then_, []⟩ where
  collected := recorded.collected
  fits := ⟨recorded.framed.1, .inl rfl⟩
  whole proceeds condition defined := by
    rw [whole proceeds] at defined
    cases defined
  ends := ends
  told present recalls := by
    refine ⟨⟨.cons (recorded.explained recalls) along_nil, ?_⟩,
      recorded.recalls_of_command present recalls⟩
    intro other condition found defined success
    rcases unbranched with plain | failed
    · rw [(recorded.commandOf present).2] at found
      cases found
      rw [plain] at defined
      cases defined
    · rw [success] at failed
      cases failed

theorem Recorded.blockShape_branched {middle : Progress Run} {step : Step}
    {condition : Condition} {arm : Arm} {outcome : BranchOutcome} {steps : List Step}
    (recorded : Recorded settings stage index none command progress dialogue step
      (some (condition, arm)) middle)
    (success : step.error = none)
    (branch : BranchShape step arm 0 (condition.commands arm) middle after outcome steps) :
    BlockShape stage index command progress after (outcome.toStage? stage index arm)
      ⟨step, arm, steps⟩ := by
  obtain ⟨defined, selected⟩ := recorded.selected
  obtain ⟨atStage, atIndex, -⟩ := recorded.place
  have headings := branch.headings
  have ends := branch.ends
  rw [atStage, atIndex] at headings ends
  constructor
  case collected =>
    rw [branch.collected, recorded.collected, Run.append_append]
    rfl
  case fits => exact ⟨recorded.framed.1, .inr ⟨success, condition, defined, headings⟩⟩
  case whole =>
    intro proceeds other same
    rw [defined] at same
    cases same
    apply branch.whole
    cases outcome with
    | completed => rfl
    | cancelled => cases proceeds
    | failed error => cases proceeds
  case ends => exact ends.append (faultless_cons success faultless_nil)
  case told =>
    intro workflow parameters present recalls
    have recalledThen := recorded.recalls_of_command present recalls
    obtain ⟨explained, recalled⟩ := branch.told recalledThen
    rw [recorded.collected] at explained
    refine ⟨⟨.cons (recorded.explained recalls) explained, ?_⟩, recalled⟩
    intro other found commanded known _
    rw [(recorded.commandOf present).2] at commanded
    cases commanded
    rw [defined] at known
    cases known
    -- The arm was chosen under the live variables, which the record recalls.
    rw [recalledThen, recorded.collected] at selected
    exact selected

theorem BlockHistory.shape {ending : Option StageOutcome}
    (history : BlockHistory settings cancellable stage index command progress dialogue ending
      after) :
    ending = some .cancelled ∧ after = progress ∨
      ∃ block, BlockShape stage index command progress after ending block := by
  cases history with
  | cancelled allowed => exact .inl ⟨rfl, rfl⟩
  | @failed _ _ step _ error recorded failed =>
    have isFailed : step.error.isSome = true := by rw [failed]; rfl
    refine .inr ⟨_, recorded.blockShape (.inr isFailed) nofun ?_⟩
    exact ⟨[], step, rfl, faultless_nil, recorded.failure? failed⟩
  | plain recorded success =>
    have plain := recorded.plain success
    refine .inr ⟨_, recorded.blockShape (.inl plain) (fun _ => plain) ?_⟩
    exact faultless_cons success faultless_nil
  | branched recorded success branch =>
    obtain ⟨steps, shape⟩ := branch.shape
    exact .inr ⟨_, recorded.blockShape_branched success shape⟩

theorem BlockHistory.not_passed {ending : Option StageOutcome}
    (history : BlockHistory settings cancellable stage index command progress dialogue ending
      after) : ending ≠ some .passed := by
  cases history with
  | cancelled allowed => nofun
  | failed recorded failed => nofun
  | plain recorded success => nofun
  | @branched _ _ _ _ _ _ _ outcome recorded success branch => cases outcome <;> nofun

end

/-! ### Stages -/

section
variable {commands : List Command} {outcome : StageOutcome}

theorem stageShape_nil (quiet : outcome.failure? = none)
    (complete : outcome = .passed → commands = []) :
    StageShape stage index commands progress progress outcome [] where
  collected := (Run.append_nil _).symm
  segment := segment_nil
  complete passed := by rw [complete passed]; exact .nil
  ends := by rw [quiet]; exact faultless_nil
  told _ recalls := ⟨alongBlocks_nil, recalls⟩

theorem getElem?_of_drop {workflow : Workflow} {command : Command} {rest : List Command}
    (left : command :: rest = (workflow.commands stage).drop index) :
    (workflow.commands stage)[index]? = some command ∧
      rest = (workflow.commands stage).drop (index + 1) := by
  constructor
  · rw [← List.head?_drop, ← left]
    rfl
  · rw [← List.tail_drop, ← left]
    rfl

theorem StageHistory.shape
    (history : StageHistory settings cancellable stage index commands progress dialogue outcome
      after) :
    ∃ blocks, StageShape stage index commands progress after outcome blocks := by
  induction history with
  | passed => exact ⟨[], stageShape_nil rfl fun _ => rfl⟩
  | ended history =>
    have notPassed {goal : Prop} (passed : _ = StageOutcome.passed) : goal :=
      absurd (congrArg some passed) history.not_passed
    -- Where the command was cancelled at once, nothing of it is on the record.
    rcases history.shape with ⟨cancelled, rfl⟩ | ⟨block, shape⟩
    · cases cancelled
      exact ⟨[], stageShape_nil rfl nofun⟩
    · have alone : stepsOfBlocks [block] = block.steps := by
        rw [stepsOfBlocks_cons]
        exact List.append_nil _
      have collected := shape.collected
      have ends := shape.ends
      rw [← alone] at collected ends
      refine ⟨[block], collected, ?_, notPassed, ends, fun left recalls => ?_⟩
      · exact Segment.cons shape.fits (fun more => absurd rfl more) segment_nil ends
      · obtain ⟨told, recalled⟩ := shape.told (getElem?_of_drop left).1 recalls
        exact ⟨.cons told alongBlocks_nil, recalled⟩
  | next history _ ih =>
    rcases history.shape with ⟨cancelled, -⟩ | ⟨block, shape⟩
    · cases cancelled
    · obtain ⟨blocks, rest⟩ := ih
      have ends := rest.ends.append shape.ends
      rw [← stepsOfBlocks_cons] at ends
      refine ⟨block :: blocks, ?_, rest.segment.cons shape.fits (fun _ => shape.whole rfl) ends,
        fun passed => .cons (shape.whole rfl) (rest.complete passed), ends, fun left recalls => ?_⟩
      · rw [rest.collected, shape.collected, Run.append_append, stepsOfBlocks_cons]
      · obtain ⟨present, remaining⟩ := getElem?_of_drop left
        obtain ⟨told, recalledThen⟩ := shape.told present recalls
        obtain ⟨explained, recalled⟩ := rest.told remaining recalledThen
        rw [shape.collected] at explained
        exact ⟨.cons told explained, recalled⟩

end

end

end Runbook.Execution
