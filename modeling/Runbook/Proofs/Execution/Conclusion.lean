import Mathlib.Logic.Function.Basic
import Runbook.Proofs.Execution.Shape

/-! How a run ends: its steps lie in one segment for each stage, and its status and its failures
agree with them.
-/

set_option autoImplicit false

namespace Runbook.Execution

/-- Stages have their segments. A stage that another one follows was carried out in full. -/
structure Layout (workflow : Workflow) (stages : List Stage) (blocks : Stage → List Block) :
    Prop where
  segment (stage : Stage) : stage ∈ stages →
    Segment stage 0 (workflow.commands stage) (blocks stage)
  ordered : stages.Pairwise fun earlier later => blocks later ≠ [] →
    Complete (workflow.commands earlier) (blocks earlier) ∧
      Faultless (stepsOfBlocks (blocks earlier))

/-- The ends of a run, each with its failures. -/
inductive Verdict (workflow : Workflow) (stages : List Stage) (blocks : Stage → List Block) :
    Run.Status → Option Failure → Option Failure → Prop
  | completed :
      (∀ stage ∈ stages, Complete (workflow.commands stage) (blocks stage)) →
      blocks .rollback = [] → Verdict workflow stages blocks .completed none none
  | cancelled : blocks .rollback = [] → Verdict workflow stages blocks .cancelled none none
  | rolledBack {failure : Failure} :
      workflow.commands .rollback ≠ [] →
      Complete (workflow.commands .rollback) (blocks .rollback) →
      Verdict workflow stages blocks .rolledBack (some failure) none
  | nothingToDo {failure : Failure} :
      workflow.commands .rollback = [] → blocks .rollback = [] →
      Verdict workflow stages blocks .failed (some failure) none
  | failed {failure rollbackFailure : Failure} :
      Verdict workflow stages blocks .failed (some failure) (some rollbackFailure)

/-- A record that has ended, where stages have come after the steps it had before. -/
structure Conclusion (workflow : Workflow) (stages : List Stage) (before : List Step)
    (blocks : Stage → List Block) (run : Run) : Prop where
  steps : run.steps = before ++ stepsOfBlocks (stages.flatMap blocks ++ blocks .rollback)
  layout : Layout workflow stages blocks
  rollback : Segment .rollback 0 (workflow.commands .rollback) (blocks .rollback)
  ends : EndsWith run.failure (stepsOfBlocks (stages.flatMap blocks))
  rollbackEnds : EndsWith run.rollbackFailure (stepsOfBlocks (blocks .rollback))
  verdict : Verdict workflow stages blocks run.status run.failure run.rollbackFailure
  told : AlongBlocks (Told workflow run.parameters) before
    (stages.flatMap blocks ++ blocks .rollback)

section
variable {workflow : Workflow} {stage : Stage} {stages : List Stage} {these : List Block}
  {blocks : Stage → List Block}

/-! ### One more stage in front -/

theorem flatMap_of_nil (none : ∀ stage ∈ stages, blocks stage = []) : stages.flatMap blocks = [] :=
  List.flatMap_eq_nil_iff.2 none

theorem layout_of_nil (none : ∀ stage ∈ stages, blocks stage = []) :
    Layout workflow stages blocks where
  segment stage member := by
    rw [none stage member]
    exact segment_nil
  ordered := List.pairwise_of_forall_mem_list fun earlier _ later member more =>
    absurd (none later member) more

theorem flatMap_update (outside : stage ∉ stages) :
    (stage :: stages).flatMap (Function.update blocks stage these) =
      these ++ stages.flatMap blocks := by
  rw [List.flatMap_cons, Function.update_self]
  refine congrArg _ (List.flatMap_congr fun other member => ?_)
  exact Function.update_of_ne (ne_of_mem_of_not_mem member outside) _ _

theorem update_rollback (forward : stage ≠ .rollback) :
    Function.update blocks stage these .rollback = blocks .rollback :=
  Function.update_of_ne (Ne.symm forward) _ _

theorem Layout.cons (outside : stage ∉ stages)
    (segment : Segment stage 0 (workflow.commands stage) these)
    (whole : (∃ later ∈ stages, blocks later ≠ []) →
      Complete (workflow.commands stage) these ∧ Faultless (stepsOfBlocks these))
    (rest : Layout workflow stages blocks) :
    Layout workflow (stage :: stages) (Function.update blocks stage these) where
  segment other member := by
    rcases List.mem_cons.1 member with rfl | later
    · rwa [Function.update_self]
    · rw [Function.update_of_ne (ne_of_mem_of_not_mem later outside)]
      exact rest.segment other later
  ordered := by
    refine List.pairwise_cons.2 ⟨fun later member more => ?_, ?_⟩
    · rw [Function.update_of_ne (ne_of_mem_of_not_mem member outside)] at more
      rw [Function.update_self]
      exact whole ⟨later, member, more⟩
    · refine rest.ordered.imp_of_mem fun first second holds more => ?_
      rw [Function.update_of_ne (ne_of_mem_of_not_mem first outside)]
      rw [Function.update_of_ne (ne_of_mem_of_not_mem second outside)] at more
      exact holds more

theorem Verdict.cons {status : Run.Status} {failure rollbackFailure : Option Failure}
    (forward : stage ≠ .rollback) (complete : Complete (workflow.commands stage) these)
    (outside : stage ∉ stages)
    (rest : Verdict workflow stages blocks status failure rollbackFailure) :
    Verdict workflow (stage :: stages) (Function.update blocks stage these) status failure
      rollbackFailure := by
  have same : Function.update blocks stage these .rollback = blocks .rollback :=
    update_rollback forward
  cases rest with
  | completed all nothing =>
    refine .completed (fun other member => ?_) (same.trans nothing)
    rcases List.mem_cons.1 member with rfl | later
    · rwa [Function.update_self]
    · rw [Function.update_of_ne (ne_of_mem_of_not_mem later outside)]
      exact all other later
  | cancelled nothing => exact .cancelled (same.trans nothing)
  | rolledBack defined all => exact .rolledBack defined (same.symm ▸ all)
  | nothingToDo undefined nothing => exact .nothingToDo undefined (same.trans nothing)
  | failed => exact .failed

theorem Conclusion.cons {before : List Step} {run : Run} (forward : stage ≠ .rollback)
    (outside : stage ∉ stages) (segment : Segment stage 0 (workflow.commands stage) these)
    (complete : Complete (workflow.commands stage) these)
    (faultless : Faultless (stepsOfBlocks these))
    (told : AlongBlocks (Told workflow run.parameters) before these)
    (rest : Conclusion workflow stages (before ++ stepsOfBlocks these) blocks run) :
    Conclusion workflow (stage :: stages) before (Function.update blocks stage these) run := by
  constructor
  case steps =>
    rw [rest.steps, flatMap_update outside, update_rollback forward, List.append_assoc these,
      stepsOfBlocks_append these, List.append_assoc]
  case layout => exact rest.layout.cons outside segment fun _ => ⟨complete, faultless⟩
  case rollback =>
    rw [update_rollback forward]
    exact rest.rollback
  case ends =>
    rw [flatMap_update outside, stepsOfBlocks_append]
    exact rest.ends.append faultless
  case rollbackEnds =>
    rw [update_rollback forward]
    exact rest.rollbackEnds
  case verdict => exact rest.verdict.cons forward complete outside
  case told =>
    rw [flatMap_update outside, update_rollback forward, List.append_assoc]
    exact told.append rest.told

theorem conclusion_of_cancelled (run : Run) (stages : List Stage) (now : Time.Instant)
    (failure : run.failure = none) (rollbackFailure : run.rollbackFailure = none) :
    Conclusion workflow stages run.steps (fun _ => []) (run.closed .cancelled now) := by
  have nothing : stages.flatMap (fun _ => ([] : List Block)) = [] := flatMap_of_nil fun _ _ => rfl
  refine ⟨?_, layout_of_nil fun _ _ => rfl, segment_nil, ?_, ?_, ?_, ?_⟩ <;>
    simp only [Run.closed, failure, rollbackFailure, nothing]
  · exact (List.append_nil _).symm
  · exact faultless_nil
  · exact faultless_nil
  · exact .cancelled rfl
  · exact alongBlocks_nil

/-- A run that did not go on to another stage, but perhaps to the rollback. -/
theorem conclusion_of_last {before : List Step} {those : List Block} {run : Run}
    (forward : stage ≠ .rollback) (outside : stage ∉ stages) (others : .rollback ∉ stages)
    (steps : run.steps = before ++ (stepsOfBlocks these ++ stepsOfBlocks those))
    (segment : Segment stage 0 (workflow.commands stage) these)
    (ends : EndsWith run.failure (stepsOfBlocks these))
    (rollback : Segment .rollback 0 (workflow.commands .rollback) those)
    (rollbackEnds : EndsWith run.rollbackFailure (stepsOfBlocks those))
    (verdict : ∀ blocks : Stage → List Block, blocks .rollback = those →
      Verdict workflow (stage :: stages) blocks run.status run.failure run.rollbackFailure)
    (told : AlongBlocks (Told workflow run.parameters) before these)
    (rollbackTold : AlongBlocks (Told workflow run.parameters) (before ++ stepsOfBlocks these)
      those) :
    ∃ blocks, Conclusion workflow (stage :: stages) before blocks run := by
  -- No other stage was entered, so only this one and the rollback have blocks.
  let tail : Stage → List Block := Function.update (fun _ => []) .rollback those
  have nothing (other : Stage) (member : other ∈ stages) : tail other = [] :=
    Function.update_of_ne (ne_of_mem_of_not_mem member others) _ _
  have same : Function.update tail stage these .rollback = those :=
    (update_rollback forward).trans (Function.update_self _ _ _)
  have only : (stage :: stages).flatMap (Function.update tail stage these) = these := by
    rw [flatMap_update outside, flatMap_of_nil nothing, List.append_nil]
  refine ⟨Function.update tail stage these, ?_, ?_, ?_, ?_, ?_, verdict _ same, ?_⟩
  · rw [steps, only, same, stepsOfBlocks_append]
  · refine (layout_of_nil nothing).cons outside segment ?_
    rintro ⟨later, member, more⟩
    exact absurd (nothing later member) more
  · rw [same]
    exact rollback
  · rw [only]
    exact ends
  · rw [same]
    exact rollbackEnds
  · rw [only, same]
    exact told.append rollbackTold

end

/-! ### Courses -/

section
variable {settings : Settings} {workflow : Workflow} {dialogue : List Exchange}

theorem Entered.recalls {stage : Stage} {progress entered : Progress Run}
    (entry : Entered stage progress dialogue entered) :
    ∃ currentStage, entered.collected = { progress.collected with currentStage } ∧
      (Recalls workflow progress.collected.parameters progress →
        Recalls workflow progress.collected.parameters entered) := by
  cases entry with
  | first => exact ⟨_, rfl, id⟩
  | later => exact ⟨_, rfl, id⟩

theorem Entered.shape {stage : Stage} {progress entered after : Progress Run}
    {entry : List Exchange} {outcome : StageOutcome} (entering : Entered stage progress entry entered)
    (history : StageHistory settings true stage 0 (workflow.commands stage) entered dialogue outcome
      after)
    (recalls : Recalls workflow progress.collected.parameters progress) :
    ∃ currentStage these,
      after.collected =
        { progress.collected with currentStage }.append (stepsOfBlocks these) ∧
      Segment stage 0 (workflow.commands stage) these ∧
      (outcome = .passed → Complete (workflow.commands stage) these) ∧
      EndsWith outcome.failure? (stepsOfBlocks these) ∧
      AlongBlocks (Told workflow progress.collected.parameters) progress.collected.steps these ∧
      Recalls workflow progress.collected.parameters after := by
  obtain ⟨currentStage, moved, recalledThen⟩ := entering.recalls
  obtain ⟨these, shape⟩ := history.shape
  obtain ⟨told, recalled⟩ := shape.told rfl (recalledThen recalls)
  have collected := shape.collected
  rw [moved] at collected told
  exact ⟨currentStage, these, collected, shape.segment, shape.complete, shape.ends, told, recalled⟩

theorem commands_rollback_eq_nil_iff :
    workflow.commands .rollback = [] ↔ workflow.hasRollback = false := by
  simp [Workflow.commands, Workflow.hasRollback]

theorem RollbackCourse.conclusion {run after : Run} {failure : Failure}
    {context : Template.Context}
    (course : RollbackCourse settings workflow run failure context dialogue after)
    (clean : run.rollbackFailure = none)
    (recalls : Recalls workflow run.parameters ⟨context, run⟩) :
    ∃ blocks, after.steps = run.steps ++ stepsOfBlocks blocks ∧ after.failure = some failure ∧
      after.parameters = run.parameters ∧
      Segment .rollback 0 (workflow.commands .rollback) blocks ∧
      EndsWith after.rollbackFailure (stepsOfBlocks blocks) ∧
      AlongBlocks (Told workflow run.parameters) run.steps blocks ∧
      ∀ (stages : List Stage) (all : Stage → List Block), all .rollback = blocks →
        Verdict workflow stages all after.status after.failure after.rollbackFailure := by
  cases course with
  | nothing undefined =>
    refine ⟨[], (List.append_nil _).symm, rfl, rfl, segment_nil, faultless_nil, alongBlocks_nil,
      fun stages all at_ => ?_⟩
    exact .nothingToDo (commands_rollback_eq_nil_iff.2 undefined) at_
  | rolledBack defined history =>
    obtain ⟨blocks, shape⟩ := history.shape
    obtain ⟨told, -⟩ := shape.told rfl recalls
    rw [shape.collected]
    refine ⟨blocks, rfl, rfl, rfl, shape.segment, ?_, told, fun stages all at_ => ?_⟩
    · simp only [Run.closed, Run.append_rollbackFailure, rollingBack, clean]
      exact shape.ends
    · simp only [Run.closed, Run.append_rollbackFailure, rollingBack, clean]
      -- A rollback that was carried out is one that the workflow defines.
      refine .rolledBack (fun absent => ?_) (at_ ▸ shape.complete rfl)
      rw [commands_rollback_eq_nil_iff.1 absent] at defined
      cases defined
  | failed defined history =>
    obtain ⟨blocks, shape⟩ := history.shape
    obtain ⟨told, -⟩ := shape.told rfl recalls
    rw [shape.collected]
    exact ⟨blocks, rfl, rfl, rfl, shape.segment, shape.ends, told, fun stages all at_ => .failed⟩

theorem ForwardCourse.conclusion {stages : List Stage} {progress : Progress Run} {after : Run}
    (course : ForwardCourse settings workflow stages progress dialogue after)
    (distinct : stages.Nodup) (forward : .rollback ∉ stages)
    (clean : progress.collected.failure = none ∧ progress.collected.rollbackFailure = none)
    (recalls : Recalls workflow progress.collected.parameters progress) :
    after.parameters = progress.collected.parameters ∧
      ∃ blocks, Conclusion workflow stages progress.collected.steps blocks after := by
  -- Along the stages: none has failed yet, and the live variables are those of the record.
  induction course with
  | @completed progress now =>
    obtain ⟨failure, rollbackFailure⟩ := clean
    refine ⟨rfl, fun _ => [], (List.append_nil _).symm, layout_of_nil fun _ _ => rfl, segment_nil,
      ?_, ?_, ?_, alongBlocks_nil⟩ <;>
      simp only [Run.closed, failure, rollbackFailure]
    · exact faultless_nil
    · exact faultless_nil
    · exact .completed (fun _ member => absurd member List.not_mem_nil) rfl
  | @stopped stage rest progress now later =>
    exact ⟨rfl, _, conclusion_of_cancelled _ (stage :: rest) now clean.1 clean.2⟩
  | passed entering history _ ih =>
    obtain ⟨currentStage, these, collected, segment, complete, ends, told, recalled⟩ :=
      entering.shape history recalls
    obtain ⟨outside, distinct⟩ := List.nodup_cons.1 distinct
    obtain ⟨ahead, others⟩ := List.ne_and_not_mem_of_not_mem_cons forward
    rw [collected] at ih
    obtain ⟨parameters, blocks, rest⟩ := ih distinct others clean recalled
    refine ⟨parameters, _, rest.cons (Ne.symm ahead) outside segment (complete rfl) ends ?_⟩
    rw [parameters]
    exact told
  | cancelled entering history =>
    obtain ⟨failure, rollbackFailure⟩ := clean
    obtain ⟨currentStage, these, collected, segment, -, ends, told, -⟩ :=
      entering.shape history recalls
    obtain ⟨outside, -⟩ := List.nodup_cons.1 distinct
    obtain ⟨ahead, others⟩ := List.ne_and_not_mem_of_not_mem_cons forward
    rw [collected]
    refine ⟨rfl, conclusion_of_last (Ne.symm ahead) outside others ?_ segment ?_ segment_nil
      ?_ ?_ told alongBlocks_nil⟩ <;>
      simp only [Run.closed, Run.append_failure, Run.append_rollbackFailure, failure,
        rollbackFailure]
    · exact congrArg _ (List.append_nil _).symm
    · exact ends
    · exact faultless_nil
    · exact fun blocks nothing => .cancelled nothing
  | @failed stage rest progress entered after _ _ later failure run entering history rollback =>
    obtain ⟨currentStage, these, collected, segment, -, ends, told, recalled⟩ :=
      entering.shape history recalls
    obtain ⟨outside, -⟩ := List.nodup_cons.1 distinct
    obtain ⟨ahead, others⟩ := List.ne_and_not_mem_of_not_mem_cons forward
    -- A stage adds nothing but steps, so the rollback starts without a failure of its own.
    have rollbackClean : after.collected.rollbackFailure = none := by
      rw [collected]
      exact clean.2
    have same : after.collected.parameters = progress.collected.parameters := by
      rw [collected]
      rfl
    obtain ⟨those, steps, failed, parameters, rollbackSegment, rollbackEnds, rollbackTold, verdict⟩ :=
      rollback.conclusion rollbackClean (same ▸ recalled)
    have parameters := parameters.trans same
    refine ⟨parameters, conclusion_of_last (Ne.symm ahead) outside others ?_ segment ?_
      rollbackSegment rollbackEnds (verdict _) ?_ ?_⟩
    · rw [steps, collected, ← List.append_assoc]
      rfl
    · rw [failed]
      exact ends
    · rw [parameters]
      exact told
    · rw [same, collected] at rollbackTold
      rw [parameters]
      exact rollbackTold

theorem Course.conclusion {id : RunId} {workflowId : WorkflowId} {deviceId : DeviceId}
    {parameters : Bindings} {createdAt : Time.Instant} {after : Run}
    (course : Course settings workflow (.new id workflowId deviceId parameters createdAt)
      dialogue after) :
    ∃ blocks, Conclusion workflow Stage.forward [] blocks after := by
  cases course with
  | @cancelled now =>
    let fresh : Run := .new id workflowId deviceId parameters createdAt
    exact ⟨_, conclusion_of_cancelled fresh Stage.forward now rfl rfl⟩
  | started pending forward =>
    exact (forward.conclusion (by decide) (by decide) ⟨rfl, rfl⟩ rfl).2

end

/-! ### Runs of all stages -/

theorem rel_of_pairwise_forward {R : Stage → Stage → Prop} (pairwise : Stage.forward.Pairwise R)
    {earlier later : Stage} (member : later ∈ Stage.forward) (lower : earlier.rank < later.rank) :
    R earlier later := by
  simp only [Stage.forward, List.pairwise_cons, List.mem_cons] at pairwise member
  cases earlier <;> cases later <;> simp_all [Stage.rank]

section
variable {workflow : Workflow} {blocks : Stage → List Block} {run : Run}
  (conclusion : Conclusion workflow Stage.forward [] blocks run)
include conclusion

theorem Conclusion.steps_eq : run.steps = stepsOfBlocks (Stage.all.flatMap blocks) := by
  rw [conclusion.steps]
  simp [Stage.all, Stage.forward]

theorem Conclusion.told_all :
    AlongBlocks (Told workflow run.parameters) [] (Stage.all.flatMap blocks) := by
  have told := conclusion.told
  simp only [Stage.forward, Stage.all, List.flatMap_cons, List.flatMap_nil, List.append_nil,
    List.append_assoc] at told ⊢
  exact told

theorem Conclusion.segment (stage : Stage) :
    Segment stage 0 (workflow.commands stage) (blocks stage) := by
  cases stage with
  | rollback => exact conclusion.rollback
  | preCheck => exact conclusion.layout.segment _ (by decide)
  | implementation => exact conclusion.layout.segment _ (by decide)
  | postCheck => exact conclusion.layout.segment _ (by decide)

end

end Runbook.Execution
