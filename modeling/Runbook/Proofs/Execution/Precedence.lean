import Runbook.Proofs.Execution.Explanation
import Runbook.Proofs.Execution.Provenance
import Runbook.Proofs.Workflow.Validation

/-! What has come before a step: a step without an error for every command that was ahead of its own.
-/

set_option autoImplicit false

namespace Runbook

/-- The command at a place has a step of its own among these, without an error. -/
def Passed (steps : List Step) (stage : Stage) (index : Nat) : Prop :=
  ∃ step ∈ steps, step.stage = stage ∧ step.commandIndex = index ∧ step.branch = none ∧
    step.error = none

theorem Passed.mono {steps more : List Step} {stage : Stage} {index : Nat}
    (passed : Passed steps stage index) (within : steps ⊆ more) : Passed more stage index := by
  obtain ⟨step, member, place⟩ := passed
  exact ⟨step, within member, place⟩

/-- The command at a place of the stage of a step comes before it. For a branch step that is so of its own
command. -/
def Step.IsBehind (step : Step) (index : Nat) : Prop :=
  index < step.commandIndex ∨ index = step.commandIndex ∧ step.branch.isSome = true

section
variable {stage : Stage} {index : Nat} {command : Command} {commands : List Command} {block : Block}
  {blocks : List Block} {step : Step} {before after : List Step}

/-! ### Within a stage -/

theorem Block.Fits.place (fits : block.Fits stage index command) (own : step ∈ block.steps) :
    step.stage = stage ∧ step.commandIndex = index := by
  rcases List.mem_cons.1 own with rfl | below
  · obtain ⟨atStage, atIndex, -⟩ := Step.place_of_heading fits.head
    exact ⟨atStage, atIndex⟩
  · obtain ⟨position, found⟩ := List.mem_iff_getElem?.1 below
    obtain ⟨condition, branch, -, -, heading⟩ := fits.branchStep found
    obtain ⟨atStage, atIndex, -⟩ := Step.place_of_heading heading
    exact ⟨atStage, atIndex⟩

theorem Segment.faultless_before {start : Nat} (segment : Segment stage start commands blocks)
    (split : stepsOfBlocks blocks = before ++ step :: after) : Faultless before := by
  intro earlier member
  obtain ⟨first, rest, rfl⟩ := List.append_of_mem member
  cases failed : earlier.error with
  | none => rfl
  | some error =>
    -- After an error there is nothing in the segment, and here the step is.
    rw [List.append_assoc, List.cons_append] at split
    have nothing := segment.stops first earlier _ split (by rw [failed]; rfl)
    cases (List.append_eq_nil_iff.1 nothing).2

theorem Segment.passed (segment : Segment stage 0 commands blocks)
    (split : stepsOfBlocks blocks = before ++ step :: after) (behind : step.IsBehind index) :
    Passed before stage index := by
  have faultless := segment.faultless_before split
  obtain ⟨earlier, block, later, inner, rest, rfl, own, rfl, -⟩ := split_of_stepsOfBlocks split
  have placed : (earlier ++ block :: later)[earlier.length]? = some block := by simp
  obtain ⟨command, -, fits, -⟩ := segment.fits earlier.length block placed
  have member : step ∈ block.steps := by simp [own]
  obtain ⟨-, atIndex⟩ := fits.place member
  rw [Nat.zero_add] at atIndex
  rw [Step.IsBehind, atIndex] at behind
  rcases behind with lower | ⟨rfl, below⟩
  · -- The command has a block of its own, ahead of that of the step.
    have found : (earlier ++ block :: later)[index]? = some earlier[index] := by
      rw [List.getElem?_append_left lower, List.getElem?_eq_getElem lower]
    obtain ⟨_, -, others, -⟩ := segment.fits index earlier[index] found
    have listed : earlier[index].head ∈ stepsOfBlocks earlier ++ inner :=
      List.mem_append_left _ (List.mem_flatMap_of_mem (List.getElem_mem lower) List.mem_cons_self)
    obtain ⟨atStage, atIndex, plain⟩ := Step.place_of_heading others.head
    exact ⟨_, listed, atStage, atIndex.trans (Nat.zero_add _), plain, faultless _ listed⟩
  · -- A branch step has the head of its own block before it.
    obtain ⟨atStage, atIndex, plain⟩ := Step.place_of_heading fits.head
    cases inner with
    | nil =>
      have same : block.head = step := (List.cons.inj own).1
      rw [← same, plain] at below
      cases below
    | cons first inner =>
      have same : block.head = first := (List.cons.inj own).1
      have listed : block.head ∈ stepsOfBlocks earlier ++ first :: inner := by simp [same]
      exact ⟨_, listed, atStage, atIndex.trans (Nat.zero_add _), plain, faultless _ listed⟩

end

/-! ### Stages one after the other -/

namespace Execution

section
variable {workflow : Workflow} {blocks : Stage → List Block} {before after : List Step} {step : Step}

theorem split_append {first second : List Step}
    (split : first ++ second = before ++ step :: after) :
    (∃ rest, first = before ++ step :: rest) ∨
      ∃ middle, before = first ++ middle ∧ second = middle ++ step :: after := by
  rcases List.append_eq_append_iff.1 split with ⟨middle, rfl, tail⟩ | ⟨middle, rfl, tail⟩
  · exact .inr ⟨middle, rfl, tail⟩
  · cases middle with
    | nil => exact .inr ⟨[], by simp, tail.symm⟩
    | cons head middle =>
      cases tail
      exact .inl ⟨middle, rfl⟩

theorem split_of_stages {stages : List Stage}
    (sorted : stages.Pairwise fun earlier later => earlier.rank < later.rank)
    (segment : ∀ stage ∈ stages, Segment stage 0 (workflow.commands stage) (blocks stage))
    (split : stepsOfBlocks (stages.flatMap blocks) = before ++ step :: after) :
    ∃ inner rest, stepsOfBlocks (blocks step.stage) = inner ++ step :: rest ∧ inner ⊆ before ∧
      step.stage ∈ stages ∧ ∀ stage ∈ stages, stage.rank < step.stage.rank →
        stepsOfBlocks (blocks stage) ⊆ before := by
  induction stages generalizing before with
  | nil => simp [stepsOfBlocks] at split
  | cons stage stages ih =>
    obtain ⟨lowest, sorted⟩ := List.pairwise_cons.1 sorted
    obtain ⟨here, others⟩ := List.forall_mem_cons.1 segment
    rw [List.flatMap_cons, stepsOfBlocks_append] at split
    rcases split_append split with ⟨rest, within⟩ | ⟨middle, rfl, ahead⟩
    · have own : step.stage = stage := here.stage_eq (by simp [within])
      rw [own]
      refine ⟨before, rest, within, List.Subset.refl _, List.mem_cons_self, ?_⟩
      intro other member lower
      rcases List.mem_cons.1 member with rfl | later
      · exact absurd lower (Nat.lt_irrefl _)
      · exact absurd (lowest other later) (Nat.lt_asymm lower)
    · obtain ⟨inner, rest, own, within, listed, lower⟩ := ih sorted others ahead
      refine ⟨inner, rest, own, List.subset_append_of_subset_right _ within,
        List.mem_cons_of_mem _ listed, ?_⟩
      intro other member smaller
      rcases List.mem_cons.1 member with rfl | later
      · exact List.subset_append_left _ _
      · exact List.subset_append_of_subset_right _ (lower other later smaller)

/-- All commands ahead of a step of a forward stage have been passed: those of earlier stages, and those of
its own stage that it is behind. -/
def Preceded (workflow : Workflow) (before : List Step) (step : Step) : Prop :=
  step.stage ∈ Stage.forward → ∀ stage index, index < (workflow.commands stage).length →
    stage.rank < step.stage.rank ∨ stage = step.stage ∧ step.IsBehind index →
    Passed before stage index

theorem Conclusion.preceded {run : Run} (conclusion : Conclusion workflow Stage.forward [] blocks run) :
    Along (Preceded workflow) [] run.steps := by
  intro before step after split forward stage index bound ahead
  rw [conclusion.steps_eq] at split
  obtain ⟨inner, rest, own, within, -, lower⟩ :=
    split_of_stages (by decide) (fun stage _ => conclusion.segment stage) split
  rw [List.nil_append]
  rcases ahead with earlier | ⟨rfl, behind⟩
  · -- Its own stage was only entered after the earlier one was carried out in full.
    have entered : blocks step.stage ≠ [] := by
      intro none
      rw [none, stepsOfBlocks_nil] at own
      simp at own
    obtain ⟨complete, faultless⟩ :=
      rel_of_pairwise_forward conclusion.layout.ordered forward earlier entered
    obtain ⟨passed, member, atStage, atIndex, plain⟩ :=
      (conclusion.segment stage).head_of_complete complete bound
    exact ⟨passed, lower stage stage.mem_all earlier member, atStage,
      atIndex.trans (Nat.zero_add _), plain, faultless passed member⟩
  · exact ((conclusion.segment step.stage).passed own behind).mono within

end

section
variable {σ : Type} {world : World σ} {s : σ} {settings : Settings} {workflow : Workflow}
  {id : RunId} {workflowId : WorkflowId} {deviceId : DeviceId} {parameters : Bindings}
  {createdAt : Time.Instant} {record : Run}

theorem IsRecordOf.preceded (recorded : IsRecordOf world s settings workflow
    (.new id workflowId deviceId parameters createdAt) record) :
    Along (Preceded workflow) [] record.steps := by
  obtain ⟨dialogue, after, course, begins⟩ := recorded.steps_prefix rfl rfl
  obtain ⟨blocks, conclusion⟩ := course.conclusion
  exact conclusion.preceded.of_isPrefix begins

end

end Execution

end Runbook
