import Runbook.Proofs.Execution.Bench
import Runbook.Proofs.Execution.Conclusion
import Runbook.Proofs.Execution.FailStop

/-! Why a run sent what it sent: the record by itself gives the text of every command and the arm of
every branch.
-/

set_option autoImplicit false

namespace Runbook

theorem split_of_stepsOfBlocks {blocks : List Block} {before : List Step} {step : Step}
    {after : List Step} (split : stepsOfBlocks blocks = before ++ step :: after) :
    ∃ earlier block later inner rest, blocks = earlier ++ block :: later ∧
      block.steps = inner ++ step :: rest ∧ before = stepsOfBlocks earlier ++ inner ∧
      after = rest ++ stepsOfBlocks later := by
  induction blocks generalizing before with
  | nil => simp [stepsOfBlocks] at split
  | cons block blocks ih =>
    rw [stepsOfBlocks_cons] at split
    -- The step is past the first block, or it is within it.
    rcases List.append_eq_append_iff.1 split with ⟨middle, rfl, tail⟩ | ⟨middle, own, tail⟩
    · obtain ⟨earlier, other, later, inner, rest, rfl, own, rfl, rfl⟩ := ih tail
      refine ⟨block :: earlier, other, later, inner, rest, rfl, own, ?_, rfl⟩
      rw [stepsOfBlocks_cons, List.append_assoc]
    · cases middle with
      | nil =>
        have ahead : stepsOfBlocks blocks = [] ++ step :: after := tail.symm
        obtain ⟨earlier, other, later, inner, rest, rfl, inside, same, rfl⟩ := ih ahead
        rw [List.append_nil] at own
        refine ⟨block :: earlier, other, later, inner, rest, rfl, inside, ?_, rfl⟩
        rw [stepsOfBlocks_cons, List.append_assoc, ← same, own, List.append_nil]
      | cons first middle =>
        cases tail
        exact ⟨[], block, blocks, before, middle, rfl, own, rfl, rfl⟩

def Block.IsOf (block : Block) (workflow : Workflow) : Prop :=
  ∃ stage index command, (workflow.commands stage)[index]? = some command ∧
    block.Fits stage index command

namespace Block.IsOf

variable {block : Block} {workflow : Workflow}

theorem head_branch (isOf : block.IsOf workflow) : block.head.branch = none := by
  obtain ⟨stage, index, command, -, fits⟩ := isOf
  exact (Step.place_of_heading fits.head).2.2

theorem branch_isSome (isOf : block.IsOf workflow) {step : Step} (member : step ∈ block.branch) :
    ∃ place, step.branch = some place ∧ place.arm = block.arm := by
  obtain ⟨stage, index, command, -, fits⟩ := isOf
  obtain ⟨position, found⟩ := List.mem_iff_getElem?.1 member
  obtain ⟨condition, branch, -, -, heading⟩ := fits.branchStep found
  exact ⟨_, (Step.place_of_heading heading).2.2, rfl⟩

theorem condition (isOf : block.IsOf workflow) (branched : block.branch ≠ []) :
    ∃ command condition, workflow.commandOf block.head = some command ∧
      command.condition = some condition ∧ block.head.error = none := by
  obtain ⟨stage, index, command, present, fits⟩ := isOf
  rcases fits.branch with none | ⟨success, condition, defined, -⟩
  · exact absurd none branched
  · obtain ⟨atStage, atIndex, -⟩ := Step.place_of_heading fits.head
    refine ⟨command, condition, ?_, defined, success⟩
    rw [Workflow.commandOf, atStage, atIndex]
    exact present

theorem prefix_of_branches {later : List Block} {branches after : List Step}
    (others : ∀ other ∈ later, other.IsOf workflow)
    (split : block.branch ++ stepsOfBlocks later = branches ++ after)
    (below : ∀ step ∈ branches, step.branch.isSome = true) : branches <+: block.branch := by
  rcases List.append_eq_append_iff.1 split with ⟨more, rfl, tail⟩ | ⟨more, own, -⟩
  · cases later with
    | nil =>
      have nothing : more = [] := (List.append_eq_nil_iff.1 tail.symm).1
      exact ⟨[], by rw [nothing, List.append_nil, List.append_nil]⟩
    | cons other later =>
      cases more with
      | nil => exact ⟨[], by rw [List.append_nil, List.append_nil]⟩
      | cons step more =>
        rw [stepsOfBlocks_cons] at tail
        have same : other.head = step := (List.cons.inj tail).1
        have isBranch := below step (by simp)
        rw [← same, (others other List.mem_cons_self).head_branch] at isBranch
        cases isBranch
  · exact ⟨more, own.symm⟩

end Block.IsOf

namespace Execution

theorem Conclusion.isOf {workflow : Workflow} {blocks : Stage → List Block} {run : Run}
    (conclusion : Conclusion workflow Stage.forward [] blocks run) {block : Block}
    (member : block ∈ Stage.all.flatMap blocks) : block.IsOf workflow := by
  obtain ⟨stage, -, own⟩ := List.mem_flatMap.1 member
  obtain ⟨index, at_⟩ := List.mem_iff_getElem?.1 own
  obtain ⟨command, present, fits, -⟩ := (conclusion.segment stage).fits index block at_
  rw [Nat.zero_add] at fits
  exact ⟨stage, index, command, present, fits⟩

section
variable {workflow : Workflow} {blocks : Stage → List Block} {run : Run}
  (conclusion : Conclusion workflow Stage.forward [] blocks run)
include conclusion

theorem Conclusion.explained {before : List Step} {step : Step} {after : List Step}
    (split : run.steps = before ++ step :: after) : Explained workflow run.parameters before step := by
  rw [conclusion.steps_eq] at split
  obtain ⟨earlier, block, later, inner, rest, within, own, rfl, rfl⟩ := split_of_stepsOfBlocks split
  exact (conclusion.told_all earlier block later within).explained inner step rest own

theorem Conclusion.split_at_head {before : List Step} {step : Step} {after : List Step}
    (split : run.steps = before ++ step :: after) (plain : step.branch = none) :
    ∃ earlier block later, Stage.all.flatMap blocks = earlier ++ block :: later ∧
      block.head = step ∧ before = stepsOfBlocks earlier ∧
      after = block.branch ++ stepsOfBlocks later := by
  rw [conclusion.steps_eq] at split
  obtain ⟨earlier, block, later, inner, rest, within, own, rfl, rfl⟩ := split_of_stepsOfBlocks split
  refine ⟨earlier, block, later, within, ?_⟩
  cases inner with
  | nil =>
    obtain ⟨rfl, rfl⟩ := List.cons.inj own
    exact ⟨rfl, List.append_nil _, rfl⟩
  | cons head inner =>
    -- All steps of a block but its head are of a branch.
    obtain ⟨-, tail⟩ := List.cons.inj own
    have member : step ∈ block.branch := by
      rw [tail]
      exact List.mem_append_right _ List.mem_cons_self
    have listed : block ∈ Stage.all.flatMap blocks := by
      rw [within]
      exact List.mem_append_right _ List.mem_cons_self
    obtain ⟨place, isBranch, -⟩ := (conclusion.isOf listed).branch_isSome member
    rw [plain] at isBranch
    cases isBranch

/-- The branch steps after a step are of the arm that the condition of its command selects. -/
theorem Conclusion.selected {before : List Step} {step : Step} {branches after : List Step}
    (split : run.steps = before ++ step :: (branches ++ after)) (plain : step.branch = none)
    (branched : branches ≠ []) (below : ∀ branch ∈ branches, branch.branch.isSome = true) :
    ∃ command condition arm, workflow.commandOf step = some command ∧
      command.condition = some condition ∧
      condition.select step (contextAfter workflow run.parameters (before ++ [step])) = .ok arm ∧
      ∀ branch ∈ branches, branch.branch.map Step.Branch.arm = some arm := by
  obtain ⟨earlier, block, later, within, rfl, rfl, follows⟩ := conclusion.split_at_head split plain
  have isOf (other : Block) (member : other ∈ block :: later) : other.IsOf workflow := by
    apply conclusion.isOf
    rw [within]
    exact List.mem_append_right _ member
  have ofBlock := isOf block List.mem_cons_self
  have others (other : Block) (member : other ∈ later) := isOf other (.tail _ member)
  have inside := Block.IsOf.prefix_of_branches others follows.symm below
  have more : block.branch ≠ [] := fun none => branched (List.prefix_nil.1 (none ▸ inside))
  obtain ⟨command, condition, commanded, defined, success⟩ := ofBlock.condition more
  have chosen := (conclusion.told_all earlier block later within).chosen command condition commanded
    defined success
  refine ⟨command, condition, block.arm, commanded, defined, chosen, fun branch member => ?_⟩
  obtain ⟨place, isBranch, same⟩ := ofBlock.branch_isSome (inside.subset member)
  rw [isBranch, ← same]
  rfl

end

section
variable {σ : Type} {world : World σ} (s : σ) (settings : Settings) (workflow : Workflow) (id : RunId)
  (workflowId : WorkflowId) (deviceId : DeviceId) (parameters : Bindings)
  (createdAt : Time.Instant)

/-- For each step the record before it explains what was sent, and for branch steps the record up to
their command explains their arm. -/
theorem record_explains {run : Run}
    (returned : ((execute settings workflow
      (.new id workflowId deviceId parameters createdAt)).run.runIn world s).1 = .ok run) :
    (∀ before step after, run.steps = before ++ step :: after →
      Explained workflow run.parameters before step) ∧
    (∀ before step branches after, run.steps = before ++ step :: (branches ++ after) →
      step.branch = none → branches ≠ [] → (∀ branch ∈ branches, branch.branch.isSome = true) →
      ∃ command condition arm, workflow.commandOf step = some command ∧
        command.condition = some condition ∧
        condition.select step (contextAfter workflow run.parameters (before ++ [step])) = .ok arm ∧
        ∀ branch ∈ branches, branch.branch.map Step.Branch.arm = some arm) := by
  obtain ⟨blocks, conclusion⟩ := (course_of_returned returned).conclusion
  constructor
  · intro before step after split
    exact conclusion.explained split
  · intro before step branches after split plain branched below
    exact conclusion.selected split plain branched below

theorem record_explains_on_bench :
    ∃ run, ((execute {} Bench.workflow Bench.pending).run.runIn
        (Bench.world Bench.answers none) {}).1 = .ok run ∧
      run.steps.map Step.commandSent =
        ["probe core", "prepare 7", "apply", "verify", "revert", ""] ∧
      ∀ before step after, run.steps = before ++ step :: after →
        Explained Bench.workflow run.parameters before step := by
  have pending : Bench.pending.status = .pending := rfl
  obtain ⟨run, returned⟩ := returns_of_storesAll {} Bench.workflow
    (Bench.storesAll Bench.answers none) pending {}
  have sent : ((execute {} Bench.workflow Bench.pending).run.runIn
      (Bench.world Bench.answers none) {}).1.toOption.map
        (fun run => run.steps.map Step.commandSent) =
          some ["probe core", "prepare 7", "apply", "verify", "revert", ""] := by
    decide +kernel
  simp only [returned, Except.toOption, Option.map_some, Option.some.injEq] at sent
  obtain ⟨explained, -⟩ := record_explains ({} : Bench) {} Bench.workflow (.ofSerial 1)
    Bench.workflow.id ⟨"bench"⟩ Bench.parameters ⟨0, 0⟩ returned
  exact ⟨run, returned, sent, explained⟩

end

end Execution

end Runbook
