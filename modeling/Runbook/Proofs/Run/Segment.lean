import Mathlib.Data.List.Forall2
import Runbook.Run.Record
import Runbook.Workflow.Definition

/-! The shape of a record: one segment of steps for each stage, in each segment one block of steps for
each command.

A block is the step of a command and the steps of the branch that follows it. What a step says of its
own place and command is its heading, so a block fits a command when its headings do.
-/

set_option autoImplicit false

namespace Runbook

structure Step.Heading where
  stage : Stage
  commandIndex : Nat
  branch : Option Step.Branch
  description : Option String
  template : String
  deriving DecidableEq, Repr

def Step.heading (step : Step) : Step.Heading where
  stage := step.stage
  commandIndex := step.commandIndex
  branch := step.branch
  description := step.description
  template := step.template

def Command.heading (command : Command) (stage : Stage) (index : Nat)
    (branch : Option Step.Branch) : Step.Heading where
  stage := stage
  commandIndex := index
  branch := branch
  description := command.description
  template := command.template

def armHeadings (stage : Stage) (index : Nat) (arm : Arm) (position : Nat) :
    List BranchCommand → List Step.Heading
  | [] => []
  | branch :: rest =>
    branch.toCommand.heading stage index (some ⟨index, arm, position⟩) ::
      armHeadings stage index arm (position + 1) rest

/-- The message of a failure by an error, which names the arm of a branch. -/
def Step.Error.messageIn (error : Step.Error) : Option Step.Branch → String
  | none => error.message
  | some branch => s!"{branch.arm} branch: {error.message}"

def Step.failure? (step : Step) : Option Failure :=
  step.error.map fun error =>
    { stage := step.stage
      commandIndex := step.commandIndex
      kind := error.kind
      message := error.messageIn step.branch }

theorem Step.place_of_heading {step : Step} {command : Command} {stage : Stage} {index : Nat}
    {branch : Option Step.Branch} (same : step.heading = command.heading stage index branch) :
    step.stage = stage ∧ step.commandIndex = index ∧ step.branch = branch := by
  simp only [Step.heading, Command.heading, Step.Heading.mk.injEq] at same
  exact ⟨same.1, same.2.1, same.2.2.1⟩

theorem Step.failure?_of_heading {step : Step} {heading : Step.Heading}
    (place : step.heading = heading) {error : Step.Error} (failed : step.error = some error) :
    step.failure? = some
      ⟨heading.stage, heading.commandIndex, error.kind, error.messageIn heading.branch⟩ := by
  subst place
  simp only [Step.failure?, failed]
  rfl

/-- The step of a command with the branch steps that follow it. -/
structure Block where
  head : Step
  arm : Arm
  branch : List Step

namespace Block

def steps (block : Block) : List Step :=
  block.head :: block.branch

/-- A block belongs to a command. Its branch steps are the first commands of one arm of its
condition, and there are none after an error. -/
structure Fits (block : Block) (stage : Stage) (index : Nat) (command : Command) : Prop where
  head : block.head.heading = command.heading stage index none
  branch : block.branch = [] ∨
    block.head.error = none ∧ ∃ condition, command.condition = some condition ∧
      block.branch.map Step.heading <+:
        armHeadings stage index block.arm 0 (condition.commands block.arm)

def IsWhole (block : Block) (command : Command) : Prop :=
  ∀ condition, command.condition = some condition →
    block.branch.length = (condition.commands block.arm).length

end Block

def stepsOfBlocks (blocks : List Block) : List Step :=
  blocks.flatMap Block.steps

/-- The blocks of the commands of a stage from a position on: one after the other from the first,
each but the last with its whole arm, and nothing after an error. -/
structure Segment (stage : Stage) (start : Nat) (commands : List Command) (blocks : List Block) :
    Prop where
  fits (index : Nat) (block : Block) : blocks[index]? = some block →
    ∃ command, commands[index]? = some command ∧ block.Fits stage (start + index) command ∧
      (index + 1 < blocks.length → block.IsWhole command)
  stops (before : List Step) (step : Step) (after : List Step) :
    stepsOfBlocks blocks = before ++ step :: after → step.error.isSome = true → after = []

/-- Every command has its block, with the whole arm. -/
def Complete (commands : List Command) (blocks : List Block) : Prop :=
  List.Forall₂ (fun command block => block.IsWhole command) commands blocks

/-! ### Errors among steps -/

def Faultless (steps : List Step) : Prop :=
  ∀ step ∈ steps, step.error = none

/-- Only the last step has an error, and it stands for this failure. -/
def FailsWith (failure : Failure) (steps : List Step) : Prop :=
  ∃ before step, steps = before ++ [step] ∧ Faultless before ∧ step.failure? = some failure

/-- How steps end: without an error, or with the one that stands for a failure. -/
def EndsWith : Option Failure → List Step → Prop
  | none => Faultless
  | some failure => FailsWith failure

theorem faultless_nil : Faultless [] :=
  fun _ member => absurd member List.not_mem_nil

theorem faultless_cons {step : Step} {steps : List Step} (success : step.error = none)
    (rest : Faultless steps) : Faultless (step :: steps) :=
  List.forall_mem_cons.2 ⟨success, rest⟩

theorem Faultless.append {first rest : List Step} (before : Faultless first)
    (after : Faultless rest) : Faultless (first ++ rest) :=
  List.forall_mem_append.2 ⟨before, after⟩

theorem EndsWith.append {ending : Option Failure} {first rest : List Step}
    (before : Faultless first) (after : EndsWith ending rest) :
    EndsWith ending (first ++ rest) := by
  cases ending with
  | none => exact before.append after
  | some failure =>
    obtain ⟨middle, step, rfl, faultless, stands⟩ := after
    exact ⟨first ++ middle, step, (List.append_assoc _ _ _).symm, before.append faultless, stands⟩

theorem failure?_eq_none_iff {step : Step} : step.failure? = none ↔ step.error = none := by
  simp [Step.failure?]

theorem Faultless.failure? {steps : List Step} (faultless : Faultless steps) {step : Step}
    (member : step ∈ steps) : step.failure? = none :=
  failure?_eq_none_iff.2 (faultless step member)

theorem EndsWith.eq_some_iff {ending : Option Failure} {steps : List Step}
    (ends : EndsWith ending steps) (failure : Failure) :
    ending = some failure ↔ ∃ step ∈ steps, step.failure? = some failure := by
  cases ending with
  | none =>
    constructor
    · intro absent
      cases absent
    · rintro ⟨step, member, stands⟩
      rw [Faultless.failure? ends member] at stands
      cases stands
  | some other =>
    obtain ⟨before, last, rfl, faultless, stands⟩ := ends
    constructor
    · intro same
      cases same
      exact ⟨last, List.mem_append_right _ List.mem_cons_self, stands⟩
    · rintro ⟨step, member, found⟩
      rcases List.mem_append.1 member with early | late
      · rw [faultless.failure? early] at found
        cases found
      · rw [List.mem_singleton.1 late, stands] at found
        exact found

theorem EndsWith.stops {ending : Option Failure} {steps : List Step}
    (ends : EndsWith ending steps) {before : List Step} {step : Step} {after : List Step}
    (split : steps = before ++ step :: after) (failed : step.error.isSome = true) : after = [] := by
  cases ending with
  | none =>
    have success : step.error = none := ends step (by simp [split])
    simp [success] at failed
  | some failure =>
    obtain ⟨early, last, rfl, faultless, -⟩ := ends
    rcases List.eq_nil_or_concat after with rfl | ⟨middle, final, rfl⟩
    · rfl
    · -- The step stands before the last one, among those without an error.
      have same : early = before ++ step :: middle := by
        have lists : early ++ [last] = (before ++ step :: middle) ++ [final] := by
          simpa using split
        exact List.append_inj_left' lists rfl
      have success : step.error = none := faultless step (by simp [same])
      simp [success] at failed

theorem EndsWith.countP {ending : Option Failure} {steps : List Step}
    (ends : EndsWith ending steps) :
    steps.countP (fun step => step.error.isSome) = if ending.isSome then 1 else 0 := by
  have quiet {steps : List Step} (faultless : Faultless steps) :
      steps.countP (fun step => step.error.isSome) = 0 := by
    rw [List.countP_eq_zero]
    intro step member
    simp [faultless step member]
  cases ending with
  | none => exact quiet ends
  | some failure =>
    obtain ⟨before, step, rfl, faultless, stands⟩ := ends
    have failed : step.error.isSome = true := by
      rw [Option.isSome_iff_ne_none]
      intro success
      rw [failure?_eq_none_iff.2 success] at stands
      cases stands
    simp [List.countP_append, quiet faultless, failed]

/-! ### Blocks one after the other -/

section
variable {stage : Stage} {start : Nat} {command : Command} {commands : List Command}
  {block : Block} {blocks : List Block}

theorem getElem?_armHeadings (stage : Stage) (index : Nat) (arm : Arm) (position : Nat)
    (branches : List BranchCommand) (i : Nat) :
    (armHeadings stage index arm position branches)[i]? =
      branches[i]?.map fun branch =>
        branch.toCommand.heading stage index (some ⟨index, arm, position + i⟩) := by
  -- The position of the first heading moves on with the list.
  induction branches generalizing position i with
  | nil => rfl
  | cons branch rest ih =>
    cases i with
    | zero => rfl
    | succ i =>
      simp only [armHeadings, List.getElem?_cons_succ]
      rw [ih, Nat.add_right_comm, Nat.add_assoc]

theorem Block.Fits.branchStep {index : Nat} (fits : block.Fits stage index command) {i : Nat}
    {step : Step} (found : block.branch[i]? = some step) :
    ∃ condition branch, command.condition = some condition ∧
      (condition.commands block.arm)[i]? = some branch ∧
        step.heading = branch.toCommand.heading stage index (some ⟨index, block.arm, i⟩) := by
  rcases fits.branch with none | ⟨-, condition, defined, headings⟩
  · simp [none] at found
  · obtain ⟨bound, rfl⟩ := List.getElem?_eq_some_iff.1 found
    have heading := List.prefix_iff_getElem?.1 headings i (by simpa using bound)
    rw [getElem?_armHeadings, Nat.zero_add, List.getElem_map] at heading
    obtain ⟨branch, at_, same⟩ := Option.map_eq_some_iff.1 heading
    exact ⟨condition, branch, defined, at_, same.symm⟩

theorem stepsOfBlocks_nil : stepsOfBlocks [] = [] := rfl

theorem stepsOfBlocks_cons (block : Block) (blocks : List Block) :
    stepsOfBlocks (block :: blocks) = block.steps ++ stepsOfBlocks blocks :=
  List.flatMap_cons

theorem stepsOfBlocks_append (first second : List Block) :
    stepsOfBlocks (first ++ second) = stepsOfBlocks first ++ stepsOfBlocks second :=
  List.flatMap_append

theorem segment_nil : Segment stage start commands [] where
  fits _ _ found := nomatch found
  stops before step after split := by simp [stepsOfBlocks_nil] at split

theorem Segment.cons (fits : block.Fits stage start command)
    (whole : blocks ≠ [] → block.IsWhole command)
    (rest : Segment stage (start + 1) commands blocks) {ending : Option Failure}
    (ends : EndsWith ending (stepsOfBlocks (block :: blocks))) :
    Segment stage start (command :: commands) (block :: blocks) where
  fits index other found := by
    cases index with
    | zero =>
      cases found
      refine ⟨command, rfl, fits, fun more => whole ?_⟩
      rintro rfl
      exact absurd more (Nat.lt_irrefl _)
    | succ index =>
      obtain ⟨later, at_, fits, complete⟩ := rest.fits index other found
      refine ⟨later, at_, ?_, fun more => complete (Nat.lt_of_succ_lt_succ more)⟩
      rwa [Nat.add_right_comm] at fits
  stops _ _ _ split failed := ends.stops split failed

theorem Segment.head_of_complete (segment : Segment stage start commands blocks)
    (complete : Complete commands blocks) {index : Nat} (bound : index < commands.length) :
    ∃ step ∈ stepsOfBlocks blocks,
      step.stage = stage ∧ step.commandIndex = start + index ∧ step.branch = none := by
  have bound : index < blocks.length := List.Forall₂.length_eq complete ▸ bound
  obtain ⟨command, -, fits, -⟩ := segment.fits index blocks[index] (List.getElem?_eq_getElem bound)
  refine ⟨blocks[index].head, ?_, Step.place_of_heading fits.head⟩
  exact List.mem_flatMap_of_mem (List.getElem_mem bound) List.mem_cons_self

theorem Segment.stage_eq (segment : Segment stage start commands blocks) {step : Step}
    (member : step ∈ stepsOfBlocks blocks) : step.stage = stage := by
  obtain ⟨block, found, own⟩ := List.mem_flatMap.1 member
  obtain ⟨index, at_⟩ := List.mem_iff_getElem?.1 found
  obtain ⟨command, -, fits, -⟩ := segment.fits index block at_
  rcases List.mem_cons.1 own with rfl | below
  · exact (Step.place_of_heading fits.head).1
  · obtain ⟨position, at_⟩ := List.mem_iff_getElem?.1 below
    obtain ⟨condition, branch, -, -, heading⟩ := fits.branchStep at_
    exact (Step.place_of_heading heading).1

end

end Runbook
