import Runbook.Proofs.Execution.History
import Runbook.Workflow.Definition

/-! The variables of a run, read off its record.

A step tells its command and its value, so the steps before it tell the variables that were there when
its command was carried out. What the live context was is thereby a fact about the record.
-/

set_option autoImplicit false

namespace Runbook

/-- The command of a step, for branch steps the one that they follow. -/
def Workflow.commandOf (workflow : Workflow) (step : Step) : Option Command :=
  (workflow.commands step.stage)[step.commandIndex]?

/-- The variables after one more step. -/
def Workflow.noteStep (workflow : Workflow) (bound : Bindings) (step : Step) : Bindings :=
  match step.branch, workflow.commandOf step with
  | none, some command => command.note step bound
  | _, _ => bound

def Workflow.variablesAfter (workflow : Workflow) (steps : List Step) : Bindings :=
  steps.foldl workflow.noteStep .empty

theorem Workflow.variablesAfter_append_singleton (workflow : Workflow) (steps : List Step)
    (step : Step) :
    workflow.variablesAfter (steps ++ [step]) =
      workflow.noteStep (workflow.variablesAfter steps) step :=
  List.foldl_concat _ _ _ _

namespace Execution

section
variable (workflow : Workflow) (parameters : Bindings)

def contextAfter (steps : List Step) : Template.Context :=
  ⟨parameters, workflow.variablesAfter steps⟩

/-- What was sent for a step is what its template gives after the steps before it. -/
structure Explained (before : List Step) (step : Step) : Prop where
  resolved (text : String) :
    (contextAfter workflow parameters before).resolve step.template = .ok text →
    step.commandSent = text
  unresolved (fault : Template.Fault) :
    (contextAfter workflow parameters before).resolve step.template = .error fault →
    step.commandSent = "" ∧ step.rawOutput = "" ∧
      step.error = some ⟨.variableResolution, unresolvedMessage fault⟩

/-- The arm of a block is the one that the condition of its command selects. -/
def Chosen (before : List Step) (block : Block) : Prop :=
  ∀ command condition, workflow.commandOf block.head = some command →
    command.condition = some condition → block.head.error = none →
    condition.select block.head (contextAfter workflow parameters (before ++ [block.head])) =
      .ok block.arm

/-- A property of steps and of what came before them, all along a list of steps. -/
def Along (P : List Step → Step → Prop) (before steps : List Step) : Prop :=
  ∀ earlier step later, steps = earlier ++ step :: later → P (before ++ earlier) step

def AlongBlocks (P : List Step → Block → Prop) (before : List Step) (blocks : List Block) : Prop :=
  ∀ earlier block later, blocks = earlier ++ block :: later →
    P (before ++ stepsOfBlocks earlier) block

/-- The record explains a block: what was sent for its steps, and which arm was chosen. -/
structure Told (before : List Step) (block : Block) : Prop where
  explained : Along (Explained workflow parameters) before block.steps
  chosen : Chosen workflow parameters before block

end

section
variable {P : List Step → Step → Prop} {Q : List Step → Block → Prop} {before steps more : List Step}

theorem along_nil : Along P before [] := by
  intro earlier step later split
  simp at split

theorem Along.cons {step : Step} (holds : P before step) (rest : Along P (before ++ [step]) steps) :
    Along P before (step :: steps) := by
  intro earlier other later split
  cases earlier with
  | nil =>
    cases split
    rwa [List.append_nil]
  | cons head earlier =>
    cases split
    have holds := rest earlier other later rfl
    rwa [List.append_assoc] at holds

theorem alongBlocks_nil : AlongBlocks Q before [] := by
  intro earlier block later split
  simp at split

theorem AlongBlocks.cons {block : Block} {blocks : List Block} (holds : Q before block)
    (rest : AlongBlocks Q (before ++ block.steps) blocks) :
    AlongBlocks Q before (block :: blocks) := by
  intro earlier other later split
  cases earlier with
  | nil =>
    cases split
    rwa [stepsOfBlocks_nil, List.append_nil]
  | cons head earlier =>
    cases split
    have holds := rest earlier other later rfl
    rwa [List.append_assoc, ← stepsOfBlocks_cons] at holds

theorem AlongBlocks.append {first second : List Block} (holds : AlongBlocks Q before first)
    (rest : AlongBlocks Q (before ++ stepsOfBlocks first) second) :
    AlongBlocks Q before (first ++ second) := by
  induction first generalizing before with
  | nil =>
    rwa [stepsOfBlocks_nil, List.append_nil] at rest
  | cons block first ih =>
    have here := holds [] block first rfl
    rw [stepsOfBlocks_nil, List.append_nil] at here
    refine .cons here (ih (fun earlier other later split => ?_) ?_)
    · have later := holds (block :: earlier) other later (congrArg (block :: ·) split)
      rwa [stepsOfBlocks_cons, ← List.append_assoc] at later
    · rwa [stepsOfBlocks_cons, ← List.append_assoc] at rest

end

/-! ### The live context -/

section
variable {settings : Settings} {stage : Stage} {index : Nat} {command : Command}
  {dialogue : List Exchange} {step : Step} {workflow : Workflow} {parameters : Bindings}

def Recalls (workflow : Workflow) (parameters : Bindings) (progress : Progress Run) : Prop :=
  progress.context = contextAfter workflow parameters progress.collected.steps

theorem Attempt.explained {fresh : Step} {before : List Step} {after : Template.Context}
    (attempt : Attempt settings command fresh (contextAfter workflow parameters before) dialogue
      step after) (template : fresh.template = command.template) (quiet : fresh.rawOutput = "")
    (unsent : fresh.commandSent = "") (nothing : fresh.extractedValue = none) :
    Explained workflow parameters before step := by
  obtain ⟨heading, -⟩ := attempt.framed nothing
  have same : step.template = command.template :=
    (congrArg Step.Heading.template heading).trans template
  cases attempt with
  | unresolved absent =>
    refine ⟨fun text found => ?_, fun fault found => ?_⟩ <;> rw [same, absent] at found <;>
      cases found
    exact ⟨unsent, quiet, rfl⟩
  | @answered text reply now present =>
    refine ⟨fun other found => ?_, fun fault found => ?_⟩ <;> rw [same, present] at found <;>
      cases found
    exact (framed_receive command { fresh with commandSent := text } _ reply nothing).commandSent

section
variable {branch : Option Step.Branch} {progress after : Progress Run}
  {chosen : Option (Condition × Arm)}

theorem Recorded.explained
    (recorded : Recorded settings stage index branch command progress dialogue step chosen after)
    (recalls : Recalls workflow parameters progress) :
    Explained workflow parameters progress.collected.steps step := by
  cases recorded with
  | @mk startedAt _ attempted _ context _ attempt choice unfinished =>
    rw [recalls] at attempt
    have explained := attempt.explained rfl rfl rfl rfl
    -- The choice of an arm changes nothing but the error, and not even that after another error.
    have only := chooseArm_step choice
    refine ⟨fun text found => ?_, fun fault found => ?_⟩
    · rw [only] at found ⊢
      exact explained.resolved text found
    · have same : step.template = attempted.template := by rw [only]
      rw [same] at found
      obtain ⟨unsent, quiet, failed⟩ := explained.unresolved fault found
      rw [chooseArm_of_error failed choice]
      exact ⟨unsent, quiet, failed⟩

theorem Recorded.recalls
    (recorded : Recorded settings stage index branch command progress dialogue step chosen after)
    (recalls : Recalls workflow parameters progress)
    (noted : workflow.noteStep (workflow.variablesAfter progress.collected.steps) step =
      command.note step (workflow.variablesAfter progress.collected.steps)) :
    Recalls workflow parameters after := by
  rw [Recalls, recorded.framed.2, recorded.collected, recalls, Run.append_steps, contextAfter,
    contextAfter, Workflow.variablesAfter_append_singleton, noted]

theorem Recorded.commandOf (present : (workflow.commands stage)[index]? = some command)
    (recorded : Recorded settings stage index none command progress dialogue step chosen after) :
    step.branch = none ∧ workflow.commandOf step = some command := by
  obtain ⟨atStage, atIndex, plain⟩ := recorded.place
  refine ⟨plain, ?_⟩
  rw [Workflow.commandOf, atStage, atIndex]
  exact present

theorem Recorded.recalls_of_command (present : (workflow.commands stage)[index]? = some command)
    (recorded : Recorded settings stage index none command progress dialogue step chosen after)
    (recalls : Recalls workflow parameters progress) : Recalls workflow parameters after := by
  obtain ⟨plain, command⟩ := recorded.commandOf present
  refine recorded.recalls recalls ?_
  rw [Workflow.noteStep, plain, command]

theorem Recorded.recalls_of_branch {place : Step.Branch} {branchCommand : BranchCommand}
    (recorded : Recorded settings stage index (some place) branchCommand.toCommand progress dialogue
      step chosen after)
    (recalls : Recalls workflow parameters progress) : Recalls workflow parameters after := by
  obtain ⟨-, -, below⟩ := recorded.place
  refine recorded.recalls recalls ?_
  rw [Workflow.noteStep, below]
  rfl

end

end

end Execution

end Runbook
