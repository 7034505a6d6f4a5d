import Runbook.Proofs.Execution.Coherence
import Runbook.Proofs.Execution.Effect
import Runbook.Proofs.Execution.Explanation
import Runbook.Proofs.Workflow.Branching

/-! Branches stay one level deep: what a branch command has in its document, what becomes of it, and where
its step stands.

To carry out a branch command is to relay its text to the device. Nothing of what comes back is judged,
bound or looked at by a condition, so nothing further can follow from it.
-/

set_option autoImplicit false

namespace Runbook.Execution

instance : LawfulMonad Procedure :=
  LawfulMonad.mk' Procedure Procedure.bind_done (fun _ _ => rfl) Procedure.bind_assoc

/-- Resolves a text, sends it to the device and keeps what comes back. -/
def relay (settings : Settings) (template : String) (step : Step) (context : Template.Context) :
    Procedure Step := do
  let step ←
    match context.resolve template with
    | .error fault => Procedure.done (step.fail .variableResolution (unresolvedMessage fault))
    | .ok text => do
      let step := { step with commandSent := text }
      match ← Procedure.ask text settings.defaultTimeoutMillis with
      | .ok output =>
        Procedure.done { step with rawOutput := output.text, exitCode := output.exitCode, matched := true }
      | .error error =>
        Procedure.done (step.fail (if error.isTimeout then .timeout else .commandExecution) error.message)
  return step.finish (← Procedure.now)

namespace StageRunner

variable {σ : Type}

/-- Relays the commands of an arm from a position on, as long as none of them fails. The variables are
given and stay as they are. -/
def relayAll (runner : StageRunner σ) (context : Template.Context) (parent : Step) (arm : Arm)
    (index : Nat) : List BranchCommand → σ → Action (BranchOutcome × σ)
  | [], collected => pure (.completed, collected)
  | branch :: rest, collected => do
    if ← runner.isCancelled then return (.cancelled, collected)
    let step ← begin_ parent.stage parent.commandIndex
      (some ⟨parent.commandIndex, arm, index⟩) branch.description branch.template
    let step ← relay runner.settings branch.template step context
    let collected ← runner.sink collected step
    match step.error with
    | some error => return (.failed error, collected)
    | none => runner.relayAll context parent arm (index + 1) rest collected

end StageRunner

theorem evaluate_toCommand (settings : Settings) (branch : BranchCommand) (step : Step)
    (context : Template.Context) :
    evaluate settings branch.toCommand step context =
      (fun step => (step, context)) <$> relay settings branch.template step context := by
  cases resolved : context.resolve branch.template with
  | error fault =>
    have own : context.resolve branch.toCommand.template = .error fault := resolved
    rw [evaluate_of_unresolved own]
    simp only [relay, resolved]
    rfl
  | ok text =>
    have own : context.resolve branch.toCommand.template = .ok text := resolved
    rw [evaluate_of_resolved own]
    simp only [relay, resolved]
    refine congrArg (Procedure.send text settings.defaultTimeoutMillis) (funext fun reply => ?_)
    cases reply <;> rfl

theorem StageRunner.runBranch_eq {σ : Type} (runner : StageRunner σ) (parent : Step) (arm : Arm)
    (index : Nat) (branches : List BranchCommand) (progress : Progress σ) :
    runner.runBranch parent arm index branches progress =
      (fun result => (result.1, ⟨progress.context, result.2⟩)) <$>
        runner.relayAll progress.context parent arm index branches progress.collected := by
  induction branches generalizing index progress with
  | nil => simp only [runBranch, relayAll, map_pure]
  | cons branch rest ih =>
    simp only [runBranch, relayAll, evaluate_toCommand, map_bind]
    refine bind_congr fun cancelled => ?_
    cases cancelled with
    | true => simp only [if_true, map_pure]
    | false =>
      simp only [Bool.false_eq_true, if_false, liftM_map, bind_map_left, map_bind]
      refine bind_congr fun fresh => bind_congr fun step => bind_congr fun collected => ?_
      cases step.error with
      | some error => exact (map_pure _ _).symm
      | none => exact ih (index + 1) ⟨progress.context, collected⟩

/-- The step of a branch command comes behind those of the branch commands before it in the arm, and these
come behind the step of a command that is no branch command itself. -/
inductive OneLevelDown (workflow : Workflow) : List Step → Step → Prop
  | mk {earlier branches : List Step} {head step : Step} {command : Command} {condition : Condition}
      {arm : Arm} {branch : BranchCommand} :
      head.branch = none → workflow.commandOf head = some command → command.condition = some condition →
      (condition.commands arm)[branches.length]? = some branch →
      step.heading = branch.toCommand.heading head.stage head.commandIndex
        (some ⟨head.commandIndex, arm, branches.length⟩) →
      branches.map Step.branch = (List.range branches.length).map
        (fun index => some ⟨head.commandIndex, arm, index⟩) →
      OneLevelDown workflow (earlier ++ head :: branches) step

section
variable {settings : Settings} {workflow : Workflow} {parameters : Bindings} {dialogue : List Exchange}
  {before : List Step} {step : Step}

theorem Attempt.gives {command : Command} {fresh : Step} {context later : Template.Context}
    (attempt : Attempt settings command fresh context dialogue step later) :
    (evaluate settings command fresh context).Gives dialogue (step, later) := by
  cases attempt with
  | unresolved unresolved =>
    rw [evaluate_of_unresolved unresolved]
    exact .clock .done
  | answered resolved =>
    rw [evaluate_of_resolved resolved]
    exact .send (.clock .done)

theorem Attempt.relayed {branch : BranchCommand} {fresh : Step} {context later : Template.Context}
    (attempt : Attempt settings branch.toCommand fresh context dialogue step later) :
    (relay settings branch.template fresh context).Gives dialogue step := by
  have given := attempt.gives
  rw [evaluate_toCommand] at given
  obtain ⟨first, rest, relayed, rfl, gives, done⟩ := Procedure.Gives.of_bind given
  obtain ⟨rfl, same⟩ := Procedure.gives_done_iff.1 done
  cases same
  rwa [List.append_nil]

theorem Arisen.relayed (arisen : Arisen settings workflow parameters before step)
    (below : step.branch.isSome = true) :
    ∃ fresh dialogue, fresh.IsUntouched ∧
      (relay settings step.template fresh (contextAfter workflow parameters before)).Gives
        dialogue step := by
  cases arisen with
  | mk own attempt choice =>
    rcases Workflow.specOf_cases own with ⟨above, -⟩ | ⟨-, -, -, branch, -, -, -, -, rfl⟩
    · rw [above] at below
      cases below
    · cases (chooseArm_toCommand branch _ _).symm.trans choice
      have text : step.template = branch.template :=
        congrArg Step.Heading.template attempt.effect.heading
      rw [text]
      exact ⟨_, _, freshStep_isUntouched .., attempt.relayed⟩

end

theorem oneLevelDown_of_block {workflow : Workflow} {block : Block} {earlier inner rest : List Step}
    {step : Step} (isOf : block.IsOf workflow) (own : block.steps = inner ++ step :: rest)
    (below : step.branch.isSome = true) : OneLevelDown workflow (earlier ++ inner) step := by
  obtain ⟨stage, index, command, present, fits⟩ := isOf
  obtain ⟨atStage, atIndex, above⟩ := Step.place_of_heading fits.head
  cases inner with
  | nil =>
    -- The first step of a block is that of its command.
    obtain ⟨rfl, -⟩ := List.cons.inj own
    rw [above] at below
    cases below
  | cons head branches =>
    obtain ⟨rfl, branched⟩ : block.head = head ∧ block.branch = branches ++ step :: rest :=
      List.cons.inj own
    have found : block.branch[branches.length]? = some step := by
      rw [branched, List.getElem?_append_right (Nat.le_refl _), Nat.sub_self]
      rfl
    obtain ⟨condition, branch, defined, listed, heading⟩ := fits.branchStep found
    have parent : workflow.commandOf block.head = some command := by
      rw [Workflow.commandOf, atStage, atIndex]
      exact present
    refine .mk above parent defined listed (by rwa [atStage, atIndex]) ?_
    refine List.ext_getElem (by simp) fun position bound _ => ?_
    have inside : position < branches.length := by simpa using bound
    have there : block.branch[position]? = some branches[position] := by
      rw [branched, List.getElem?_append_left inside, List.getElem?_eq_getElem inside]
    obtain ⟨_, _, _, _, placed⟩ := fits.branchStep there
    simpa [atIndex] using (Step.place_of_heading placed).2.2

section
variable {σ : Type} {world : World σ} {s : σ} {settings : Settings} {workflow : Workflow}
  {id : RunId} {workflowId : WorkflowId} {deviceId : DeviceId} {parameters : Bindings}
  {createdAt : Time.Instant} {record : Run}

theorem IsRecordOf.oneLevelDown (recorded : IsRecordOf world s settings workflow
    (.new id workflowId deviceId parameters createdAt) record) {before : List Step} {step : Step}
    {after : List Step} (split : record.steps = before ++ step :: after)
    (below : step.branch.isSome = true) : OneLevelDown workflow before step := by
  obtain ⟨dialogue, last, course, more, whole⟩ := recorded.steps_prefix rfl rfl
  obtain ⟨blocks, conclusion⟩ := course.conclusion
  rw [split, List.append_assoc, List.cons_append, conclusion.steps_eq] at whole
  obtain ⟨earlier, block, later, inner, rest, within, own, rfl, -⟩ :=
    split_of_stepsOfBlocks whole.symm
  have isOf : block.IsOf workflow := conclusion.isOf (within ▸ List.mem_append_right _ List.mem_cons_self)
  exact oneLevelDown_of_block isOf own below

end

/-- In every accepted definition branch commands have a text and a description at most. Whoever carries
them out only relays their texts, one after the other, and leaves the variables as they were. So in every
record of every run, whatever the device does and whenever it is cancelled, their steps are what relaying
has given, and stand one level below a command of a stage. -/
theorem branches_one_level_deep (text : String) (workflow : Workflow)
    (accepted : Workflow.parse text .json = .ok workflow) :
    (∃ value, Document.parse? .json text = some value ∧ Workflow.IsFlat value) ∧
      (∀ {σ : Type} (runner : StageRunner σ) (parent : Step) (arm : Arm) (index : Nat)
        (branches : List BranchCommand) (progress : Progress σ),
        runner.runBranch parent arm index branches progress =
          (fun result => (result.1, ⟨progress.context, result.2⟩)) <$>
            runner.relayAll progress.context parent arm index branches progress.collected) ∧
      ∀ {σ : Type} (world : World σ) (s : σ) (settings : Settings) (id : RunId)
        (workflowId : WorkflowId) (deviceId : DeviceId) (parameters : Bindings)
        (createdAt : Time.Instant) (record : Run),
        IsRecordOf world s settings workflow (.new id workflowId deviceId parameters createdAt) record →
        ∀ before step after, record.steps = before ++ step :: after → step.branch.isSome = true →
          OneLevelDown workflow before step ∧ PlainlyCoherent step ∧
          ∃ fresh dialogue, fresh.IsUntouched ∧
            (relay settings step.template fresh (contextAfter workflow parameters before)).Gives
              dialogue step := by
  refine ⟨Workflow.isFlat_of_parse accepted, fun runner => runner.runBranch_eq, ?_⟩
  intro σ world s settings id workflowId deviceId parameters createdAt record recorded before step after
    split below
  have arisen := recorded.arisen rfl rfl before step after split
  obtain ⟨-, -, -, plainly⟩ := arisen.coherent
  exact ⟨recorded.oneLevelDown split below, plainly below, arisen.relayed below⟩

def Bench.forked : Workflow where
  id := ⟨"fork", by decide⟩
  name := "Fork"
  preCheck := [{
    template := "show"
    condition := some {
      test := .outputContains "up"
      thenCommands := [{ template := "apply" }, { template := "verify" }] } }]

def Bench.upright : Answers := fun _ _ _ => .ok ⟨"up", none⟩

theorem branches_one_level_deep_from_text :
    let text := "\x7b\"id\": \"fork\", \"name\": \"Fork\", \"pre_check\": " ++
      "[\x7b\"command\": \"show\", \"condition\": \x7b\"then\": " ++
      "[\x7b\"command\": \"apply\"\x7d, \x7b\"command\": \"verify\"\x7d], " ++
      "\"type\": \"if_output_contains\", \"text\": \"up\"\x7d\x7d]\x7d"
    Workflow.parse text .json = .ok Bench.forked ∧
      ∃ record before step after, ((execute {} Bench.forked Bench.pending).run.runIn
          (Bench.world Bench.upright none) {}).1 = .ok record ∧
        record.steps = before ++ step :: after ∧ step.commandSent = "verify" ∧
        OneLevelDown Bench.forked before step ∧ PlainlyCoherent step := by
  intro text
  have accepted : Workflow.parse text .json = .ok Bench.forked := by decide +kernel
  obtain ⟨-, -, records⟩ := branches_one_level_deep text Bench.forked accepted
  have pending : Bench.pending.status = .pending := rfl
  obtain ⟨record, returned⟩ := returns_of_storesAll {} Bench.forked
    (Bench.storesAll Bench.upright none) pending {}
  have branched : (((execute {} Bench.forked Bench.pending).run.runIn
      (Bench.world Bench.upright none) {}).1.toOption.bind fun record =>
        record.steps.find? fun step => step.isBranch && step.commandSent == "verify").isSome = true := by
    decide +kernel
  rw [returned] at branched
  obtain ⟨step, found⟩ : ∃ step, record.steps.find?
      (fun step => step.isBranch && step.commandSent == "verify") = some step :=
    Option.isSome_iff_exists.1 branched
  obtain ⟨below, sent⟩ : step.isBranch = true ∧ step.commandSent = "verify" := by
    simpa using List.find?_some found
  obtain ⟨before, after, split⟩ := List.append_of_mem (List.mem_of_find?_eq_some found)
  obtain ⟨deep, plainly, -⟩ := records _ _ _ _ _ _ _ _ _ (.inr returned) before step after split below
  exact ⟨accepted, record, before, step, after, returned, split, sent, deep, plainly⟩

end Runbook.Execution
