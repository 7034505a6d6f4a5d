import Runbook.Proofs.Execution.Bench
import Runbook.Proofs.Execution.Cause

/-! How the fields of a recorded step go together, so that its error can be relied on to tell the rest.

A command leaves its step coherent however it ends, and a condition without an answer only turns a step
that has succeeded into one that has failed. A branch command has nothing but its text, so all that can
befall its step is that the text has no value or that the device gives no output.
-/

set_option autoImplicit false

namespace Runbook.Execution

open StageRunner (chooseArm)

/-- What an error of this kind tells of the rest of its step, and of the command. -/
def Tells (command : Command) (step : Step) : FailureKind → Prop
  | .variableResolution => step.matched = true → command.condition.isSome = true
  | .invalidPattern =>
    (step.matched = true → command.condition.isSome = true) ∧
      (step.matched = false → command.rule.isSome = true)
  | .timeout | .commandExecution =>
    step.matched = false ∧ step.rawOutput = "" ∧ step.exitCode = none
  | .matchFailure => step.matched = false ∧ command.rule.isSome = true
  | .exitCodeMismatch =>
    step.matched = true ∧ command.expectedExitCode.isSome = true ∧
      step.exitCode ≠ command.expectedExitCode

/-- The fields of a step go together. -/
structure Coherent (command : Command) (step : Step) : Prop where
  /-- Without an error the output has matched, and without a match there is an error. -/
  settled : step.error.isSome = true ∨ step.matched = true
  told (error : Step.Error) : step.error = some error → Tells command step error.kind
  extracted : step.extractedValue.isSome = true →
    step.matched = true ∧ ∃ name, command.Binds name

/-- The fields of a branch step, which has no rule, no binding and no condition. -/
structure PlainlyCoherent (step : Step) : Prop where
  extracted : step.extractedValue = none
  matched : step.matched = true ↔ step.error = none
  kind (error : Step.Error) : step.error = some error →
    error.kind = .variableResolution ∨ error.kind = .timeout ∨ error.kind = .commandExecution

section
variable {settings : Settings} {workflow : Workflow} {parameters : Bindings} {command : Command}
  {stage : Stage} {index : Nat} {branch : Option Step.Branch} {startedAt : Time.Instant}
  {context later : Template.Context} {step attempted : Step} {before : List Step}
  {dialogue : List Exchange}

theorem coherent_of_error {error : Step.Error} (failed : step.error = some error)
    (told : Tells command step error.kind) (nothing : step.extractedValue = none) :
    Coherent command step where
  settled := .inl (by rw [failed]; rfl)
  told other found := by
    cases failed.symm.trans found
    exact told
  extracted given := by
    rw [nothing] at given
    cases given

theorem coherent_of_success (success : step.error = none) (matched : step.matched = true)
    (extracted : step.extractedValue.isSome = true → ∃ name, command.Binds name) :
    Coherent command step where
  settled := .inr matched
  told _ failed := by cases success.symm.trans failed
  extracted given := ⟨matched, extracted given⟩

theorem Coherent.finish (coherent : Coherent command step) (now : Time.Instant) :
    Coherent command (step.finish now) :=
  ⟨coherent.settled, coherent.told, coherent.extracted⟩

theorem tells_of_unmatched (unmatched : step.matched = false) :
    Tells command step .variableResolution := by
  intro matched
  cases unmatched.symm.trans matched

theorem Judgement.coherent {answered : Step}
    (judgement : Judgement command answered context step later) (unfailed : answered.error = none)
    (unmatched : answered.matched = false) (nothing : answered.extractedValue = none) :
    Coherent command step := by
  cases judgement with
  | unresolved => exact coherent_of_error rfl (tells_of_unmatched unmatched) nothing
  | invalid defined =>
    exact coherent_of_error rfl
      ⟨tells_of_unmatched unmatched, fun _ => Option.isSome_iff_exists.2 ⟨_, defined⟩⟩ nothing
  | unsatisfied defined =>
    exact coherent_of_error rfl ⟨rfl, Option.isSome_iff_exists.2 ⟨_, defined⟩⟩ nothing
  | mismatched wanted differs =>
    have told : answered.exitCode ≠ command.expectedExitCode := by rwa [wanted]
    exact coherent_of_error rfl ⟨rfl, Option.isSome_iff_exists.2 ⟨_, wanted⟩, told⟩ nothing
  | plain =>
    refine coherent_of_success unfailed rfl fun given => ?_
    rw [nothing] at given
    cases given
  | bound binds => exact coherent_of_success unfailed rfl fun _ => ⟨_, binds⟩

theorem Attempt.coherent
    (attempt : Attempt settings command (freshStep stage index branch command startedAt) context
      dialogue attempted later) : Coherent command attempted := by
  cases attempt with
  | unresolved => exact (coherent_of_error rfl (tells_of_unmatched rfl) rfl).finish _
  | @answered text reply now =>
    refine Coherent.finish ?_ now
    cases reply with
    | ok output => exact (judgement command _ context output).coherent rfl rfl rfl
    | error error =>
      have told : Tells command
          (receive command { freshStep stage index branch command startedAt with commandSent := text }
            context (.error error)).1 (if error.isTimeout then .timeout else .commandExecution) := by
        split <;> exact ⟨rfl, rfl, rfl⟩
      exact coherent_of_error rfl told rfl

theorem Coherent.chooseArm {chosen : Option (Condition × Arm)}
    (coherent : Coherent command attempted)
    (choice : chooseArm command attempted context = (step, chosen)) : Coherent command step := by
  cases outcome : attempted.error with
  | some error =>
    rw [chooseArm_of_error outcome choice]
    exact coherent
  | none =>
    have only := chooseArm_step choice
    have matched : step.matched = true := by
      rw [only]
      exact coherent.settled.resolve_left (by rw [outcome]; nofun)
    have extracted : step.extractedValue.isSome = true → ∃ name, command.Binds name := by
      rw [only]
      exact fun given => (coherent.extracted given).2
    refine ⟨.inr matched, fun error failed => ?_, fun given => ⟨matched, extracted given⟩⟩
    obtain ⟨condition, defined, selected⟩ := chooseArm_eq_error outcome failed choice
    have asked : command.condition.isSome = true := by rw [defined]; rfl
    -- Each way to be without an answer is also a way for a rule to fail; the match tells them apart.
    cases Condition.unanswered_of_select selected with
    | unresolved => exact fun _ => asked
    | unbound => exact fun _ => asked
    | invalid => exact ⟨fun _ => asked, fun unmatched => by cases matched.symm.trans unmatched⟩

theorem Coherent.plainly {branch : BranchCommand} (coherent : Coherent branch.toCommand step) :
    PlainlyCoherent step := by
  have failing (error : Step.Error) (failed : step.error = some error) : step.matched = false ∧
      (error.kind = .variableResolution ∨ error.kind = .timeout ∨ error.kind = .commandExecution) := by
    have told := coherent.told error failed
    cases kind : error.kind <;> rw [kind] at told
    case variableResolution =>
      have unmatched : step.matched = false := Bool.eq_false_iff.2 fun matched => nomatch told matched
      exact ⟨unmatched, .inl rfl⟩
    case commandExecution => exact ⟨told.1, .inr (.inr rfl)⟩
    case timeout => exact ⟨told.1, .inr (.inl rfl)⟩
    case matchFailure => cases told.2
    case exitCodeMismatch => cases told.2.1
    case invalidPattern =>
      -- Neither a rule nor a condition could have held the pattern.
      cases matched : step.matched with
      | true => cases told.1 matched
      | false => cases told.2 matched
  constructor
  case extracted =>
    by_contra given
    obtain ⟨-, name, named, -⟩ := coherent.extracted (Option.isSome_iff_ne_none.2 given)
    cases named
  case matched =>
    refine ⟨fun matched => ?_, fun success => coherent.settled.resolve_left (by rw [success]; nofun)⟩
    cases outcome : step.error with
    | none => rfl
    | some error => cases (failing error outcome).1.symm.trans matched
  case kind => exact fun error failed => (failing error failed).2

theorem Arisen.coherent (arisen : Arisen settings workflow parameters before step) :
    ∃ command, workflow.specOf step = some command ∧ Coherent command step ∧
      (step.branch.isSome = true → PlainlyCoherent step) := by
  cases arisen with
  | @mk _ _ _ command _ _ attempted _ chosen own attempt choice =>
    have coherent := attempt.coherent.chooseArm choice
    refine ⟨command, own, coherent, fun below => ?_⟩
    rcases Workflow.specOf_cases own with ⟨above, -⟩ | ⟨_, _, _, branch, -, -, -, -, rfl⟩
    · rw [above] at below
      cases below
    · exact coherent.plainly

end

section
variable {σ : Type} {world : World σ} {s : σ} {settings : Settings} {workflow : Workflow}
  {id : RunId} {workflowId : WorkflowId} {deviceId : DeviceId} {parameters : Bindings}
  {createdAt : Time.Instant} {record : Run}

/-- Every step of every record is coherent with the command that it carries out, whatever the device
does and whenever the run is cancelled or cut short. -/
theorem steps_coherent (recorded : IsRecordOf world s settings workflow
    (.new id workflowId deviceId parameters createdAt) record) :
    ∀ step ∈ record.steps, ∃ command, workflow.specOf step = some command ∧
      Coherent command step ∧ (step.branch.isSome = true → PlainlyCoherent step) := by
  intro step member
  obtain ⟨before, after, split⟩ := List.append_of_mem member
  exact (recorded.arisen rfl rfl before step after split).coherent

theorem steps_coherent_on_bench :
    ∃ record step, ((execute {} Bench.workflow Bench.pending).run.runIn
        (Bench.world Bench.answers none) {}).1 = .ok record ∧
      step ∈ record.steps ∧ step.branch.isSome = true ∧ PlainlyCoherent step := by
  have pending : Bench.pending.status = .pending := rfl
  obtain ⟨record, returned⟩ := returns_of_storesAll {} Bench.workflow
    (Bench.storesAll Bench.answers none) pending {}
  have branched : (((execute {} Bench.workflow Bench.pending).run.runIn
      (Bench.world Bench.answers none) {}).1.toOption.bind fun record =>
        record.steps.find? Step.isBranch).isSome = true := by
    decide +kernel
  rw [returned] at branched
  obtain ⟨step, found⟩ : ∃ step, record.steps.find? Step.isBranch = some step :=
    Option.isSome_iff_exists.1 branched
  have below : step.isBranch = true := List.find?_some found
  have member : step ∈ record.steps := List.mem_of_find?_eq_some found
  obtain ⟨-, -, -, plainly⟩ := steps_coherent (.inr returned) step member
  exact ⟨record, step, returned, member, below, plainly below⟩

end

end Runbook.Execution
