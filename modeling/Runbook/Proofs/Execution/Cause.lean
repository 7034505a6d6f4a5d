import Runbook.Proofs.Execution.Condition
import Runbook.Proofs.Execution.Provenance

/-! Why a step has its error: one cause for each way in which a command or its condition can fail.
-/

set_option autoImplicit false

namespace Runbook.Execution

open StageRunner (chooseArm)

/-- Why a step has its error. Its command and its rule were given the variables before it, its condition
those after it. Only what has matched comes to its condition. -/
inductive Cause (command : Command) (context later : Template.Context) (matched : Bool) :
    Step.Error → Prop
  | unresolved {fault : Template.Fault} :
      context.resolve command.template = .error fault → matched = false →
      Cause command context later matched ⟨.variableResolution, unresolvedMessage fault⟩
  | device (error : Device.Error) :
      Cause command context later matched
        ⟨if error.isTimeout then .timeout else .commandExecution, error.message⟩
  | unresolvedRule {rule : MatchRule} {fault : Template.Fault} :
      command.rule = some rule → context.resolve rule.pattern = .error fault → matched = false →
      Cause command context later matched ⟨.variableResolution, unresolvedMessage fault⟩
  | invalidRule {rule : MatchRule} {text : String} {invalid : InvalidPattern} :
      command.rule = some rule → rule.operator = .matches →
      context.resolve rule.pattern = .ok text → Pattern.ofText text = .error invalid →
      matched = false →
      Cause command context later matched
        ⟨.invalidPattern, (Error.validation invalid.message).message⟩
  | rejected (rejection : Matching.Rejection) :
      Cause command context later matched ⟨rejectionKind rejection, rejection.message⟩
  | condition {condition : Condition} {error : Step.Error} :
      command.condition = some condition → matched = true → condition.Unanswered later error →
      Cause command context later matched error

section
variable {settings : Settings} {workflow : Workflow} {parameters : Bindings} {command : Command}
  {context later : Template.Context} {fresh step attempted : Step} {dialogue : List Exchange}

/-- A step and the variables after an attempt: an error has its cause, and then nothing was bound;
without one the output has matched. -/
structure Judged (command : Command) (context : Template.Context) (step : Step)
    (later : Template.Context) : Prop where
  cause (after : Template.Context) (error : Step.Error) :
    step.error = some error → Cause command context after step.matched error
  unbound : step.error.isSome = true → later = context
  matched : step.error = none → step.matched = true

theorem judged_of_error {error : Step.Error} (failed : step.error = some error)
    (cause : ∀ after, Cause command context after step.matched error) :
    Judged command context step context where
  cause after other found := by
    rw [failed] at found
    cases found
    exact cause after
  unbound _ := rfl
  matched success := by
    rw [failed] at success
    cases success

theorem judged_of_success (success : step.error = none) (matched : step.matched = true) :
    Judged command context step later where
  cause _ _ failed := by cases success.symm.trans failed
  unbound failed := by
    rw [success] at failed
    cases failed
  matched _ := matched

theorem Judgement.judged {answered : Step}
    (judgement : Judgement command answered context step later) (fresh : answered.error = none)
    (unmatched : answered.matched = false) : Judged command context step later := by
  cases judgement with
  | unresolved defined absent =>
    exact judged_of_error rfl fun _ => .unresolvedRule defined absent unmatched
  | invalid defined regex text broken =>
    exact judged_of_error rfl fun _ => .invalidRule defined regex text broken unmatched
  | unsatisfied => exact judged_of_error rfl fun _ => .rejected (.patternNotSatisfied _ _)
  | mismatched => exact judged_of_error rfl fun _ => .rejected (.exitCodeMismatch _ _)
  | plain => exact judged_of_success fresh rfl
  | bound => exact judged_of_success fresh rfl

theorem judged_receive (fresh : step.error = none) (unmatched : step.matched = false)
    (reply : Device.Reply) :
    Judged command context (receive command step context reply).1
      (receive command step context reply).2 := by
  cases reply with
  | ok output => exact (judgement command step context output).judged fresh unmatched
  | error error => exact judged_of_error rfl fun _ => .device error

theorem Attempt.judged (attempt : Attempt settings command fresh context dialogue attempted later)
    (unfailed : fresh.error = none) (unmatched : fresh.matched = false) :
    Judged command context attempted later := by
  cases attempt with
  | unresolved absent => exact judged_of_error rfl fun _ => .unresolved absent unmatched
  | @answered text reply now present =>
    let sent : Step := { fresh with commandSent := text }
    have unsettled : sent.error = none ∧ sent.matched = false := ⟨unfailed, unmatched⟩
    have judged : Judged command context _ _ := judged_receive unsettled.1 unsettled.2 reply
    exact ⟨judged.cause, judged.unbound, judged.matched⟩

theorem Arisen.unbound {before : List Step}
    (arisen : Arisen settings workflow parameters before step) (unmatched : step.matched = false) :
    contextAfter workflow parameters (before ++ [step]) =
      contextAfter workflow parameters before := by
  cases arisen with
  | @mk _ _ _ command _ _ attempted _ chosen own attempt choice =>
    have judged := attempt.judged rfl rfl
    rw [chooseArm_step choice] at unmatched
    cases outcome : attempted.error with
    | some error => exact judged.unbound (by rw [outcome]; rfl)
    | none =>
      have matched := judged.matched outcome
      rw [unmatched] at matched
      cases matched

theorem chooseArm_eq_error {chosen : Option (Condition × Arm)} {error : Step.Error}
    (success : attempted.error = none) (failed : step.error = some error)
    (choice : chooseArm command attempted context = (step, chosen)) :
    ∃ condition, command.condition = some condition ∧
      condition.select attempted context = .error error := by
  have succeeded : attempted.isSuccess = true := by rw [Step.isSuccess, success]; rfl
  cases defined : command.condition with
  | none =>
    simp only [chooseArm, defined] at choice
    cases choice
    rw [success] at failed
    cases failed
  | some condition =>
    cases selected : condition.select attempted context with
    | ok arm =>
      simp only [chooseArm, defined, succeeded, selected] at choice
      cases choice
      rw [success] at failed
      cases failed
    | error other =>
      simp only [chooseArm, defined, succeeded, selected] at choice
      cases choice
      cases failed
      exact ⟨condition, rfl, selected⟩

theorem Arisen.cause {before : List Step} {error : Step.Error}
    (arisen : Arisen settings workflow parameters before step) (failed : step.error = some error) :
    ∃ command, workflow.specOf step = some command ∧
      Cause command (contextAfter workflow parameters before)
        (contextAfter workflow parameters (before ++ [step])) step.matched error := by
  cases arisen with
  | @mk _ _ _ command _ _ attempted _ chosen own attempt choice =>
    refine ⟨command, own, ?_⟩
    have judged := attempt.judged rfl rfl
    have only := chooseArm_step choice
    have matched : step.matched = attempted.matched := by rw [only]
    rw [matched]
    cases outcome : attempted.error with
    | some other =>
      -- A condition is not asked after an error.
      rw [chooseArm_of_error outcome choice] at failed
      exact judged.cause _ error failed
    | none =>
      obtain ⟨condition, defined, selected⟩ := chooseArm_eq_error outcome failed choice
      exact .condition defined (judged.matched outcome) (Condition.unanswered_of_select selected)

end

end Runbook.Execution
