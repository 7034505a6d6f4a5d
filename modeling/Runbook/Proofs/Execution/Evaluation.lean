import Runbook.Execution.StageRun
import Runbook.Proofs.Execution.Judgement
import Runbook.Proofs.Run.Segment

/-! What the evaluation of a command may change: its step but for the heading, and of the variables
the one that the step says was bound.
-/

set_option autoImplicit false

namespace Runbook

/-- The variables after a step of a command: its value under the name of the binding, if the step has
one. -/
def Command.note (command : Command) (step : Step) (bound : Bindings) : Bindings :=
  match command.binding, step.extractedValue with
  | some binding, some value => bound.insert binding.name value
  | _, _ => bound

namespace Execution

/-- A step and the variables have changed only as the evaluation of a command may change them. -/
structure Framed (command : Command) (before : Step) (context : Template.Context) (after : Step)
    (later : Template.Context) : Prop where
  heading : after.heading = before.heading
  commandSent : after.commandSent = before.commandSent
  context : later = { context with bound := command.note after context.bound }

section
variable {command : Command} {step : Step} {context : Template.Context}

theorem note_of_nothing (nothing : step.extractedValue = none) (bound : Bindings) :
    command.note step bound = bound := by
  unfold Command.note
  rw [nothing]
  cases command.binding <;> rfl

theorem framed_of_nothing {after : Step} (heading : after.heading = step.heading)
    (commandSent : after.commandSent = step.commandSent)
    (nothing : after.extractedValue = none) :
    Framed command step context after context :=
  ⟨heading, commandSent, by rw [note_of_nothing nothing]⟩

theorem Judgement.framed {answered after : Step} {later : Template.Context}
    (judgement : Judgement command answered context after later)
    (nothing : answered.extractedValue = none) : Framed command answered context after later := by
  cases judgement with
  | bound binds =>
    obtain ⟨binding, defined, rfl⟩ := Option.map_eq_some_iff.1 binds.1
    refine ⟨rfl, rfl, ?_⟩
    simp only [Command.note, defined]
    rfl
  | _ => exact framed_of_nothing rfl rfl nothing

theorem framed_receive (command : Command) (step : Step) (context : Template.Context)
    (reply : Device.Reply) (nothing : step.extractedValue = none) :
    Framed command step context (receive command step context reply).1
      (receive command step context reply).2 := by
  cases reply with
  | ok output =>
    let answered : Step := { step with rawOutput := output.text, exitCode := output.exitCode }
    have unextracted : answered.extractedValue = none := nothing
    have framed := (judgement command step context output).framed unextracted
    exact ⟨framed.heading, framed.commandSent, framed.context⟩
  | error error => exact framed_of_nothing rfl rfl nothing

/-! ### The requests of an evaluation -/

section
variable {settings : Settings}

theorem evaluate_of_unresolved {fault : Template.Fault}
    (unresolved : context.resolve command.template = .error fault) :
    evaluate settings command step context = Procedure.clock fun now =>
      .done ((step.fail .variableResolution (unresolvedMessage fault)).finish now, context) := by
  simp only [evaluate, unresolved]
  rfl

theorem evaluate_of_resolved {text : String}
    (resolved : context.resolve command.template = .ok text) :
    evaluate settings command step context =
      Procedure.send text (settings.timeoutFor command) fun reply => .clock fun now =>
        .done ((receive command { step with commandSent := text } context reply).1.finish now,
          (receive command { step with commandSent := text } context reply).2) := by
  simp only [evaluate, resolved]
  rfl

end

/-! ### The condition of a command -/

open StageRunner (chooseArm)

variable {attempted : Step} {chosen : Option (Condition × Arm)}

/-- A condition without an answer is an error of the step. Nothing else changes. -/
theorem chooseArm_step (choice : chooseArm command attempted context = (step, chosen)) :
    step = { attempted with error := step.error } := by
  unfold chooseArm at choice
  split at choice
  · split at choice <;> cases choice <;> rfl
  · cases choice
    rfl

theorem chooseArm_of_error {error : Step.Error} (failed : attempted.error = some error)
    (choice : chooseArm command attempted context = (step, chosen)) : step = attempted := by
  have unsuccessful : attempted.isSuccess = false := by simp [Step.isSuccess, failed]
  cases defined : command.condition <;>
    simp only [chooseArm, defined, unsuccessful] at choice <;>
    cases choice <;> rfl

theorem chooseArm_some {condition : Condition} {arm : Arm}
    (choice : chooseArm command attempted context = (step, some (condition, arm))) :
    command.condition = some condition ∧ condition.select step context = .ok arm := by
  cases defined : command.condition with
  | none =>
    simp only [chooseArm, defined] at choice
    cases choice
  | some found =>
    cases success : attempted.isSuccess with
    | false =>
      simp only [chooseArm, defined, success] at choice
      cases choice
    | true =>
      cases selected : found.select attempted context with
      | error error =>
        simp only [chooseArm, defined, success, selected] at choice
        cases choice
      | ok other =>
        simp only [chooseArm, defined, success, selected] at choice
        cases choice
        exact ⟨rfl, selected⟩

theorem chooseArm_none (choice : chooseArm command attempted context = (step, none))
    (success : step.error = none) : command.condition = none := by
  cases defined : command.condition with
  | none => rfl
  | some condition =>
    cases succeeded : attempted.isSuccess with
    | false =>
      simp only [chooseArm, defined, succeeded] at choice
      cases choice
      simp [Step.isSuccess, success] at succeeded
    | true =>
      cases selected : condition.select attempted context with
      | error error =>
        simp only [chooseArm, defined, succeeded, selected] at choice
        cases choice
        cases success
      | ok arm =>
        simp only [chooseArm, defined, succeeded, selected] at choice
        cases choice

end

end Execution

end Runbook
