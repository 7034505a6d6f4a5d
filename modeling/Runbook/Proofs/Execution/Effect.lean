import Runbook.Proofs.Execution.Bench
import Runbook.Proofs.Execution.History

/-! What carrying out a single command can change: one request to the device, its own step, and the
variable that it binds.

The step keeps its place and its command. A command that fails leaves all variables as they were, even where
the output had matched and a value was at hand. The error of a step tells of its command where it is not
one that the step had before, for nothing takes an error away.
-/

set_option autoImplicit false

namespace Runbook

/-- A step as its command finds it: nothing has gone wrong with it, and nothing was extracted. -/
def Step.IsUntouched (step : Step) : Prop :=
  step.error = none ∧ step.extractedValue = none

namespace Execution

/-- The command of an exchange with the device, and how long a reply was waited for. -/
def Exchange.request? : Exchange → Option (String × UInt64)
  | .sent command timeout _ => some (command, timeout)
  | _ => none

def requestsOf (dialogue : List Exchange) : List (String × UInt64) :=
  dialogue.filterMap Exchange.request?

/-- A command changes no more than this of its step and of the variables. -/
structure Effect (command : Command) (before : Step) (context : Template.Context) (after : Step)
    (later : Template.Context) : Prop where
  heading : after.heading = before.heading
  parameters : later.parameters = context.parameters
  others (name : String) : ¬command.Binds name →
    later.bound.get? name = context.bound.get? name
  failed : after.error ≠ before.error →
    later = context ∧ after.extractedValue = before.extractedValue
  plain : (∀ name, ¬command.Binds name) →
    later = context ∧ after.extractedValue = before.extractedValue
  bound (name : String) : after.error = none → command.Binds name →
    ∃ value, after.extractedValue = some value ∧ later = context.bind name value

theorem freshStep_isUntouched (stage : Stage) (index : Nat) (branch : Option Step.Branch)
    (command : Command) (startedAt : Time.Instant) :
    (freshStep stage index branch command startedAt).IsUntouched :=
  ⟨rfl, rfl⟩

section
variable {settings : Settings} {command : Command} {step answered after : Step}
  {context later : Template.Context} {dialogue : List Exchange}

theorem effect_of_error {error : Step.Error} (failed : after.error = some error)
    (heading : after.heading = step.heading) (nothing : after.extractedValue = step.extractedValue) :
    Effect command step context after context where
  heading := heading
  parameters := rfl
  others _ _ := rfl
  failed _ := ⟨rfl, nothing⟩
  plain _ := ⟨rfl, nothing⟩
  bound _ success := by cases failed.symm.trans success

theorem Judgement.effect (judgement : Judgement command answered context after later) :
    Effect command answered context after later := by
  cases judgement with
  | plain unbound =>
    exact {
      heading := rfl
      parameters := rfl
      others := fun _ _ => rfl
      failed := fun changed => absurd rfl changed
      plain := fun _ => ⟨rfl, rfl⟩
      bound := fun name _ binds => absurd binds (unbound name) }
  | @bound bound value binds =>
    exact {
      heading := rfl
      parameters := rfl
      others := fun name other => by
        have differs : name ≠ bound := fun same => other (same ▸ binds)
        rw [Template.Context.bind, Table.get?_insert, if_neg differs]
      failed := fun changed => absurd rfl changed
      plain := fun unbound => absurd binds (unbound bound)
      bound := fun name _ same => by
        cases same.unique binds
        exact ⟨value, rfl, rfl⟩ }
  | _ => exact effect_of_error rfl rfl rfl

theorem Attempt.effect (attempt : Attempt settings command step context dialogue after later) :
    Effect command step context after later := by
  cases attempt with
  | unresolved => exact effect_of_error rfl rfl rfl
  | @answered text reply now =>
    cases reply with
    | error error => exact effect_of_error rfl rfl rfl
    | ok output =>
      -- Neither what was sent nor what came back is part of what the effect speaks of.
      obtain ⟨heading, parameters, others, failed, plain, bound⟩ :=
        (judgement command { step with commandSent := text } context output).effect
      exact ⟨heading, parameters, others, failed, plain, bound⟩

theorem Attempt.requests (attempt : Attempt settings command step context dialogue after later) :
    requestsOf dialogue =
      match context.resolve command.template with
      | .ok text => [(text, settings.timeoutFor command)]
      | .error _ => [] := by
  cases attempt with
  | unresolved absent =>
    rw [absent]
    rfl
  | answered present =>
    rw [present]
    rfl

end

/-- Wherever a command is carried out and whatever the device answers: it is sent once if its template
has a value, and changes nothing but its own step and the variable that it binds. -/
theorem evaluation_confined {σ : Type} (world : World σ) (s : σ) (settings : Settings)
    (command : Command) (step : Step) (context : Template.Context) :
    (requestsOf ((evaluate settings command step context).dialogue world s) =
      match context.resolve command.template with
      | .ok text => [(text, settings.timeoutFor command)]
      | .error _ => []) ∧
    Effect command step context ((evaluate settings command step context).runIn world s).1.1
      ((evaluate settings command step context).runIn world s).1.2 := by
  have attempted := attempt (Procedure.gives_dialogue world (evaluate settings command step context) s)
  exact ⟨attempted.requests, attempted.effect⟩

/-- The output has matched when the exit code is found wrong: the value at hand is not bound. -/
theorem evaluation_confined_after_match :
    let probe : Command := {
      template := "probe"
      rule := some ⟨.matches, "v([0-9])"⟩
      binding := some ⟨"version", none⟩
      expectedExitCode := some 0 }
    let step := freshStep .preCheck 0 none probe ⟨0, 0⟩
    let context : Template.Context := { parameters := .empty }
    let evaluated := (evaluate {} probe step context).runIn
      (Bench.world (fun _ _ _ => .ok ⟨"ready v7", some 1⟩) none) {}
    evaluated.1.1.matched = true ∧ evaluated.1.1.error ≠ step.error ∧
      evaluated.1.2 = context ∧ evaluated.1.1.extractedValue = none := by
  intro probe step context evaluated
  have failed : evaluated.1.1.error ≠ step.error := by decide +kernel
  exact ⟨by decide +kernel, failed, (evaluation_confined _ _ {} probe step context).2.failed failed⟩

/-- On a step that has failed before, an error does not tell that nothing was bound; on a step that has a
value already, a failure does not take it away. -/
theorem evaluation_unconfined_on_touched_steps :
    let probe : Command := {
      template := "probe"
      rule := some ⟨.matches, "v([0-9])"⟩
      binding := some ⟨"version", none⟩ }
    let fresh := freshStep .preCheck 0 none probe ⟨0, 0⟩
    let context : Template.Context := { parameters := .empty }
    let world := Bench.world (fun _ _ _ => .ok ⟨"ready v7", some 0⟩) none
    let failed := fresh.fail .timeout "late"
    let valued := { fresh with extractedValue := some "7" }
    let bound := ((evaluate {} probe failed context).runIn world {}).1
    let unsent := ((evaluate {} { probe with template := "\x7babsent\x7d" } valued context).runIn world {}).1
    (bound.1.error.isSome = true ∧ bound.2 ≠ context) ∧
      unsent.1.error.isSome = true ∧ unsent.1.extractedValue ≠ none := by
  decide +kernel

end Execution

end Runbook
