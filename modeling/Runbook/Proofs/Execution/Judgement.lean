import Runbook.Execution.Evaluate
import Runbook.Proofs.Workflow.Matching

/-! What judging an output comes to: one of six ways, each with all that it makes of the step and of the
variables.

Whatever an evaluation does after the device has answered is one of these ways, so a property of steps
needs a case for each of them and never the judgement itself.
-/

set_option autoImplicit false

namespace Runbook

/-- Whether a command binds a variable whenever it succeeds. -/
def Command.Binds (command : Command) (name : String) : Prop :=
  command.binding.map Binding.name = some name ∧
    command.rule.map MatchRule.operator = some .matches

theorem Command.Binds.unique {command : Command} {name other : String} (binds : command.Binds name)
    (same : command.Binds other) : name = other :=
  Option.some.inj (binds.1.symm.trans same.1)

namespace Execution

/-- The step of a command that the device has answered, once it is judged, and the variables. -/
inductive Judgement (command : Command) (answered : Step) (context : Template.Context) :
    Step → Template.Context → Prop
  | unresolved {rule : MatchRule} {fault : Template.Fault} :
      command.rule = some rule → context.resolve rule.pattern = .error fault →
      Judgement command answered context
        (answered.fail .variableResolution (unresolvedMessage fault)) context
  | invalid {rule : MatchRule} {text : String} {invalid : InvalidPattern} :
      command.rule = some rule → rule.operator = .matches →
      context.resolve rule.pattern = .ok text → Pattern.ofText text = .error invalid →
      Judgement command answered context
        (answered.fail .invalidPattern (Error.validation invalid.message).message) context
  | unsatisfied {rule : MatchRule} {text : String} :
      command.rule = some rule → context.resolve rule.pattern = .ok text →
      Judgement command answered context
        ({ answered with matched := false }.fail .matchFailure
          (Matching.Rejection.patternNotSatisfied rule.operator text).message) context
  | mismatched {code : Int32} :
      command.expectedExitCode = some code → answered.exitCode ≠ some code →
      Judgement command answered context
        ({ answered with matched := true }.fail .exitCodeMismatch
          (Matching.Rejection.exitCodeMismatch code answered.exitCode).message) context
  | plain : (∀ name, ¬command.Binds name) →
      Judgement command answered context { answered with matched := true } context
  | bound {name value : String} : command.Binds name →
      Judgement command answered context
        { answered with matched := true, extractedValue := some value } (context.bind name value)

section
variable {command : Command} {step : Step} {context : Template.Context}

theorem resolveRule_eq_error {rule : Option MatchRule} {fault : Template.Fault}
    (failed : resolveRule? context rule = .error fault) :
    ∃ found, rule = some found ∧ context.resolve found.pattern = .error fault := by
  cases rule with
  | none => cases failed
  | some found =>
    rw [resolveRule?, resolveRule] at failed
    cases resolved : context.resolve found.pattern <;> rw [resolved] at failed <;> cases failed
    exact ⟨found, rfl, resolved⟩

theorem resolveRule_eq_some {rule : Option MatchRule} {resolved : MatchRule}
    (given : resolveRule? context rule = .ok (some resolved)) :
    ∃ found, rule = some found ∧ found.operator = resolved.operator ∧
      context.resolve found.pattern = .ok resolved.pattern := by
  cases rule with
  | none => cases given
  | some found =>
    rw [resolveRule?, resolveRule] at given
    cases text : context.resolve found.pattern <;> rw [text] at given <;> cases given
    exact ⟨found, rfl, rfl, text⟩

theorem operator_of_resolveRule {rule resolved : Option MatchRule}
    (given : resolveRule? context rule = .ok resolved) :
    resolved.map MatchRule.operator = rule.map MatchRule.operator := by
  cases rule with
  | none =>
    cases given
    rfl
  | some found =>
    rw [resolveRule?, resolveRule] at given
    cases text : context.resolve found.pattern <;> rw [text] at given <;> cases given
    rfl

theorem judgement_of_accepted {answered : Step} {rule : Option MatchRule}
    {verdict : Matching.Verdict} {output : String} {exitCode expected : Option Int32}
    (resolved : resolveRule? context command.rule = .ok rule)
    (complete : Matching.Complete output exitCode rule expected command.binding.isSome verdict)
    (accepted : verdict.rejection = none) :
    Judgement command answered context
      (keep command.binding verdict.extracted { answered with matched := verdict.matched } context).1
      (keep command.binding verdict.extracted { answered with matched := verdict.matched } context).2 := by
  rw [(complete.accepted.1 accepted).1]
  have operators := operator_of_resolveRule resolved
  cases extracted : verdict.extracted with
  | none =>
    -- A command that binds asks for a value, and its rule gives one whenever it holds.
    have unbound : ∀ name, ¬command.Binds name := by
      rintro name ⟨named, regex⟩
      obtain ⟨binding, defined, -⟩ := Option.map_eq_some_iff.1 named
      rw [← operators] at regex
      obtain ⟨found, same, regex⟩ := Option.map_eq_some_iff.1 regex
      have given := complete.extracts.2 ⟨accepted, by rw [defined]; rfl, found, same, regex⟩
      rw [extracted] at given
      cases given
    cases command.binding <;> exact .plain unbound
  | some value =>
    obtain ⟨-, asked, found, same, regex⟩ := complete.extracts.1 (by rw [extracted]; rfl)
    obtain ⟨binding, defined⟩ := Option.isSome_iff_exists.1 asked
    rw [defined]
    refine .bound ⟨by rw [defined]; rfl, ?_⟩
    rw [← operators, same]
    exact congrArg some regex

theorem judgement (command : Command) (step : Step) (context : Template.Context)
    (output : Device.Output) :
    Judgement command { step with rawOutput := output.text, exitCode := output.exitCode } context
      (judge command step context output).1 (judge command step context output).2 := by
  unfold judge
  cases resolved : resolveRule? context command.rule with
  | error fault =>
    obtain ⟨rule, defined, absent⟩ := resolveRule_eq_error resolved
    exact .unresolved defined absent
  | ok rule =>
    simp only
    cases evaluated : Matching.evaluate output.text output.exitCode rule command.expectedExitCode
        command.binding.isSome with
    | error invalid =>
      obtain ⟨found, rfl, regex, broken⟩ := Matching.evaluate_eq_error_iff.1 evaluated
      obtain ⟨rule, defined, operator, text⟩ := resolveRule_eq_some resolved
      exact .invalid defined (operator.trans regex) text broken
    | ok verdict =>
      have complete := Matching.complete_of_evaluate evaluated
      simp only
      cases rejected : verdict.rejection with
      | none => exact judgement_of_accepted resolved complete rejected
      | some rejection =>
        -- A rejection names what it is about, and that is the rule or the code of this command.
        cases rejection with
        | patternNotSatisfied operator pattern =>
          obtain rfl := complete.named _ rejected
          obtain ⟨rule, defined, rfl, text⟩ := resolveRule_eq_some resolved
          rw [complete.unsatisfied.1 ⟨_, _, rejected⟩]
          exact .unsatisfied defined text
        | exitCodeMismatch code actual =>
          obtain ⟨wanted, rfl⟩ := complete.named _ rejected
          obtain ⟨matched, other, same, differs⟩ := complete.mismatched.1 ⟨_, _, rejected⟩
          cases wanted.symm.trans same
          rw [matched]
          exact .mismatched wanted differs

end

end Execution

end Runbook
