import Runbook.Execution.Condition
import Runbook.Execution.Evaluate
import Runbook.Proofs.Number.Decimal
import Runbook.Proofs.Workflow.Matching

/-! How a condition chooses an arm, and why it may have no answer.

What is compared depends on the test alone. So two conditions with one test either fail alike, or they
part where one of their operators denies the other. Exit codes are compared as texts, but no two of them
are written alike, and none like a missing one.
-/

set_option autoImplicit false

namespace Runbook

inductive Operator.Denies : Operator → Operator → Prop
  | equals : Denies .equals .notEqual
  | contains : Denies .contains .notContains

theorem Operator.Denies.evaluate {one other : Operator} (denies : one.Denies other)
    (subject text : String) :
    ∃ holds, one.evaluate subject text = .ok holds ∧ other.evaluate subject text = .ok !holds := by
  cases denies <;> exact ⟨_, rfl, rfl⟩

namespace Condition

/-! ### Without an answer -/

/-- The text that a condition compares with. -/
inductive Compares (condition : Condition) (context : Template.Context) : String → Prop
  | template {template text : String} :
      condition.test.template? = some template → context.resolve template = .ok text →
      Compares condition context text
  | exitCode {exitCode : Int32} :
      condition.test = .exitCodeEquals exitCode → Compares condition context (toString exitCode)

inductive Unanswered (condition : Condition) (context : Template.Context) : Step.Error → Prop
  | unresolved {template : String} {fault : Template.Fault} :
      condition.test.template? = some template → context.resolve template = .error fault →
      Unanswered condition context ⟨.variableResolution, Execution.unresolvedMessage fault⟩
  | unbound {name value : String} :
      condition.test = .variableEquals name value → context.bound.get? name = none →
      Unanswered condition context
        ⟨.variableResolution, (Template.Fault.unboundVariable name).message⟩
  | invalid {text : String} {invalid : InvalidPattern} :
      condition.effectiveOperator = .matches → Compares condition context text →
      Pattern.ofText text = .error invalid →
      Unanswered condition context ⟨.invalidPattern, (Error.validation invalid.message).message⟩

section
variable {condition : Condition} {step : Step} {context : Template.Context}

theorem resolve_eq_error {template : String} {error : Step.Error}
    (failed : operands.resolve context template = .error error) :
    ∃ fault, context.resolve template = .error fault ∧
      error = ⟨.variableResolution, Execution.unresolvedMessage fault⟩ := by
  rw [operands.resolve] at failed
  cases resolved : context.resolve template <;> rw [resolved] at failed <;> cases failed
  exact ⟨_, rfl, rfl⟩

theorem resolve_eq_ok {template text : String}
    (given : operands.resolve context template = .ok text) : context.resolve template = .ok text := by
  rw [operands.resolve] at given
  cases resolved : context.resolve template <;> rw [resolved] at given <;> cases given
  rfl

/-- A condition compares with its exit code, or with its text, or not at all. -/
theorem operands_cases (condition : Condition) (step : Step) (context : Template.Context) :
    (∃ exitCode subject, condition.test = .exitCodeEquals exitCode ∧
      condition.operands step context = .ok (subject, toString exitCode)) ∨
    (∃ name value, condition.test = .variableEquals name value ∧ context.bound.get? name = none ∧
      condition.operands step context =
        .error ⟨.variableResolution, (Template.Fault.unboundVariable name).message⟩) ∨
    ∃ template subject, condition.test.template? = some template ∧
      condition.operands step context =
        (operands.resolve context template).map fun text => (subject, text) := by
  cases tested : condition.test with
  | exitCodeEquals exitCode =>
    exact .inl ⟨exitCode, _, rfl, by simp only [operands, tested]; rfl⟩
  | regexMatches pattern =>
    refine .inr (.inr ⟨pattern, step.rawOutput, rfl, ?_⟩)
    simp only [operands, tested]
    cases operands.resolve context pattern <;> rfl
  | outputContains text =>
    refine .inr (.inr ⟨text, step.rawOutput, rfl, ?_⟩)
    simp only [operands, tested]
    cases operands.resolve context text <;> rfl
  | variableEquals name value =>
    cases found : context.bound.get? name with
    | none => exact .inr (.inl ⟨name, value, rfl, found, by simp only [operands, tested, found]; rfl⟩)
    | some current =>
      refine .inr (.inr ⟨value, current, rfl, ?_⟩)
      simp only [operands, tested, found]
      cases operands.resolve context value <;> rfl

theorem unanswered_of_operands {error : Step.Error}
    (failed : condition.operands step context = .error error) :
    Unanswered condition context error := by
  rcases operands_cases condition step context with
    ⟨exitCode, subject, -, compared⟩ | ⟨name, value, tested, unbound, compared⟩ |
    ⟨template, subject, defined, compared⟩
  · rw [compared] at failed
    cases failed
  · rw [compared] at failed
    cases failed
    exact .unbound tested unbound
  · rw [compared] at failed
    cases resolved : operands.resolve context template <;> rw [resolved] at failed <;> cases failed
    obtain ⟨fault, absent, rfl⟩ := resolve_eq_error resolved
    exact .unresolved defined absent

theorem compares_of_operands {subject text : String}
    (given : condition.operands step context = .ok (subject, text)) :
    Compares condition context text := by
  rcases operands_cases condition step context with
    ⟨exitCode, other, tested, compared⟩ | ⟨name, value, -, -, compared⟩ |
    ⟨template, other, defined, compared⟩
  · rw [compared] at given
    cases given
    exact .exitCode tested
  · rw [compared] at given
    cases given
  · rw [compared] at given
    cases resolved : operands.resolve context template <;> rw [resolved] at given <;> cases given
    exact .template defined (resolve_eq_ok resolved)

theorem unanswered_of_select {error : Step.Error}
    (failed : condition.select step context = .error error) : Unanswered condition context error := by
  rw [select] at failed
  cases compared : condition.operands step context with
  | error other =>
    rw [compared] at failed
    cases failed
    exact unanswered_of_operands compared
  | ok pair =>
    obtain ⟨subject, text⟩ := pair
    rw [compared] at failed
    simp only [bind, Except.bind] at failed
    cases evaluated : condition.effectiveOperator.evaluate subject text with
    | ok answer => cases answer <;> simp only [evaluated] at failed <;> cases failed
    | error invalid =>
      simp only [evaluated] at failed
      cases failed
      obtain ⟨regex, broken⟩ := Operator.evaluate_eq_error_iff.1 evaluated
      exact .invalid regex (compares_of_operands compared) broken

/-! ### Arms -/

theorem select_of_failed {error : Step.Error}
    (failed : condition.operands step context = .error error) :
    condition.select step context = .error error := by
  rw [select, failed]
  rfl

theorem select_of_compared {subject text : String} {holds : Bool}
    (compared : condition.operands step context = .ok (subject, text))
    (evaluated : condition.effectiveOperator.evaluate subject text = .ok holds) :
    condition.select step context = .ok (if holds then .then_ else .else_) := by
  rw [select, compared]
  simp only [bind, Except.bind, evaluated]
  cases holds <;> rfl

theorem operands_congr {other : Condition} (same : condition.test = other.test) :
    condition.operands step context = other.operands step context := by
  rw [operands, operands, same]

/-- Two choices fail with one error, or take different arms. -/
inductive Opposed : Except Step.Error Arm → Except Step.Error Arm → Prop
  | failed (error : Step.Error) : Opposed (.error error) (.error error)
  | answered {arm other : Arm} : arm ≠ other → Opposed (.ok arm) (.ok other)

theorem opposed_of_denies {other : Condition} (same : condition.test = other.test)
    (denies : condition.effectiveOperator.Denies other.effectiveOperator) :
    Opposed (condition.select step context) (other.select step context) := by
  have alike : condition.operands step context = other.operands step context := operands_congr same
  cases compared : other.operands step context with
  | error error =>
    rw [select_of_failed (alike.trans compared), select_of_failed compared]
    exact .failed error
  | ok pair =>
    obtain ⟨subject, text⟩ := pair
    obtain ⟨holds, affirmed, denied⟩ := denies.evaluate subject text
    rw [select_of_compared (alike.trans compared) affirmed, select_of_compared compared denied]
    cases holds <;> exact .answered nofun

/-! ### Exit codes -/

theorem isBlank_of_mem_decimal {n : Int} {c : Char} (member : c ∈ (toString n).toList) :
    Text.isBlank c = false := by
  rw [Number.Decimal.toList_toString] at member
  -- A sign, where the number is negative, and digits.
  rcases List.mem_append.1 member with sign | digit
  · split at sign
    · rw [List.mem_singleton.1 sign]
      decide
    · cases sign
  · have within : 48 ≤ c.toNat ∧ c.toNat ≤ 57 :=
      Char.isDigit_iff_toNat.1 (Number.Decimal.isDigit_of_mem digit)
    simp only [Text.isBlank, Bool.or_eq_false_iff, Bool.and_eq_false_iff, decide_eq_false_iff_not,
      beq_eq_false_iff_ne]
    omega

theorem trim_code (code : Int32) : Text.trim (toString code) = toString code :=
  Text.trim_eq_self fun _ => isBlank_of_mem_decimal

theorem toString_code_inj {code other : Int32} : toString code = toString other ↔ code = other :=
  Number.Decimal.toString_inj.trans Int32.toInt_inj

theorem toString_code_ne_empty (code : Int32) : toString code ≠ "" := by
  intro empty
  have none : (toString code.toInt).toList = [] := congrArg String.toList empty
  rw [Number.Decimal.toList_toString] at none
  exact Nat.toDigits_ne_nil (List.append_eq_nil_iff.1 none).2

/-- The text of a code that may be missing is that of a code only if it is that code. -/
theorem trim_reported_eq_iff (reported : Option Int32) (code : Int32) :
    Text.trim ((reported.map toString).getD "") = Text.trim (toString code) ↔ reported = some code := by
  rw [trim_code]
  cases reported with
  | none =>
    have blank : Text.trim "" = "" := Text.trim_eq_self (by simp)
    rw [Option.map_none, Option.getD_none, blank]
    exact ⟨fun same => absurd same.symm (toString_code_ne_empty code), nofun⟩
  | some other =>
    rw [Option.map_some, Option.getD_some, trim_code, toString_code_inj, Option.some_inj]

theorem select_exitCode {code : Int32} (tested : condition.test = .exitCodeEquals code)
    (operator : condition.effectiveOperator = .equals) :
    condition.select step context = .ok (if step.exitCode = some code then .then_ else .else_) := by
  have compared : condition.operands step context =
      .ok ((step.exitCode.map toString).getD "", toString code) := by
    simp only [operands, tested]
    rfl
  rw [select_of_compared compared (by rw [operator, Operator.evaluate])]
  simp only [beq_iff_eq, trim_reported_eq_iff]

end

/-- A condition on an exit code chooses by that code exactly, though texts are compared. An operator
that denies another chooses the other arm, or fails alike, whatever the condition looks at. -/
theorem arms_exact_and_opposed (parent : Step) (context : Template.Context) :
    (∀ (condition : Condition) (code : Int32), condition.test = .exitCodeEquals code →
      condition.effectiveOperator = .equals →
      condition.select parent context =
        .ok (if parent.exitCode = some code then .then_ else .else_)) ∧
    ∀ one other : Condition, one.test = other.test →
      one.effectiveOperator.Denies other.effectiveOperator →
      Opposed (one.select parent context) (other.select parent context) :=
  ⟨fun _ _ => select_exitCode, fun _ _ => opposed_of_denies⟩

def refused : Step where
  stage := .preCheck
  commandIndex := 0
  template := "ping"
  rawOutput := "refused"
  matched := true
  exitCode := some (-1)
  startedAt := ⟨0, 0⟩

/-- A negative code is told from its opposite, and a variable that is not bound leaves both operators
without an answer. -/
theorem arms_exact_and_opposed_on_refused :
    ({ test := .exitCodeEquals (-1) } : Condition).select refused ⟨.empty, .empty⟩ = .ok .then_ ∧
    ({ test := .exitCodeEquals 1 } : Condition).select refused ⟨.empty, .empty⟩ = .ok .else_ ∧
    Opposed
      (({ test := .variableEquals "slot" "1" } : Condition).select refused ⟨.empty, .empty⟩)
      (({ test := .variableEquals "slot" "1", operator := some .notEqual } : Condition).select refused
        ⟨.empty, .empty⟩) := by
  obtain ⟨byCode, opposed⟩ := arms_exact_and_opposed refused ⟨.empty, .empty⟩
  exact ⟨byCode _ (-1) rfl rfl, byCode _ 1 rfl rfl, opposed _ _ rfl .equals⟩

end Condition

end Runbook
