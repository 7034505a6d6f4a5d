import Mathlib.Data.List.Infix
import Runbook.Workflow.Matching

/-! The verdict on an output: whether its rule holds, what it is rejected for, what is extracted.

A rule holds where its operator does, which is also what a condition asks. The exit code is only looked
at once the rule holds, and only an output that is not rejected gives a value. Whether a value is asked
for changes nothing else.
-/

set_option autoImplicit false

namespace Runbook

/-! ### What a match gives -/

namespace Pattern

section
variable {pattern : Pattern} {captures : Captures} {text value : List Char}

/-- What the leftmost match gives: the first group of the pattern, nothing where that took no part, or
the whole match where the pattern has no group. -/
inductive Gives (pattern : Pattern) (captures : Captures) (text : List Char) : List Char → Prop
  | whole : pattern.names = [] → Gives pattern captures text (captures.whole.slice text)
  | group {span : Span} {others : List (Option Span)} :
      pattern.names ≠ [] → captures.groups = some span :: others →
      Gives pattern captures text (span.slice text)
  | absent {others : List (Option Span)} :
      pattern.names ≠ [] → captures.groups = none :: others → Gives pattern captures text []

theorem Span.slice_isInfix (span : Span) (text : List Char) : span.slice text <:+: text :=
  (List.take_prefix _ _).isInfix.trans (List.drop_suffix _ _).isInfix

theorem Gives.isInfix (gives : pattern.Gives captures text value) : value <:+: text := by
  cases gives with
  | whole => exact captures.whole.slice_isInfix text
  | @group span => exact span.slice_isInfix text
  | absent => exact List.nil_infix

theorem length_groups (found : pattern.find? text = some captures) :
    captures.groups.length = pattern.names.length := by
  simp only [find?, Option.bind_eq_bind, Option.bind_eq_some_iff] at found
  obtain ⟨slots, -, whole, -, same⟩ := found
  cases same
  rw [List.length_map, List.length_range]

theorem gives_of_find (found : pattern.find? text = some captures) :
    pattern.Gives captures text
      (((match captures.groups with
        | [] => some captures.whole
        | first :: _ => first).map fun span : Span => span.slice text).getD []) := by
  -- A match has as many groups as its pattern, so it has none only where the pattern has none.
  have count := length_groups found
  cases groups : captures.groups with
  | nil =>
    rw [groups] at count
    exact .whole (List.length_eq_zero_iff.1 count.symm)
  | cons first others =>
    have grouped : pattern.names ≠ [] := by
      intro none
      rw [groups, none] at count
      cases count
    cases first with
    | none => exact .absent grouped groups
    | some span => exact .group grouped groups

end

end Pattern

/-! ### Rules -/

theorem Operator.evaluate_eq_error_iff {operator : Operator} {subject text : String}
    {invalid : InvalidPattern} :
    operator.evaluate subject text = .error invalid ↔
      operator = .matches ∧ Pattern.ofText text = .error invalid := by
  cases operator with
  | «matches» =>
    rw [evaluate]
    cases Pattern.ofText text with
    | error other => exact ⟨fun failed => ⟨rfl, by cases failed; rfl⟩, fun failed => by cases failed.2; rfl⟩
    | ok pattern => exact ⟨nofun, fun failed => nomatch failed.2⟩
  | contains => exact ⟨nofun, nofun⟩
  | notContains => exact ⟨nofun, nofun⟩
  | equals => exact ⟨nofun, nofun⟩
  | notEqual => exact ⟨nofun, nofun⟩
  | startsWith => exact ⟨nofun, nofun⟩
  | endsWith => exact ⟨nofun, nofun⟩

namespace MatchRule

variable {rule : MatchRule} {output : String} {extract matched : Bool} {extracted : Option String}

theorem fst_apply (rule : MatchRule) (output : String) (extract : Bool) :
    (rule.apply output extract).map Prod.fst = rule.operator.evaluate output rule.pattern := by
  unfold apply
  by_cases regex : rule.operator.isRegex = true
  · have «matches» : rule.operator = .matches := eq_of_beq regex
    rw [if_pos regex, «matches», Operator.evaluate]
    cases Pattern.ofText rule.pattern with
    | error invalid => rfl
    | ok pattern =>
      -- The search that decides is the one that extracts.
      simp only [bind, Except.bind, Except.map, Pattern.isMatch]
      cases pattern.find? output.toList with
      | none => rfl
      | some captures => cases extract <;> rfl
  · rw [if_neg regex]
    cases rule.operator.evaluate output rule.pattern <;> rfl

theorem evaluate_of_apply (applied : rule.apply output extract = .ok (matched, extracted)) :
    rule.operator.evaluate output rule.pattern = .ok matched := by
  rw [← fst_apply rule output extract, applied]
  rfl

/-- A rule takes a value from an output: what the leftmost match of its pattern gives. -/
def Takes (rule : MatchRule) (output value : String) : Prop :=
  rule.operator = .matches ∧ ∃ pattern captures, Pattern.ofText rule.pattern = .ok pattern ∧
    pattern.find? output.toList = some captures ∧
    pattern.Gives captures output.toList value.toList

theorem Takes.isInfix {value : String} (takes : rule.Takes output value) :
    value.toList <:+: output.toList := by
  obtain ⟨-, pattern, captures, -, -, gives⟩ := takes
  exact gives.isInfix

theorem extracted_of_apply (applied : rule.apply output extract = .ok (true, extracted)) :
    (extracted.isSome = true ↔ extract = true ∧ rule.operator = .matches) ∧
      ∀ value, extracted = some value → rule.Takes output value := by
  unfold apply at applied
  by_cases regex : rule.operator.isRegex = true
  · have «matches» : rule.operator = .matches := eq_of_beq regex
    rw [if_pos regex] at applied
    cases compiled : Pattern.ofText rule.pattern with
    | error invalid =>
      rw [compiled] at applied
      cases applied
    | ok pattern =>
      rw [compiled] at applied
      simp only [bind, Except.bind] at applied
      cases found : pattern.find? output.toList with
      | none =>
        simp only [found] at applied
        cases applied
      | some captures =>
        simp only [found] at applied
        -- Only here is anything extracted: the pattern has matched, and it was asked for.
        cases extract with
        | false =>
          cases applied
          exact ⟨⟨nofun, fun asked => nomatch asked.1⟩, nofun⟩
        | true =>
          cases applied
          refine ⟨⟨fun _ => ⟨rfl, «matches»⟩, fun _ => rfl⟩, fun value same => ?_⟩
          cases same
          refine ⟨«matches», pattern, captures, compiled, found, ?_⟩
          rw [String.toList_ofList]
          exact Pattern.gives_of_find found
  · rw [if_neg regex] at applied
    have other : rule.operator ≠ .matches := fun «matches» => regex (by rw [«matches»]; rfl)
    cases answered : rule.operator.evaluate output rule.pattern with
    | error invalid =>
      rw [answered] at applied
      cases applied
    | ok holds =>
      rw [answered] at applied
      cases applied
      exact ⟨⟨nofun, fun asked => absurd asked.2 other⟩, nofun⟩

end MatchRule

/-! ### Verdicts -/

namespace Matching

def verdictOf (rule : Option MatchRule) (exitCode expected : Option Int32) (matched : Bool)
    (extracted : Option String) : Verdict :=
  match rule, matched, expected with
  | some rule, false, _ =>
    { matched := false, rejection := some (.patternNotSatisfied rule.operator rule.pattern) }
  | _, _, some code =>
    if exitCode = some code then { matched, extracted }
    else { matched, rejection := some (.exitCodeMismatch code exitCode) }
  | _, _, none => { matched, extracted }

section
variable {output : String} {exitCode expected : Option Int32} {rule : Option MatchRule}
  {extract matched : Bool} {extracted : Option String} {verdict : Verdict}

theorem evaluate_none :
    evaluate output exitCode none expected extract =
      .ok (verdictOf none exitCode expected true none) := by
  cases expected with
  | none => rfl
  | some code => by_cases same : exitCode = some code <;> simp [evaluate, verdictOf, same]

theorem evaluate_some (found : MatchRule) :
    evaluate output exitCode (some found) expected extract =
      (found.apply output extract).map fun answer =>
        verdictOf (some found) exitCode expected answer.1 answer.2 := by
  rw [evaluate]
  cases found.apply output extract with
  | error invalid => rfl
  | ok answer =>
    obtain ⟨matched, extracted⟩ := answer
    cases matched with
    | false => cases expected <;> rfl
    | true =>
      cases expected with
      | none => rfl
      | some code =>
        simp only [bind, Except.bind, Except.map, verdictOf]
        split <;> rfl

/-- What a verdict comes to: the rule is looked at first, then the exit code. -/
inductive Settled (rule : Option MatchRule) (exitCode expected : Option Int32)
    (extracted : Option String) : Bool → Verdict → Prop
  | unsatisfied {found : MatchRule} : rule = some found →
      Settled rule exitCode expected extracted false
        { matched := false, rejection := some (.patternNotSatisfied found.operator found.pattern) }
  | mismatched {code : Int32} : expected = some code → exitCode ≠ some code →
      Settled rule exitCode expected extracted true
        { matched := true, rejection := some (.exitCodeMismatch code exitCode) }
  | accepted : (∀ code, expected = some code → exitCode = some code) →
      Settled rule exitCode expected extracted true { matched := true, extracted }

theorem settled_verdictOf (always : rule = none → matched = true) :
    Settled rule exitCode expected extracted matched
      (verdictOf rule exitCode expected matched extracted) := by
  cases matched with
  | false =>
    cases rule with
    | none => cases always rfl
    | some found => exact .unsatisfied rfl
  | true =>
    cases expected with
    | none => cases rule <;> exact .accepted nofun
    | some code =>
      by_cases same : exitCode = some code
      · have accepted : Settled rule exitCode (some code) extracted true { matched := true, extracted } :=
          .accepted fun other wanted => by rw [same, wanted]
        cases rule <;> simpa only [verdictOf, if_pos same] using accepted
      · have mismatched : Settled rule exitCode (some code) extracted true
            { matched := true, rejection := some (.exitCodeMismatch code exitCode) } :=
          .mismatched rfl same
        cases rule <;> simpa only [verdictOf, if_neg same] using mismatched

theorem settled (judged : evaluate output exitCode rule expected extract = .ok verdict) :
    ∃ matched extracted, Settled rule exitCode expected extracted matched verdict ∧
      (rule = none → matched = true ∧ extracted = none) ∧
      ∀ found, rule = some found → found.apply output extract = .ok (matched, extracted) := by
  cases rule with
  | none =>
    rw [evaluate_none] at judged
    cases judged
    exact ⟨true, none, settled_verdictOf fun _ => rfl, fun _ => ⟨rfl, rfl⟩, nofun⟩
  | some found =>
    rw [evaluate_some] at judged
    cases applied : found.apply output extract with
    | error invalid =>
      rw [applied] at judged
      cases judged
    | ok answer =>
      obtain ⟨matched, extracted⟩ := answer
      rw [applied] at judged
      cases judged
      refine ⟨matched, extracted, settled_verdictOf nofun, nofun, fun other same => ?_⟩
      cases same
      exact applied

theorem extraction (free : rule = none → extracted = none)
    (applied : ∀ found, rule = some found → found.apply output extract = .ok (true, extracted)) :
    (extracted.isSome = true ↔
      extract = true ∧ ∃ found, rule = some found ∧ found.operator = .matches) ∧
    ∀ value, extracted = some value → ∃ found, rule = some found ∧ found.Takes output value := by
  cases rule with
  | none =>
    rw [free rfl]
    exact ⟨⟨nofun, fun ⟨_, _, absent, _⟩ => nomatch absent⟩, nofun⟩
  | some found =>
    obtain ⟨asked, takes⟩ := found.extracted_of_apply (applied found rfl)
    refine ⟨asked.trans (and_congr_right fun _ => ⟨fun regex => ⟨found, rfl, regex⟩, ?_⟩), ?_⟩
    · rintro ⟨other, same, regex⟩
      cases same
      exact regex
    · exact fun value same => ⟨found, rfl, takes value same⟩

/-- A verdict says of an output all that it has to, and nothing else. -/
structure Complete (output : String) (exitCode : Option Int32) (rule : Option MatchRule)
    (expected : Option Int32) (extract : Bool) (verdict : Verdict) : Prop where
  matched : verdict.matched = true ↔
    ∀ found, rule = some found → found.operator.evaluate output found.pattern = .ok true
  unsatisfied : (∃ operator pattern, verdict.rejection = some (.patternNotSatisfied operator pattern)) ↔
    verdict.matched = false
  mismatched : (∃ code actual, verdict.rejection = some (.exitCodeMismatch code actual)) ↔
    verdict.matched = true ∧ ∃ code, expected = some code ∧ exitCode ≠ some code
  accepted : verdict.rejection = none ↔
    verdict.matched = true ∧ ∀ code, expected = some code → exitCode = some code
  /-- A rejection names the rule that does not hold, or the two exit codes. -/
  named (rejection : Rejection) : verdict.rejection = some rejection →
    match rejection with
    | .patternNotSatisfied operator pattern => rule = some ⟨operator, pattern⟩
    | .exitCodeMismatch code actual => expected = some code ∧ actual = exitCode
  extracts : verdict.extracted.isSome = true ↔ verdict.rejection = none ∧ extract = true ∧
    ∃ found, rule = some found ∧ found.operator = .matches
  extracted (value : String) : verdict.extracted = some value →
    value.toList <:+: output.toList ∧ ∃ found, rule = some found ∧ found.Takes output value

theorem complete_of_evaluate
    (judged : evaluate output exitCode rule expected extract = .ok verdict) :
    Complete output exitCode rule expected extract verdict := by
  obtain ⟨matched, extracted, settled, free, applied⟩ := settled judged
  have answer (found : MatchRule) (defined : rule = some found) :=
    found.evaluate_of_apply (applied found defined)
  cases settled with
  | @unsatisfied found defined =>
    -- A rule that does not hold hides the exit code, whatever that is.
    have fails := answer found defined
    exact {
      matched := ⟨nofun, fun holds => by cases fails.symm.trans (holds found defined)⟩
      unsatisfied := ⟨fun _ => rfl, fun _ => ⟨_, _, rfl⟩⟩
      mismatched := ⟨nofun, nofun⟩
      accepted := ⟨nofun, nofun⟩
      named := fun rejection same => by cases same; exact defined
      extracts := ⟨nofun, nofun⟩
      extracted := nofun }
  | @mismatched code wanted differs =>
    exact {
      matched := ⟨fun _ => answer, fun _ => rfl⟩
      unsatisfied := ⟨nofun, nofun⟩
      mismatched := ⟨fun _ => ⟨rfl, code, wanted, differs⟩, fun _ => ⟨_, _, rfl⟩⟩
      accepted := ⟨nofun, fun same => absurd (same.2 code wanted) differs⟩
      named := fun rejection same => by cases same; exact ⟨wanted, rfl⟩
      extracts := ⟨nofun, nofun⟩
      extracted := nofun }
  | accepted same =>
    obtain ⟨extracts, takes⟩ := extraction (fun absent => (free absent).2) applied
    exact {
      matched := ⟨fun _ => answer, fun _ => rfl⟩
      unsatisfied := ⟨nofun, nofun⟩
      mismatched := ⟨nofun, fun ⟨_, code, wanted, differs⟩ => absurd (same code wanted) differs⟩
      accepted := ⟨fun _ => ⟨rfl, same⟩, fun _ => rfl⟩
      named := nofun
      extracts := extracts.trans ⟨fun asked => ⟨rfl, asked⟩, And.right⟩
      extracted := fun value same => by
        obtain ⟨found, defined, given⟩ := takes value same
        exact ⟨given.isInfix, found, defined, given⟩ }

theorem evaluate_eq_error_iff {invalid : InvalidPattern} :
    evaluate output exitCode rule expected extract = .error invalid ↔
      ∃ found, rule = some found ∧ found.operator = .matches ∧
        Pattern.ofText found.pattern = .error invalid := by
  cases rule with
  | none =>
    rw [evaluate_none]
    exact ⟨nofun, fun ⟨_, absent, _⟩ => nomatch absent⟩
  | some found =>
    have failing : evaluate output exitCode (some found) expected extract = .error invalid ↔
        found.operator.evaluate output found.pattern = .error invalid := by
      rw [evaluate_some, ← found.fst_apply output extract]
      cases found.apply output extract with
      | error other => exact ⟨fun failed => by cases failed; rfl, fun failed => by cases failed; rfl⟩
      | ok answer => exact ⟨nofun, nofun⟩
    rw [failing, Operator.evaluate_eq_error_iff]
    refine ⟨fun failed => ⟨found, rfl, failed⟩, ?_⟩
    rintro ⟨other, same, failed⟩
    cases same
    exact failed

theorem verdictOf_extracted (matched : Bool) (extracted : Option String) :
    ((verdictOf rule exitCode expected matched extracted).matched,
      (verdictOf rule exitCode expected matched extracted).rejection) =
    ((verdictOf rule exitCode expected matched none).matched,
      (verdictOf rule exitCode expected matched none).rejection) := by
  unfold verdictOf
  split
  · rfl
  · split <;> rfl
  · rfl

theorem evaluate_unextracted (extract other : Bool) :
    (evaluate output exitCode rule expected extract).map
        (fun verdict => (verdict.matched, verdict.rejection)) =
      (evaluate output exitCode rule expected other).map
        fun verdict => (verdict.matched, verdict.rejection) := by
  cases rule with
  | none => rw [evaluate_none, evaluate_none]
  | some found =>
    -- Both sides are what the operator makes of the output, and the exit code after it.
    have plain (asked : Bool) : (evaluate output exitCode (some found) expected asked).map
        (fun verdict => (verdict.matched, verdict.rejection)) =
          (found.operator.evaluate output found.pattern).map fun matched =>
            ((verdictOf (some found) exitCode expected matched none).matched,
              (verdictOf (some found) exitCode expected matched none).rejection) := by
      rw [evaluate_some, ← found.fst_apply output asked]
      cases found.apply output asked with
      | error invalid => rfl
      | ok answer => exact congrArg Except.ok (verdictOf_extracted answer.1 answer.2)
    rw [plain extract, plain other]

/-- An output is judged completely: no verdict exactly where a pattern does not compile, else one that
goes by the operator of the rule, by the exit code, and by the leftmost match. -/
theorem evaluation_complete (output : String) (exitCode : Option Int32) (rule : Option MatchRule)
    (expected : Option Int32) (extract : Bool) :
    (∀ invalid, evaluate output exitCode rule expected extract = .error invalid ↔
      ∃ found, rule = some found ∧ found.operator = .matches ∧
        Pattern.ofText found.pattern = .error invalid) ∧
    (∀ verdict, evaluate output exitCode rule expected extract = .ok verdict →
      Complete output exitCode rule expected extract verdict) ∧
    ∀ other, (evaluate output exitCode rule expected extract).map
        (fun verdict => (verdict.matched, verdict.rejection)) =
      (evaluate output exitCode rule expected other).map
        fun verdict => (verdict.matched, verdict.rejection) :=
  ⟨fun _ => evaluate_eq_error_iff, fun _ => complete_of_evaluate, evaluate_unextracted extract⟩

theorem evaluation_complete_on_group :
    let output := "v7, was v6"
    let rule : MatchRule := ⟨.matches, "v([0-9])"⟩
    let verdict : Verdict := { matched := true, extracted := some "7" }
    evaluate output (some 0) (some rule) (some 0) true = .ok verdict ∧
      Complete output (some 0) (some rule) (some 0) true verdict := by
  intro output rule verdict
  have judged : evaluate output (some 0) (some rule) (some 0) true = .ok verdict := by decide +kernel
  exact ⟨judged, (evaluation_complete output (some 0) (some rule) (some 0) true).2.1 verdict judged⟩

end

end Matching

end Runbook
