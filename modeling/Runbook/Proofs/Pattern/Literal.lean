import Runbook.Proofs.Number.Decimal
import Runbook.Workflow.Operator

/-! Texts without operators are patterns: they are read one character at a time, each into a set of its
own.
-/

set_option autoImplicit false

namespace Runbook.Pattern

/-- The characters that a pattern does not read as themselves. -/
def operators : List Char :=
  ['(', ')', '|', '[', '?', '*', '+', '{', '\\', '.', '^', '$']

def IsLiteral (c : Char) : Prop :=
  c.toNat < 0x80 ∧ c ∉ operators

instance (c : Char) : Decidable (IsLiteral c) :=
  inferInstanceAs (Decidable (_ ∧ _))

def literalPart (c : Char) : Part :=
  ⟨.chars (.single c.toNat), 0⟩

section
variable {c : Char} {cs : List Char}

theorem scalars_single {n : Nat} (ascii : n < 0x80) :
    (Unicode.RangeSet.single n).scalars = .single n := by
  have low : n < 0xD800 := by omega
  have notHigh : ¬0xDFFF < n := by omega
  have least : min n 0xD7FF = n := by omega
  simp only [Unicode.RangeSet.scalars, Unicode.RangeSet.single, List.flatMap_cons, List.flatMap_nil,
    if_pos low, if_neg notHigh, least, List.append_nil]

theorem read_of_literal (literal : IsLiteral c) (flags : Flags) :
    Atom.read flags (c :: cs) = some (.literal c false, cs) := by
  unfold Atom.read
  split
  case h_6 same =>
    cases same
    rfl
  case h_1 same => cases same
  all_goals
    rename_i same
    cases same
    exact absurd literal (by decide)

theorem expression_of_literal (literal : IsLiteral c) :
    (Atom.literal c false).expression? {} = some (.chars (.single c.toNat)) := by
  have same : Expression.ofSet (.single c.toNat) = .chars (.single c.toNat) :=
    congrArg Expression.chars (scalars_single literal.1)
  rw [← same]
  rfl

theorem step_of_literal (literal : IsLiteral c) {reader : Reader} (flags : reader.flags = {})
    (rest : reader.rest = c :: cs) : reader.step = some (reader.push (literalPart c) cs) := by
  unfold Reader.step
  rw [rest]
  simp only
  split
  case h_9 =>
    rw [read_of_literal literal, flags]
    simp only [bind, Option.bind, expression_of_literal literal]
    rfl
  all_goals exact absurd literal (by decide)

theorem skipBlank_of_flags {reader : Reader} (flags : reader.flags = {}) :
    reader.skipBlank = reader := by
  have plain : reader.flags.verbose = false := by rw [flags]
  rw [Reader.skipBlank, Flags.skip, plain, if_neg Bool.false_ne_true]

theorem steps_of_literals {reader : Reader} {fuel : Nat} (flags : reader.flags = {})
    (rest : reader.rest = cs) (literals : ∀ c ∈ cs, IsLiteral c) (enough : cs.length < fuel) :
    Reader.steps fuel reader = some { reader with
      rest := [], items := (cs.map fun c => some (literalPart c)).reverse ++ reader.items } := by
  induction cs generalizing reader fuel with
  | nil =>
    cases fuel with
    | zero => cases enough
    | succ left =>
      rw [Reader.steps]
      simp only [skipBlank_of_flags flags, rest, List.isEmpty_nil, if_true, List.map_nil,
        List.reverse_nil, List.nil_append]
      rw [← rest]
  | cons c cs ih =>
    cases fuel with
    | zero => cases enough
    | succ left =>
      obtain ⟨here, others⟩ := List.forall_mem_cons.1 literals
      have goesOn := @ih (reader.push (literalPart c) cs) left flags rfl others
        (Nat.lt_of_succ_lt_succ enough)
      rw [Reader.steps]
      simp only [skipBlank_of_flags flags, rest, List.isEmpty_cons, Bool.false_eq_true, if_false,
        step_of_literal here flags rest, Option.bind_some, goesOn]
      simp only [Reader.push, List.map_cons, List.reverse_cons, List.append_assoc, List.singleton_append]

theorem deepest_literals (cs : List Char) : Part.deepest (cs.map literalPart) = 0 := by
  rw [Part.deepest, List.map_map]
  induction cs with
  | nil => rfl
  | cons c cs ih => exact ih

def literalSequence (cs : List Char) : Expression :=
  .seqAll (cs.map fun c => .chars (.single c.toNat))

theorem branch_of_literals (cs : List Char) :
    ∃ depth ≤ 1, Reader.branch (cs.map fun c => some (literalPart c)).reverse =
      ⟨literalSequence cs, depth⟩ := by
  have parts : (cs.map fun c => some (literalPart c)).map (fun item => item.getD ⟨.empty, 0⟩) =
      cs.map literalPart := by
    rw [List.map_map]
    rfl
  have expressions : ((cs.map fun c => some (literalPart c)).filterMap fun item =>
      item.map Part.expression) = cs.map fun c => .chars (.single c.toNat) := by
    rw [List.filterMap_map]
    exact congrFun List.filterMap_eq_map cs
  simp only [Reader.branch, List.reverse_reverse, parts, expressions, Part.joined,
    deepest_literals]
  refine ⟨_, ?_, rfl⟩
  split <;> decide

theorem parse_of_literals {text : String} (literals : ∀ c ∈ text.toList, IsLiteral c) :
    ∃ parsed, parse? text = some parsed ∧ parsed.expression = literalSequence text.toList := by
  have read := @steps_of_literals text.toList { rest := text.toList } (text.toList.length + 1) rfl rfl
    literals (Nat.lt_succ_self _)
  obtain ⟨depth, shallow, branch⟩ := branch_of_literals text.toList
  rw [List.append_nil] at read
  have whole (names : List (Option String)) : Reader.alternatives
      { rest := [], items := (text.toList.map fun c => some (literalPart c)).reverse, names } =
        ⟨literalSequence text.toList, depth⟩ := by
    simp only [Reader.alternatives, branch, List.reverse_cons, List.reverse_nil, List.nil_append,
      Part.joined, List.map_cons, List.map_nil, Expression.altAll, List.length_cons, List.length_nil]
    simp [Part.deepest]
  unfold parse?
  simp only [read, Option.bind_eq_bind, Option.bind_some, whole]
  have within : ¬Part.depthLimit < depth := by
    rw [Part.depthLimit]
    omega
  rw [if_neg within]
  exact ⟨_, rfl, rfl⟩

theorem sizeBound_single {n : Nat} (ascii : n < 0x80) :
    (Expression.chars (.single n)).sizeBound = 108 := by
  have inside : n ≤ 0x7F ∧ min n 0x7F = n := by omega
  have outside (least greatest : Nat) (beyond : 0x80 ≤ least) : ¬max n least ≤ min n greatest := by
    omega
  have only : Encoding.sequences (.single n) = [[⟨n, n⟩]] := by
    simp only [Encoding.sequences, Unicode.RangeSet.single, Encoding.bands, List.flatMap_cons,
      List.flatMap_nil, List.append_nil, Encoding.ofRange, Nat.max_zero, inside.2, le_refl, if_true,
      Encoding.ofInterval, Nat.zero_add]
    rw [if_neg (outside _ _ (by decide)), if_neg (outside _ _ (by decide)),
      if_neg (outside _ _ (by decide)), if_neg (outside _ _ (by decide))]
    rfl
  rw [Expression.sizeBound, only]
  rfl

theorem sizeBound_of_literals {cs : List Char} (literals : ∀ c ∈ cs, IsLiteral c) :
    (literalSequence cs).sizeBound ≤ 32 + 108 * cs.length := by
  have flat : (cs.map fun c => Expression.chars (.single c.toNat)).flatMap Expression.parts =
      cs.map fun c => .chars (.single c.toNat) := by
    rw [List.flatMap_map]
    exact List.map_eq_flatMap.symm
  rw [literalSequence, Expression.seqAll, flat]
  clear flat
  induction cs with
  | nil => decide
  | cons c cs ih =>
    obtain ⟨here, others⟩ := List.forall_mem_cons.1 literals
    have size := sizeBound_single here.1
    have rest := ih others
    cases cs with
    | nil =>
      rw [List.map_cons, List.map_nil, Expression.seqAll.chain, size, List.length_singleton]
      decide
    | cons second more =>
      rw [List.map_cons] at rest
      rw [List.map_cons, List.map_cons, Expression.seqAll.chain, Expression.sizeBound, size,
        List.length_cons]
      · omega
      · exact List.cons_ne_nil _ _

/-- A text without operators is a pattern unless it is very long. -/
theorem ofText_of_literals {text : String} (literals : ∀ c ∈ text.toList, IsLiteral c)
    (short : text.toList.length ≤ 1000) : ∃ pattern, Pattern.ofText text = .ok pattern := by
  obtain ⟨parsed, read, expression⟩ := parse_of_literals literals
  have size := sizeBound_of_literals literals
  rw [← expression] at size
  have small : parsed.expression.isTooLarge = false := by
    have within : parsed.expression.sizeBound + 1000 ≤ sizeLimit := by
      rw [sizeLimit]
      omega
    rw [Expression.isTooLarge, if_pos within]
  simp only [Pattern.ofText, compile, read, small, Bool.false_eq_true, if_false]
  exact ⟨_, rfl⟩

end

/-! ### Numbers -/

theorem isLiteral_of_isDigit {c : Char} (digit : c.isDigit = true) : IsLiteral c := by
  refine ⟨?_, fun operator => ?_⟩
  · have below : c.toNat ≤ 57 := (Char.isDigit_iff_toNat.1 digit).2
    omega
  · have none : operators.all (fun c => !c.isDigit) = true := by decide
    have other := List.all_eq_true.1 none c operator
    rw [digit] at other
    cases other

theorem literals_of_digits (n : Nat) : ∀ c ∈ Nat.toDigits 10 n, IsLiteral c :=
  fun _ member => isLiteral_of_isDigit (Number.Decimal.isDigit_of_mem member)

theorem ofText_toString (n : Int32) : ∃ pattern, Pattern.ofText (toString n) = .ok pattern := by
  have text : (toString n).toList = _ := Number.Decimal.toList_toString n.toInt
  have small : n.toInt.natAbs < 10 ^ 10 := by
    have least := n.le_toInt
    have greatest := n.toInt_lt
    omega
  have digits := Nat.toDigits_length 10 n.toInt.natAbs 10 (by decide) small
  apply ofText_of_literals
  · rw [text]
    refine List.forall_mem_append.2 ⟨?_, literals_of_digits _⟩
    split
    · exact List.forall_mem_singleton.2 (by decide)
    · exact fun _ member => absurd member List.not_mem_nil
  · rw [text, List.length_append]
    split
    · rw [List.length_singleton]
      omega
    · rw [List.length_nil]
      omega

end Runbook.Pattern
