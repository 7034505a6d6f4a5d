import Runbook.Document.JsonPrinter
import Runbook.Document.Reading
import Runbook.Proofs.Document.Conveyance
import Runbook.Proofs.Number.Decimal

/-! JSON text that a printer wrote is read as the value it was written for.

Both printers are one that lays out its text with more or less white space. The reader is followed
along this text, with anything behind it that could not be more of a number.
-/

set_option autoImplicit false

namespace Runbook.Document

namespace JsonText

open JsonPrinter Number

/-! ## Strings -/

/-- How a character stands in a string: a letter behind a backslash, four hexadecimal digits or
itself. -/
inductive Escapes (c : Char) : List Char → Prop where
  | letter {letter : Char} (other : letter ≠ 'u') (known : escaped? letter = some c) :
    Escapes c ['\\', letter]
  | unit {a b : Char} (control : c.toNat < 0x20) (digits : hexUnit? '0' '0' a b = some c.toNat) :
    Escapes c ['\\', 'u', '0', '0', a, b]
  | plain (quote : c ≠ '"') (backslash : c ≠ '\\') (printable : ¬c.toNat < 0x20) : Escapes c [c]

theorem hexUnit?_hexDigit :
    ∀ n < 0x20, hexUnit? '0' '0' (hexDigit (n / 16)) (hexDigit (n % 16)) = some n := by
  decide

theorem escapes (c : Char) : Escapes c (escape c) := by
  unfold escape
  split
  case h_8 quote backslash _ _ _ _ _ =>
    split
    next control => exact .unit control (hexUnit?_hexDigit c.toNat control)
    next printable => exact .plain quote backslash printable
  all_goals exact .letter (by decide) rfl

theorem stringBody_unit {c a b : Char} {tail : List Char} (control : c.toNat < 0x20)
    (digits : hexUnit? '0' '0' a b = some c.toNat)
    (next : ∀ e f g h rest, tail = '\\' :: 'u' :: e :: f :: g :: h :: rest →
      ∃ unit, hexUnit? e f g h = some unit) :
    stringBody ('\\' :: 'u' :: '0' :: '0' :: a :: b :: tail) =
      prepend (some c) (stringBody tail) := by
  -- A control character is no half of a surrogate pair, so the unit stands for itself.
  have high : isHigh c.toNat = false := by simp [isHigh]; omega
  have low : isLow c.toNat = false := by simp [isLow]; omega
  have same : Char.ofNat c.toNat = c := Char.ofNat_toNat c
  conv_lhs => unfold stringBody
  split
  case h_3 split =>
    simp only [List.cons.injEq, true_and] at split
    obtain ⟨rfl, rfl, rfl, rfl, rfl⟩ := split
    obtain ⟨unit, following⟩ := next _ _ _ _ _ rfl
    simp [digits, following, high, low, same]
  case h_4 split =>
    simp only [List.cons.injEq, true_and] at split
    obtain ⟨rfl, rfl, rfl, rfl, rfl⟩ := split
    simp [digits, high, low, same]
  case h_5 unlike split =>
    simp only [List.cons.injEq, true_and] at split
    obtain ⟨rfl, rfl⟩ := split
    exact (unlike _ _ _ _ _ rfl rfl).elim
  case h_6 unlike split =>
    simp only [List.cons.injEq] at split
    obtain ⟨rfl, rfl⟩ := split
    exact (unlike _ _ rfl rfl).elim
  all_goals simp at *

/-- What is written of a text never starts like a unit that is none. -/
theorem hexUnit?_of_escapes {text rest tail : List Char} {e f g h : Char}
    (split : text.flatMap escape ++ '"' :: rest = '\\' :: 'u' :: e :: f :: g :: h :: tail) :
    ∃ unit, hexUnit? e f g h = some unit := by
  cases text with
  | nil => simp at split
  | cons c text =>
    have form := escapes c
    rw [List.flatMap_cons] at split
    generalize escape c = written at form split
    cases form with
    | letter other _ => simp [other] at split
    | unit _ digits =>
      simp only [List.cons_append, List.cons.injEq, true_and] at split
      obtain ⟨rfl, rfl, rfl, rfl, -⟩ := split
      exact ⟨_, digits⟩
    | plain _ backslash _ => simp [backslash] at split

theorem stringBody_escape (text rest : List Char) :
    stringBody (text.flatMap escape ++ '"' :: rest) = some (some text, rest) := by
  induction text with
  | nil => rfl
  | cons c text ih =>
    have form := escapes c
    rw [List.flatMap_cons, List.append_assoc]
    generalize escape c = written at form
    cases form with
    | letter other known =>
      simp only [List.cons_append, List.nil_append]
      rw [stringBody, known, ih]
      · rfl
      all_goals intros; contradiction
    | unit control digits =>
      simp only [List.cons_append, List.nil_append]
      rw [stringBody_unit control digits fun _ _ _ _ _ => hexUnit?_of_escapes, ih]
      rfl
    | plain quote backslash printable =>
      simp only [List.cons_append, List.nil_append]
      rw [stringBody, if_neg printable, ih]
      · rfl
      all_goals intros; contradiction

/-! ## Numbers -/

def Ends (rest : List Char) : Prop :=
  ∀ c ∈ rest.head?, c.isDigit = false ∧ c ≠ '.' ∧ c ≠ 'e' ∧ c ≠ 'E'

theorem Ends.nil : Ends [] :=
  nofun

theorem Ends.cons {c : Char} (other : c.isDigit = false ∧ c ≠ '.' ∧ c ≠ 'e' ∧ c ≠ 'E')
    (rest : List Char) : Ends (c :: rest) := by
  rintro _ ⟨⟩
  exact other

theorem digits1_toDigits {n : Nat} {rest : List Char} (ends : Ends rest) :
    digits1 (Nat.toDigits 10 n ++ rest) = some (Nat.toDigits 10 n, rest) := by
  have digits : (Nat.toDigits 10 n ++ rest).takeWhile Char.isDigit = Nat.toDigits 10 n :=
    Decimal.takeWhile_digits (fun _ inside => Decimal.isDigit_of_mem inside) fun c inside =>
      (ends c inside).1
  simp [digits1, digits, Nat.toDigits_ne_nil]

theorem numeral_toString {n : Int} {rest : List Char} (ends : Ends rest) :
    numeral ((toString n).toList ++ rest) =
      some (⟨n < 0, Nat.toDigits 10 n.natAbs, none, none⟩, rest) := by
  have leading : ¬(1 < (Nat.toDigits 10 n.natAbs).length ∧
      (Nat.toDigits 10 n.natAbs).head? = some '0') := by
    rintro ⟨long, zero⟩
    rcases Nat.eq_zero_or_pos n.natAbs with none | positive
    · simp [none] at long
    · exact Decimal.head?_toDigits positive zero
  have point : ∀ behind, rest ≠ '.' :: behind := fun behind same => by
    simpa [same] using ends '.' (by simp [same])
  have lower : ∀ behind, rest ≠ 'e' :: behind := fun behind same => by
    simpa [same] using ends 'e' (by simp [same])
  have upper : ∀ behind, rest ≠ 'E' :: behind := fun behind same => by
    simpa [same] using ends 'E' (by simp [same])
  -- A minus in front is the sign, since none is a digit.
  have unsigned : ∀ behind, Nat.toDigits 10 n.natAbs ++ rest ≠ '-' :: behind := by
    intro behind same
    obtain ⟨c, tail, split, digit⟩ := Decimal.exists_digit n.natAbs rest
    cases split.symm.trans same
    cases digit
  rw [Decimal.toList_toString]
  by_cases negative : n < 0
  · simp [numeral, negative, digits1_toDigits ends, leading]
  · simp [numeral, negative, digits1_toDigits ends, leading]

theorem value_toString {n : Int} (machine : Value.isMachineInteger n = true) :
    Numeral.value ⟨n < 0, Nat.toDigits 10 n.natAbs, none, none⟩ = .integer n := by
  have digits : digitsValue (Nat.toDigits 10 n.natAbs) = n.natAbs := Nat.ofDigitChars_ten_toDigits
  simp only [Numeral.value, digits]
  simp only [Value.isMachineInteger, Bool.or_eq_true, Interval.contains_iff, Interval.int64,
    Interval.uint64] at machine
  by_cases negative : n < 0
  · have same : -(n.natAbs : Int) = n := by omega
    have inside : Interval.int64.contains n = true :=
      Interval.contains_iff.2 (by simp only [Interval.int64]; omega)
    rw [same]
    simp only [negative, decide_true, if_true]
    rw [if_pos ⟨by omega, inside⟩]
  · have small : n.natAbs < Numeral.limit := by
      simp only [Numeral.limit]
      omega
    have same : (n.natAbs : Int) = n := by omega
    simp [negative, small, same]

/-! ## Blanks -/

theorem skipSpace_append {blank cs : List Char} (all : ∀ c ∈ blank, isSpace c = true) :
    skipSpace (blank ++ cs) = skipSpace cs :=
  List.dropWhile_append_of_pos all

theorem skipSpace_cons {c : Char} {cs : List Char} (solid : isSpace c = false) :
    skipSpace (c :: cs) = c :: cs := by
  rw [skipSpace, List.dropWhile_cons_of_neg (by simp [solid])]

theorem value_append {blank : List Char} (all : ∀ c ∈ blank, isSpace c = true) (fuel depth : Nat)
    (cs : List Char) : value fuel depth (blank ++ cs) = value fuel depth cs := by
  cases fuel with
  | zero => rfl
  | succ left => rw [value, value, skipSpace_append all]

theorem Ends.of_isSpace {c : Char} {rest : List Char} (space : isSpace c = true) :
    Ends (c :: rest) := by
  refine .cons ?_ rest
  simp only [isSpace, Bool.or_eq_true, beq_iff_eq] at space
  rcases space with ((rfl | rfl) | rfl) | rfl <;> decide

theorem Ends.append {blank rest : List Char} (all : ∀ c ∈ blank, isSpace c = true)
    (ends : Ends rest) : Ends (blank ++ rest) := by
  cases blank with
  | nil => exact ends
  | cons c blank => exact .of_isSpace (all c List.mem_cons_self)

/-! ## Layouts -/

/-- The white space of a printer: in front of an item, a member or a closing bracket at a depth, and
behind a colon. -/
structure Layout where
  gap : Nat → List Char
  space : List Char
  blank_gap : ∀ depth, ∀ c ∈ gap depth, isSpace c = true
  blank_space : ∀ c ∈ space, isSpace c = true

namespace Layout

def line : Layout where
  gap _ := []
  space := []
  blank_gap := nofun
  blank_space := nofun

def page : Layout where
  gap := newLine
  space := [' ']
  blank_gap depth c inside := by
    rcases List.mem_cons.1 inside with rfl | blank
    · rfl
    · rw [List.eq_of_mem_replicate blank]
      rfl
  blank_space c inside := by
    rw [List.mem_singleton.1 inside]
    rfl

mutual

def spell (layout : Layout) (depth : Nat) : Value → List Char
  | .array [] => ['[', ']']
  | .object [] => ['{', '}']
  | .array items => '[' :: (layout.spellItems (depth + 1) items ++ (layout.gap depth ++ [']']))
  | .object members =>
    '{' :: (layout.spellMembers (depth + 1) members ++ (layout.gap depth ++ ['}']))
  | leaf => leafText leaf

def spellItems (layout : Layout) (depth : Nat) : List Value → List Char
  | [] => []
  | [only] => layout.gap depth ++ layout.spell depth only
  | first :: rest =>
    layout.gap depth ++ (layout.spell depth first ++ ',' :: layout.spellItems depth rest)

def spellMembers (layout : Layout) (depth : Nat) : List (String × Value) → List Char
  | [] => []
  | [(name, only)] =>
    layout.gap depth ++ (stringText name ++ ':' :: (layout.space ++ layout.spell depth only))
  | (name, first) :: rest =>
    layout.gap depth ++ (stringText name ++ ':' :: (layout.space ++ (layout.spell depth first ++
      ',' :: layout.spellMembers depth rest)))

end

mutual

theorem compactValue_eq (depth : Nat) : ∀ value : Value, compactValue value = line.spell depth value
  | .null | .boolean _ | .integer _ | .float _ | .string _ | .moment _ | .broken => by
    simp [compactValue, spell]
  | .array [] | .object [] => by simp [compactValue, compactItems, compactMembers, spell]
  | .array (first :: rest) => by
    simp [compactValue, spell, line, compactItems_eq (depth + 1) (first :: rest)]
  | .object (first :: rest) => by
    simp [compactValue, spell, line, compactMembers_eq (depth + 1) (first :: rest)]

theorem compactItems_eq (depth : Nat) :
    ∀ items : List Value, compactItems items = line.spellItems depth items
  | [] => by simp [compactItems, spellItems]
  | [only] => by simp [compactItems, spellItems, line, compactValue_eq depth only]
  | first :: second :: rest => by
    simp [compactItems, spellItems, line, compactValue_eq depth first,
      compactItems_eq depth (second :: rest)]

theorem compactMembers_eq (depth : Nat) :
    ∀ members : List (String × Value), compactMembers members = line.spellMembers depth members
  | [] => by simp [compactMembers, spellMembers]
  | [(name, only)] => by simp [compactMembers, spellMembers, line, compactValue_eq depth only]
  | (name, first) :: second :: rest => by
    simp [compactMembers, spellMembers, line, compactValue_eq depth first,
      compactMembers_eq depth (second :: rest)]

end

mutual

theorem prettyValue_eq :
    ∀ (depth : Nat) (value : Value), prettyValue depth value = page.spell depth value
  | _, .null | _, .boolean _ | _, .integer _ | _, .float _ | _, .string _ | _, .moment _
  | _, .broken => by simp [prettyValue, spell]
  | _, .array [] | _, .object [] => by simp [prettyValue, spell]
  | depth, .array (first :: rest) => by
    simp [prettyValue, spell, page, prettyItems_eq (depth + 1) (first :: rest)]
  | depth, .object (first :: rest) => by
    simp [prettyValue, spell, page, prettyMembers_eq (depth + 1) (first :: rest)]

theorem prettyItems_eq :
    ∀ (depth : Nat) (items : List Value), prettyItems depth items = page.spellItems depth items
  | _, [] => by simp [prettyItems, spellItems]
  | depth, [only] => by simp [prettyItems, spellItems, page, prettyValue_eq depth only]
  | depth, first :: second :: rest => by
    simp [prettyItems, spellItems, page, prettyValue_eq depth first,
      prettyItems_eq depth (second :: rest)]

theorem prettyMembers_eq :
    ∀ (depth : Nat) (members : List (String × Value)),
      prettyMembers depth members = page.spellMembers depth members
  | _, [] => by simp [prettyMembers, spellMembers]
  | depth, [(name, only)] => by simp [prettyMembers, spellMembers, page, prettyValue_eq depth only]
  | depth, (name, first) :: second :: rest => by
    simp [prettyMembers, spellMembers, page, prettyValue_eq depth first,
      prettyMembers_eq depth (second :: rest)]

end

end Layout

/-! ## Reading what was laid out -/

theorem numeral_bracket (rest : List Char) : numeral (']' :: rest) = none := by
  simp [numeral, digits1]

theorem items_bracket {cs rest : List Char} (empty : skipSpace cs = ']' :: rest)
    (fuel depth : Nat) : items fuel depth cs = none := by
  rcases fuel with _ | _ | left
  · rfl
  · rfl
  · simp [items, value, empty, numeral_bracket]

theorem members_brace {cs rest : List Char} (empty : skipSpace cs = '}' :: rest)
    (fuel depth : Nat) : members fuel depth cs = none := by
  cases fuel with
  | zero => rfl
  | succ left => simp [members, empty]

theorem limited_eq {depth : Nat} (within : depth ≤ depthLimit) (value : Value) :
    limited depth value = value :=
  if_neg (Nat.not_lt.2 within)

theorem value_array {left depth : Nat} {cs rest : List Char} {all : List Value}
    (shallow : depth + 1 ≤ depthLimit)
    (inside : items left (depth + 1) cs = some (all, rest)) :
    value (left + 1) depth ('[' :: cs) = some (.array all, rest) := by
  have filled : ∀ rest, skipSpace cs ≠ ']' :: rest := fun _ empty => by
    simp [items_bracket empty] at inside
  simp [value, skipSpace_cons (c := '[') rfl, inside, limited_eq shallow]

theorem value_object {left depth : Nat} {cs rest : List Char} {all : List Member}
    (shallow : depth + 1 ≤ depthLimit)
    (inside : members left (depth + 1) cs = some (some all, rest)) :
    value (left + 1) depth ('{' :: cs) = some (.object all, rest) := by
  have filled : ∀ rest, skipSpace cs ≠ '}' :: rest := fun _ empty => by
    simp [members_brace empty] at inside
  simp [value, skipSpace_cons (c := '{') rfl, inside, limited_eq shallow]

theorem value_integer {n : Int} {left depth : Nat} {rest : List Char}
    (machine : Value.isMachineInteger n = true) (ends : Ends rest) :
    value (left + 1) depth ((toString n).toList ++ rest) = some (.integer n, rest) := by
  have read := numeral_toString (n := n) ends
  have head : ∃ c tail, (toString n).toList ++ rest = c :: tail ∧ (c.isDigit = true ∨ c = '-') := by
    rw [Decimal.toList_toString]
    split
    · exact ⟨'-', _, rfl, .inr rfl⟩
    · obtain ⟨c, tail, split, digit⟩ := Decimal.exists_digit n.natAbs rest
      exact ⟨c, tail, split, .inl digit⟩
  obtain ⟨c, tail, split, start⟩ := head
  -- A number starts with neither a blank nor the first character of any other kind of value.
  have solid : isSpace c = false := by
    rcases start with digit | rfl
    · refine Bool.eq_false_iff.2 fun space => ?_
      have ends : Ends [c] := .of_isSpace space
      rw [(ends c rfl).1] at digit
      cases digit
    · rfl
  rw [split] at read
  rw [value, split, skipSpace_cons solid]
  split
  case h_7 => simp [read, value_toString machine]
  all_goals
    next same =>
      cases same
      rcases start with digit | minus
      · cases digit
      · cases minus

section

variable {layout : Layout} {levels : Nat}

theorem length_spell_pos {v : Value} (plain : v.IsPlain levels) (indent : Nat) :
    0 < (layout.spell indent v).length := by
  cases plain with
  | null => simp [Layout.spell, leafText]
  | boolean b => cases b <;> simp [Layout.spell, leafText]
  | @integer _ n _ =>
    have digits := Nat.length_toDigits_pos (b := 10) (n := n.natAbs)
    rw [Layout.spell, leafText, Decimal.toList_toString, List.length_append]
    · omega
    all_goals nofun
  | string text => simp [Layout.spell, leafText, stringText]
  | @array _ items _ => cases items <;> simp [Layout.spell]
  | @object _ members _ => cases members <;> simp [Layout.spell]

/-- A value is read wherever it stands, if the limit leaves room for its containers and `fuel` for
its text. -/
def IsRead (layout : Layout) (levels : Nat) (v : Value) : Prop :=
  ∀ (fuel depth indent : Nat) (rest : List Char), depth + levels ≤ depthLimit →
    (layout.spell indent v).length ≤ fuel → Ends rest →
    value fuel depth (layout.spell indent v ++ rest) = some (v, rest)

theorem items_spell {first : Value} {others : List Value} {fuel depth indent : Nat}
    {blank rest : List Char} (each : ∀ item ∈ first :: others, IsRead layout levels item)
    (within : depth + levels ≤ depthLimit)
    (enough : (layout.spellItems indent (first :: others)).length < fuel)
    (spaces : ∀ c ∈ blank, isSpace c = true) :
    items fuel depth (layout.spellItems indent (first :: others) ++ (blank ++ ']' :: rest)) =
      some (first :: others, rest) := by
  induction others generalizing first fuel with
  | nil =>
    obtain ⟨left, rfl⟩ := Nat.exists_eq_succ_of_ne_zero (Nat.ne_zero_of_lt enough)
    simp only [Layout.spellItems, List.length_append] at enough
    have here := each first List.mem_cons_self left depth indent (blank ++ ']' :: rest) within
      (by omega) (Ends.append spaces (.cons (by decide) rest))
    simp [items, Layout.spellItems, value_append (layout.blank_gap indent), here,
      skipSpace_append spaces, skipSpace_cons (c := ']') rfl]
  | cons second others ih =>
    obtain ⟨left, rfl⟩ := Nat.exists_eq_succ_of_ne_zero (Nat.ne_zero_of_lt enough)
    simp only [Layout.spellItems, List.length_append, List.length_cons] at enough
    have here := each first List.mem_cons_self left depth indent
      (',' :: (layout.spellItems indent (second :: others) ++ (blank ++ ']' :: rest))) within
      (by omega) (.cons (by decide) _)
    -- What is spelled of the others is shorter by what was read, so the fuel suffices for them.
    have shorter : (layout.spellItems indent (second :: others)).length < left := by omega
    have behind := ih (fun item inside => each item (List.mem_cons_of_mem first inside)) shorter
    simp [items, Layout.spellItems, value_append (layout.blank_gap indent), here, behind,
      skipSpace_cons (c := ',') rfl]

theorem members_spell {first : Member} {others : List Member} {fuel depth indent : Nat}
    {blank rest : List Char} (each : ∀ member ∈ first :: others, IsRead layout levels member.2)
    (within : depth + levels ≤ depthLimit)
    (enough : (layout.spellMembers indent (first :: others)).length < fuel)
    (spaces : ∀ c ∈ blank, isSpace c = true) :
    members fuel depth (layout.spellMembers indent (first :: others) ++ (blank ++ '}' :: rest)) =
      some (some (first :: others), rest) := by
  induction others generalizing first fuel with
  | nil =>
    obtain ⟨left, rfl⟩ := Nat.exists_eq_succ_of_ne_zero (Nat.ne_zero_of_lt enough)
    obtain ⟨name, only⟩ := first
    simp only [Layout.spellMembers, List.length_append, List.length_cons] at enough
    have reads : IsRead layout levels only := each _ List.mem_cons_self
    have here := reads left depth indent (blank ++ '}' :: rest) within (by omega)
      (Ends.append spaces (.cons (by decide) rest))
    simp [members, Layout.spellMembers, stringText, skipSpace_append (layout.blank_gap indent),
      skipSpace_cons (c := '"') rfl, stringBody_escape, skipSpace_cons (c := ':') rfl,
      value_append layout.blank_space, here, skipSpace_append spaces, skipSpace_cons (c := '}') rfl]
  | cons second others ih =>
    obtain ⟨left, rfl⟩ := Nat.exists_eq_succ_of_ne_zero (Nat.ne_zero_of_lt enough)
    obtain ⟨name, value⟩ := first
    simp only [Layout.spellMembers, List.length_append, List.length_cons] at enough
    have reads : IsRead layout levels value := each _ List.mem_cons_self
    have here := reads left depth indent
      (',' :: (layout.spellMembers indent (second :: others) ++ (blank ++ '}' :: rest))) within
      (by omega) (.cons (by decide) _)
    have shorter : (layout.spellMembers indent (second :: others)).length < left := by omega
    have behind := ih (fun member inside => each member (List.mem_cons_of_mem _ inside)) shorter
    simp [members, Layout.spellMembers, stringText, skipSpace_append (layout.blank_gap indent),
      skipSpace_cons (c := '"') rfl, stringBody_escape, skipSpace_cons (c := ':') rfl,
      value_append layout.blank_space, here, behind, skipSpace_cons (c := ',') rfl]

theorem IsRead.of_succ {v : Value} (plain : v.IsPlain levels)
    (read : ∀ (left depth indent : Nat) (rest : List Char), depth + levels ≤ depthLimit →
      (layout.spell indent v).length ≤ left + 1 → Ends rest →
      value (left + 1) depth (layout.spell indent v ++ rest) = some (v, rest)) :
    IsRead layout levels v := by
  intro fuel depth indent rest within enough ends
  have positive := Nat.lt_of_lt_of_le (length_spell_pos plain indent) enough
  obtain ⟨left, rfl⟩ := Nat.exists_eq_add_of_le' positive
  exact read left depth indent rest within enough ends

/-- Every plain value that is not nested too deep is read where it is laid out. The induction is on
what makes it plain, so that of a container all parts are known to be read. -/
theorem value_spell {v : Value} (plain : v.IsPlain levels) : IsRead layout levels v := by
  induction plain with
  | null =>
    refine .of_succ .null fun left depth indent rest _ _ _ => ?_
    simp [Layout.spell, leafText, value, skipSpace_cons (c := 'n') rfl]
  | boolean b =>
    refine .of_succ (.boolean b) fun left depth indent rest _ _ _ => ?_
    cases b
    · simp [Layout.spell, leafText, value, skipSpace_cons (c := 'f') rfl]
    · simp [Layout.spell, leafText, value, skipSpace_cons (c := 't') rfl]
  | integer machine =>
    refine .of_succ (.integer machine) fun left depth indent rest _ _ ends => ?_
    simpa only [Layout.spell, leafText] using value_integer machine ends
  | string text =>
    refine .of_succ (.string text) fun left depth indent rest _ _ _ => ?_
    simp [Layout.spell, leafText, stringText, value, skipSpace_cons (c := '"') rfl,
      stringBody_escape]
  | @array levels all each ih =>
    refine .of_succ (.array each) fun left depth indent rest within enough _ => ?_
    have shallow : depth + 1 ≤ depthLimit := by omega
    cases all with
    | nil =>
      simp [Layout.spell, value, skipSpace_cons (c := '[') rfl, skipSpace_cons (c := ']') rfl,
        limited_eq shallow]
    | cons first others =>
      simp only [Layout.spell, List.length_append, List.length_cons] at enough
      simp only [Layout.spell, List.cons_append, List.append_assoc, List.nil_append]
      exact value_array shallow <|
        items_spell ih (by omega) (by omega) (layout.blank_gap indent)
  | @object levels all each ih =>
    refine .of_succ (.object each) fun left depth indent rest within enough _ => ?_
    have shallow : depth + 1 ≤ depthLimit := by omega
    cases all with
    | nil =>
      simp [Layout.spell, value, skipSpace_cons (c := '{') rfl, skipSpace_cons (c := '}') rfl,
        limited_eq shallow]
    | cons first others =>
      simp only [Layout.spell, List.length_append, List.length_cons] at enough
      simp only [Layout.spell, List.cons_append, List.append_assoc, List.nil_append]
      exact value_object shallow <|
        members_spell ih (by omega) (by omega) (layout.blank_gap indent)

end

theorem parse?_spell (layout : Layout) {levels : Nat} {v : Value} (plain : v.IsPlain levels)
    (within : levels ≤ depthLimit) : parse? (String.ofList (layout.spell 0 v)) = some v := by
  have reads : IsRead layout levels v := value_spell plain
  have read := reads (2 * (layout.spell 0 v).length + 2) 0 0 [] (by omega) (by omega) .nil
  rw [List.append_nil] at read
  simp only [parse?, String.toList_ofList, read, bind, Option.bind]
  rfl

theorem parse?_compact {levels : Nat} {v : Value} (plain : v.IsPlain levels)
    (within : levels ≤ depthLimit) : parse? (compact v) = some v := by
  rw [compact, Layout.compactValue_eq 0]
  exact parse?_spell .line plain within

theorem parse?_pretty {levels : Nat} {v : Value} (plain : v.IsPlain levels)
    (within : levels ≤ depthLimit) : parse? (pretty v) = some v := by
  rw [pretty, Layout.prettyValue_eq]
  exact parse?_spell .page plain within

end JsonText

theorem Conveys.readWith {α : Type} {decode : Decoder α} {levels : Nat}
    {value : Value} {a : α} (conveyed : Conveys decode .json levels value a)
    (within : levels ≤ JsonText.depthLimit) :
    ∀ print ∈ [JsonPrinter.compact, JsonPrinter.pretty],
      Document.readWith decode .json (print value) = .ok a := by
  intro print among
  have told : JsonText.parse? (print value) = some value := by
    rcases List.mem_pair.1 among with rfl | rfl
    · exact JsonText.parse?_compact conveyed.plain within
    · exact JsonText.parse?_pretty conveyed.plain within
  simp only [Document.readWith, parse?, told, conveyed.read]

end Runbook.Document
