import Mathlib
import Runbook.Proofs.Configuration.Overlay
import Runbook.Proofs.Pattern.Search
import Runbook.Proofs.Run.Conveyance

/-! Identifiers of workflows and of runs: each kind takes the texts of its grammar and no others, and
numbers have identifiers of their own, as long as their digits suffice.
-/

set_option autoImplicit false

namespace Runbook

open Document

def lineBreaks : List Char :=
  ['\n', '\r', '\x0b', '\x0c', '\u0085', '\u2028', '\u2029']

/-- A kind of identifier takes the texts of a grammar and no others, as they are, from a program and from
JSON text alike; none of them reaches over a line. -/
structure TakesExactly {Id : Type} (Takes : String → Id → Prop) (textOf : Id → String)
    (decode : Decoder Id) (Grammatical : String → Prop) : Prop where
  accepted (text : String) : (∃ id, Takes text id) ↔ Grammatical text
  unchanged {text : String} {id : Id} : Takes text id → textOf id = text
  decoded (json : String) (id : Id) : readWith decode .json json = .ok id ↔
    ∃ text, JsonText.parse? json = some (.string text) ∧ Takes text id
  /-- Every text has a spelling in JSON, which is taken where the text is. -/
  spelled (text : String) (id : Id) :
    readWith decode .json (JsonPrinter.compact (.string text)) = .ok id ↔ Takes text id
  unbroken {text : String} : Grammatical text → ∀ c ∈ text.toList, c ∉ lineBreaks

namespace Document

theorem Decoder.string_eq_ok_iff {format : Format} {value : Value} {text : String} :
    Decoder.string format value = .ok text ↔ value = .string text := by
  cases value with
  | string other => simp [Decoder.string]
  | _ => simp [Decoder.string, Decoder.wanted]

theorem Decoder.checked_eq_ok_iff {α : Type} {check : String → Except String α} {format : Format}
    {value : Value} {a : α} :
    Decoder.checked check format value = .ok a ↔
      ∃ text, value = .string text ∧ check text = .ok a := by
  rw [Decoder.checked, bind_eq_ok_iff]
  simp only [Decoder.string_eq_ok_iff]
  refine exists_congr fun text => and_congr_right fun _ => ?_
  cases check text <;> simp [pure, Except.pure, throw, throwThe, MonadExceptOf.throw]

theorem readWith_eq_ok_iff {α : Type} {decode : Decoder α} {json : String} {a : α} :
    readWith decode .json json = .ok a ↔
      ∃ value, JsonText.parse? json = some value ∧ decode .json value = .ok a := by
  rw [readWith, parse?]
  cases JsonText.parse? json with
  | none => simp
  | some value =>
    simp only [Option.some.injEq, exists_eq_left']
    cases decode .json value <;> simp

theorem readWith_checked_eq_ok_iff {α : Type} {check : String → Except String α} {json : String} {a : α} :
    readWith (Decoder.checked check) .json json = .ok a ↔
      ∃ text, JsonText.parse? json = some (.string text) ∧ check text = .ok a := by
  rw [readWith_eq_ok_iff]
  constructor
  · rintro ⟨value, parsed, decoded⟩
    obtain ⟨text, rfl, passed⟩ := Decoder.checked_eq_ok_iff.1 decoded
    exact ⟨text, parsed, passed⟩
  · rintro ⟨text, parsed, passed⟩
    exact ⟨.string text, parsed, Decoder.checked_eq_ok_iff.2 ⟨text, rfl, passed⟩⟩

theorem parse?_compact_string (text : String) :
    JsonText.parse? (JsonPrinter.compact (.string text)) = some (.string text) := by
  have plain : (Value.string text).IsPlain 0 := .string text
  exact JsonText.parse?_compact plain (Nat.zero_le _)

end Document

theorem TakesExactly.of_checked {Id : Type} {Takes : String → Id → Prop} {textOf : Id → String}
    {check : String → Except String Id} {Grammatical : String → Prop}
    (checks : ∀ text id, check text = .ok id ↔ Takes text id)
    (takes : ∀ text id, Takes text id ↔ textOf id = text)
    (accepted : ∀ text, (∃ id, textOf id = text) ↔ Grammatical text)
    (unbroken : ∀ text, Grammatical text → ∀ c ∈ text.toList, c ∉ lineBreaks) :
    TakesExactly Takes textOf (Decoder.checked check) Grammatical where
  accepted text := by
    simp only [takes, accepted]
  unchanged {text id} := (takes text id).1
  decoded json id := by
    simp only [readWith_checked_eq_ok_iff, checks]
  spelled text id := by
    simp only [readWith_checked_eq_ok_iff, checks, parse?_compact_string, Option.some.injEq,
      Value.string.injEq, exists_eq_left']
  unbroken {text} := unbroken text

def IsBetween (first last c : Char) : Prop :=
  first.toNat ≤ c.toNat ∧ c.toNat ≤ last.toNat

instance (first last c : Char) : Decidable (IsBetween first last c) :=
  inferInstanceAs (Decidable (_ ∧ _))

namespace WorkflowId

def IsLetterOrDigit (c : Char) : Prop :=
  IsBetween 'a' 'z' c ∨ IsBetween 'A' 'Z' c ∨ IsBetween '0' '9' c

instance (c : Char) : Decidable (IsLetterOrDigit c) :=
  inferInstanceAs (Decidable (_ ∨ _))

structure Shaped (cs : List Char) : Prop where
  chars : ∀ c ∈ cs, IsLetterOrDigit c ∨ c = '-' ∨ c = '_'
  first : ∃ c, cs.head? = some c ∧ IsLetterOrDigit c
  last : ∃ c, cs.getLast? = some c ∧ IsLetterOrDigit c

structure Grammatical (text : String) : Prop extends Shaped text.toList where
  size : 1 ≤ text.utf8ByteSize ∧ text.utf8ByteSize ≤ 64

theorem isAlphanum_iff {c : Char} : c.isAlphanum = true ↔ IsLetterOrDigit c := by
  rw [Text.LowerCase.isAlphanum_iff, or_left_comm]
  exact Iff.rfl

theorem isIdChar_iff {c : Char} : isIdChar c = true ↔ IsLetterOrDigit c ∨ c = '-' ∨ c = '_' := by
  simp only [isIdChar, Bool.or_eq_true, beq_iff_eq, isAlphanum_iff, or_assoc]

theorem getD_isAlphanum {found : Option Char} :
    (found.map Char.isAlphanum).getD false = true ↔ ∃ c, found = some c ∧ IsLetterOrDigit c := by
  cases found with
  | none => simp
  | some c => simp [isAlphanum_iff]

theorem isShaped_iff {cs : List Char} : isShaped cs = true ↔ Shaped cs := by
  rw [isShaped, Bool.and_eq_true, Bool.and_eq_true, getD_isAlphanum, getD_isAlphanum, and_assoc,
    List.all_eq_true]
  simp only [isIdChar_iff]
  constructor
  · rintro ⟨chars, first, last⟩
    exact ⟨chars, first, last⟩
  · rintro ⟨chars, first, last⟩
    exact ⟨chars, first, last⟩

theorem isWellFormed_iff {text : String} : isWellFormed text = true ↔ Grammatical text := by
  rw [isWellFormed, Bool.and_eq_true, decide_eq_true_eq, isShaped_iff, maxBytes]
  constructor
  · rintro ⟨short, shaped⟩
    refine ⟨shaped, ?_, short⟩
    -- There is a first character, so the text is not empty.
    rw [Nat.one_le_iff_ne_zero, Ne, String.utf8ByteSize_eq_zero_iff]
    rintro rfl
    obtain ⟨c, none, -⟩ := shaped.first
    cases none
  · exact fun grammatical => ⟨grammatical.size.2, grammatical.toShaped⟩

/-! ### The pattern of these texts -/

/-- Ends of lines are no places of their own here. -/
def pattern : String := "(?-ms)^[a-zA-Z0-9][a-zA-Z0-9_-]*[a-zA-Z0-9]$|^[a-zA-Z0-9]$"

def alphanumeric : Unicode.RangeSet := ⟨[(48, 57), (65, 90), (97, 122)]⟩

def idChars : Unicode.RangeSet := ⟨[(45, 45), (48, 57), (65, 90), (95, 95), (97, 122)]⟩

/-- What both alternatives begin with is read once. -/
def expression : Pattern.Expression :=
  .seq (.chars alphanumeric)
    (.alt (.seq (.repeat (.chars idChars) 0 none true) (.seq (.chars alphanumeric) (.look .textEnd)))
      (.look .textEnd))

theorem contains_alphanumeric {c : Char} :
    alphanumeric.contains c.toNat = true ↔ IsLetterOrDigit c := by
  simp [alphanumeric, Unicode.RangeSet.contains, Unicode.RangeSet.contains.go, IsLetterOrDigit, IsBetween]
  omega

theorem contains_idChars {c : Char} :
    idChars.contains c.toNat = true ↔ IsLetterOrDigit c ∨ c = '-' ∨ c = '_' := by
  rw [← Char.toNat_inj, ← Char.toNat_inj]
  simp [idChars, Unicode.RangeSet.contains, Unicode.RangeSet.contains.go, IsLetterOrDigit, IsBetween]
  omega

open Pattern.Expression (Ends takes_chars takes_repeat ends_textEnd) in
theorem ends_expression : expression.Ends Shaped := by
  refine ((takes_chars _).ends_seq (((takes_repeat _ _ _ _).ends_seq
    ((takes_chars _).ends_seq ends_textEnd)).alt ends_textEnd)).congr fun cs => ?_
  simp only [contains_alphanumeric, contains_idChars]
  constructor
  · rintro ⟨_, _, rfl, ⟨c, rfl, first⟩, ⟨u, _, rfl, ⟨-, -, chars⟩, _, _, rfl, ⟨d, rfl, last⟩, rfl⟩ | rfl⟩
    · have back : (c :: u ++ [d]).getLast? = some d := List.getLast?_concat
      refine ⟨fun e among => ?_, ⟨c, rfl, first⟩, ⟨d, by simpa using back, last⟩⟩
      simp only [List.append_nil, List.mem_append, List.mem_singleton] at among
      rcases among with rfl | inside | rfl
      · exact .inl first
      · exact chars e inside
      · exact .inl last
    · refine ⟨fun e among => ?_, ⟨c, rfl, first⟩, ⟨c, rfl, first⟩⟩
      obtain rfl := List.mem_singleton.1 among
      exact .inl first
  · rintro ⟨chars, ⟨c, front, first⟩, ⟨d, back, last⟩⟩
    obtain ⟨rest, rfl⟩ := List.head?_eq_some_iff.1 front
    refine ⟨[c], rest, rfl, ⟨c, rfl, first⟩, ?_⟩
    rcases List.eq_nil_or_concat rest with rfl | ⟨middle, e, rfl⟩
    · exact .inr rfl
    · have own : (c :: middle ++ [e]).getLast? = some e := List.getLast?_concat
      rw [List.concat_eq_append, ← List.cons_append, own] at back
      cases back
      refine .inl ⟨middle, [d], List.concat_eq_append, ⟨Nat.zero_le _, by simp, fun x inside => ?_⟩,
        [d], [], rfl, ⟨d, rfl, last⟩, rfl⟩
      exact chars x (by simp [inside])

theorem describes_pattern : Pattern.Describes pattern fun text => Shaped text.toList :=
  Pattern.describes_anchored (by cbv) (by cbv) ends_expression

theorem parse_eq_ok_iff {text : String} {id : WorkflowId} : parse text = .ok id ↔ id.text = text := by
  constructor
  · intro parsed
    rw [parse] at parsed
    split at parsed
    · cases parsed
    split at parsed
    · cases parsed
    split at parsed
    · cases parsed
      rfl
    · cases parsed
  · rintro rfl
    exact parse_text id

theorem not_mem_lineBreaks {c : Char} (taken : IsLetterOrDigit c ∨ c = '-' ∨ c = '_') :
    c ∉ lineBreaks := by
  have none : lineBreaks.all (fun c => !decide (IsLetterOrDigit c ∨ c = '-' ∨ c = '_')) = true := by decide
  intro ends
  have other := List.all_eq_true.1 none c ends
  rw [Bool.not_eq_true', decide_eq_false_iff_not] at other
  exact other taken

theorem takesExactly :
    TakesExactly (fun text id => parse text = .ok id) WorkflowId.text decode Grammatical := by
  refine .of_checked (fun text id => ?_) (fun _ _ => parse_eq_ok_iff) (fun text => ?_) ?_
  · cases parse text <;> simp [Except.mapError]
  · rw [← isWellFormed_iff]
    constructor
    · rintro ⟨id, rfl⟩
      exact id.wellFormed
    · exact fun wellFormed => ⟨⟨text, wellFormed⟩, rfl⟩
  · exact fun text grammatical c member => not_mem_lineBreaks (grammatical.chars c member)

end WorkflowId

namespace RunId

def IsLowerHexDigit (c : Char) : Prop :=
  IsBetween '0' '9' c ∨ IsBetween 'a' 'f' c

instance (c : Char) : Decidable (IsLowerHexDigit c) :=
  inferInstanceAs (Decidable (_ ∨ _))

def Grammatical (text : String) : Prop :=
  ∃ groups : List String, text = "run-" ++ "-".intercalate groups ∧
    groups.map String.length = [8, 4, 4, 4, 12] ∧
    ∀ group ∈ groups, ∀ c ∈ group.toList, IsLowerHexDigit c

variable {text : String}

theorem isLowerHex_iff {c : Char} : isLowerHex c = true ↔ IsLowerHexDigit c := by
  have digit : c.isDigit = true ↔ IsBetween '0' '9' c :=
    Bool.and_eq_true_iff.trans (and_congr decide_eq_true_iff decide_eq_true_iff)
  have letter : (decide ('a' ≤ c) && decide (c ≤ 'f')) = true ↔ IsBetween 'a' 'f' c :=
    Bool.and_eq_true_iff.trans (and_congr decide_eq_true_iff decide_eq_true_iff)
  rw [isLowerHex, Bool.or_eq_true_iff, digit]
  exact or_congr_right letter

/-- Groups of digits with hyphens between them, each of the length that is wanted. -/
def Grouped (lengths : List Nat) (cs : List Char) : Prop :=
  ∃ groups : List (List Char), cs = ['-'].intercalate groups ∧ groups.map List.length = lengths ∧
    ∀ group ∈ groups, ∀ c ∈ group, IsLowerHexDigit c

theorem grouped_singleton_iff {n : Nat} {cs : List Char} :
    Grouped [n] cs ↔ cs.length = n ∧ ∀ c ∈ cs, IsLowerHexDigit c := by
  constructor
  · rintro ⟨groups, rfl, lengths, digits⟩
    obtain ⟨group, rfl, length⟩ := List.map_eq_singleton_iff.1 lengths
    rw [List.intercalate_singleton]
    exact ⟨length, digits group List.mem_cons_self⟩
  · rintro ⟨length, digits⟩
    exact ⟨[cs], by simp, by rw [List.map_singleton, length], by simpa using digits⟩

theorem grouped_cons_iff {n m : Nat} {lengths : List Nat} {cs : List Char} :
    Grouped (n :: m :: lengths) cs ↔ ∃ group behind, cs = group ++ '-' :: behind ∧
      (group.length = n ∧ ∀ c ∈ group, IsLowerHexDigit c) ∧ Grouped (m :: lengths) behind := by
  constructor
  · rintro ⟨groups, rfl, lengths, digits⟩
    obtain ⟨first, later, rfl, length, lengths⟩ := List.map_eq_cons_iff.1 lengths
    obtain ⟨own, others⟩ := List.forall_mem_cons.1 digits
    cases later with
    | nil => cases lengths
    | cons second more =>
      rw [List.intercalate_cons_cons, List.append_assoc, List.singleton_append]
      exact ⟨first, _, rfl, ⟨length, own⟩, second :: more, rfl, lengths, others⟩
  · rintro ⟨group, behind, rfl, ⟨length, digits⟩, groups, rfl, lengths, others⟩
    refine ⟨group :: groups, ?_, by rw [List.map_cons, length, lengths],
      List.forall_mem_cons.2 ⟨digits, others⟩⟩
    cases groups with
    | nil => cases lengths
    | cons second more => rw [List.intercalate_cons_cons, List.append_assoc, List.singleton_append]

theorem isGrouped_iff {lengths : List Nat} {cs : List Char} :
    isGrouped lengths cs = true ↔ Grouped lengths cs := by
  induction lengths generalizing cs with
  | nil => simp [isGrouped, Grouped]
  | cons n rest ih =>
    cases rest with
    | nil =>
      rw [grouped_singleton_iff]
      simp only [isGrouped, Bool.and_eq_true, beq_iff_eq, List.all_eq_true, isLowerHex_iff]
    | cons m others =>
      rw [grouped_cons_iff]
      simp only [isGrouped, Bool.and_eq_true, beq_iff_eq, List.all_eq_true, isLowerHex_iff]
      constructor
      · rintro ⟨digits, grouped⟩
        split at grouped
        · rename_i behind dropped
          refine ⟨cs.take n, behind, ?_, digits, ih.1 grouped⟩
          rw [← dropped, List.take_append_drop]
        · cases grouped
      · rintro ⟨group, behind, rfl, ⟨length, digits⟩, grouped⟩
        rw [List.take_left' length, List.drop_left' length]
        exact ⟨⟨length, digits⟩, ih.2 grouped⟩

theorem grammatical_iff :
    Grammatical text ↔ ∃ behind, text.toList = start ++ behind ∧ Grouped groupLengths behind := by
  constructor
  · rintro ⟨groups, rfl, lengths, digits⟩
    refine ⟨_, String.toList_append, groups.map String.toList, ?_, ?_, ?_⟩
    · simp [String.toList_intercalate]
    · rw [groupLengths, ← lengths]
      simp [String.length_toList]
    · simpa using digits
  · rintro ⟨_, spelled, groups, rfl, lengths, digits⟩
    refine ⟨groups.map String.ofList, String.toList_inj.1 ?_, ?_, ?_⟩
    · rw [spelled, String.toList_append, String.toList_intercalate, List.map_map]
      simp [start]
    · rw [List.map_map, ← groupLengths, ← lengths]
      simp
    · simpa using digits

theorem isWellFormed_iff : isWellFormed text = true ↔ Grammatical text := by
  rw [isWellFormed, isShaped, Bool.and_eq_true, beq_iff_eq, isGrouped_iff, grammatical_iff]
  constructor
  · rintro ⟨front, grouped⟩
    exact ⟨_, by rw [← front, List.take_append_drop], grouped⟩
  · rintro ⟨behind, spelled, grouped⟩
    rw [spelled]
    exact ⟨rfl, grouped⟩

/-! ### The pattern of these texts -/

def pattern : String :=
  "(?-ms)^run-[a-f0-9]\x7b8\x7d-[a-f0-9]\x7b4\x7d-[a-f0-9]\x7b4\x7d-[a-f0-9]\x7b4\x7d-[a-f0-9]\x7b12\x7d$"

def hexadecimal : Unicode.RangeSet := ⟨[(48, 57), (97, 102)]⟩

open Pattern (Expression)

def literal (c : Char) (behind : Expression) : Expression :=
  .seq (.chars (.single c.toNat)) behind

/-- Groups of these lengths up to the end. -/
def grouped : List Nat → Expression
  | [] => .look .textEnd
  | [n] => .seq (.repeat (.chars hexadecimal) n (some n) true) (.look .textEnd)
  | n :: rest => .seq (.repeat (.chars hexadecimal) n (some n) true) (literal '-' (grouped rest))

theorem contains_hexadecimal {c : Char} : hexadecimal.contains c.toNat = true ↔ IsLowerHexDigit c := by
  simp [hexadecimal, Unicode.RangeSet.contains, Unicode.RangeSet.contains.go, IsLowerHexDigit, IsBetween]
  omega

open Pattern.Expression (Takes Ends takes_char takes_repeat ends_textEnd)

theorem ends_literal {expression : Expression} {Language : List Char → Prop} (c : Char)
    (ends : expression.Ends Language) :
    (literal c expression).Ends fun cs => ∃ behind, cs = c :: behind ∧ Language behind := by
  refine ((takes_char c).ends_seq ends).congr fun cs => ?_
  constructor
  · rintro ⟨_, behind, rfl, rfl, taken⟩
    exact ⟨behind, rfl, taken⟩
  · rintro ⟨behind, rfl, taken⟩
    exact ⟨[c], behind, rfl, rfl, taken⟩

theorem takes_digits (n : Nat) : Takes (.repeat (.chars hexadecimal) n (some n) true)
    fun cs => cs.length = n ∧ ∀ c ∈ cs, IsLowerHexDigit c := by
  refine (takes_repeat _ _ _ _).congr fun cs => ?_
  simp only [contains_hexadecimal]
  constructor
  · rintro ⟨enough, bounded, digits⟩
    exact ⟨Nat.le_antisymm (by simpa using bounded n rfl) enough, digits⟩
  · rintro ⟨rfl, digits⟩
    exact ⟨Nat.le_refl _, by simp, digits⟩

theorem ends_grouped : ∀ lengths, (grouped lengths).Ends (Grouped lengths)
  | [] => ends_textEnd.congr fun cs => by simp [Grouped]
  | [n] => by
    refine ((takes_digits n).ends_seq ends_textEnd).congr fun cs => ?_
    rw [grouped_singleton_iff]
    constructor
    · rintro ⟨u, _, rfl, digits, rfl⟩
      rwa [List.append_nil]
    · exact fun digits => ⟨cs, [], (List.append_nil cs).symm, digits, rfl⟩
  | n :: m :: rest => by
    refine ((takes_digits n).ends_seq (ends_literal '-' (ends_grouped (m :: rest)))).congr fun cs => ?_
    rw [grouped_cons_iff]
    constructor
    · rintro ⟨u, _, rfl, digits, behind, rfl, grouped⟩
      exact ⟨u, behind, rfl, digits, grouped⟩
    · rintro ⟨u, behind, rfl, digits, grouped⟩
      exact ⟨u, _, rfl, digits, behind, rfl, grouped⟩

theorem ends_literals {expression : Expression} {Language : List Char → Prop}
    (ends : expression.Ends Language) (front : List Char) :
    (front.foldr literal expression).Ends fun cs => ∃ behind, cs = front ++ behind ∧ Language behind := by
  induction front with
  | nil => exact ends.congr fun cs => by simp
  | cons c rest ih =>
    refine (ends_literal c ih).congr fun cs => ?_
    constructor
    · rintro ⟨_, rfl, behind, rfl, taken⟩
      exact ⟨behind, rfl, taken⟩
    · rintro ⟨behind, rfl, taken⟩
      exact ⟨_, rfl, behind, rfl, taken⟩

theorem describes_pattern : Pattern.Describes pattern Grammatical := by
  simp only [Pattern.Describes, grammatical_iff]
  exact Pattern.describes_anchored (by cbv) (by cbv) (ends_literals (ends_grouped groupLengths) start)

theorem parse?_eq_some_iff {id : RunId} : parse? text = some id ↔ id.text = text := by
  rw [parse?]
  constructor
  · intro parsed
    split at parsed
    · cases parsed
      rfl
    · cases parsed
  · rintro rfl
    rw [dif_pos id.wellFormed]

theorem length_intercalate {groups : List String} (filled : groups ≠ []) :
    ("-".intercalate groups).length + 1 = (groups.map String.length).sum + groups.length := by
  induction groups with
  | nil => exact absurd rfl filled
  | cons first rest ih =>
    cases rest with
    | nil => simp
    | cons second more =>
      have rest := ih (List.cons_ne_nil second more)
      have hyphen : "-".length = 1 := rfl
      rw [String.intercalate_cons_cons, String.length_append, String.length_append, List.map_cons,
        List.sum_cons, List.length_cons, hyphen]
      omega

theorem mem_intercalate {groups : List String} {c : Char}
    (member : c ∈ ("-".intercalate groups).toList) : c = '-' ∨ ∃ group ∈ groups, c ∈ group.toList := by
  induction groups with
  | nil => simp at member
  | cons first rest ih =>
    cases rest with
    | nil => exact .inr ⟨first, List.mem_cons_self, by simpa using member⟩
    | cons second more =>
      rw [String.intercalate_cons_cons, String.toList_append, String.toList_append] at member
      rcases List.mem_append.1 member with front | later
      · rcases List.mem_append.1 front with inside | hyphen
        · exact .inr ⟨first, List.mem_cons_self, inside⟩
        · exact .inl (by simpa using hyphen)
      · refine (ih later).imp_right fun ⟨group, among, inside⟩ => ?_
        exact ⟨group, List.mem_cons_of_mem _ among, inside⟩

theorem length_of_grammatical (grammatical : Grammatical text) : text.length = 40 := by
  obtain ⟨groups, rfl, lengths, -⟩ := grammatical
  have count : groups.length = 5 := by rw [← List.length_map, lengths]; rfl
  have filled : groups ≠ [] := by
    rintro rfl
    cases count
  have whole := length_intercalate filled
  have total : (groups.map String.length).sum = 32 := by rw [lengths]; rfl
  have front : "run-".length = 4 := rfl
  rw [String.length_append, front]
  omega

theorem not_mem_lineBreaks (grammatical : Grammatical text) : ∀ c ∈ text.toList, c ∉ lineBreaks := by
  obtain ⟨groups, rfl, -, digits⟩ := grammatical
  have none : lineBreaks.all
      (fun c => !decide (c ∈ "run-".toList ∨ c = '-' ∨ IsLowerHexDigit c)) = true := by decide
  intro c member ends
  have other := List.all_eq_true.1 none c ends
  rw [Bool.not_eq_true', decide_eq_false_iff_not] at other
  apply other
  rw [String.toList_append] at member
  rcases List.mem_append.1 member with front | behind
  · exact .inl front
  · rcases mem_intercalate behind with hyphen | ⟨group, among, inside⟩
    · exact .inr (.inl hyphen)
    · exact .inr (.inr (digits group among c inside))

theorem takesExactly :
    TakesExactly (fun text id => parse? text = some id) RunId.text decode Grammatical := by
  refine .of_checked (fun text id => ?_) (fun _ _ => parse?_eq_some_iff) (fun text => ?_) ?_
  · cases parse? text <;> simp
  · rw [← isWellFormed_iff]
    constructor
    · rintro ⟨id, rfl⟩
      exact id.wellFormed
    · exact fun wellFormed => ⟨⟨text, wellFormed⟩, rfl⟩
  · exact fun text grammatical => not_mem_lineBreaks grammatical

/-- Nothing stands behind an identifier of a run. -/
theorem eq_empty_of_append {more : String} (grammatical : Grammatical text)
    (longer : Grammatical (text ++ more)) : more = "" := by
  have short := length_of_grammatical grammatical
  have long := length_of_grammatical longer
  rw [String.length_append] at long
  exact String.length_eq_zero_iff.1 (by omega)

/-! ### Numbers as identifiers -/

theorem mod_eq_of_digit {m n : Nat} (same : digit m = digit n) : m % 16 = n % 16 := by
  have bounded : ∀ j < 16, ∀ k < 16, digit j = digit k → j = k := by decide
  have last (n : Nat) : digit (n % 16) = digit n := by simp [digit]
  exact bounded _ (Nat.mod_lt _ (by decide)) _ (Nat.mod_lt _ (by decide))
    ((last m).trans (same.trans (last n).symm))

theorem mod_eq_of_digits {width m n : Nat} (same : digits width m = digits width n) :
    m % 16 ^ width = n % 16 ^ width := by
  induction width generalizing m n with
  | zero => rw [Nat.pow_zero, Nat.mod_one, Nat.mod_one]
  | succ width ih =>
    obtain ⟨front, last⟩ := List.append_inj' same rfl
    rw [Nat.pow_succ', Nat.mod_mul, Nat.mod_mul, ih front, mod_eq_of_digit (List.singleton_inj.1 last)]

theorem eq_of_group : ∀ {lengths : List Nat} {first second : List Char},
    first.length = lengths.sum → second.length = lengths.sum →
    group lengths first = group lengths second → first = second
  | [], _, _, length, length', _ =>
    (List.length_eq_zero_iff.1 length).trans (List.length_eq_zero_iff.1 length').symm
  | [n], first, second, length, length', same => by
    rw [List.sum_singleton] at length length'
    rwa [group, group, List.take_of_length_le (Nat.le_of_eq length),
      List.take_of_length_le (Nat.le_of_eq length')] at same
  | n :: m :: rest, first, second, length, length', same => by
    rw [List.sum_cons] at length length'
    obtain ⟨front, behind⟩ := List.append_inj same
      (by rw [List.length_take, List.length_take, length, length'])
    have others : first.drop n = second.drop n := by
      refine eq_of_group ?_ ?_ (List.cons.inj behind).2
      · rw [List.length_drop, length, Nat.add_sub_cancel_left]
      · rw [List.length_drop, length', Nat.add_sub_cancel_left]
    rw [← List.take_append_drop n first, front, others, List.take_append_drop]

theorem ofSerial_inj {m n : Nat} (small : m < 16 ^ 32) (small' : n < 16 ^ 32)
    (same : ofSerial m = ofSerial n) : m = n := by
  rw [ofSerial, ofSerial, RunId.mk.injEq] at same
  have chars : serialChars m = serialChars n := String.ofList_injective same
  have grouped : group groupLengths (digits 32 m) = group groupLengths (digits 32 n) := by
    rwa [serialChars, serialChars, List.append_cancel_left_eq] at chars
  have whole : 32 = groupLengths.sum := rfl
  have rest := mod_eq_of_digits
    (eq_of_group ((length_digits 32 m).trans whole) ((length_digits 32 n).trans whole) grouped)
  rwa [Nat.mod_eq_of_lt small, Nat.mod_eq_of_lt small'] at rest

end RunId

/-- Identifiers are taken exactly by their grammars: those of workflows have 1 to 64 bytes, all of them ASCII
letters, digits, hyphens or underscores, with a letter or digit at both ends; those of runs are `run-` and
groups of 8, 4, 4, 4 and 12 lower-case hexadecimal digits with hyphens between them. They are kept as they
are, JSON text is taken for the same texts, no line ends within an identifier, and nothing can stand behind
one of a run. Apart from the size, each grammar is that of a pattern. -/
theorem identifiers_taken_exactly :
    Pattern.Describes WorkflowId.pattern (fun text => WorkflowId.Shaped text.toList) ∧
    Pattern.Describes RunId.pattern RunId.Grammatical ∧
    TakesExactly (fun text id => WorkflowId.parse text = .ok id) WorkflowId.text WorkflowId.decode
      WorkflowId.Grammatical ∧
    TakesExactly (fun text id => RunId.parse? text = some id) RunId.text RunId.decode
      RunId.Grammatical ∧
    ∀ text more, RunId.Grammatical text → RunId.Grammatical (text ++ more) → more = "" :=
  ⟨WorkflowId.describes_pattern, RunId.describes_pattern, WorkflowId.takesExactly, RunId.takesExactly,
    fun _ _ => RunId.eq_empty_of_append⟩

end Runbook
