import Mathlib.Logic.Relation
import Runbook.Pattern.Search

/-! What expressions mean: from one point in a text they lead to others.

Expressions without groups and conditions take words of a language. So where they are anchored, whether they
match a text is found from the languages of their parts.
-/

set_option autoImplicit false

namespace Runbook.Pattern

/-- A place in a text with the places that were noted on the way to it. -/
structure Point where
  place : Place
  slots : Slots

/-- The points to which one leads. -/
abbrev Way := Point → Point → Prop

namespace Place

def across (place : Place) (c : Char) : Place :=
  ⟨some c, place.index + 1, place.behind.tail⟩

def past (place : Place) (word : List Char) : Place :=
  word.foldl across place

@[simp] theorem past_nil (place : Place) : place.past [] = place := rfl

@[simp] theorem past_cons (place : Place) (c : Char) (word : List Char) :
    place.past (c :: word) = (place.across c).past word := rfl

theorem past_append (place : Place) (first second : List Char) :
    place.past (first ++ second) = (place.past first).past second :=
  List.foldl_append

theorem behind_past (place : Place) (word : List Char) :
    (place.past word).behind = place.behind.drop word.length := by
  induction word generalizing place with
  | nil => rfl
  | cons c rest ih => simp [ih, across]

theorem index_past (place : Place) (word : List Char) :
    (place.past word).index = place.index + word.length := by
  induction word generalizing place with
  | nil => rfl
  | cons c rest ih =>
    simp only [past_cons, ih, across, List.length_cons]
    omega

end Place

def placesFrom (before : Option Char) (index : Nat) : List Char → List Place
  | [] => [⟨before, index, []⟩]
  | c :: rest => ⟨before, index, c :: rest⟩ :: placesFrom (some c) (index + 1) rest

theorem placesFrom_eq_cons (before : Option Char) (index : Nat) (cs : List Char) :
    ∃ later, placesFrom before index cs = ⟨before, index, cs⟩ :: later ∧
      ∀ place ∈ later, place.before ≠ none := by
  induction cs generalizing before index with
  | nil => exact ⟨[], rfl, by simp⟩
  | cons c rest ih =>
    obtain ⟨later, same, others⟩ := ih (some c) (index + 1)
    refine ⟨_, rfl, ?_⟩
    rw [same]
    exact List.forall_mem_cons.2 ⟨by simp, others⟩

theorem exists_mem_placesFrom (before : Option Char) (index : Nat) {cs : List Char} {j : Nat}
    (inside : j ≤ cs.length) : ∃ b, ⟨b, index + j, cs.drop j⟩ ∈ placesFrom before index cs := by
  induction cs generalizing before index j with
  | nil =>
    obtain rfl : j = 0 := Nat.le_zero.1 inside
    exact ⟨before, List.mem_singleton.2 rfl⟩
  | cons c rest ih =>
    cases j with
    | zero => exact ⟨before, List.mem_cons_self⟩
    | succ j =>
      obtain ⟨b, among⟩ := ih (some c) (index + 1) (Nat.le_of_succ_le_succ inside)
      rw [Nat.add_assoc, Nat.add_comm 1] at among
      exact ⟨b, List.mem_cons_of_mem _ among⟩

/-- The places before another one are those where more of the text is left. -/
theorem placesFrom_split {before : Option Char} {index : Nat} {cs : List Char} {place : Place}
    {earlier later : List Place}
    (around : placesFrom before index cs = earlier ++ place :: later) :
    place.index = index + earlier.length ∧ place.behind = cs.drop earlier.length ∧
      earlier.length ≤ cs.length ∧
      ∀ j < earlier.length, ∃ b, ⟨b, index + j, cs.drop j⟩ ∈ earlier := by
  induction earlier generalizing before index cs with
  | nil =>
    obtain ⟨_, same, -⟩ := placesFrom_eq_cons before index cs
    obtain ⟨rfl, -⟩ := List.cons.inj (same.symm.trans around)
    exact ⟨rfl, rfl, Nat.zero_le _, by simp⟩
  | cons first earlier ih =>
    cases cs with
    | nil => simp [placesFrom] at around
    | cons c rest =>
      obtain ⟨rfl, behind⟩ := List.cons.inj around
      obtain ⟨number, left, inside, all⟩ := ih behind
      refine ⟨?_, left, Nat.succ_le_succ inside, fun j less => ?_⟩
      · rw [number, List.length_cons]
        omega
      · cases j with
        | zero => exact ⟨before, List.mem_cons_self⟩
        | succ j =>
          obtain ⟨b, among⟩ := all j (Nat.lt_of_succ_lt_succ less)
          rw [Nat.add_assoc, Nat.add_comm 1] at among
          exact ⟨b, List.mem_cons_of_mem _ among⟩

namespace Point

def across (point : Point) (c : Char) : Point :=
  { point with place := point.place.across c }

def past (point : Point) (word : List Char) : Point :=
  { point with place := point.place.past word }

def note (point : Point) (slot : Nat) : Point :=
  { point with slots := point.slots.setIfInBounds slot (some point.place.index) }

theorem past_append (point : Point) (first second : List Char) :
    point.past (first ++ second) = (point.past first).past second := by
  rw [past, Place.past_append]
  rfl

end Point

/-- A way that is gone a number of times. -/
def Times (way : Way) : Nat → Way
  | 0 => Eq
  | n + 1 => Relation.Comp way (Times way n)

theorem times_add {way : Way} {m n : Nat} {p q : Point} :
    Times way (m + n) p q ↔ Relation.Comp (Times way m) (Times way n) p q := by
  induction m generalizing p with
  | zero => simp [Times, Relation.Comp]
  | succ m ih =>
    rw [Nat.succ_add, Times, Times, Relation.comp_assoc]
    simp only [Relation.Comp, ih]

theorem exists_times_iff {way : Way} {p q : Point} : (∃ n, Times way n p q) ↔
    Relation.Comp way (fun p q => ∃ n, Times way n p q) p q ∨ p = q := by
  constructor
  · rintro ⟨n, passes⟩
    cases n with
    | zero => exact .inr passes
    | succ n =>
      obtain ⟨r, once, more⟩ := passes
      exact .inl ⟨r, once, n, more⟩
  · rintro (⟨r, once, n, more⟩ | rfl)
    · exact ⟨n + 1, r, once, more⟩
    · exact ⟨0, rfl⟩

namespace Expression

/-- From where to where an expression matches. Which way is preferred is left open. -/
def Spans : Expression → Way
  | .empty, p, q => p = q
  | .chars set, p, q => ∃ c, p.place.behind.head? = some c ∧ set.contains c.toNat = true ∧ p.across c = q
  | .look condition, p, q => p.place.satisfies condition = true ∧ p = q
  | .group index body, p, q => ∃ r, Spans body (p.note (2 * index)) r ∧ r.note (2 * index + 1) = q
  | .seq first second, p, q => ∃ r, Spans first p r ∧ Spans second r q
  | .alt first second, p, q => Spans first p q ∨ Spans second p q
  | .repeat body least most _, p, q =>
    ∃ n, least ≤ n ∧ (∀ m ∈ most, n ≤ max least m) ∧ Times (Spans body) n p q

/-- What no step loses, no expression loses. -/
theorem Spans.invariant (Kept : Way) (refl : ∀ p, Kept p p)
    (trans : ∀ p q r, Kept p q → Kept q r → Kept p r) (across : ∀ p c, Kept p (p.across c))
    (note : ∀ p slot, Kept p (p.note slot)) {expression : Expression} {p q : Point}
    (spans : expression.Spans p q) : Kept p q := by
  induction expression generalizing p q with
  | empty =>
    cases spans
    exact refl p
  | chars set =>
    obtain ⟨c, -, -, rfl⟩ := spans
    exact across p c
  | look condition =>
    obtain ⟨-, rfl⟩ := spans
    exact refl p
  | group index body ih =>
    obtain ⟨r, inside, rfl⟩ := spans
    exact trans _ _ _ (note p _) (trans _ _ _ (ih inside) (note r _))
  | seq first second ih ih' =>
    obtain ⟨r, before, behind⟩ := spans
    exact trans _ _ _ (ih before) (ih' behind)
  | alt first second ih ih' => exact spans.elim ih ih'
  | «repeat» body least most greedy ih =>
    obtain ⟨n, -, -, passes⟩ := spans
    induction n generalizing p with
    | zero =>
      cases passes
      exact refl _
    | succ n more =>
      obtain ⟨r, once, later⟩ := passes
      exact trans _ _ _ (ih once) (more later)

/-! ### Languages -/

/-- An expression takes the words of a language, wherever it stands, and notes nothing. -/
def Takes (expression : Expression) (Language : List Char → Prop) : Prop :=
  ∀ p q, expression.Spans p q ↔
    ∃ word, Language word ∧ word <+: p.place.behind ∧ p.past word = q

/-- An expression matches up to the end where what is left of the text is of a language. -/
def Ends (expression : Expression) (Language : List Char → Prop) : Prop :=
  ∀ p, (∃ q, expression.Spans p q) ↔ Language p.place.behind

variable {expression first second : Expression} {Language Behind Other : List Char → Prop}
  {set : Unicode.RangeSet}

theorem Takes.congr (takes : Takes expression Language) (same : ∀ word, Language word ↔ Other word) :
    Takes expression Other := by
  intro p q
  simp only [takes p q, same]

theorem Ends.congr (ends : Ends expression Language) (same : ∀ word, Language word ↔ Other word) :
    Ends expression Other := by
  intro p
  rw [ends p, same]

theorem singleton_isPrefix_iff {c : Char} {cs : List Char} : [c] <+: cs ↔ cs.head? = some c := by
  cases cs <;> simp [eq_comm]

theorem append_isPrefix_iff {u v cs : List Char} : u ++ v <+: cs ↔ u <+: cs ∧ v <+: cs.drop u.length := by
  constructor
  · rintro ⟨rest, rfl⟩
    simp
  · rintro ⟨⟨rest, rfl⟩, behind⟩
    simpa using behind

theorem takes_chars (set : Unicode.RangeSet) :
    Takes (.chars set) fun word => ∃ c, word = [c] ∧ set.contains c.toNat = true := by
  intro p q
  constructor
  · rintro ⟨c, ahead, within, rfl⟩
    exact ⟨[c], ⟨c, rfl, within⟩, singleton_isPrefix_iff.2 ahead, rfl⟩
  · rintro ⟨_, ⟨c, rfl, within⟩, ahead, rfl⟩
    exact ⟨c, singleton_isPrefix_iff.1 ahead, within, rfl⟩

theorem takes_char (c : Char) : Takes (.chars (.single c.toNat)) (· = [c]) := by
  refine (takes_chars _).congr fun word => ?_
  have only {d : Char} : (Unicode.RangeSet.single c.toNat).contains d.toNat = true ↔ d = c := by
    rw [← Char.toNat_inj]
    simp [Unicode.RangeSet.single, Unicode.RangeSet.contains, Unicode.RangeSet.contains.go]
    omega
  simp [only]

theorem Takes.seq (before : Takes first Language) (behind : Takes second Behind) :
    Takes (.seq first second) fun word => ∃ u v, word = u ++ v ∧ Language u ∧ Behind v := by
  intro p q
  constructor
  · rintro ⟨r, one, two⟩
    obtain ⟨u, taken, ahead, rfl⟩ := (before _ _).1 one
    obtain ⟨v, taken', ahead', rfl⟩ := (behind _ _).1 two
    refine ⟨u ++ v, ⟨u, v, rfl, taken, taken'⟩, ?_, Point.past_append p u v⟩
    exact append_isPrefix_iff.2 ⟨ahead, Place.behind_past p.place u ▸ ahead'⟩
  · rintro ⟨_, ⟨u, v, rfl, taken, taken'⟩, ahead, rfl⟩
    obtain ⟨ahead, ahead'⟩ := append_isPrefix_iff.1 ahead
    refine ⟨p.past u, (before _ _).2 ⟨u, taken, ahead, rfl⟩, (behind _ _).2 ⟨v, taken', ?_, ?_⟩⟩
    · exact (Place.behind_past p.place u).symm ▸ ahead'
    · exact (Point.past_append p u v).symm

theorem times_chars {n : Nat} {p q : Point} : Times (Spans (.chars set)) n p q ↔
    ∃ word, (word.length = n ∧ ∀ c ∈ word, set.contains c.toNat = true) ∧
      word <+: p.place.behind ∧ p.past word = q := by
  induction n generalizing p with
  | zero =>
    constructor
    · rintro rfl
      exact ⟨[], by simp, by simp, rfl⟩
    · rintro ⟨word, ⟨length, -⟩, -, rfl⟩
      rw [List.length_eq_zero_iff.1 length]
      rfl
  | succ n ih =>
    constructor
    · rintro ⟨r, ⟨c, ahead, within, rfl⟩, later⟩
      obtain ⟨word, ⟨rfl, all⟩, ahead', rfl⟩ := ih.1 later
      refine ⟨c :: word, ⟨rfl, List.forall_mem_cons.2 ⟨within, all⟩⟩, ?_, rfl⟩
      exact append_isPrefix_iff.2 ⟨singleton_isPrefix_iff.2 ahead, List.drop_one.symm ▸ ahead'⟩
    · rintro ⟨word, ⟨length, all⟩, ahead, rfl⟩
      obtain ⟨c, rest, rfl⟩ := List.exists_cons_of_length_eq_add_one length
      obtain ⟨within, others⟩ := List.forall_mem_cons.1 all
      obtain ⟨ahead, ahead'⟩ := append_isPrefix_iff.1 (show [c] ++ rest <+: _ from ahead)
      refine ⟨p.across c, ⟨c, singleton_isPrefix_iff.1 ahead, within, rfl⟩, ih.2 ⟨rest, ⟨?_, others⟩, ?_, rfl⟩⟩
      · exact Nat.succ_inj.1 length
      · rwa [List.length_singleton, List.drop_one] at ahead'

theorem takes_repeat (set : Unicode.RangeSet) (least : Nat) (most : Option Nat) (greedy : Bool) :
    Takes (.repeat (.chars set) least most greedy) fun word => least ≤ word.length ∧
      (∀ m ∈ most, word.length ≤ max least m) ∧ ∀ c ∈ word, set.contains c.toNat = true := by
  intro p q
  constructor
  · rintro ⟨n, enough, bounded, passes⟩
    obtain ⟨word, ⟨rfl, all⟩, ahead, rfl⟩ := times_chars.1 passes
    exact ⟨word, ⟨enough, bounded, all⟩, ahead, rfl⟩
  · rintro ⟨word, ⟨enough, bounded, all⟩, ahead, rfl⟩
    exact ⟨word.length, enough, bounded, times_chars.2 ⟨word, ⟨rfl, all⟩, ahead, rfl⟩⟩

theorem ends_textEnd : Ends (.look .textEnd) (· = []) := by
  intro p
  simp [Spans, Place.satisfies]

theorem Takes.ends_seq (before : Takes first Language) (behind : Ends second Behind) :
    Ends (.seq first second) fun word => ∃ u v, word = u ++ v ∧ Language u ∧ Behind v := by
  intro p
  constructor
  · rintro ⟨q, r, one, two⟩
    obtain ⟨u, taken, ⟨v, around⟩, rfl⟩ := (before _ _).1 one
    have rest := (behind _).1 ⟨q, two⟩
    rw [Point.past, Place.behind_past, ← around, List.drop_left] at rest
    exact ⟨u, v, around.symm, taken, rest⟩
  · rintro ⟨u, v, around, taken, rest⟩
    have left : (p.past u).place.behind = v := by
      rw [Point.past, Place.behind_past, around, List.drop_left]
    obtain ⟨q, spans⟩ := (behind (p.past u)).2 (left ▸ rest)
    exact ⟨q, p.past u, (before _ _).2 ⟨u, taken, ⟨v, around.symm⟩, rfl⟩, spans⟩

theorem Ends.alt (one : Ends first Language) (two : Ends second Other) :
    Ends (.alt first second) fun word => Language word ∨ Other word := by
  intro p
  show _ ↔ Language _ ∨ Other _
  rw [← one p, ← two p, ← exists_or]
  exact Iff.rfl

end Expression

end Runbook.Pattern
