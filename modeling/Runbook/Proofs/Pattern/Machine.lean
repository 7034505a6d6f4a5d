import Mathlib.Data.Nat.Init
import Runbook.Pattern.Program
import Runbook.Proofs.Pattern.Meaning

/-! Programs do what their expressions mean, and nothing else.

A program is correct in front of any code: whatever a thread accepts from its start, it accepts from behind
the program after a way of the expression. So no path has to be cut where it leaves a piece of the code,
also not where loops return.
-/

set_option autoImplicit false

namespace Runbook.Pattern

/-- What an instruction does, and the address where a thread goes on behind it. -/
inductive Instruction.Step : Instruction → Point → Nat → Point → Prop
  | across {set : Unicode.RangeSet} {next : Nat} {p : Point} {c : Char} :
      p.place.behind.head? = some c → set.contains c.toNat = true →
      Step (.chars set next) p next (p.across c)
  | look {look : Look} {next : Nat} {p : Point} : p.place.satisfies look = true →
      Step (.look look next) p next p
  | note {slot next : Nat} {p : Point} : Step (.save slot next) p next (p.note slot)
  | first {first second : Nat} {p : Point} : Step (.split first second) p first p
  | second {first second : Nat} {p : Point} : Step (.split first second) p second p

namespace Program

/-- From an address and a point, a thread accepts at another point after a number of steps. -/
inductive Accepts (program : Program) : Nat → Nat → Point → Point → Prop
  | here {address : Nat} {p : Point} : program[address]? = some .accept →
      Accepts program 0 address p p
  | step {n address next : Nat} {p q r : Point} {instruction : Instruction} :
      program[address]? = some instruction → instruction.Step p next q →
      Accepts program n next q r → Accepts program (n + 1) address p r

variable {program code : Program} {n start middle next address : Nat} {p q r : Point}
  {way other : Way}

theorem accepts_accept (found : program[address]? = some .accept) :
    Accepts program n address p q ↔ n = 0 ∧ p = q := by
  constructor
  · intro accepts
    cases accepts with
    | here => exact ⟨rfl, rfl⟩
    | step at_ step =>
      rw [found] at at_
      cases at_
      cases step
  · rintro ⟨rfl, rfl⟩
    exact .here found

theorem exists_step {instruction : Instruction} (found : program[address]? = some instruction)
    (other : instruction ≠ .accept) (accepts : Accepts program n address p r) :
    ∃ m next q, n = m + 1 ∧ instruction.Step p next q ∧ Accepts program m next q r := by
  cases accepts with
  | here same =>
    rw [found] at same
    exact absurd (Option.some.inj same) other
  | step same step later =>
    rw [found] at same
    cases same
    exact ⟨_, _, _, rfl, step, later⟩

/-- At a fork a thread accepts where it does at one of two addresses; each takes a step more. -/
theorem accepts_fork {greedy : Bool} {body : Nat}
    (found : program[address]? = some (branch greedy body next)) :
    Accepts program n address p r ↔
      ∃ m, n = m + 1 ∧ (Accepts program m body p r ∨ Accepts program m next p r) := by
  have other : branch greedy body next ≠ .accept := by cases greedy <;> simp [branch]
  constructor
  · intro accepts
    obtain ⟨m, goal, q, rfl, step, later⟩ := exists_step found other accepts
    cases greedy <;> cases step
    · exact ⟨m, rfl, .inr later⟩
    · exact ⟨m, rfl, .inl later⟩
    · exact ⟨m, rfl, .inl later⟩
    · exact ⟨m, rfl, .inr later⟩
  · rintro ⟨m, rfl, here | there⟩
    · cases greedy
      · exact .step found .second here
      · exact .step found .first here
    · cases greedy
      · exact .step found .first there
      · exact .step found .second there

/-- From an address a thread gets to another by a way and no other: so it accepts just as it does there. Back
from the start no step is added, so that the steps can count how often a loop is passed. -/
structure Leads (program : Program) (start next : Nat) (way : Way) : Prop where
  onward {n : Nat} {p q r : Point} : way p q → Accepts program n next q r →
    ∃ m, Accepts program m start p r
  back {n : Nat} {p r : Point} : Accepts program n start p r →
    ∃ m q, m ≤ n ∧ way p q ∧ Accepts program m next q r

namespace Leads

theorem refl : Leads program start start Eq where
  onward same accepts := ⟨_, same ▸ accepts⟩
  back accepts := ⟨_, _, Nat.le_refl _, rfl, accepts⟩

theorem congr (leads : Leads program start next way) (same : ∀ p q, way p q ↔ other p q) :
    Leads program start next other := by
  have equal : way = other := funext fun p => funext fun q => propext (same p q)
  exact equal ▸ leads

theorem trans (first : Leads program start middle way) (second : Leads program middle next other) :
    Leads program start next (Relation.Comp way other) where
  onward := by
    rintro n p r s ⟨q, before, behind⟩ accepts
    obtain ⟨m, later⟩ := second.onward behind accepts
    exact first.onward before later
  back accepts := by
    obtain ⟨m, q, le, before, later⟩ := first.back accepts
    obtain ⟨k, r, le', behind, last⟩ := second.back later
    exact ⟨k, r, Nat.le_trans le' le, ⟨q, before, behind⟩, last⟩

theorem of_step {instruction : Instruction} (found : program[start]? = some instruction)
    (other : instruction ≠ .accept)
    (steps : ∀ p q address, instruction.Step p address q ↔ address = next ∧ way p q) :
    Leads program start next way where
  onward := fun passes accepts => ⟨_, .step found ((steps _ _ _).2 ⟨rfl, passes⟩) accepts⟩
  back accepts := by
    obtain ⟨m, address, q, rfl, step, later⟩ := exists_step found other accepts
    obtain ⟨rfl, passes⟩ := (steps _ _ _).1 step
    exact ⟨m, q, Nat.le_succ m, passes, later⟩

theorem fork (greedy : Bool) {body : Nat} (found : program[start]? = some (branch greedy body middle))
    (inside : Leads program body next way) (past : Leads program middle next other) :
    Leads program start next fun p q => way p q ∨ other p q where
  onward := by
    rintro n p q r (passes | passes) accepts
    · obtain ⟨m, later⟩ := inside.onward passes accepts
      exact ⟨m + 1, (accepts_fork found).2 ⟨m, rfl, .inl later⟩⟩
    · obtain ⟨m, later⟩ := past.onward passes accepts
      exact ⟨m + 1, (accepts_fork found).2 ⟨m, rfl, .inr later⟩⟩
  back accepts := by
    obtain ⟨m, rfl, here | there⟩ := (accepts_fork found).1 accepts
    · obtain ⟨k, q, le, passes, later⟩ := inside.back here
      exact ⟨k, q, Nat.le_succ_of_le le, .inl passes, later⟩
    · obtain ⟨k, q, le, passes, later⟩ := past.back there
      exact ⟨k, q, Nat.le_succ_of_le le, .inr passes, later⟩

/-- A fork whose body returns to it: the body is passed any number of times. -/
theorem loop {greedy : Bool} {body : Nat} (found : program[start]? = some (branch greedy body next))
    (inside : Leads program body start way) :
    Leads program start next fun p q => ∃ n, Times way n p q where
  onward := by
    rintro n p q r ⟨count, passes⟩ accepts
    induction count generalizing p with
    | zero =>
      cases passes
      exact ⟨n + 1, (accepts_fork found).2 ⟨n, rfl, .inr accepts⟩⟩
    | succ count ih =>
      obtain ⟨s, once, more⟩ := passes
      obtain ⟨m, returned⟩ := ih more
      obtain ⟨k, later⟩ := inside.onward once returned
      exact ⟨k + 1, (accepts_fork found).2 ⟨k, rfl, .inl later⟩⟩
  back := by
    -- The steps get fewer each time that the body has been passed.
    intro n
    induction n using Nat.strongRecOn with
    | ind n ih =>
      intro p r accepts
      obtain ⟨m, rfl, here | past⟩ := (accepts_fork found).1 accepts
      · obtain ⟨k, s, le, once, returned⟩ := inside.back here
        obtain ⟨j, q, le', ⟨count, more⟩, later⟩ := ih k (by omega) returned
        exact ⟨j, q, by omega, ⟨count + 1, s, once, more⟩, later⟩
      · exact ⟨m, p, Nat.le_succ m, ⟨0, rfl⟩, past⟩

end Leads

/-! ### Code that goes on from other code -/

/-- A program has what stands in a code from an address on. -/
def Holds (program : Program) (start : Nat) (code : Program) : Prop :=
  ∀ address, start ≤ address → address < code.size → program[address]? = code[address]?

structure Extends (code longer : Program) : Prop where
  size : code.size ≤ longer.size
  same : ∀ address < code.size, longer[address]? = code[address]?

namespace Extends

variable {longer longest : Program} {instruction : Instruction}

theorem refl : Extends code code :=
  ⟨Nat.le_refl _, fun _ _ => rfl⟩

theorem trans (first : Extends code longer) (second : Extends longer longest) :
    Extends code longest where
  size := Nat.le_trans first.size second.size
  same address inside := by
    rw [second.same address (Nat.lt_of_lt_of_le inside first.size), first.same address inside]

theorem push : Extends code (code.push instruction) where
  size := by simp
  same address inside := by rw [Array.getElem?_push, if_neg (Nat.ne_of_lt inside)]

theorem set (extends_ : Extends code longer) {address : Nat} (behind : code.size ≤ address) :
    Extends code (longer.set! address instruction) where
  size := by simpa using extends_.size
  same earlier inside := by
    rw [Array.set!_eq_setIfInBounds, Array.getElem?_setIfInBounds_ne (by omega),
      extends_.same earlier inside]

end Extends

namespace Holds

variable {longer : Program} {earlier : Nat}

theorem later (holds : Holds program earlier code) (le : earlier ≤ start) : Holds program start code :=
  fun address behind inside => holds address (Nat.le_trans le behind) inside

theorem front (holds : Holds program start longer) (extends_ : Extends code longer) :
    Holds program start code := by
  intro address behind inside
  rw [holds address behind (Nat.lt_of_lt_of_le inside extends_.size), extends_.same address inside]

theorem pushed {instruction : Instruction} (holds : Holds program start (code.push instruction))
    (le : start ≤ code.size) : program[code.size]? = some instruction := by
  rw [holds code.size le (by simp), Array.getElem?_push_size]

theorem filled {instruction : Instruction} (holds : Holds program start (code.set! address instruction))
    (le : start ≤ address) (inside : address < code.size) : program[address]? = some instruction := by
  rw [holds address le (by simpa using inside), Array.set!_eq_setIfInBounds,
    Array.getElem?_setIfInBounds_self_of_lt inside]

theorem unfilled {instruction : Instruction}
    (holds : Holds program start (code.set! address instruction)) (before : address < start) :
    Holds program start code := by
  intro place behind inside
  rw [holds place behind (by simpa using inside), Array.set!_eq_setIfInBounds,
    Array.getElem?_setIfInBounds_ne (by omega)]

end Holds

/-- What is written goes on from the code before, and leads by a way to where it was told to go on. -/
structure Writes (write : Program → Nat → Fragment) (way : Way) : Prop where
  grows (code : Program) (next : Nat) : Extends code (write code next).code
  leads {program : Program} (code : Program) (next : Nat) :
    Holds program code.size (write code next).code → Leads program (write code next).start next way

namespace Writes

variable {write first second : Program → Nat → Fragment} {greedy : Bool} {count : Nat}

theorem congr (writes : Writes write way) (same : ∀ p q, way p q ↔ other p q) : Writes write other where
  grows := writes.grows
  leads code next holds := (writes.leads code next holds).congr same

theorem nothing : Writes (fun code next => ⟨code, next⟩) Eq where
  grows _ _ := .refl
  leads _ _ _ := .refl

theorem one {instruction : Nat → Instruction} (other : ∀ next, instruction next ≠ .accept)
    (steps : ∀ next p q address, (instruction next).Step p address q ↔ address = next ∧ way p q) :
    Writes (fun code next => emit code (instruction next)) way where
  grows _ _ := .push
  leads _ next holds := .of_step (holds.pushed (Nat.le_refl _)) (other next) (steps next)

theorem seq (front : Writes first way) (behind : Writes second other) :
    Writes (fun code next => first (second code next).code (second code next).start)
      (Relation.Comp way other) where
  grows code next := (behind.grows code next).trans (front.grows _ _)
  leads code next holds :=
    (front.leads _ _ (holds.later (behind.grows code next).size)).trans
      (behind.leads code next (holds.front (front.grows _ _)))

theorem choice (writes : Writes write way) (greedy : Bool) :
    Writes (fun code next => emit (write code next).code (branch greedy (write code next).start next))
      (fun p q => way p q ∨ p = q) where
  grows code next := (writes.grows code next).trans .push
  leads code next holds :=
    .fork greedy (holds.pushed (writes.grows code next).size)
      (writes.leads code next (holds.front .push)) .refl

theorem alt (one : Writes first way) (two : Writes second other) :
    Writes (fun code next =>
        emit (second (first code next).code next).code
          (.split (first code next).start (second (first code next).code next).start))
      (fun p q => way p q ∨ other p q) where
  grows code next := ((one.grows code next).trans (two.grows _ next)).trans .push
  leads code next holds :=
    .fork true
      (holds.pushed (Nat.le_trans (one.grows code next).size (two.grows _ next).size))
      (one.leads code next (holds.front ((two.grows _ next).trans .push)))
      (two.leads _ next ((holds.front .push).later (one.grows code next).size))

/-- The fork behind a body and the body itself, once the fork has been filled in. -/
theorem filled (writes : Writes write way) {next : Nat}
    (holds : Holds program code.size
      ((write (code.push .accept) code.size).code.set! code.size
        (branch greedy (write (code.push .accept) code.size).start next))) :
    program[code.size]? =
        some (branch greedy (write (code.push .accept) code.size).start next) ∧
      Leads program (write (code.push .accept) code.size).start code.size way := by
  have size : (code.push .accept).size = code.size + 1 := by simp
  have grows := (writes.grows (code.push .accept) code.size).size
  rw [size] at grows
  refine ⟨holds.filled (Nat.le_refl _) grows, writes.leads _ _ ?_⟩
  rw [size]
  exact (holds.later (Nat.le_succ _)).unfilled (Nat.lt_succ_self _)

theorem star (writes : Writes write way) (greedy : Bool) :
    Writes (Program.star write greedy) (fun p q => ∃ n, Times way n p q) where
  grows code next := (Extends.push.trans (writes.grows _ _)).set (Nat.le_refl _)
  leads code next holds := by
    obtain ⟨fork, body⟩ := writes.filled holds
    exact .loop fork body

theorem plus (writes : Writes write way) (greedy : Bool) :
    Writes (Program.plus write greedy)
      (Relation.Comp way (fun p q => ∃ n, Times way n p q)) where
  grows code next := (Extends.push.trans (writes.grows _ _)).set (Nat.le_refl _)
  leads code next holds := by
    obtain ⟨fork, body⟩ := writes.filled holds
    exact body.trans (.loop fork body)

theorem exactly (writes : Writes write way) :
    Writes (fun code next => Program.exactly write count code next) (Times way count) := by
  induction count with
  | zero => exact nothing
  | succ count ih => exact writes.seq ih

theorem upTo (writes : Writes write way) (greedy : Bool) :
    Writes (fun code next => Program.upTo write greedy next count code next)
      (fun p q => ∃ n ≤ count, Times way n p q) := by
  induction count with
  | zero => exact nothing.congr fun p q => by simp [Times]
  | succ count ih =>
    refine ((writes.seq ih).choice greedy).congr fun p q => ?_
    constructor
    · rintro (⟨r, once, n, le, more⟩ | rfl)
      · exact ⟨n + 1, Nat.succ_le_succ le, r, once, more⟩
      · exact ⟨0, Nat.zero_le _, rfl⟩
    · rintro ⟨n, le, passes⟩
      cases n with
      | zero => exact .inr passes
      | succ n =>
        obtain ⟨r, once, more⟩ := passes
        exact .inl ⟨r, once, n, Nat.le_of_succ_le_succ le, more⟩

end Writes

theorem writes_note (slot : Nat) :
    Writes (fun code next => emit code (.save slot next)) fun p q => p.note slot = q := by
  refine .one (by simp) fun next p q address => ?_
  constructor
  · intro step
    cases step
    exact ⟨rfl, rfl⟩
  · rintro ⟨rfl, rfl⟩
    exact .note

theorem writes_repeat {body : Expression} {least : Nat} {most : Option Nat} {greedy : Bool}
    (writes : Writes (write body) body.Spans) :
    Writes (write (.repeat body least most greedy)) (Expression.repeat body least most greedy).Spans := by
  cases most with
  | some most =>
    refine (writes.exactly.seq (writes.upTo greedy)).congr fun p q => ?_
    constructor
    · rintro ⟨r, first, n, le, more⟩
      refine ⟨least + n, Nat.le_add_right _ _, ?_, times_add.2 ⟨r, first, more⟩⟩
      intro m same
      cases same
      omega
    · rintro ⟨n, enough, bounded, passes⟩
      have bound := bounded most rfl
      obtain ⟨more, rfl⟩ := Nat.exists_eq_add_of_le enough
      obtain ⟨r, first, rest⟩ := times_add.1 passes
      exact ⟨r, first, more, by omega, rest⟩
  | none =>
    cases least with
    | zero =>
      cases never : body.isNeverEmpty with
      | true =>
        have written : write (.repeat body 0 none greedy) = Program.star (write body) greedy := by
          funext code next
          simp [write, never]
        rw [written]
        refine (writes.star greedy).congr fun p q => ?_
        simp [Expression.Spans]
      | false =>
        -- A body that may be empty is passed once before the fork, or not at all.
        have written : write (.repeat body 0 none greedy) = fun code next =>
            emit (Program.plus (write body) greedy code next).code
              (branch greedy (Program.plus (write body) greedy code next).start next) := by
          funext code next
          simp [write, never]
        rw [written]
        refine ((writes.plus greedy).choice greedy).congr fun p q => ?_
        rw [← exists_times_iff]
        simp [Expression.Spans]
    | succ least =>
      refine (writes.exactly.seq (writes.plus greedy)).congr fun p q => ?_
      constructor
      · rintro ⟨r, first, s, once, n, more⟩
        exact ⟨least + (n + 1), by omega, by simp, times_add.2 ⟨r, first, s, once, more⟩⟩
      · rintro ⟨n, enough, -, passes⟩
        obtain ⟨more, rfl⟩ := Nat.exists_eq_add_of_le enough
        rw [Nat.add_assoc, Nat.add_comm 1] at passes
        obtain ⟨r, first, s, once, rest⟩ := times_add.1 passes
        exact ⟨r, first, s, once, more, rest⟩

/-- The code of an expression does what the expression means. -/
theorem writes_expression (expression : Expression) :
    Writes (write expression) expression.Spans := by
  induction expression with
  | empty => exact .nothing
  | chars set =>
    refine .one (by simp) fun next p q address => ?_
    constructor
    · rintro ⟨head, within⟩
      exact ⟨rfl, _, head, within, rfl⟩
    · rintro ⟨rfl, c, head, within, rfl⟩
      exact .across head within
  | look condition =>
    refine .one (by simp) fun next p q address => ?_
    constructor
    · intro step
      cases step with
      | look satisfied => exact ⟨rfl, satisfied, rfl⟩
    · rintro ⟨rfl, satisfied, rfl⟩
      exact .look satisfied
  | group index body ih =>
    refine ((writes_note _).seq (ih.seq (writes_note _))).congr fun p q => ?_
    simp [Relation.Comp, Expression.Spans]
  | seq first second ih ih' => exact ih.seq ih'
  | alt first second ih ih' => exact ih.alt ih'
  | «repeat» body least most greedy ih => exact writes_repeat ih

theorem accepts_ofExpression {expression : Expression} :
    (∃ n, Accepts (ofExpression expression).code n (ofExpression expression).start p q) ↔
      (Expression.group 0 expression).Spans p q := by
  have whole := writes_expression (.group 0 expression)
  have final : (ofExpression expression).code[0]? = some .accept :=
    (whole.grows (emit #[] .accept).code 0).same 0 Nat.zero_lt_one
  have leads : Leads (ofExpression expression).code (ofExpression expression).start 0
      (Expression.group 0 expression).Spans :=
    whole.leads _ _ fun _ _ _ => rfl
  constructor
  · rintro ⟨n, accepts⟩
    obtain ⟨m, r, -, spans, later⟩ := leads.back accepts
    obtain ⟨-, rfl⟩ := (accepts_accept final).1 later
    exact spans
  · intro spans
    exact leads.onward spans ((accepts_accept final).2 ⟨rfl, rfl⟩)

end Program

end Runbook.Pattern
