import Mathlib.Data.List.Basic
import Mathlib.Data.Nat.Digits.Defs

/-! Numbers in decimals: their digits, and what a reader of digits makes of them.
-/

set_option autoImplicit false

namespace Runbook.Number.Decimal

theorem toList_toString (n : Int) :
    (toString n).toList = (if n < 0 then ['-'] else []) ++ Nat.toDigits 10 n.natAbs := by
  cases n with
  | ofNat n =>
    have digits : (toString (Int.ofNat n)).toList = Nat.toDigits 10 n := Nat.toList_repr
    rw [digits]
    rfl
  | negSucc n =>
    have signed : toString (Int.negSucc n) = "-" ++ Nat.repr (n + 1) := rfl
    rw [signed, String.toList_append, Nat.toList_repr, if_pos (Int.negSucc_lt_zero n)]
    rfl

theorem isDigit_of_mem {n : Nat} {c : Char} (digit : c ∈ Nat.toDigits 10 n) : c.isDigit = true :=
  Nat.isDigit_of_mem_toDigits (by decide) (by decide) digit

theorem exists_digit (n : Nat) (rest : List Char) :
    ∃ c tail, Nat.toDigits 10 n ++ rest = c :: tail ∧ c.isDigit = true := by
  cases digits : Nat.toDigits 10 n with
  | nil => exact absurd digits Nat.toDigits_ne_nil
  | cons c tail => exact ⟨c, tail ++ rest, rfl, isDigit_of_mem (digits ▸ List.mem_cons_self)⟩

theorem toDigits_inj {m n : Nat} : Nat.toDigits 10 m = Nat.toDigits 10 n ↔ m = n := by
  refine ⟨fun same => ?_, congrArg _⟩
  rw [← Nat.ofDigitChars_ten_toDigits (n := m), same, Nat.ofDigitChars_ten_toDigits]

theorem toString_inj {m n : Int} : toString m = toString n ↔ m = n := by
  refine ⟨fun same => ?_, congrArg _⟩
  have chars := congrArg String.toList same
  rw [toList_toString, toList_toString] at chars
  -- Only a negative number starts with something that is no digit.
  have unsigned (n : Nat) (rest : List Char) : '-' :: rest ≠ Nat.toDigits 10 n := fun signed => by
    have digit : '-'.isDigit = true := isDigit_of_mem (signed ▸ List.mem_cons_self)
    revert digit
    decide
  by_cases first : m < 0 <;> by_cases second : n < 0 <;>
    simp only [first, second, if_true, if_false, List.nil_append, List.cons_append,
      List.cons.injEq, true_and] at chars
  · have size := toDigits_inj.1 chars
    omega
  · exact absurd chars (unsigned _ _)
  · exact absurd chars.symm (unsigned _ _)
  · have size := toDigits_inj.1 chars
    omega

theorem takeWhile_digits {digits rest : List Char} (all : ∀ c ∈ digits, c.isDigit = true)
    (ends : ∀ c ∈ rest.head?, c.isDigit = false) :
    (digits ++ rest).takeWhile Char.isDigit = digits := by
  rw [List.takeWhile_append_of_pos all]
  cases rest with
  | nil => simp
  | cons c rest => simp [ends c rfl]

theorem head?_toDigits {n : Nat} (positive : 0 < n) : (Nat.toDigits 10 n).head? ≠ some '0' := by
  induction n using Nat.strongRecOn with
  | ind n ih =>
    by_cases small : n < 10
    · have some : ∀ n < 10, 0 < n → (Nat.toDigits 10 n).head? ≠ some '0' := by decide
      exact some n small positive
    · rw [Nat.toDigits_of_base_le (by decide) (Nat.not_lt.1 small),
        List.head?_append_of_ne_nil _ Nat.toDigits_ne_nil]
      exact ih (n / 10) (by omega) (by omega)

end Runbook.Number.Decimal
