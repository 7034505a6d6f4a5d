/-! Intervals of integers, among them those of the machine types.
-/

set_option autoImplicit false

namespace Runbook.Number

structure Interval where
  low : Int
  high : Int
  deriving DecidableEq, Repr

namespace Interval

def contains (interval : Interval) (n : Int) : Bool :=
  interval.low ≤ n && n ≤ interval.high

theorem contains_iff {interval : Interval} {n : Int} :
    interval.contains n = true ↔ interval.low ≤ n ∧ n ≤ interval.high := by
  simp [contains]

def int32 : Interval := ⟨-2147483648, 2147483647⟩

def int64 : Interval := ⟨-9223372036854775808, 9223372036854775807⟩

def uint32 : Interval := ⟨0, 4294967295⟩

def uint64 : Interval := ⟨0, 18446744073709551615⟩

end Interval

end Runbook.Number
