/-! Sets of code points as ascending, disjoint ranges.

`ofList` is the only way in that sorts and joins; every operation goes through it or keeps the order.
-/

set_option autoImplicit false

namespace Runbook.Unicode

structure RangeSet where
  ranges : List (Nat × Nat) := []
  deriving DecidableEq, Repr

namespace RangeSet

def last : Nat := 0x10FFFF

def contains (set : RangeSet) (n : Nat) : Bool :=
  go set.ranges
where
  go : List (Nat × Nat) → Bool
  | [] => false
  | (low, high) :: rest => if n < low then false else n ≤ high || go rest

def isEmpty (set : RangeSet) : Bool :=
  set.ranges.isEmpty

/-- Ranges in ascending order with those that meet joined; the first two arguments are the range
that is still open. -/
def join (low high : Nat) : List (Nat × Nat) → List (Nat × Nat)
  | [] => [(low, high)]
  | (nextLow, nextHigh) :: rest =>
    if nextLow ≤ high + 1 then join low (max high nextHigh) rest
    else (low, high) :: join nextLow nextHigh rest

/-- Ranges in any order, also overlapping ones. -/
def ofList (ranges : List (Nat × Nat)) : RangeSet :=
  match ranges.mergeSort fun left right => left.1 ≤ right.1 with
  | [] => ⟨[]⟩
  | (low, high) :: rest => ⟨join low high rest⟩

def single (n : Nat) : RangeSet :=
  ⟨[(n, n)]⟩

def union (left right : RangeSet) : RangeSet :=
  .ofList (left.ranges ++ right.ranges)

def unionAll (sets : List RangeSet) : RangeSet :=
  .ofList (sets.flatMap ranges)

/-- The gaps from `start` on. -/
def gaps (start : Nat) : List (Nat × Nat) → List (Nat × Nat)
  | [] => if start ≤ last then [(start, last)] else []
  | (low, high) :: rest =>
    if start < low then (start, low - 1) :: gaps (high + 1) rest else gaps (high + 1) rest

def complement (set : RangeSet) : RangeSet :=
  ⟨gaps 0 set.ranges⟩

def inter (left right : RangeSet) : RangeSet :=
  (left.complement.union right.complement).complement

def diff (left right : RangeSet) : RangeSet :=
  left.inter right.complement

def symmDiff (left right : RangeSet) : RangeSet :=
  (left.union right).diff (left.inter right)

def scalars (set : RangeSet) : RangeSet :=
  ⟨set.ranges.flatMap fun (low, high) =>
    (if low < 0xD800 then [(low, min high 0xD7FF)] else []) ++
      (if 0xDFFF < high then [(max low 0xE000, high)] else [])⟩

def only? (set : RangeSet) : Option Nat :=
  match set.ranges with
  | [(low, high)] => if low = high then some low else none
  | _ => none

def full : RangeSet := ⟨[(0, last)]⟩

def ascii : RangeSet := ⟨[(0, 0x7F)]⟩

/-- The parts between separators, without empty ones. -/
def fields (separates : Char → Bool) (cs : List Char) : List (List Char) :=
  (go cs).filter fun part => !part.isEmpty
where
  go : List Char → List (List Char)
  | [] => [[]]
  | c :: rest =>
    match go rest with
    | [] => []
    | first :: others => if separates c then [] :: first :: others else (c :: first) :: others

def isGap (c : Char) : Bool :=
  c == ' ' || c == '\n'

def hexDigitValue (c : Char) : Nat :=
  if c.isDigit then c.toNat - 48 else c.toLower.toNat - 87

def hexValue (digits : List Char) : Nat :=
  digits.foldl (fun n c => 16 * n + hexDigitValue c) 0

/-- Ranges in hexadecimal, ascending and apart, as in `41-5a 61-7a aa`. -/
def ofText (text : String) : RangeSet :=
  ⟨(fields isGap text.toList).filterMap fun range =>
    match (fields (· == '-') range).map hexValue with
    | [only] => some (only, only)
    | [low, high] => some (low, high)
    | _ => none⟩

end RangeSet

end Runbook.Unicode
