import Runbook.Unicode.RangeSet

/-! Characters as bytes: the UTF-8 encodings of a set of code points as sequences of byte ranges.

A sequence stands for all encodings that have at each place a byte of the range there. The sequences of
a set are in the order of their code points, and no two of them have an encoding in common.
-/

set_option autoImplicit false

namespace Runbook.Pattern

open Unicode (RangeSet)

structure ByteRange where
  low : Nat
  high : Nat
  deriving DecidableEq, Repr

abbrev ByteRanges := List ByteRange

namespace Encoding

def length (n : Nat) : Nat :=
  if n < 0x80 then 1 else if n < 0x800 then 2 else if n < 0x10000 then 3 else 4

def bytes (n : Nat) : List Nat :=
  if n < 0x80 then [n]
  else if n < 0x800 then [0xC0 + n / 64, 0x80 + n % 64]
  else if n < 0x10000 then [0xE0 + n / 4096, 0x80 + n / 64 % 64, 0x80 + n % 64]
  else [0xF0 + n / 262144, 0x80 + n / 4096 % 64, 0x80 + n / 64 % 64, 0x80 + n % 64]

def anyContinuation : ByteRange := ⟨0x80, 0xBF⟩

/-- The numbers from `low` to `high`, of one digit and `more` digits to the base 64 behind it. The first
digit is written above `lead`, the others above `0x80`. -/
def ofInterval (lead : Nat) : Nat → Nat → Nat → List ByteRanges
  | 0, low, high => [[⟨lead + low, lead + high⟩]]
  | more + 1, low, high =>
    let unit := Nat.pow 64 (more + 1)
    let first := low / unit
    let last := high / unit
    let within (digit start stop : Nat) :=
      (ofInterval 0x80 more start stop).map fun behind => ⟨lead + digit, lead + digit⟩ :: behind
    if first = last then within first (low % unit) (high % unit)
    else
      let partLow := low % unit ≠ 0
      let partHigh := high % unit ≠ unit - 1
      let start := if partLow then first + 1 else first
      let stop := if partHigh then last else last + 1
      (if partLow then within first (low % unit) (unit - 1) else []) ++
        (if start < stop then
          [⟨lead + start, lead + stop - 1⟩ :: List.replicate (more + 1) anyContinuation]
        else []) ++
        (if partHigh then within last 0 (high % unit) else [])

structure Band where
  /-- Bytes behind the first. -/
  more : Nat
  /-- The first byte without its digit. -/
  lead : Nat
  least : Nat
  greatest : Nat

def bands : List Band :=
  [⟨0, 0, 0, 0x7F⟩, ⟨1, 0xC0, 0x80, 0x7FF⟩, ⟨2, 0xE0, 0x800, 0xD7FF⟩, ⟨2, 0xE0, 0xE000, 0xFFFF⟩,
    ⟨3, 0xF0, 0x10000, 0x10FFFF⟩]

def ofRange (low high : Nat) (band : Band) : List ByteRanges :=
  let low := max low band.least
  let high := min high band.greatest
  if low ≤ high then ofInterval band.lead band.more low high else []

def sequences (set : RangeSet) : List ByteRanges :=
  set.ranges.flatMap fun (low, high) => bands.flatMap (ofRange low high)

end Encoding

end Runbook.Pattern
