import Runbook.Number.Binary64

/-! The fewest decimal digits that read back as the same double, and the two ways of writing them:
positional throughout, or with an exponent outside a middle range.
-/

set_option autoImplicit false

namespace Runbook.Number

/-- `digits · 10 ^ exponent` -/
structure Decimal where
  digits : Nat
  exponent : Int
  deriving DecidableEq, Repr

namespace Decimal

def ratio (d : Decimal) : Nat × Nat :=
  if 0 ≤ d.exponent then (d.digits * Nat.pow 10 d.exponent.toNat, 1)
  else (d.digits, Nat.pow 10 (-d.exponent).toNat)

/-- Without zeros at the end; `fuel` bounds their number. -/
def stripped (fuel : Nat) (d : Decimal) : Decimal :=
  match fuel with
  | 0 => d
  | left + 1 =>
    if d.digits ≠ 0 ∧ d.digits % 10 = 0 then stripped left ⟨d.digits / 10, d.exponent + 1⟩ else d

end Decimal

def leRatio (a b : Nat × Nat) : Bool :=
  a.1 * b.2 ≤ b.1 * a.2

def ltRatio (a b : Nat × Nat) : Bool :=
  a.1 * b.2 < b.1 * a.2

/-- The power of ten at or below a positive quotient. -/
def floorLog10 (num den : Nat) : Int :=
  let guess : Int := ((Nat.toDigits 10 num).length : Int) - ((Nat.toDigits 10 den).length : Int)
  if leRatio (Decimal.ratio ⟨1, guess⟩) (num, den) then guess else guess - 1

namespace Binary64

/-- The reals that round to a double other than zero lie between these two; the ends belong to it
exactly when its mantissa is even. -/
def lowerEnd (x : Binary64) : Nat × Nat :=
  if x.mantissa == halfMantissa && -1074 < x.exponent then scaleUp (4 * x.mantissa - 1) (x.exponent - 2)
  else scaleUp (4 * x.mantissa - 2) (x.exponent - 2)

def upperEnd (x : Binary64) : Nat × Nat :=
  scaleUp (4 * x.mantissa + 2) (x.exponent - 2)

def readsBack (x : Binary64) (d : Decimal) : Bool :=
  let r := d.ratio
  if x.mantissa % 2 == 0 then leRatio x.lowerEnd r && leRatio r x.upperEnd
  else ltRatio x.lowerEnd r && ltRatio r x.upperEnd

/-- Of the two neighbours of the double on the grid of `10 ^ exponent` the one that reads back, the
nearer one where both do. -/
def onGrid (x : Binary64) (exponent : Int) : Option Decimal :=
  let value := x.ratio
  let unit := Decimal.ratio ⟨1, exponent⟩
  let below := (value.1 * unit.2) / (value.2 * unit.1)
  let low : Decimal := ⟨below, exponent⟩
  let high : Decimal := ⟨below + 1, exponent⟩
  match readsBack x low, readsBack x high with
  | true, true =>
    let twice := 2 * ((value.1 * unit.2) % (value.2 * unit.1))
    let whole := value.2 * unit.1
    if twice < whole || (twice == whole && below % 2 == 0) then some low else some high
  | true, false => some low
  | false, true => some high
  | false, false => none

/-- Grids from the coarsest on; seventeen digits always read back. -/
def firstGrid (x : Binary64) (exponent : Int) : Nat → Decimal
  | 0 => ⟨x.ratio.1 / x.ratio.2, 0⟩
  | left + 1 =>
    match x.onGrid exponent with
    | some d => d
    | none => firstGrid x (exponent - 1) left

def shortest (x : Binary64) : Decimal :=
  if x.isZero then ⟨0, 0⟩
  else
    let value := x.ratio
    (firstGrid x (floorLog10 value.1 value.2) 18).stripped 20

def signText (x : Binary64) : String :=
  if x.negative then "-" else ""

/-- Digits with a point, at least one digit on each side. -/
def positionalDigits (d : Decimal) : String :=
  let digits := (toString d.digits).toList
  let count : Int := digits.length
  let point := count + d.exponent
  if 0 ≤ d.exponent then
    String.ofList (digits ++ List.replicate d.exponent.toNat '0' ++ ['.', '0'])
  else if 0 < point then
    String.ofList (digits.take point.toNat ++ ['.'] ++ digits.drop point.toNat)
  else
    String.ofList (['0', '.'] ++ List.replicate (-point).toNat '0' ++ digits)

def positionalText (x : Binary64) : String :=
  x.signText ++ positionalDigits x.shortest

def plainText (x : Binary64) : String :=
  let d := x.shortest
  x.signText ++
    (if 0 ≤ d.exponent then toString (d.digits * Nat.pow 10 d.exponent.toNat) else positionalDigits d)

def exponentText (e : Int) : String :=
  (if e < 0 then "e-" else "e+") ++ toString e.natAbs

/-- Positional from `10 ^ -5` up to `10 ^ 16`, else one digit, the point and an exponent. -/
def scientificText (x : Binary64) : String :=
  let d := x.shortest
  let digits := (toString d.digits).toList
  let leading : Int := digits.length + d.exponent - 1
  if x.isZero || (-5 ≤ leading && leading ≤ 15) then x.signText ++ positionalDigits d
  else
    match digits with
    | [] => x.signText
    | [only] => x.signText ++ String.ofList [only] ++ exponentText leading
    | first :: rest => x.signText ++ String.ofList (first :: '.' :: rest) ++ exponentText leading

end Binary64

end Runbook.Number
