/-! Doubles in exact arithmetic: a finite double is a sign, a mantissa and a power of two, and
every operation rounds the exact result to the nearest double, ties to the even mantissa.
-/

set_option autoImplicit false

namespace Runbook.Number

/-- The finite double `± mantissa · 2 ^ exponent`. The mantissa has 53 bits, or the exponent is
the least one. -/
structure Binary64 where
  negative : Bool := false
  mantissa : Nat := 0
  exponent : Int := -1074
  deriving DecidableEq, Repr

/-- A quotient rounded to the nearest integer, a tie to the even one. -/
def divNearest (num den : Nat) : Nat :=
  let quotient := num / den
  let double := 2 * (num % den)
  if den < double || (double == den && quotient % 2 == 1) then quotient + 1 else quotient

/-- `num / den · 2 ^ -e` as a quotient of naturals. -/
def scaleDown (num den : Nat) (e : Int) : Nat × Nat :=
  if 0 ≤ e then (num, den * Nat.pow 2 e.toNat) else (num * Nat.pow 2 (-e).toNat, den)

def scaleUp (n : Nat) (e : Int) : Nat × Nat :=
  if 0 ≤ e then (n * Nat.pow 2 e.toNat, 1) else (n, Nat.pow 2 (-e).toNat)

namespace Binary64

def halfMantissa : Nat := 4503599627370496

def zero (negative : Bool) : Binary64 := { negative }

def isZero (x : Binary64) : Bool :=
  x.mantissa == 0

/-- The double nearest to `num / den`; none when that is beyond the largest finite one. -/
def ofRatio (negative : Bool) (num den : Nat) : Option Binary64 :=
  if num = 0 then some (zero negative)
  else
    let guess : Int := (Nat.log2 num : Int) - (Nat.log2 den : Int) - 52
    let coarse := scaleDown num den guess
    let fitted := if coarse.1 / coarse.2 < halfMantissa then guess - 1 else guess
    let exponent := max fitted (-1074)
    let fine := scaleDown num den exponent
    let mantissa := divNearest fine.1 fine.2
    let carried := mantissa == 2 * halfMantissa
    let exponent := if carried then exponent + 1 else exponent
    if 971 < exponent then none
    else some { negative, mantissa := if carried then halfMantissa else mantissa, exponent }

def ratio (x : Binary64) : Nat × Nat :=
  scaleUp x.mantissa x.exponent

def ofNat (n : Nat) : Option Binary64 :=
  ofRatio false n 1

def mul (x y : Binary64) : Option Binary64 :=
  let a := x.ratio
  let b := y.ratio
  ofRatio (x.negative != y.negative) (a.1 * b.1) (a.2 * b.2)

def div (x y : Binary64) : Option Binary64 :=
  let a := x.ratio
  let b := y.ratio
  ofRatio (x.negative != y.negative) (a.1 * b.2) (a.2 * b.1)

def ofDecimal (negative : Bool) (digits : Nat) (exponent : Int) : Option Binary64 :=
  if digits = 0 then some (zero negative)
  else if 400 < exponent then none
  else if exponent < -1200 - (Nat.log2 digits : Int) then some (zero negative)
  else if 0 ≤ exponent then ofRatio negative (digits * Nat.pow 10 exponent.toNat) 1
  else ofRatio negative digits (Nat.pow 10 (-exponent).toNat)

end Binary64

end Runbook.Number
