import Runbook.Number.Interval
import Runbook.Number.Real

/-! Numbers as people write them: integers with an optional sign, and decimal numbers with a point, an
exponent, or a word for infinity or for no number at all.
-/

set_option autoImplicit false

namespace Runbook.Number.Numeral

def value (digits : List Char) : Nat :=
  digits.foldl (fun n c => 10 * n + (c.toNat - 48)) 0

def signed : List Char → Bool × List Char
  | '-' :: rest => (true, rest)
  | '+' :: rest => (false, rest)
  | cs => (false, cs)

def natural? (cs : List Char) : Option Nat :=
  if !cs.isEmpty && cs.all Char.isDigit then some (value cs) else none

def integer? (interval : Interval) (text : String) : Option Int := do
  let (negative, digits) := signed text.toList
  let n ← natural? digits
  let n : Int := if negative then -n else n
  if interval.contains n then some n else none

/-- A natural number up to a bound; it may have a plus sign. -/
def unsigned? (high : Nat) (text : String) : Option Nat := do
  let digits := match text.toList with
    | '+' :: rest => rest
    | cs => cs
  let n ← natural? digits
  if n ≤ high then some n else none

/-- The exponent at the end of a decimal number. -/
def exponent? : List Char → Option Int
  | [] => some 0
  | c :: rest =>
    if c == 'e' || c == 'E' then
      let (negative, digits) := signed rest
      (natural? digits).map fun n => if negative then -(n : Int) else n
    else none

def finite (negative : Bool) (digits : Nat) (exponent : Int) : Real :=
  match Binary64.ofDecimal negative digits exponent with
  | some x => .finite x
  | none => .infinite negative

/-- A decimal number without its sign: digits on at least one side of the point. -/
def decimal? (negative : Bool) (cs : List Char) : Option Real := do
  let whole := cs.takeWhile Char.isDigit
  let rest := cs.drop whole.length
  let (fraction, rest) := match rest with
    | '.' :: tail =>
      let digits := tail.takeWhile Char.isDigit
      (digits, tail.drop digits.length)
    | _ => ([], rest)
  if whole.isEmpty && fraction.isEmpty then none
  else
    let exponent ← exponent? rest
    some (finite negative (value (whole ++ fraction)) (exponent - fraction.length))

/-- A decimal number or one of the words, in upper or lower case. -/
def real? (text : String) : Option Real :=
  let (negative, cs) := signed text.toList
  match String.ofList (cs.map Char.toLower) with
  | "inf" | "infinity" => some (.infinite negative)
  | "nan" => some .notANumber
  | _ => decimal? negative cs

end Runbook.Number.Numeral
