import Runbook.Document.Toml.Lexeme
import Runbook.Document.Value
import Runbook.Time.Instant

/-! Values of TOML that have no parts: truth values, numbers, dates and times.
-/

set_option autoImplicit false

namespace Runbook.Document.Toml

def digits? (isDigit : Char → Bool) : List Char → Option (List Char)
  | [] => none
  | [c] => if isDigit c then some [c] else none
  | c :: '_' :: rest => if isDigit c then (digits? isDigit rest).map (c :: ·) else none
  | c :: rest => if isDigit c then (digits? isDigit rest).map (c :: ·) else none

def valueIn (base : Nat) (digits : List Char) : Int :=
  (digits.foldl (fun n c => base * n + Unicode.RangeSet.hexDigitValue c) 0 : Nat)

/-- A sign, if there is one: whether it is a minus, and the rest. -/
def signed : List Char → Bool × List Char
  | '-' :: rest => (true, rest)
  | '+' :: rest => (false, rest)
  | cs => (false, cs)

def decimal? (cs : List Char) : Option (List Char) := do
  let digits ← digits? Char.isDigit cs
  if 1 < digits.length ∧ digits.head? = some '0' then none else some digits

def integer? (cs : List Char) : Option Int :=
  match cs with
  | '0' :: 'x' :: rest => (digits? isHex rest).map (valueIn 16)
  | '0' :: 'o' :: rest => (digits? (fun c => '0' ≤ c && c ≤ '7') rest).map (valueIn 8)
  | '0' :: 'b' :: rest => (digits? (fun c => c == '0' || c == '1') rest).map (valueIn 2)
  | _ =>
    let (negative, rest) := signed cs
    (decimal? rest).map fun digits =>
      let n := valueIn 10 digits
      if negative then -n else n

/-- The text before a character and the text behind it. -/
def cut? (mark : Char → Bool) (cs : List Char) : List Char × Option (List Char) :=
  let front := cs.takeWhile fun c => !mark c
  match cs.drop front.length with
  | [] => (front, none)
  | _ :: rest => (front, some rest)

def float? (edition : Edition) (cs : List Char) : Option Number.Real := do
  let (negative, rest) := signed cs
  match String.ofList rest with
  | "inf" => return .infinite negative
  | "nan" => return .notANumber
  | _ => do
    let (number, exponent) := cut? (fun c => c == 'e' || c == 'E') rest
    let (whole, fraction) := cut? (· == '.') number
    if fraction.isNone ∧ exponent.isNone then none
    let whole ← decimal? whole
    let fraction ←
      match fraction with
      | none => some []
      | some text => digits? Char.isDigit text
    let power ←
      match exponent with
      | none => some 0
      | some text => do
        let (down, text) := signed text
        let n := valueIn 10 (← digits? Char.isDigit text)
        pure (if down then -n else n)
    let digits := (valueIn 10 (whole ++ fraction)).toNat
    match Number.Binary64.ofDecimal negative digits (power - fraction.length) with
    | some x => return .finite x
    | none => edition.beyond? negative

def two? (low high : Nat) (cs : List Char) : Option (Nat × List Char) :=
  match cs with
  | a :: b :: rest =>
    let n := (valueIn 10 [a, b]).toNat
    if a.isDigit && b.isDigit && low ≤ n && n ≤ high then some (n, rest) else none
  | _ => none

def date? (cs : List Char) : Option (List Char × List Char) := do
  let digits := cs.take 4
  if digits.length ≠ 4 ∨ !digits.all Char.isDigit then none
  let year := valueIn 10 digits
  match cs.drop 4 with
  | '-' :: rest => do
    let (month, rest) ← two? 1 12 rest
    match rest with
    | '-' :: rest => do
      let (_, rest) ← two? 1 (Time.Date.monthLength year month) rest
      return (cs.take 10, rest)
    | _ => none
  | _ => none

/-- The digits of a fraction of a second that count. -/
def fractionText (digits : List Char) : List Char :=
  match ((digits.take 9).reverse.dropWhile (· == '0')).reverse with
  | [] => []
  | kept => '.' :: kept

/-- A time of the day. The fraction of a second is cut to nine digits and loses zeros at its end. -/
def time? (edition : Edition) (cs : List Char) : Option (List Char × List Char) := do
  let (_, rest) ← two? 0 23 cs
  match rest with
  | ':' :: rest => do
    let (_, rest) ← two? 0 59 rest
    match rest with
    | ':' :: rest => do
      let (_, rest) ← two? 0 60 rest
      match rest with
      | '.' :: rest =>
        let digits := rest.takeWhile Char.isDigit
        if digits.isEmpty then none
        else return (cs.take 8 ++ fractionText digits, rest.drop digits.length)
      | _ => return (cs.take 8, rest)
    | _ => if edition.hasShortTimes then return (cs.take 5, rest) else none
  | _ => none

/-- A distance from universal time, if one is given; no distance is a positive one. -/
def zone? (cs : List Char) : Option (List Char × List Char) :=
  match cs with
  | 'Z' :: rest | 'z' :: rest => some (['Z'], rest)
  | '+' :: behind | '-' :: behind => do
    let (hours, rest) ← two? 0 23 behind
    match rest with
    | ':' :: rest => do
      let (minutes, rest) ← two? 0 59 rest
      let sign := if hours = 0 ∧ minutes = 0 then ['+'] else cs.take 1
      return (sign ++ behind.take 5, rest)
    | _ => none
  | _ => some ([], cs)

def zonedTime? (edition : Edition) (cs : List Char) : Option (List Char × List Char) := do
  let (time, rest) ← time? edition cs
  let (zone, rest) ← zone? rest
  return (time ++ zone, rest)

/-- A date, a time or both, in the form that has a `T` between them. -/
def moment? (edition : Edition) (cs : List Char) : Option (List Char × List Char) :=
  match date? cs with
  | none => time? edition cs
  | some (date, rest) =>
    let dated (found : List Char × List Char) := (date ++ 'T' :: found.1, found.2)
    match rest with
    | 'T' :: behind | 't' :: behind => (zonedTime? edition behind).map dated
    | ' ' :: behind =>
      match zonedTime? edition behind with
      | some found => some (dated found)
      | none => some (date, rest)
    | _ => some (date, rest)

def endsScalar (c : Char) : Bool :=
  isSpace c || isControl c || c == ',' || c == ']' || c == '}' || c == '#'

def scalar (edition : Edition) (cs : List Char) : Option (Value × List Char) :=
  let word := cs.takeWhile fun c => !endsScalar c
  let rest := cs.drop word.length
  match String.ofList word with
  | "true" => some (.boolean true, rest)
  | "false" => some (.boolean false, rest)
  | _ =>
    match integer? word, float? edition word with
    | some n, _ => if edition.holds n then some (.integer n, rest) else none
    | none, some x => some (.float x, rest)
    | none, none => do
      let (text, rest) ← moment? edition cs
      if (rest.head?.map endsScalar).getD true then return (.moment (String.ofList text), rest)
      else none

end Runbook.Document.Toml
