import Runbook.Document.Fault
import Runbook.Unicode.RangeSet

/-! JSON text as a document.

The reader is lenient in three places: half a surrogate pair, a number beyond the doubles and nesting
of more than 127 containers become broken values instead of ending it. An object with a name that
cannot be held is broken itself.
-/

set_option autoImplicit false

namespace Runbook.Document.JsonText

def isSpace (c : Char) : Bool :=
  c == ' ' || c == '\t' || c == '\n' || c == '\r'

def skipSpace (cs : List Char) : List Char :=
  cs.dropWhile isSpace

def isHex (c : Char) : Bool :=
  c.isDigit || ('a' ≤ c && c ≤ 'f') || ('A' ≤ c && c ≤ 'F')

def hexUnit? (a b c d : Char) : Option Nat :=
  if [a, b, c, d].all isHex then some (Unicode.RangeSet.hexValue [a, b, c, d]) else none

def joinPair (high low : Nat) : Char :=
  Char.ofNat (0x10000 + (high - 0xD800) * 0x400 + (low - 0xDC00))

def isHigh (unit : Nat) : Bool :=
  0xD800 ≤ unit && unit < 0xDC00

def isLow (unit : Nat) : Bool :=
  0xDC00 ≤ unit && unit < 0xE000

def escaped? : Char → Option Char
  | '"' => some '"'
  | '\\' => some '\\'
  | '/' => some '/'
  | 'b' => some '\x08'
  | 'f' => some '\x0c'
  | 'n' => some '\n'
  | 'r' => some '\r'
  | 't' => some '\t'
  | _ => none

/-- Characters read so far in front of what follows; broken text stays broken. -/
def prepend (c : Option Char) : Option (Option (List Char) × List Char) →
    Option (Option (List Char) × List Char)
  | none => none
  | some (text, rest) =>
    some (match c, text with
      | some c, some text => (some (c :: text), rest)
      | _, _ => (none, rest))

/-- A string, read behind its opening quote. The text is missing where it cannot be held. -/
def stringBody : List Char → Option (Option (List Char) × List Char)
  | [] => none
  | '"' :: rest => some (some [], rest)
  | '\\' :: 'u' :: a :: b :: c :: d :: '\\' :: 'u' :: e :: f :: g :: h :: rest =>
    match hexUnit? a b c d, hexUnit? e f g h with
    | some first, some second =>
      if isHigh first then
        if isLow second then prepend (some (joinPair first second)) (stringBody rest)
        -- One half of a pair without the other leaves no text, but the scan goes on behind it.
        else prepend none (stringBody ('\\' :: 'u' :: e :: f :: g :: h :: rest))
      else
        prepend (if isLow first then none else some (Char.ofNat first))
          (stringBody ('\\' :: 'u' :: e :: f :: g :: h :: rest))
    | _, _ => none
  | '\\' :: 'u' :: a :: b :: c :: d :: rest =>
    match hexUnit? a b c d with
    | some unit =>
      prepend (if isHigh unit || isLow unit then none else some (Char.ofNat unit))
        (stringBody rest)
    | none => none
  | '\\' :: c :: rest =>
    match escaped? c with
    | some plain => prepend (some plain) (stringBody rest)
    | none => none
  | c :: rest => if c.toNat < 0x20 then none else prepend (some c) (stringBody rest)

def digitValue (c : Char) : Nat :=
  c.toNat - 48

def digitsValue (digits : List Char) : Nat :=
  digits.foldl (fun n c => 10 * n + digitValue c) 0

/-- Digits kept while the number fits 64 bits, and how many were left. -/
def significand (limit : Nat) (n : Nat) : List Char → Nat × Nat
  | [] => (n, 0)
  | c :: rest =>
    if limit ≤ 10 * n + digitValue c then (n, rest.length + 1)
    else significand limit (10 * n + digitValue c) rest

/-- `n · 10 ^ exponent` by one division or multiplication by a power of ten that is itself rounded;
far below zero, after divisions by the greatest such power. -/
def scaled (n : Nat) (exponent : Int) : Option Number.Binary64 := do
  let x ← Number.Binary64.ofNat n
  if x.isZero then return x
  descend 4 x exponent
where
  power (n : Nat) : Option Number.Binary64 := Number.Binary64.ofNat (Nat.pow 10 n)
  descend : Nat → Number.Binary64 → Int → Option Number.Binary64
  | 0, _, _ => some (Number.Binary64.zero false)
  | left + 1, x, exponent =>
    if x.isZero then some x
    else if 308 < exponent then none
    else if 0 ≤ exponent then do x.mul (← power exponent.toNat)
    else if -308 ≤ exponent then do x.div (← power (-exponent).toNat)
    else do descend left (← x.div (← power 308)) (exponent + 308)

def withSign (negative : Bool) (x : Number.Binary64) : Value :=
  .float (.finite { x with negative })

structure Numeral where
  negative : Bool
  whole : List Char
  /-- Digits after the point. -/
  fraction : Option (List Char)
  /-- Sign and digits of the exponent. -/
  exponent : Option (Bool × List Char)

namespace Numeral

def limit : Nat := 18446744073709551616

/-- Whether the digits of an exponent are too many for 32 bits. -/
def overflows (digits : List Char) : Bool :=
  !Number.Interval.int32.contains (digitsValue digits)

def float (numeral : Numeral) : Value :=
  let fraction := numeral.fraction.getD []
  let (n, dropped) := significand limit 0 numeral.whole
  let (n, unused) := significand limit n fraction
  let start : Int := dropped - ((fraction.length : Int) - unused)
  match numeral.exponent with
  | none => finish n start
  | some (negative, digits) =>
    if overflows digits then
      if n ≠ 0 ∧ !negative then .broken else finish 0 0
    else
      let e : Int := digitsValue digits
      finish n (if negative then start - e else start + e)
where
  finish (n : Nat) (exponent : Int) : Value :=
    match scaled n exponent with
    | some x => withSign numeral.negative x
    | none => .broken

/-- Without point and exponent an integer, if it fits 64 bits and is no negative zero. -/
def value (numeral : Numeral) : Value :=
  match numeral.fraction, numeral.exponent with
  | none, none =>
    let n := digitsValue numeral.whole
    if numeral.negative then
      if 0 < n ∧ Number.Interval.int64.contains (-(n : Int)) then .integer (-(n : Int)) else numeral.float
    else if n < limit then .integer n
    else numeral.float
  | _, _ => numeral.float

end Numeral

def digits1 (cs : List Char) : Option (List Char × List Char) :=
  let digits := cs.takeWhile Char.isDigit
  if digits.isEmpty then none else some (digits, cs.drop digits.length)

/-- A number. A zero in front stands alone. -/
def numeral (cs : List Char) : Option (Numeral × List Char) := do
  let (negative, rest) :=
    match cs with
    | '-' :: rest => (true, rest)
    | _ => (false, cs)
  let (whole, rest) ← digits1 rest
  -- A zero in front stands alone.
  if 1 < whole.length ∧ whole.head? = some '0' then none
  let (fraction, rest) ←
    match rest with
    | '.' :: behind => do
      let (digits, rest) ← digits1 behind
      pure (some digits, rest)
    | _ => pure (none, rest)
  let (exponent, rest) ←
    match rest with
    | 'e' :: behind | 'E' :: behind => do
      let (sign, behind) :=
        match behind with
        | '+' :: tail => (false, tail)
        | '-' :: tail => (true, tail)
        | _ => (false, behind)
      let (digits, rest) ← digits1 behind
      pure (some (sign, digits), rest)
    | _ => pure (none, rest)
  return (⟨negative, whole, fraction, exponent⟩, rest)

def depthLimit : Nat := 127

/-- A container at a depth, broken beyond the limit. -/
def limited (depth : Nat) (value : Value) : Value :=
  if depthLimit < depth then .broken else value

mutual

/-- A value and what follows it. Every call has taken a character since the last one with the same
`fuel`, so the length of the text is enough; `depth` counts the containers around it. -/
def value (fuel depth : Nat) (cs : List Char) : Option (Value × List Char) :=
  match fuel with
  | 0 => none
  | left + 1 =>
    match skipSpace cs with
    | 'n' :: 'u' :: 'l' :: 'l' :: rest => some (.null, rest)
    | 't' :: 'r' :: 'u' :: 'e' :: rest => some (.boolean true, rest)
    | 'f' :: 'a' :: 'l' :: 's' :: 'e' :: rest => some (.boolean false, rest)
    | '"' :: rest => do
      let (text, rest) ← stringBody rest
      return (match text with
        | some text => .string (String.ofList text)
        | none => .broken, rest)
    | '[' :: rest =>
      match skipSpace rest with
      | ']' :: rest => some (limited (depth + 1) (.array []), rest)
      | _ => do
        let (all, rest) ← items left (depth + 1) rest
        return (limited (depth + 1) (.array all), rest)
    | '{' :: rest =>
      match skipSpace rest with
      | '}' :: rest => some (limited (depth + 1) (.object []), rest)
      | _ => do
        let (all, rest) ← members left (depth + 1) rest
        return (limited (depth + 1) (match all with
          | some all => .object all
          | none => .broken), rest)
    | rest => do
      let (numeral, rest) ← numeral rest
      return (numeral.value, rest)

def items (fuel depth : Nat) (cs : List Char) : Option (List Value × List Char) :=
  match fuel with
  | 0 => none
  | left + 1 => do
    let (first, rest) ← value left depth cs
    match skipSpace rest with
    | ']' :: rest => return ([first], rest)
    | ',' :: rest => do
      let (others, rest) ← items left depth rest
      return (first :: others, rest)
    | _ => none

/-- The members of an object up to its closing brace. They are missing where a name cannot be
held. -/
def members (fuel depth : Nat) (cs : List Char) : Option (Option (List Member) × List Char) :=
  match fuel with
  | 0 => none
  | left + 1 =>
    match skipSpace cs with
    | '"' :: rest => do
      let (name, rest) ← stringBody rest
      match skipSpace rest with
      | ':' :: rest => do
        let (first, rest) ← value left depth rest
        let extend (others : Option (List Member)) : Option (List Member) := do
          return (String.ofList (← name), first) :: (← others)
        match skipSpace rest with
        | '}' :: rest => return (extend (some []), rest)
        | ',' :: rest => do
          let (others, rest) ← members left depth rest
          return (extend others, rest)
        | _ => none
      | _ => none
    | _ => none

end

def parse? (text : String) : Option Value := do
  let cs := text.toList
  let (found, rest) ← value (2 * cs.length + 2) 0 cs
  if (skipSpace rest).isEmpty then return found else none

end Runbook.Document.JsonText
