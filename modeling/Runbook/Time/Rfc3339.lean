import Runbook.Number.Interval
import Runbook.Text.Blank
import Runbook.Time.Instant

/-! Date and time text after RFC 3339, read leniently and written canonically.

The reader takes white space around the parts, a signed year, one-digit fields, a `T`, `t` or blank
between date and time and `UTC` for the offset. The first field that is wrong decides the fault.
-/

set_option autoImplicit false

namespace Runbook.Time

inductive TimeFault where
  | outOfRange
  | impossible
  | invalid
  | tooShort
  | tooLong
  deriving DecidableEq, Repr

namespace TimeFault

def message : TimeFault → String
  | .outOfRange => "input is out of range"
  | .impossible => "no possible date and time matching input"
  | .invalid => "input contains invalid characters"
  | .tooShort => "premature end of input"
  | .tooLong => "trailing input"

end TimeFault

namespace Rfc3339

def digitValue (c : Char) : Nat :=
  c.toNat - 48

def numberOf (digits : List Char) : Nat :=
  digits.foldl (fun n c => 10 * n + digitValue c) 0

/-- At most `width` digits, at least one; numbers beyond 63 bits are out of range. -/
def number (width : Nat) (cs : List Char) : Except TimeFault (Nat × List Char) :=
  let digits := (cs.take width).takeWhile Char.isDigit
  match cs, digits with
  | [], _ => .error .tooShort
  | _, [] => .error .invalid
  | _, _ =>
    let n := numberOf digits
    if !Number.Interval.int64.contains n then .error .outOfRange else .ok (n, cs.drop digits.length)

def field (width low high : Nat) (cs : List Char) : Except TimeFault (Nat × List Char) := do
  let (n, rest) ← number width (Text.dropBlank cs)
  if low ≤ n ∧ n ≤ high then return (n, rest) else throw .outOfRange

/-- Four digits, or any number of them after a sign. -/
def year (cs : List Char) : Except TimeFault (Int × List Char) := do
  let cs := Text.dropBlank cs
  let (n, rest) ← match cs with
    | '-' :: tail => do
      let (n, rest) ← number tail.length tail
      pure (-(n : Int), rest)
    | '+' :: tail => do
      let (n, rest) ← number tail.length tail
      pure ((n : Int), rest)
    | _ => do
      let (n, rest) ← number 4 cs
      pure ((n : Int), rest)
  if Number.Interval.int32.contains n then return (n, rest) else throw .outOfRange

/-- White space, then one given character. -/
def mark (c : Char) (cs : List Char) : Except TimeFault (List Char) :=
  match Text.dropBlank cs with
  | [] => .error .tooShort
  | d :: rest => if d = c then .ok rest else .error .invalid

/-- Nanoseconds after a point; digits beyond the ninth are dropped. -/
def fraction (cs : List Char) : Except TimeFault (Nat × List Char) :=
  match cs with
  | '.' :: tail => do
    let (n, rest) ← number 9 tail
    let width := tail.length - rest.length
    return (n * Nat.pow 10 (9 - width), rest.dropWhile Char.isDigit)
  | _ => .ok (0, cs)

/-- The next two digits, where two more bytes follow. -/
def twoDigits (cs : List Char) : Except TimeFault (Char × Char × List Char) :=
  match cs with
  | [] => .error .tooShort
  | [c] => if c.utf8Size < 2 then .error .tooShort else .error .invalid
  | a :: b :: rest => if a.isDigit && b.isDigit then .ok (a, b, rest) else .error .invalid

def offset (cs : List Char) : Except TimeFault (Int × List Char) := do
  match cs with
  | 'Z' :: rest | 'z' :: rest => return (0, rest)
  | u :: t :: c :: rest =>
    if u.toLower = 'u' ∧ t.toLower = 't' ∧ c.toLower = 'c' then return (0, rest)
    else numeric cs
  | _ => numeric cs
where
  numeric (cs : List Char) : Except TimeFault (Int × List Char) := do
    let (negative, rest) ← match cs with
      | [] => throw .tooShort
      | '+' :: rest => pure (false, rest)
      | '-' :: rest | '\u2212' :: rest => pure (true, rest)
      | _ => throw .invalid
    let (h, i, rest) ← twoDigits rest
    let rest := rest.dropWhile fun c => c == ':' || Text.isBlank c
    let (m, n, rest) ← twoDigits rest
    if '5' < m then throw .outOfRange
    let seconds : Int := 3600 * numberOf [h, i] + 60 * numberOf [m, n]
    return (if negative then -seconds else seconds, rest)

def parseChars (cs : List Char) : Except TimeFault Instant := do
  let (year, rest) ← year cs
  let rest ← mark '-' rest
  let (month, rest) ← field 2 1 12 rest
  let rest ← mark '-' rest
  let (day, rest) ← field 2 1 31 rest
  let rest ← match rest with
    | [] => throw .tooShort
    | 'T' :: rest | 't' :: rest | ' ' :: rest => pure rest
    | _ => throw .invalid
  let (hour, rest) ← field 2 0 23 rest
  let rest ← mark ':' rest
  let (minute, rest) ← field 2 0 59 rest
  let rest ← mark ':' rest
  let (second, rest) ← field 2 0 60 rest
  let (nanos, rest) ← fraction rest
  let (east, rest) ← offset (Text.dropBlank rest)
  if !(Text.dropBlank rest).isEmpty then throw .tooLong
  let date : Date := ⟨year, month, day⟩
  if !date.isValid then throw .outOfRange
  if 86400 ≤ east.natAbs then throw .outOfRange
  -- A leap second is the second before it with more nanoseconds than that has.
  let leap := second == 60
  let local_ : Int :=
    date.toDays * 86400 + 3600 * hour + 60 * minute + (if leap then 59 else second : Nat)
  let instant : Instant := ⟨local_ - east, if leap then nanos + 1000000000 else nanos⟩
  if instant.inRange then return instant else throw .impossible

def parse (text : String) : Except TimeFault Instant :=
  parseChars text.toList

def padded (width : Nat) (n : Nat) : String :=
  let digits := toString n
  String.ofList (List.replicate (width - digits.length) '0') ++ digits

/-- Years outside `0 … 9999` carry a sign. -/
def yearText (year : Int) : String :=
  if 0 ≤ year ∧ year ≤ 9999 then padded 4 year.toNat
  else (if year < 0 then "-" else "+") ++ padded 4 year.natAbs

/-- No fraction, or three, six or nine digits of it. -/
def fractionText (nanos : Nat) : String :=
  if nanos = 0 then ""
  else if nanos % 1000000 = 0 then "." ++ padded 3 (nanos / 1000000)
  else if nanos % 1000 = 0 then "." ++ padded 6 (nanos / 1000)
  else "." ++ padded 9 nanos

def textWith (zone : String) (t : Instant) : String :=
  let date := Date.ofDays t.days
  let second := t.secondOfDay.toNat
  let leap := 1000000000 ≤ t.nanos
  let nanos := if leap then t.nanos - 1000000000 else t.nanos
  yearText date.year ++ "-" ++ padded 2 date.month ++ "-" ++ padded 2 date.day ++ "T" ++
    padded 2 (second / 3600) ++ ":" ++ padded 2 (second / 60 % 60) ++ ":" ++
    padded 2 (second % 60 + if leap then 1 else 0) ++ fractionText nanos ++ zone

def text (t : Instant) : String :=
  textWith "Z" t

def headerText (t : Instant) : String :=
  textWith "+00:00" t

end Rfc3339

end Runbook.Time
