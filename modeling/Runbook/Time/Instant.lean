/-! Moments of universal time with nanosecond resolution, and the proleptic Gregorian calendar.

A second that starts at `:59` may last two seconds, which is how a leap second is kept; all other
arithmetic counts days of 86400 seconds.
-/

set_option autoImplicit false

namespace Runbook.Time

/-- Seconds since 1970 and nanoseconds into the second; a leap second has `10 ^ 9` and more. -/
structure Instant where
  seconds : Int
  nanos : Nat := 0
  deriving DecidableEq, Repr

instance : Inhabited Instant := ⟨⟨0, 0⟩⟩

structure Date where
  year : Int
  month : Nat
  day : Nat
  deriving DecidableEq, Repr

namespace Date

def isLeap (year : Int) : Bool :=
  (year % 4 == 0 && year % 100 != 0) || year % 400 == 0

def monthLength (year : Int) (month : Nat) : Nat :=
  match month with
  | 2 => if isLeap year then 29 else 28
  | 4 | 6 | 9 | 11 => 30
  | _ => 31

def minYear : Int := -262143

def maxYear : Int := 262142

def isValid (date : Date) : Bool :=
  minYear ≤ date.year && date.year ≤ maxYear && 1 ≤ date.month && date.month ≤ 12 &&
    1 ≤ date.day && date.day ≤ monthLength date.year date.month

/-- Days since 1970-01-01. Years start in March, so that the leap day is the last of its year. -/
def toDays (date : Date) : Int :=
  let year := if date.month ≤ 2 then date.year - 1 else date.year
  let era := Int.fdiv year 400
  let yearOfEra := year - era * 400
  let monthFromMarch : Int := if date.month ≤ 2 then date.month + 9 else (date.month : Int) - 3
  let dayOfYear := Int.fdiv (153 * monthFromMarch + 2) 5 + date.day - 1
  let dayOfEra := yearOfEra * 365 + Int.fdiv yearOfEra 4 - Int.fdiv yearOfEra 100 + dayOfYear
  era * 146097 + dayOfEra - 719468

def ofDays (days : Int) : Date :=
  let shifted := days + 719468
  let era := Int.fdiv shifted 146097
  let dayOfEra := shifted - era * 146097
  let yearOfEra := Int.fdiv
    (dayOfEra - Int.fdiv dayOfEra 1460 + Int.fdiv dayOfEra 36524 - Int.fdiv dayOfEra 146096) 365
  let dayOfYear :=
    dayOfEra - (365 * yearOfEra + Int.fdiv yearOfEra 4 - Int.fdiv yearOfEra 100)
  let monthFromMarch := Int.fdiv (5 * dayOfYear + 2) 153
  let day := dayOfYear - Int.fdiv (153 * monthFromMarch + 2) 5 + 1
  let month := if monthFromMarch < 10 then monthFromMarch + 3 else monthFromMarch - 9
  let year := yearOfEra + era * 400 + (if month ≤ 2 then 1 else 0)
  ⟨year, month.toNat, day.toNat⟩

end Date

namespace Instant

def le (a b : Instant) : Bool :=
  a.seconds < b.seconds || (a.seconds == b.seconds && a.nanos ≤ b.nanos)

def lt (a b : Instant) : Bool :=
  a.seconds < b.seconds || (a.seconds == b.seconds && a.nanos < b.nanos)

def days (t : Instant) : Int :=
  Int.fdiv t.seconds 86400

def secondOfDay (t : Instant) : Int :=
  Int.fmod t.seconds 86400

def inRange (t : Instant) : Bool :=
  let year := (Date.ofDays t.days).year
  Date.minYear ≤ year && year ≤ Date.maxYear

def addNanos (t : Instant) (nanos : Nat) : Instant :=
  let total := t.nanos + nanos
  ⟨t.seconds + (total / 1000000000 : Nat), total % 1000000000⟩

def addMillis (t : Instant) (millis : Nat) : Instant :=
  t.addNanos (millis * 1000000)

/-- Earlier by whole days; none where that lies before every instant kept. -/
def subDays (t : Instant) (days : Nat) : Option Instant :=
  let earlier : Instant := { t with seconds := t.seconds - 86400 * (days : Int) }
  if earlier.inRange then some earlier else none

/-- Nanoseconds from `a` to `b`. A leap second of the one counts when the other is at a later
second of its day. -/
def nanosBetween (a b : Instant) : Int :=
  let first := a.secondOfDay
  let second := b.secondOfDay
  let leap : Int :=
    if first < second && 1000000000 ≤ a.nanos then 1
    else if second < first && 1000000000 ≤ b.nanos then -1
    else 0
  (b.seconds - a.seconds + leap) * 1000000000 + ((b.nanos : Int) - (a.nanos : Int))

/-- Whole milliseconds from `a` to `b`, toward zero. -/
def millisBetween (a b : Instant) : Int :=
  Int.tdiv (nanosBetween a b) 1000000

end Instant

end Runbook.Time
