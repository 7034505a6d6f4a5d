/-! Texts in the characters of host names (RFC 3492).

What is in ASCII comes first, then a hyphen, then the other characters by how far each one is from the one
before, in the order of their numbers. The digits of these distances have a base that depends on the ones
already written.
-/

set_option autoImplicit false

namespace Runbook.Url.Punycode

def digit? (c : Char) : Option Nat :=
  if 'a' ≤ c ∧ c ≤ 'z' then some (c.toNat - 97)
  else if 'A' ≤ c ∧ c ≤ 'Z' then some (c.toNat - 65)
  else if c.isDigit then some (c.toNat - 22)
  else none

def digitChar (n : Nat) : Char :=
  Char.ofNat (if n < 26 then 97 + n else 22 + n)

/-- Digits below it end a distance. -/
def threshold (place bias : Nat) : Nat :=
  if place ≤ bias then 1 else if bias + 26 ≤ place then 26 else place - bias

theorem threshold_pos (place bias : Nat) : 1 ≤ threshold place bias := by
  unfold threshold
  repeat' split
  all_goals omega

def adaptLoop (delta place : Nat) : Nat :=
  if 455 < delta then adaptLoop (delta / 35) (place + 36) else place + 36 * delta / (delta + 38)
termination_by delta

/-- The bias for the next distance after one of `delta` in a text that has `count` characters by now. -/
def adapt (delta count : Nat) (isFirst : Bool) : Nat :=
  let delta := if isFirst then delta / 700 else delta / 2
  adaptLoop (delta + delta / count) 0

def limit : Nat := 0x100000000

/-- A distance added to `sum`, and what is behind its digits. -/
def readDistance (bias place weight sum : Nat) : List Char → Option (Nat × List Char)
  | [] => none
  | c :: rest => do
    let digit ← digit? c
    let sum := sum + digit * weight
    if limit ≤ sum then none
    else
      let t := threshold place bias
      if digit < t then some (sum, rest)
      else if limit ≤ weight * (36 - t) then none
      else readDistance bias (place + 36) (weight * (36 - t)) sum rest

def character? (n : Nat) : Option Char :=
  if h : n.isValidChar then some (Char.ofNatAux n h) else none

def insertAll (fuel n start bias : Nat) (text cs : List Char) : Option (List Char) :=
  match fuel, cs with
  | _, [] => some text
  | 0, _ => none
  | left + 1, cs => do
    let (sum, rest) ← readDistance bias 36 1 start cs
    let count := text.length + 1
    let c ← character? (n + sum / count)
    let place := sum % count
    insertAll left (n + sum / count) (place + 1) (adapt (sum - start) count (start == 0))
      (text.take place ++ c :: text.drop place) rest

/-- The part before the last hyphen, and the part behind it; without a hyphen there is only the latter. -/
def parts (cs : List Char) : List Char × List Char :=
  let tail := (cs.reverse.takeWhile (· != '-')).reverse
  match cs.take (cs.length - tail.length - 1) with
  | [] => ([], cs)
  | basic => (basic, tail)

def decode? (cs : List Char) : Option (List Char) :=
  let (basic, digits) := parts cs
  if basic.all fun c => c.toNat < 128 then insertAll digits.length 128 0 72 basic digits else none

def writeDistance (bias place distance : Nat) : List Char :=
  let t := threshold place bias
  if distance < t then [digitChar distance]
  else
    digitChar (t + (distance - t) % (36 - t)) ::
      writeDistance bias (place + 36) ((distance - t) / (36 - t))
termination_by distance
decreasing_by
  have := threshold_pos place bias
  have := Nat.div_le_self (distance - threshold place bias) (36 - threshold place bias)
  omega

/-- A text as far as it has been written. -/
structure Progress where
  written : List Char := []
  delta : Nat := 0
  bias : Nat := 72
  count : Nat
  deriving DecidableEq, Repr

/-- Passes one character of the text when those that are `n` are written. -/
def Progress.pass (basicCount n : Nat) (progress : Progress) (c : Char) : Progress :=
  if c.toNat < n then { progress with delta := progress.delta + 1 }
  else if c.toNat = n then
    { written := progress.written ++ writeDistance progress.bias 36 progress.delta
      delta := 0
      bias := adapt progress.delta (progress.count + 1) (progress.count == basicCount)
      count := progress.count + 1 }
  else progress

/-- Writes the characters of the text in the order of their numbers; `n` is the least that is left. -/
def writeAll (text : List Char) (basicCount n : Nat) (progress : Progress) : List Nat → Progress
  | [] => progress
  | next :: rest =>
    let progress := { progress with delta := progress.delta + (next - n) * (progress.count + 1) }
    let progress := text.foldl (Progress.pass basicCount next) progress
    writeAll text basicCount (next + 1) { progress with delta := progress.delta + 1 } rest

def encode (text : List Char) : List Char :=
  let basic := text.filter fun c => c.toNat < 128
  let others := ((text.filter fun c => 128 ≤ c.toNat).map Char.toNat).mergeSort.eraseDups
  let start := if basic.isEmpty then [] else basic ++ ['-']
  start ++ (writeAll text basic.length 128 { count := basic.length } others).written

end Runbook.Url.Punycode
