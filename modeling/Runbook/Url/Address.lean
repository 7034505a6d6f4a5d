import Runbook.Url.Domain
import Runbook.Url.Percent

/-! Numbers as hosts: IPv4 in all the forms that the URL standard reads, and IPv6.
-/

set_option autoImplicit false

namespace Runbook.Url.Address

open Domain (splitOn)
open Percent (hexValue?)

def number? (base : Nat) (digits : List Char) : Option Nat :=
  digits.foldl
    (fun value c => do
      let value ← value
      let digit ← hexValue? c
      if digit < base then some (base * value + digit) else none)
    (some 0)

/-- A part of an IPv4 address: hexadecimal after `0x`, octal after `0`. -/
def part? : List Char → Option Nat
  | [] => none
  | '0' :: 'x' :: rest | '0' :: 'X' :: rest => number? 16 rest
  | '0' :: rest => number? 8 rest
  | digits => number? 10 digits

def labels (name : List Char) : List (List Char) :=
  let all := splitOn '.' name
  if 1 < all.length ∧ all.getLast? = some [] then all.dropLast else all

/-- A name whose last label is a number has to be an IPv4 address. -/
def endsInNumber (name : List Char) : Bool :=
  match (labels name).getLast? with
  | none => false
  | some last => (!last.isEmpty && last.all Char.isDigit) || (part? last).isSome

/-- The last part takes the octets that the others leave. -/
def ofParts? (parts : List Nat) : Option Nat :=
  match parts.reverse with
  | [] => none
  | last :: others =>
    if others.length ≤ 3 && others.all (· ≤ 255) && last < Nat.pow 256 (4 - others.length) then
      some ((parts.dropLast.zipIdx.map fun (octet, place) => octet * Nat.pow 256 (3 - place)).foldl
        (· + ·) last)
    else none

def ipv4? (name : List Char) : Option Nat := do
  ofParts? (← (labels name).mapM part?)

def ipv4Text (address : Nat) : String :=
  ".".intercalate ([3, 2, 1, 0].map fun place => toString (address / Nat.pow 256 place % 256))

/-- Four plain decimal numbers below 256 without leading zeros, as two pieces of 16 bits. -/
def dottedQuad? (cs : List Char) : Option (List Nat) := do
  let octets ← (splitOn '.' cs).mapM fun digits =>
    if digits.isEmpty || !digits.all Char.isDigit || (digits.length != 1 && digits.head? == some '0')
    then none
    else (number? 10 digits).filter (· ≤ 255)
  match octets with
  | [a, b, c, d] => some [256 * a + b, 256 * c + d]
  | _ => none

def group? (group : List Char) : Option Nat :=
  if 1 ≤ group.length && group.length ≤ 4 then number? 16 group else none

def pieces? : List (List Char) → Option (List Nat)
  | [] => some []
  | [last] => ((group? last).map ([·])).or (dottedQuad? last)
  | first :: rest => do return (← group? first) :: (← pieces? rest)

def groups (cs : List Char) : List (List Char) :=
  if cs.isEmpty then [] else splitOn ':' cs

def splitDouble : List Char → Option (List Char × List Char)
  | [] => none
  | ':' :: ':' :: rest => some ([], rest)
  | c :: rest => (splitDouble rest).map fun (before, behind) => (c :: before, behind)

/-- Eight pieces; a double colon stands for one or more that are zero. -/
def ipv6? (cs : List Char) : Option (List Nat) := do
  match splitDouble cs with
  | none =>
    let all ← pieces? (groups cs)
    if all.length = 8 then some all else none
  | some (before, behind) =>
    let first ← (groups before).mapM group?
    let last ← pieces? (groups behind)
    if first.length + last.length ≤ 7 then
      some (first ++ List.replicate (8 - first.length - last.length) 0 ++ last)
    else none

/-- How many zeros there are from each place on. -/
def zeroRuns : List Nat → List Nat
  | [] => []
  | piece :: rest =>
    let runs := zeroRuns rest
    (if piece = 0 then runs.headD 0 + 1 else 0) :: runs

def hexText (n : Nat) : String :=
  String.ofList (Nat.toDigits 16 n)

/-- The first one of the longest runs of zeros is left out, if it is one of at least two. -/
def ipv6Text (pieces : List Nat) : String :=
  let runs := zeroRuns pieces
  let longest := runs.foldl max 0
  let texts := pieces.map hexText
  if longest ≤ 1 then ":".intercalate texts
  else
    let start := runs.takeWhile (· != longest) |>.length
    ":".intercalate (texts.take start) ++ "::" ++ ":".intercalate (texts.drop (start + longest))

end Runbook.Url.Address
