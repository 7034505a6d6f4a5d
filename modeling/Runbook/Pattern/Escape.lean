import Runbook.Pattern.Expression
import Runbook.Pattern.Flags
import Runbook.Unicode.CharClass
import Runbook.Unicode.PropertyName

/-! The smallest parts of a pattern: single characters, the dot, conditions on a place and named
character classes, most of them written with a backslash.

Every reader gives the part and what follows it, or nothing where the text is no pattern. A pattern
matches text of whole characters, so where `u` is off a class may hold ASCII characters only.
-/

set_option autoImplicit false

namespace Runbook.Pattern

open Unicode (RangeSet)

inductive Atom where
  /-- `asByte` marks a character written with two hexadecimal digits. -/
  | literal (c : Char) (asByte : Bool)
  | look (look : Look)
  | class (set : RangeSet)
  deriving DecidableEq, Repr

namespace Flags

/-- Without `u` only ASCII letters have two cases. -/
def close (flags : Flags) (set : RangeSet) : RangeSet :=
  if !flags.caseless then set
  else if flags.unicode then Unicode.CaseFolding.close set
  else
    let shift (low high : Nat) (by_ : Int) : List (Nat × Nat) :=
      (set.inter ⟨[(low, high)]⟩).ranges.map fun range =>
        ((range.1 + by_).toNat, (range.2 + by_).toNat)
    set.union (.ofList (shift 0x41 0x5A 32 ++ shift 0x61 0x7A (-32)))

def negate (flags : Flags) (set : RangeSet) : RangeSet :=
  if flags.unicode then set.complement else set.complement.inter ⟨[(0, 0xFF)]⟩

/-- Closed under case, then complemented; without `u` the result has to stay in ASCII. -/
def finish? (flags : Flags) (negated : Bool) (set : RangeSet) : Option RangeSet :=
  let closed := flags.close set
  let result := if negated then flags.negate closed else closed
  if flags.unicode || (result.inter RangeSet.ascii.complement).isEmpty then some result else none

end Flags

namespace Atom

def isMeta (c : Char) : Bool :=
  "\\.+*?()|[]\x7b\x7d^$#&-~".toList.contains c

/-- All ASCII characters stand for themselves after a backslash, but letters, digits and angle
brackets. -/
def isEscapable (c : Char) : Bool :=
  isMeta c || (c.toNat < 128 && !c.isAlphanum && c != '<' && c != '>')

def isHexDigit (c : Char) : Bool :=
  c.isDigit || ('a' ≤ c && c ≤ 'f') || ('A' ≤ c && c ≤ 'F')

def charOf? (n : Nat) : Option Char :=
  if h : n.isValidChar then some (Char.ofNatAux n h) else none

def hexChar? (digits : List Char) : Option Char :=
  if digits.isEmpty then none else charOf? (RangeSet.hexValue digits)

def hexDigits (flags : Flags) : Nat → List Char → Option (List Char × List Char)
  | 0, cs => some ([], cs)
  | count + 1, cs =>
    match flags.skip cs with
    | [] => none
    | c :: rest =>
      if isHexDigit c then
        (hexDigits flags count rest).map fun found => (c :: found.1, found.2)
      else none

/-- A code point in hexadecimal: so many digits, or any number of them in braces. -/
def hex (flags : Flags) (width : Nat) (cs : List Char) : Option (Atom × List Char) :=
  match flags.skip cs with
  | '{' :: inner =>
    let (digits, rest) := flags.span isHexDigit inner
    match rest with
    | '}' :: rest => (hexChar? digits).map fun c => (.literal c false, rest)
    | _ => none
  | cs => do
    let (digits, rest) ← hexDigits flags width cs
    let c ← hexChar? digits
    return (.literal c (width == 2), rest)

def splitAt? (mark : List Char) : List Char → Option (List Char × List Char)
  | [] => none
  | c :: rest =>
    if mark.isPrefixOf (c :: rest) then some ([], (c :: rest).drop mark.length)
    else (splitAt? mark rest).map fun sides => (c :: sides.1, sides.2)

/-- What stands in the braces of a property class: a property with one of its values, or a name. The value
may be behind any of three marks, which all mean the same. -/
def namedSet? (name : List Char) : Option RangeSet :=
  match splitAt? ['!', '='] name <|> splitAt? [':'] name <|> splitAt? ['='] name with
  | some (property, value) => Unicode.PropertyName.valueSet? property value
  | none => Unicode.PropertyName.set? name

/-- A property class, a letter or a name in braces. -/
def property (flags : Flags) (negated : Bool) (cs : List Char) : Option (Atom × List Char) := do
  let (name, rest) ←
    match flags.skip cs with
    | [] => none
    | '{' :: inner =>
      match flags.span (· != '}') inner with
      | (name, '}' :: rest) => some (name, rest)
      | _ => none
    | '\\' :: _ => none
    | c :: rest => some ([c], rest)
  let set ← namedSet? name
  if !flags.unicode then none
  let set ← flags.finish? negated set
  return (.class set, rest)

inductive Shorthand where
  | digit
  | space
  | word
  deriving DecidableEq, Repr

namespace Shorthand

def ofChar? (c : Char) : Option (Shorthand × Bool) :=
  match c with
  | 'd' => some (.digit, false)
  | 'D' => some (.digit, true)
  | 's' => some (.space, false)
  | 'S' => some (.space, true)
  | 'w' => some (.word, false)
  | 'W' => some (.word, true)
  | _ => none

def set (unicode : Bool) : Shorthand → RangeSet
  | .digit => if unicode then Unicode.digits else ⟨[(0x30, 0x39)]⟩
  | .space => if unicode then Unicode.blanks else ⟨[(9, 13), (0x20, 0x20)]⟩
  | .word =>
    if unicode then Unicode.wordChars
    else ⟨[(0x30, 0x39), (0x41, 0x5A), (0x5F, 0x5F), (0x61, 0x7A)]⟩

end Shorthand

/-- A shorthand class ignores `i`: it has both cases of every letter already. -/
def shorthand? (flags : Flags) (c : Char) : Option (Option RangeSet) :=
  (Shorthand.ofChar? c).map fun (kind, negated) =>
    { flags with caseless := false }.finish? negated (kind.set flags.unicode)

/-- The special word boundaries, named in braces; where the braces start otherwise they are a
repetition and left to its reader. -/
def boundary (flags : Flags) (cs : List Char) : Option (Look × List Char) :=
  match cs with
  | '{' :: inner =>
    let named (c : Char) : Bool := c.isAlpha || c == '-'
    match flags.skip inner with
    | [] => none
    | c :: _ =>
      if !named c then some (.wordBoundary flags.unicode, cs)
      else
        match flags.span named inner with
        | (name, '}' :: rest) =>
          match String.ofList name with
          | "start" => some (.wordStart flags.unicode, rest)
          | "end" => some (.wordEnd flags.unicode, rest)
          | "start-half" => some (.wordStartHalf flags.unicode, rest)
          | "end-half" => some (.wordEndHalf flags.unicode, rest)
          | _ => none
        | _ => none
  | _ => some (.wordBoundary flags.unicode, cs)

def escape (flags : Flags) : List Char → Option (Atom × List Char)
  | [] => none
  | c :: rest =>
    match c with
    | 'x' => hex flags 2 rest
    | 'u' => hex flags 4 rest
    | 'U' => hex flags 8 rest
    | 'p' => property flags false rest
    | 'P' => property flags true rest
    | 'a' => some (.literal '\x07' false, rest)
    | 'f' => some (.literal '\x0c' false, rest)
    | 't' => some (.literal '\t' false, rest)
    | 'n' => some (.literal '\n' false, rest)
    | 'r' => some (.literal '\r' false, rest)
    | 'v' => some (.literal '\x0b' false, rest)
    | 'A' => some (.look .textStart, rest)
    | 'z' => some (.look .textEnd, rest)
    | 'b' => (boundary flags rest).map fun found => (.look found.1, found.2)
    | 'B' => some (.look (.notWordBoundary flags.unicode), rest)
    | '<' => some (.look (.wordStart flags.unicode), rest)
    | '>' => some (.look (.wordEnd flags.unicode), rest)
    | _ =>
      match shorthand? flags c with
      | some set? => set?.map fun set => (.class set, rest)
      | none => if isEscapable c then some (.literal c false, rest) else none

/-- The part at the front that is neither group nor bracketed class nor operator. -/
def read (flags : Flags) : List Char → Option (Atom × List Char)
  | [] => none
  | '\\' :: rest => escape flags rest
  | '.' :: rest =>
    if !flags.unicode then none
    else
      let excluded : RangeSet :=
        if flags.dotAll then ⟨[]⟩
        else if flags.crlf then ⟨[(10, 10), (13, 13)]⟩
        else ⟨[(10, 10)]⟩
      some (.class excluded.complement, rest)
  | '^' :: rest => some (.look (if flags.multiLine then .lineStart flags.crlf else .textStart), rest)
  | '$' :: rest => some (.look (if flags.multiLine then .lineEnd flags.crlf else .textEnd), rest)
  | c :: rest => some (.literal c false, rest)

/-- Without `u` a character written as a byte has to be ASCII. -/
def expression? (flags : Flags) : Atom → Option Expression
  | .literal c asByte =>
    if !flags.unicode && asByte && 127 < c.toNat then none
    else some (.ofSet (flags.close (.single c.toNat)))
  | .look place => some (.look place)
  | .class set => some (.ofSet set)

end Atom

end Runbook.Pattern
