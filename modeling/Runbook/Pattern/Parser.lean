import Runbook.Pattern.Bracket
import Runbook.Unicode.Addition

/-! Pattern text as a regular expression.

The reader walks the text once, over an explicit stack of the groups that are open. Flags set inside a
group end with it; an alternative does not end them.
-/

set_option autoImplicit false

namespace Runbook.Pattern

structure Part where
  expression : Expression
  depth : Nat := 0
  deriving Repr

namespace Part

def depthLimit : Nat := 250

def deepest (parts : List Part) : Nat :=
  (parts.map depth).foldl max 0

def joined (parts : List Part) (expression : Expression) : Part :=
  ⟨expression, if parts.length < 2 then deepest parts else deepest parts + 1⟩

end Part

/-- What stands one after the other in an alternative; `none` is a place where flags change. -/
abbrev Item := Option Part

/-- A group that is open: its index if it captures, and what it returns to. -/
structure Frame where
  index : Option Nat
  flags : Flags
  items : List Item
  branches : List Part
  deriving Repr

/-- Items and branches are kept last one first. -/
structure Reader where
  rest : List Char
  flags : Flags := {}
  items : List Item := []
  branches : List Part := []
  open_ : List Frame := []
  /-- The names of all groups met so far, last one first. -/
  names : List (Option String) := []
  deriving Repr

namespace Reader

def branch (items : List Item) : Part :=
  let inOrder := items.reverse
  let whole := Part.joined (inOrder.map fun item => item.getD ⟨.empty, 0⟩) <|
    .seqAll (inOrder.filterMap fun item => item.map Part.expression)
  whole

def alternatives (reader : Reader) : Part :=
  let all := (branch reader.items :: reader.branches).reverse
  Part.joined all (.altAll (all.map Part.expression))

def push (reader : Reader) (part : Part) (rest : List Char) : Reader :=
  { reader with items := some part :: reader.items, rest }

/-- Opens a group; `names` counts it already if it captures. -/
def openGroup (reader : Reader) (index : Option Nat) (flags : Flags) (rest : List Char) : Reader :=
  { reader with
    rest, flags, items := [], branches := [],
    open_ := ⟨index, reader.flags, reader.items, reader.branches⟩ :: reader.open_ }

def isNameStart (c : Char) : Bool :=
  c == '_' || Unicode.isAlphabetic c

def isNamePart (c : Char) : Bool :=
  c == '_' || c == '.' || c == '[' || c == ']' || Unicode.isAlphanumeric c

def groupName (cs : List Char) : Option (String × List Char) :=
  match cs with
  | [] => none
  | c :: _ =>
    if isNameStart c then
      let name := cs.takeWhile isNamePart
      match cs.drop name.length with
      | '>' :: rest => some (String.ofList name, rest)
      | _ => none
    else none

def openNamed (reader : Reader) (cs : List Char) : Option Reader := do
  let (name, rest) ← groupName cs
  if some name ∈ reader.names then none
  let names := some name :: reader.names
  return { reader with names }.openGroup (some names.length) reader.flags rest

/-- A group or a change of flags, read behind its bracket. -/
def group (reader : Reader) (cs : List Char) : Option Reader :=
  match reader.flags.skip cs with
  | '?' :: '=' :: _ | '?' :: '!' :: _ | '?' :: '<' :: '=' :: _ | '?' :: '<' :: '!' :: _ => none
  | '?' :: 'P' :: '<' :: rest => reader.openNamed rest
  | '?' :: '<' :: rest => reader.openNamed rest
  | '?' :: rest => do
    let (changes, closing, rest) ← Flag.readAll [] false false rest
    let flags := reader.flags.setAll changes
    if closing = ':' then return reader.openGroup none flags rest
    else if changes.isEmpty then none
    else return { reader with rest, flags, items := none :: reader.items }
  | rest =>
    let names := none :: reader.names
    some ({ reader with names }.openGroup (some names.length) reader.flags rest)

def closeGroup (reader : Reader) (rest : List Char) : Option Reader :=
  match reader.open_ with
  | [] => none
  | frame :: outer =>
    let body := reader.alternatives
    let expression :=
      match frame.index with
      | some index => .group index body.expression
      | none => body.expression
    some { reader with
      rest, flags := frame.flags, branches := frame.branches, open_ := outer,
      items := some ⟨expression, body.depth + 1⟩ :: frame.items }

/-- Repeats the item before the operator. A question mark behind it changes which count is tried
first. -/
def repetition (reader : Reader) (least : Nat) (most : Option Nat) (cs : List Char) :
    Option Reader :=
  match reader.items with
  | some part :: items =>
    let (lazily, rest) :=
      match cs with
      | '?' :: rest => (true, rest)
      | _ => (false, cs)
    let repeated := Expression.repeated part.expression least most (lazily == reader.flags.lazyFirst)
    some { reader with items := some ⟨repeated, part.depth + 1⟩ :: items, rest }
  | _ => none

/-- A count of at most 32 bits, with white space around it. -/
def count? (flags : Flags) (cs : List Char) : Option (Nat × List Char) :=
  let (digits, rest) := flags.span Char.isDigit (Text.dropBlank cs)
  let n := digits.foldl (fun n c => 10 * n + (c.toNat - 48)) 0
  if digits.isEmpty || 4294967296 ≤ n then none else some (n, Text.dropBlank rest)

/-- Bounds in braces, read behind the opening one. Of two bounds the upper may be left out. -/
def bounds (flags : Flags) (cs : List Char) : Option (Nat × Option Nat × List Char) := do
  let (least, rest) ← count? flags (flags.skip cs)
  match rest with
  | '}' :: rest => return (least, some least, rest)
  | ',' :: rest =>
    match flags.skip rest with
    | '}' :: rest => return (least, none, rest)
    | rest =>
      let (most, rest) ← count? flags rest
      match rest with
      | '}' :: rest => if least ≤ most then return (least, some most, rest) else none
      | _ => none
  | _ => none

def step (reader : Reader) : Option Reader :=
  match reader.rest with
  | [] => some reader
  | c :: rest =>
    match c with
    | '(' => reader.group rest
    | ')' => reader.closeGroup rest
    | '|' => some
        { reader with rest, items := [], branches := branch reader.items :: reader.branches }
    | '[' => do
      let (found, rest) ← Bracket.read reader.flags rest
      return reader.push ⟨.ofSet found.set, found.depth⟩ rest
    | '?' => reader.repetition 0 (some 1) rest
    | '*' => reader.repetition 0 none rest
    | '+' => reader.repetition 1 none rest
    | '{' =>
      match reader.items with
      | some _ :: _ => do
        let (least, most, rest) ← bounds reader.flags rest
        reader.repetition least most (reader.flags.skip rest)
      | _ => none
    | _ => do
      let (atom, rest) ← Atom.read reader.flags (c :: rest)
      return reader.push ⟨← atom.expression? reader.flags, 0⟩ rest

def skipBlank (reader : Reader) : Reader :=
  { reader with rest := reader.flags.skip reader.rest }

/-- Every step takes a character, so `fuel` need not be more than there are. -/
def steps (fuel : Nat) (reader : Reader) : Option Reader :=
  match fuel with
  | 0 => some reader
  | left + 1 =>
    let reader := reader.skipBlank
    if reader.rest.isEmpty then some reader else reader.step.bind (steps left)

end Reader

structure Parsed where
  expression : Expression
  names : List (Option String)
  deriving Repr

def parse? (text : String) : Option Parsed := do
  let cs := text.toList
  let reader ← Reader.steps (cs.length + 1) { rest := cs }
  if !reader.open_.isEmpty then none
  let whole := reader.alternatives
  if Part.depthLimit < whole.depth then none
  return ⟨whole.expression, reader.names.reverse⟩

end Runbook.Pattern
