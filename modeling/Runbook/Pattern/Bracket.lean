import Runbook.Pattern.Escape

/-! Bracketed character classes: ranges, nested classes, classes named between colons, and the set
operators `&&`, `--` and `~~`, which bind equally and to the left.

A class is read in one pass over an explicit stack of the brackets that are open. Beside its set each
part carries the depth of its nesting, which patterns limit.
-/

set_option autoImplicit false

namespace Runbook.Pattern

open Unicode (RangeSet)

namespace Bracket

inductive Operator where
  | inter
  | diff
  | symmDiff
  deriving DecidableEq, Repr

/-- A set and how deep its text is nested. -/
structure Nested where
  set : RangeSet
  depth : Nat := 0
  deriving DecidableEq, Repr

namespace Operator

def apply (flags : Flags) (operator : Operator) (left right : Nested) : Nested :=
  let a := flags.close left.set
  let b := flags.close right.set
  let set :=
    match operator with
    | .inter => a.inter b
    | .diff => a.diff b
    | .symmDiff => a.symmDiff b
  ⟨set, 1 + max left.depth right.depth⟩

end Operator

/-- An open bracket: what stands left of the last operator, and the items read after it. -/
structure Level where
  negated : Bool
  left : Option (Operator × Nested) := none
  items : List Nested := []
  deriving Repr

namespace Level

def add (level : Level) (item : Nested) : Level :=
  { level with items := item :: level.items }

/-- The items since the last operator as one set. -/
def operand (level : Level) : Nested :=
  let depth := (level.items.map Nested.depth).foldl max 0
  ⟨.unionAll (level.items.map Nested.set), if level.items.length < 2 then depth else depth + 1⟩

def value (flags : Flags) (level : Level) : Nested :=
  match level.left with
  | none => level.operand
  | some (operator, left) => operator.apply flags left level.operand

def operate (flags : Flags) (operator : Operator) (level : Level) : Level :=
  { level with left := some (operator, level.value flags), items := [] }

def close? (flags : Flags) (level : Level) : Option Nested := do
  let value := level.value flags
  let set ← flags.finish? level.negated value.set
  return ⟨set, value.depth + 1⟩

end Level

def namedClass? (name : String) : Option RangeSet :=
  match name with
  | "alnum" => some ⟨[(0x30, 0x39), (0x41, 0x5A), (0x61, 0x7A)]⟩
  | "alpha" => some ⟨[(0x41, 0x5A), (0x61, 0x7A)]⟩
  | "ascii" => some .ascii
  | "blank" => some ⟨[(0x09, 0x09), (0x20, 0x20)]⟩
  | "cntrl" => some ⟨[(0, 0x1F), (0x7F, 0x7F)]⟩
  | "digit" => some ⟨[(0x30, 0x39)]⟩
  | "graph" => some ⟨[(0x21, 0x7E)]⟩
  | "lower" => some ⟨[(0x61, 0x7A)]⟩
  | "print" => some ⟨[(0x20, 0x7E)]⟩
  | "punct" => some ⟨[(0x21, 0x2F), (0x3A, 0x40), (0x5B, 0x60), (0x7B, 0x7E)]⟩
  | "space" => some ⟨[(0x09, 0x0D), (0x20, 0x20)]⟩
  | "upper" => some ⟨[(0x41, 0x5A)]⟩
  | "word" => some ⟨[(0x30, 0x39), (0x41, 0x5A), (0x5F, 0x5F), (0x61, 0x7A)]⟩
  | "xdigit" => some ⟨[(0x30, 0x39), (0x41, 0x46), (0x61, 0x66)]⟩
  | _ => none

/-- A class named between colons, read behind its bracket: its set, whether it is negated, and what
follows. Anything else is a nested class. -/
def colonClass? (cs : List Char) : Option (RangeSet × Bool × List Char) :=
  match cs with
  | ':' :: inner =>
    let (negated, inner) :=
      match inner with
      | '^' :: rest => (true, rest)
      | _ => (false, inner)
    let name := inner.takeWhile (· != ':')
    match inner.drop name.length with
    | ':' :: ']' :: rest =>
      (namedClass? (String.ofList name)).map fun set => (set, negated, rest)
    | _ => none
  | _ => none

/-- The start of a class, read behind its bracket: a negation, then minus signs that stand for
themselves, or a closing bracket that does. -/
def openLevel (flags : Flags) (cs : List Char) : Option (Level × List Char) :=
  let cs := flags.skip cs
  let (negated, cs) :=
    match cs with
    | '^' :: rest => (true, flags.skip rest)
    | _ => (false, cs)
  let (minuses, rest) := flags.span (· == '-') cs
  match minuses, rest with
  | [], ']' :: rest => some ({ negated, items := [⟨.single 0x5D, 0⟩] }, flags.skip rest)
  | _, _ => some ({ negated, items := minuses.map fun _ => ⟨.single 0x2D, 0⟩ }, rest)

/-- The character after the next one that a range looks at: in a verbose pattern past white space
and past the sign that starts a comment. -/
def lookPast (verbose : Bool) (cs : List Char) : Option Char :=
  let behind := cs.drop 1
  if verbose then
    match go false behind with
    | some c => some c
    | none => behind.head?
  else behind.head?
where
  go (inComment : Bool) : List Char → Option Char
  | [] => none
  | c :: rest =>
    if Text.isBlank c then go inComment rest
    else if !inComment && c == '#' then go true rest
    else some c

def atom (flags : Flags) : List Char → Option (Atom × List Char)
  | [] => none
  | '\\' :: rest => Atom.escape flags rest
  | c :: rest => some (.literal c false, rest)

/-- Without `u` a class holds ASCII characters only. -/
def literalCode? (flags : Flags) : Atom → Option Nat
  | .literal c _ => if flags.unicode || c.toNat < 128 then some c.toNat else none
  | _ => none

def atomSet? (flags : Flags) : Atom → Option RangeSet
  | .class set => some set
  | part => (literalCode? flags part).map RangeSet.single

def item (flags : Flags) (cs : List Char) : Option (RangeSet × List Char) := do
  let (first, rest) ← atom flags cs
  let rest := flags.skip rest
  match rest with
  | [] => none
  | '-' :: behind =>
    let next := lookPast flags.verbose rest
    if next = some ']' ∨ next = some '-' then
      return (← atomSet? flags first, rest)
    else
      let (second, rest) ← atom flags (flags.skip behind)
      let low ← literalCode? flags first
      let high ← literalCode? flags second
      if low ≤ high then return (⟨[(low, high)]⟩, rest) else none
  | _ => return (← atomSet? flags first, rest)

/-- A nested or named class, an operator, a closing bracket or an item. `inl` keeps reading at the
given levels, the innermost first; `inr` is the whole class. -/
def step (flags : Flags) (level : Level) (outer : List Level) (cs : List Char) :
    Option ((Level × List Level × List Char) ⊕ (Nested × List Char)) :=
  match cs with
  | [] => none
  | '[' :: rest =>
    match colonClass? rest with
    | some (set, negated, rest) => do
      let set ← flags.finish? negated set
      return .inl (level.add ⟨set, 0⟩, outer, rest)
    | none => do
      let (inner, rest) ← openLevel flags rest
      return .inl (inner, level :: outer, rest)
  | ']' :: rest => do
    let whole ← level.close? flags
    match outer with
    | [] => return .inr (whole, rest)
    | parent :: outer => return .inl (parent.add whole, outer, rest)
  | '&' :: '&' :: rest => some (.inl (level.operate flags .inter, outer, rest))
  | '-' :: '-' :: rest => some (.inl (level.operate flags .diff, outer, rest))
  | '~' :: '~' :: rest => some (.inl (level.operate flags .symmDiff, outer, rest))
  | _ => do
    let (set, rest) ← item flags cs
    return .inl (level.add ⟨set, 0⟩, outer, rest)

def steps (flags : Flags) (fuel : Nat) (level : Level) (outer : List Level) (cs : List Char) :
    Option (Nested × List Char) :=
  match fuel with
  | 0 => none
  | left + 1 =>
    match step flags level outer (flags.skip cs) with
    | none => none
    | some (.inr found) => some found
    | some (.inl (level, outer, rest)) => steps flags left level outer rest

def read (flags : Flags) (cs : List Char) : Option (Nested × List Char) := do
  let (level, rest) ← openLevel flags cs
  steps flags (cs.length + 1) level [] rest

end Bracket

end Runbook.Pattern
