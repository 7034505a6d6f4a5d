import Std.Data.HashMap
import Runbook.Pattern.Encoding
import Runbook.Pattern.Expression

/-! How much memory a pattern takes as an automaton that reads text byte by byte.

Two automata are laid out, one for reading forwards, which notes where groups begin and end, and one for
reading backwards. States are numbered in the order in which they are laid out. A set of characters
reuses states that it has laid out already, as far as a table of fixed size remembers them: where a
state stands in the table depends on the numbers of the states behind it, so a set does not take the
same room at every place. Repetitions multiply, so laying out stops where there is too much.
-/

set_option autoImplicit false

namespace Runbook.Pattern

open Unicode (RangeSet)

def sizeLimit : Nat := 10485760

/-- What an automaton takes so far. -/
structure Layout where
  states : Nat := 0
  bytes : Nat := 0
  deriving DecidableEq, Repr

namespace Layout

def add (layout : Layout) (extra : Nat) : Layout :=
  ⟨layout.states + 1, layout.bytes + 32 + extra⟩

def waysSize (count : Nat) : Nat := 4 * count

def rangesSize (count : Nat) : Nat := 8 * count

def addWays (count : Nat) (layout : Layout) : Layout :=
  { layout with bytes := layout.bytes + waysSize count }

def addPlain (count : Nat) (layout : Layout) : Layout :=
  ⟨layout.states + count, layout.bytes + 32 * count⟩

def isTooLarge (layout : Layout) : Bool :=
  sizeLimit < layout.bytes

/-- Lays out the same thing `count` times, or until there is too much. -/
def times (step : Layout → Layout) : Nat → Layout → Layout
  | 0, layout => layout
  | count + 1, layout => if layout.isTooLarge then layout else times step count (step layout)

end Layout

/-- A table of states laid out before, each under the remainder of a number computed from what it is.
A state drives out the one that had its place. -/
structure Memory (α : Type) where
  places : Std.HashMap UInt64 (α × Nat) := {}

namespace Memory

def mix (number value : UInt64) : UInt64 :=
  (number.xor value) * 1099511628211

def mixAll (values : List Nat) : UInt64 :=
  values.foldl (fun number value => mix number (.ofNat value)) 14695981039346656037

variable {α : Type} [DecidableEq α]

def find? (memory : Memory α) (place : UInt64) (key : α) : Option Nat :=
  match memory.places[place]? with
  | some (found, state) => if found = key then some state else none
  | none => none

def insert (memory : Memory α) (place : UInt64) (key : α) (state : Nat) : Memory α :=
  ⟨memory.places.insert place (key, state)⟩

end Memory

namespace Layout

structure Way where
  range : ByteRange
  next : Nat
  deriving DecidableEq, Repr

def wayNumbers (way : Way) : List Nat :=
  [way.range.low, way.range.high, way.next]

/-- Sequences with equal beginnings next to one another, as one beginning and what is behind it. -/
def shareFirst : List ByteRanges → List (ByteRange × List ByteRanges)
  | [] => []
  | [] :: rest => shareFirst rest
  | (range :: behind) :: rest =>
    match shareFirst rest with
    | (next, others) :: more =>
      if range = next then (range, behind :: others) :: more
      else (range, [behind]) :: (next, others) :: more
    | [] => [(range, [behind])]

def forwardPlaces : UInt64 := 10000

/-- The state that reads any of some sequences and goes on at `target`, after all states behind it. -/
def forwardState (target : Nat) : Nat → List ByteRanges → Layout × Memory (List Way) →
    Nat × Layout × Memory (List Way)
  | 0, _, (layout, memory) => (target, layout, memory)
  | depth + 1, sequences, start =>
    if sequences.all List.isEmpty then (target, start)
    else
      let (ways, layout, memory) := (shareFirst sequences).foldl
        (fun (ways, layout, memory) (range, behind) =>
          let (next, layout, memory) := forwardState target depth behind (layout, memory)
          (⟨range, next⟩ :: ways, layout, memory))
        ([], start)
      let ways := ways.reverse
      let place := Memory.mixAll (ways.flatMap wayNumbers) % forwardPlaces
      match memory.find? place ways with
      | some state => (state, layout, memory)
      | none =>
        (layout.states, layout.add (rangesSize ways.length),
          memory.insert place ways layout.states)

def addSetForward (sequences : List ByteRanges) (layout : Layout) : Layout :=
  (forwardState layout.states 5 sequences (layout.add 0, {})).2.1

def backwardPlaces : UInt64 := 1000

/-- The states of one sequence, the first byte nearest to `next`. -/
def backwardStates (next : Nat) (start : Layout × Memory Way) (sequence : ByteRanges) :
    Layout × Memory Way :=
  (sequence.foldl
    (fun (next, layout, memory) range =>
      let key : Way := ⟨range, next⟩
      let place := Memory.mixAll [next, range.low, range.high] % backwardPlaces
      match memory.find? place key with
      | some state => (state, layout, memory)
      | none => (layout.states, layout.add 0, memory.insert place key layout.states))
    (next, start)).2

def addSetBackward (sequences : List ByteRanges) (layout : Layout) : Layout :=
  let layout := layout.add (waysSize sequences.length)
  let target := layout.states
  (sequences.foldl (backwardStates target) (layout.add 0, {})).1

/-- A set; one of single bytes needs no more than a state with its ranges. -/
def addSet (backward : Bool) (set : RangeSet) (layout : Layout) : Layout :=
  match set.only? with
  | some n => layout.addPlain (Encoding.length n)
  | none =>
    if set.ranges.all fun (_, high) => high ≤ 0x7F then
      (layout.add 0).add (rangesSize set.ranges.length)
    else if backward then layout.addSetBackward (Encoding.sequences set)
    else layout.addSetForward (Encoding.sequences set)

end Layout

/-- Texts as a tree that reads them byte by byte, laid out. The texts that end at a state divide those
that go on into sections, which share nothing. -/
def Layout.addTexts : Nat → List (List Nat) → Layout → Layout
  | 0, _, layout => layout
  | depth + 1, texts, layout =>
    let sections := sectionsOf texts
    let layout := sections.foldl
      (fun layout firsts => firsts.foldl
        (fun layout (_, behind) =>
          if behind.all List.isEmpty then layout else Layout.addTexts depth behind layout)
        layout)
      layout
    let full := sections.filter fun firsts => !firsts.isEmpty
    let layout := full.foldl
      (fun layout firsts =>
        layout.add (if firsts.length = 1 then 0 else Layout.rangesSize firsts.length))
      layout
    layout.add (Layout.waysSize (full.length + sections.length - 1))
where
  /-- Adds a text to those with the same first byte. -/
  insert (first : Nat) (behind : List Nat) :
      List (Nat × List (List Nat)) → List (Nat × List (List Nat))
    | [] => [(first, [behind])]
    | (other, texts) :: rest =>
      if first = other then (other, texts ++ [behind]) :: rest
      else (other, texts) :: insert first behind rest
  /-- The texts by their first bytes, in sections. -/
  sectionsOf (texts : List (List Nat)) : List (List (Nat × List (List Nat))) :=
    let (closed, last) := texts.foldl
      (fun (closed, last) text =>
        match text with
        | [] =>
          if closed.isEmpty || closed.any (fun firsts => !firsts.isEmpty) || !last.isEmpty then
            (closed ++ [last], [])
          else (closed, last)
        | first :: behind => (closed, insert first behind last))
      (([] : List (List (Nat × List (List Nat)))), ([] : List (Nat × List (List Nat))))
    closed ++ [last]

namespace Expression

/-- The fewest characters of a match; none where a part can never match. -/
def leastLength : Expression → Option Nat
  | .empty | .look _ => some 0
  | .chars set => if set.isEmpty then none else some 1
  | .group _ body => body.leastLength
  | .seq first second => do return (← first.leastLength) + (← second.leastLength)
  | .alt first second => do return min (← first.leastLength) (← second.leastLength)
  | .repeat body least _ _ => body.leastLength.map (least * ·)

/-- Whether every match begins where a condition holds. -/
def begins (condition : Look) : Expression → Bool
  | .empty | .chars _ => false
  | .look place => place == condition
  | .group _ body => body.begins condition
  | .seq first second =>
    first.begins condition || (first.isAlwaysEmpty && second.begins condition)
  | .alt first second => first.begins condition && second.begins condition
  | .repeat body least _ _ => 0 < least && body.begins condition

def ends (condition : Look) : Expression → Bool
  | .empty | .chars _ => false
  | .look place => place == condition
  | .group _ body => body.ends condition
  | .seq first second =>
    second.ends condition || (second.isAlwaysEmpty && first.ends condition)
  | .alt first second => first.ends condition && second.ends condition
  | .repeat body least _ _ => 0 < least && body.ends condition

/-- The bytes of a sequence of single characters. -/
def text? (expression : Expression) : Option (List Nat) :=
  match expression with
  | .empty => none
  | _ => (expression.parts.mapM char?).map fun codes => codes.flatMap Encoding.bytes

def texts? (expression : Expression) : Option (List (List Nat)) :=
  expression.branches.mapM text?

inductive Position where
  | alone
  | second
  | later
  deriving DecidableEq, Repr

/-- The fork to the alternatives and the state where they meet are laid out after the second. -/
def Position.finish (position : Position) (layout : Layout) : Layout :=
  match position with
  | .alone => layout
  | .second => ((layout.add 0).add 0).addWays 2
  | .later => layout.addWays 1

/-- An expression behind what is laid out already, in either direction. -/
def lay (backward : Bool) : Expression → Position → Layout → Layout
  | .empty, position, layout | .look _, position, layout => position.finish (layout.add 0)
  | .chars set, position, layout => position.finish (layout.addSet backward set)
  | .group _ body, position, layout =>
    position.finish <|
      if backward then lay backward body .alone layout
      else (lay backward body .alone (layout.add 0)).add 0
  | .seq first second, position, layout =>
    position.finish <|
      if backward then lay backward first .alone (lay backward second .alone layout)
      else lay backward second .alone (lay backward first .alone layout)
  | .alt first second, .alone, layout =>
    match (Expression.alt first second).texts? with
    | some texts =>
      let texts := if backward then texts.map List.reverse else texts
      let depth := (texts.map List.length).foldl max 0
      Layout.addTexts (depth + 1) texts (layout.add 0)
    | none => lay backward second .second (lay backward first .alone layout)
  | .alt first second, .second, layout =>
    lay backward second .later (Position.second.finish (lay backward first .alone layout))
  | .alt first second, .later, layout =>
    lay backward second .later (Position.later.finish (lay backward first .alone layout))
  | .repeat body least (some most) _, position, layout =>
    let body := lay backward body .alone
    position.finish <|
      if least = most then layout.times body least
      else if least = 0 ∧ most = 1 then (body (layout.add (Layout.waysSize 2))).add 0
      else
        let required := if least = 0 then layout.add 0 else layout.times body least
        (required.add 0).times (fun layout => body (layout.add (Layout.waysSize 2))) (most - least)
  | .repeat body 0 none _, position, layout =>
    position.finish <|
      if (body.leastLength.getD 0) = 0 then
        let fork (layout : Layout) := layout.add (Layout.waysSize 2)
        (fork (fork (lay backward body .alone layout))).add 0
      else lay backward body .alone (layout.add (Layout.waysSize 2))
  | .repeat body (least + 1) none _, position, layout =>
    position.finish
      ((layout.times (lay backward body .alone) (least + 1)).add (Layout.waysSize 2))

/-- A pattern as a whole. What comes before it, or behind it for reading backwards, is skipped with
states of its own, unless all matches are at that end of the text. -/
def layout (backward : Bool) (expression : Expression) : Layout :=
  let anchored := if backward then expression.ends .textEnd else expression.begins .textStart
  let skip : Layout :=
    if anchored then Layout.add {} 0
    else ((Layout.add {} (Layout.waysSize 2)).add 0).add (Layout.rangesSize 1)
  if backward then (lay backward expression .alone skip).add 0
  else ((lay backward expression .alone (skip.add 0)).add 0).add 0

/-- More than an expression can take, whatever its place. -/
def sizeBound : Expression → Nat
  | .empty | .look _ => 32
  | .chars set =>
    (Encoding.sequences set).foldl (fun size sequence => size + 4 + 40 * sequence.length) 64
  | .group _ body => body.sizeBound + 64
  | .seq first second => first.sizeBound + second.sizeBound
  | .alt first second => first.sizeBound + second.sizeBound + 128
  | .repeat body least most _ =>
    (least + 1) * body.sizeBound + 128 + ((most.getD 0) - least) * (body.sizeBound + 40)

/-- So many texts to choose from are looked for without an automaton. -/
def textsLimit : Nat := 3000

def isTooLarge (expression : Expression) : Bool :=
  if expression.sizeBound + 1000 ≤ sizeLimit then false
  else
    let manyTexts := textsLimit ≤ expression.branches.length && expression.texts?.isSome
    !manyTexts &&
      ((expression.layout false).isTooLarge || (expression.layout true).isTooLarge)

end Expression

end Runbook.Pattern
