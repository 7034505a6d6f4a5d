import Runbook.Unicode.RangeSet

/-! Regular expressions as trees.

The constructors that simplify (`ofSet`, `repeated`, `seqAll`, `altAll`) are the ones that readers of
pattern text use. They keep sequences and alternatives flat, make one set of alternatives that are sets
or single characters, take out in front what all alternatives begin with, and keep a repetition of
something always empty from growing.
-/

set_option autoImplicit false

namespace Runbook.Pattern

open Unicode (RangeSet)

inductive Look where
  | textStart
  | textEnd
  | lineStart (crlf : Bool)
  | lineEnd (crlf : Bool)
  | wordBoundary (unicode : Bool)
  | notWordBoundary (unicode : Bool)
  | wordStart (unicode : Bool)
  | wordEnd (unicode : Bool)
  | wordStartHalf (unicode : Bool)
  | wordEndHalf (unicode : Bool)
  deriving DecidableEq, Repr

inductive Expression where
  | empty
  | chars (set : RangeSet)
  | look (look : Look)
  | group (index : Nat) (body : Expression)
  | seq (first second : Expression)
  | alt (first second : Expression)
  | repeat (body : Expression) (least : Nat) (most : Option Nat) (greedy : Bool)
  deriving DecidableEq, Repr

namespace Expression

/-- Whether no match takes a character. -/
def isAlwaysEmpty : Expression → Bool
  | .empty | .look _ => true
  | .chars _ => false
  | .group _ body => body.isAlwaysEmpty
  | .seq first second | .alt first second => first.isAlwaysEmpty && second.isAlwaysEmpty
  | .repeat body _ _ _ => body.isAlwaysEmpty

/-- Whether every match takes a character. -/
def isNeverEmpty : Expression → Bool
  | .empty | .look _ => false
  | .chars _ => true
  | .group _ body => body.isNeverEmpty
  | .seq first second => first.isNeverEmpty || second.isNeverEmpty
  | .alt first second => first.isNeverEmpty && second.isNeverEmpty
  | .repeat body least _ _ => 0 < least && body.isNeverEmpty

/-- The indices of the groups, with repetitions. -/
def groups : Expression → List Nat
  | .empty | .look _ | .chars _ => []
  | .group index body => index :: body.groups
  | .seq first second | .alt first second => first.groups ++ second.groups
  | .repeat body _ _ _ => body.groups

def weight : Expression → Nat
  | .empty | .look _ | .chars _ => 1
  | .group _ body | .repeat body _ _ _ => body.weight + 1
  | .seq first second | .alt first second => first.weight + second.weight + 1

/-- A set of characters; surrogates are none. -/
def ofSet (set : RangeSet) : Expression :=
  .chars set.scalars

/-- Repetition; of something always empty one time is enough, and no time at all leaves nothing of
the body. -/
def repeated (body : Expression) (least : Nat) (most : Option Nat) (greedy : Bool) : Expression :=
  let (least, most) :=
    if body.isAlwaysEmpty then (min least 1, some ((most.map (min · 1)).getD 1))
    else (least, most)
  if least = 0 ∧ most = some 0 then .empty
  else if least = 1 ∧ most = some 1 then body
  else .repeat body least most greedy

/-- What a sequence consists of, in order. -/
def parts : Expression → List Expression
  | .empty => []
  | .seq first second => first.parts ++ second.parts
  | whole => [whole]

def branches : Expression → List Expression
  | .alt first second => first.branches ++ second.branches
  | whole => [whole]

def seqAll (expressions : List Expression) : Expression :=
  chain (expressions.flatMap parts)
where
  chain : List Expression → Expression
  | [] => .empty
  | [only] => only
  | first :: rest => .seq first (chain rest)

def char? : Expression → Option Nat
  | .chars set => set.only?
  | _ => none

def properSet? : Expression → Option RangeSet
  | .chars set => if set.only?.isSome then none else some set
  | _ => none

/-- A piece of a sequence: characters in a row as one, or anything else. -/
inductive Run where
  | text (codes : List Nat)
  | other (expression : Expression)
  deriving DecidableEq, Repr

namespace Run

def expressions : Run → List Expression
  | .text codes => codes.map fun c => .chars (.single c)
  | .other expression => [expression]

end Run

def runsOf : List Expression → List Run
  | [] => []
  | first :: rest =>
    match first.char?, runsOf rest with
    | some c, .text codes :: behind => .text (c :: codes) :: behind
    | some c, behind => .text [c] :: behind
    | none, behind => .other first :: behind

def runs (expression : Expression) : List Run :=
  runsOf expression.parts

def ofRuns (runs : List Run) : Expression :=
  seqAll (runs.flatMap Run.expressions)

def commonRuns : List Run → List Run → List Run
  | one :: first, other :: second => if one = other then one :: commonRuns first second else []
  | _, _ => []

def sharedRuns (sequences : List (List Run)) : List Run :=
  match sequences with
  | [] => []
  | first :: rest =>
    if sequences.any fun runs => runs.length < 2 then [] else rest.foldl commonRuns first

/-- Alternatives where what all begin with may be taken out `fuel` times. -/
def altWithin (fuel : Nat) (expressions : List Expression) : Expression :=
  let all := expressions.flatMap branches
  match all.mapM char? with
  | some codes => ofSet (.ofList (codes.map fun c => (c, c)))
  | none =>
    match all.mapM properSet? with
    | some sets => ofSet (.unionAll sets)
    | none =>
      let sequences := all.map runs
      let shared := sharedRuns sequences
      match fuel, shared with
      | left + 1, _ :: _ =>
        let endings := sequences.map fun runs => ofRuns (runs.drop shared.length)
        seqAll [ofRuns shared, altWithin left endings]
      | _, _ => chain all
where
  chain : List Expression → Expression
  | [] => .empty
  | [only] => only
  | first :: rest => .alt first (chain rest)

def altAll (expressions : List Expression) : Expression :=
  match expressions with
  | [only] => only
  | _ => altWithin ((expressions.map weight).foldl (· + ·) 0) expressions

end Expression

end Runbook.Pattern
