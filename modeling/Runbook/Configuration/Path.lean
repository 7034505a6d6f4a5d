import Runbook.Number.Numeral

/-! Names that lead into a configuration: `notifications.webhook_url`, or `logging[0]`.

Points lead into tables, numbers between brackets into arrays; negative ones count from the end. A text
that is no such path names a member of the outermost table as it stands.
-/

set_option autoImplicit false

namespace Runbook.Configuration

inductive Step where
  | member (name : String)
  | item (index : Int)
  deriving DecidableEq, Repr

/-- The steps from the outermost table on, the first of which is by name. -/
structure Path where
  first : String
  rest : List Step := []
  deriving DecidableEq, Repr

namespace Path

def isNameChar (c : Char) : Bool :=
  c.isAlphanum || c == '_' || c == '-' || c == ' '

def isBlank (c : Char) : Bool :=
  c == ' ' || c == '\t'

/-- A name as far as it goes, and what is behind it. -/
def name? (cs : List Char) : Option (String × List Char) :=
  match cs.span isNameChar with
  | ([], _) => none
  | (name, rest) => some (String.ofList name, rest)

def index? (cs : List Char) : Option (Int × List Char) :=
  let (sign, cs) :=
    match cs.dropWhile isBlank with
    | '-' :: rest => (['-'], rest)
    | rest => ([], rest)
  let (digits, rest) := cs.span Char.isDigit
  match rest.dropWhile isBlank with
  | ']' :: rest => (Number.Numeral.integer? .int64 (String.ofList (sign ++ digits))).map (·, rest)
  | _ => none

def step? : List Char → Option (Step × List Char)
  | '.' :: rest => (name? rest).map fun (name, rest) => (.member name, rest)
  | '[' :: rest => (index? rest).map fun (index, rest) => (.item index, rest)
  | _ => none

def steps? (fuel : Nat) (cs : List Char) : Option (List Step) :=
  match fuel, cs with
  | _, [] => some []
  | 0, _ => none
  | left + 1, cs => do
    let (step, rest) ← step? cs
    return step :: (← steps? left rest)

/-- Every step takes at least one character, so that the length of the text is fuel enough. -/
def parse? (text : String) : Option Path := do
  let (first, rest) ← name? text.toList
  return ⟨first, ← steps? rest.length rest⟩

def ofText (text : String) : Path :=
  (parse? text).getD ⟨text, []⟩

def steps (path : Path) : List Step :=
  .member path.first :: path.rest

end Path

end Runbook.Configuration
