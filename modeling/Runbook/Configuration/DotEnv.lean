import Runbook.Bindings
import Runbook.Text.Blank
import Runbook.Unicode.Addition

/-! Files of environment variables: lines `NAME=value`, with quotes, escapes, comments and references to
other variables.

A quoted value may go over several lines. A variable that is set already keeps its value, and the
first line that is wrong ends the reading.
-/

set_option autoImplicit false

namespace Runbook.Configuration.DotEnv

inductive LineState where
  | complete
  | blank
  | escape
  | weak
  | weakEscape
  | strong
  | strongEscape
  deriving DecidableEq, Repr

namespace LineState

/-- What follows outside of quotes. -/
def open_ (other : LineState) : Char → LineState
  | '\\' => .escape
  | '"' => .weak
  | '\'' => .strong
  | _ => other

def isInlineBlank (c : Char) : Bool :=
  Text.isBlank c && c != '\n' && c != '\r'

def next : LineState → Char → LineState
  | .complete, c => if isInlineBlank c then .blank else open_ .complete c
  | .blank, c => open_ .complete c
  | .escape, _ => .complete
  | .weak, c => if c = '\\' then .weakEscape else if c = '"' then .complete else .weak
  | .weakEscape, _ => .weak
  | .strong, c => if c = '\\' then .strongEscape else if c = '\'' then .complete else .strong
  | .strongEscape, _ => .strong

/-- The characters of a line up to a comment, whether there is one, and the state behind them. -/
def scan (state : LineState) : List Char → List Char × Bool × LineState
  | [] => ([], false, state)
  | c :: rest =>
    if state = .blank ∧ c = '#' then ([], true, state)
    else
      let (kept, commented, final) := scan (state.next c) rest
      (c :: kept, commented, final)

end LineState

def physicalLines : List Char → List (List Char)
  | [] => []
  | c :: rest =>
    if c = '\n' then [c] :: physicalLines rest
    else
      match physicalLines rest with
      | [] => [[c]]
      | first :: others => (c :: first) :: others

def withoutLineEnd (line : List Char) : List Char :=
  match line.reverse with
  | '\n' :: '\r' :: rest => rest.reverse
  | '\n' :: rest => rest.reverse
  | _ => line

/-- Lines joined where a quote is still open; none stands for one that never ends. -/
def logicalLines (before : List Char) (state : LineState) :
    List (List Char) → List (Option (List Char))
  | [] => if state = .complete ∧ before.isEmpty then [] else [none]
  | line :: rest =>
    let buffer := before ++ line
    if (Text.dropBlank buffer).head? = some '#' then some [] :: logicalLines [] .complete rest
    else
      let (kept, commented, final) := state.scan line
      if commented then some (before ++ kept) :: logicalLines [] .complete rest
      else if final = .complete then
        some (withoutLineEnd buffer) :: logicalLines [] .complete rest
      else logicalLines buffer final rest

inductive Reference where
  | bare
  | braced
  deriving DecidableEq, Repr

structure Scan where
  output : List Char := []
  weak : Bool := false
  strong : Bool := false
  escaped : Bool := false
  /-- Only blanks or a comment may follow. -/
  ending : Bool := false
  reference : Option Reference := none
  name : List Char := []

namespace Scan

def push (scan : Scan) (c : Char) : Scan :=
  { scan with output := scan.output ++ [c] }

def refer (value : String → String) (scan : Scan) : Scan :=
  { scan with
    output := scan.output ++ (value (String.ofList scan.name)).toList
    name := []
    reference := none }

def plain (scan : Scan) (c : Char) : Scan :=
  if c = '$' then { scan with reference := some .bare }
  else if c = '\\' then { scan with escaped := true }
  else if scan.weak then if c = '"' then { scan with weak := false } else scan.push c
  else if c = '\'' then { scan with strong := true }
  else if c = '"' then { scan with weak := true }
  else if c = ' ' || c = '\t' then { scan with ending := true }
  else scan.push c

def step (value : String → String) (scan : Scan) (c : Char) : Option Scan :=
  if scan.escaped then
    let scan := { scan with escaped := false }
    if ['\\', '\'', '"', '$', ' '].contains c then some (scan.push c)
    else if c = 'n' then some (scan.push '\n')
    else none
  else if scan.strong then
    some (if c = '\'' then { scan with strong := false } else scan.push c)
  else
    match scan.reference with
    | none => some (scan.plain c)
    | some mode =>
      if Unicode.isAlphanumeric c then some { scan with name := scan.name ++ [c] }
      else
        match mode with
        | .bare =>
          if c = '{' ∧ scan.name.isEmpty then some { scan with reference := some .braced }
          else
            let scan := scan.refer value
            some (if c = '$' then { scan with reference := some .bare } else scan.push c)
        | .braced =>
          some (if c = '}' then scan.refer value else { scan with name := scan.name ++ [c] })

def finish (value : String → String) (scan : Scan) : Option String :=
  if scan.reference = some .braced || scan.strong || scan.weak then none
  else some (String.ofList (scan.refer value).output)

def run (value : String → String) (scan : Scan) : List Char → Option String
  | [] => scan.finish value
  | c :: rest =>
    if scan.ending then
      if c = ' ' || c = '\t' then run value scan rest
      else if c = '#' then scan.finish value
      else none
    else do run value (← scan.step value c) rest

end Scan

def isKeyChar (c : Char) : Bool :=
  c.isAlphanum || c == '_' || c == '.'

/-- A name at the front, and what follows it without blanks in front. -/
def key? (cs : List Char) : Option (String × List Char) :=
  match cs with
  | [] => none
  | c :: _ =>
    if c.isAlpha || c == '_' then
      let name := cs.takeWhile isKeyChar
      some (String.ofList name, Text.dropBlank (cs.drop name.length))
    else none

def equals? : List Char → Option (List Char)
  | '=' :: rest => some (Text.dropBlank rest)
  | _ => none

/-- The name in front of the equals sign, perhaps after the word `export`, and the value behind it. -/
def sides? (cs : List Char) : Option (String × List Char) := do
  let (name, rest) ← key? cs
  match equals? rest with
  | some value => some (name, value)
  | none =>
    if name = "export" then
      let (name, rest) ← key? rest
      some (name, ← equals? rest)
    else none

/-- What is known while a file is read: the environment so far, and the values of this file. -/
structure Knowledge where
  environment : Bindings
  assigned : Bindings := .empty

namespace Knowledge

def value (known : Knowledge) (name : String) : String :=
  ((known.environment.get? name) <|> (known.assigned.get? name)).getD ""

def assign (known : Knowledge) (name value : String) : Knowledge :=
  { environment :=
      if known.environment.contains name then known.environment
      else known.environment.insert name value
    assigned := known.assigned.insert name value }

def line (known : Knowledge) (text : List Char) : Option Knowledge := do
  let text := Text.dropBlank (Text.trimChars text)
  match text with
  | [] | '#' :: _ => some known
  | _ =>
    let (name, source) ← sides? text
    match source with
    | [] | '#' :: _ => some (known.assign name "")
    | _ => some (known.assign name (← Scan.run known.value {} source))

def lines (known : Knowledge) : List (Option (List Char)) → Knowledge
  | [] => known
  | none :: _ => known
  | some text :: rest =>
    match known.line text with
    | some known => known.lines rest
    | none => known

end Knowledge

def load (environment : Bindings) (text : String) : Bindings :=
  let cs := match text.toList with
    | '\uFEFF' :: rest => rest
    | cs => cs
  ((⟨environment, .empty⟩ : Knowledge).lines (logicalLines [] .complete (physicalLines cs))).environment

end Runbook.Configuration.DotEnv
