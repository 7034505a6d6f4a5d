import Runbook.Document.Value

/-! Documents as JSON text, on one line or with one member or item a line.
-/

set_option autoImplicit false

namespace Runbook.Document.JsonPrinter

def hexDigit (n : Nat) : Char :=
  if n < 10 then Char.ofNat (48 + n) else Char.ofNat (87 + n)

/-- Quotes, backslashes and control characters are escaped, nothing else. -/
def escape (c : Char) : List Char :=
  match c with
  | '"' => ['\\', '"']
  | '\\' => ['\\', '\\']
  | '\x08' => ['\\', 'b']
  | '\x0c' => ['\\', 'f']
  | '\n' => ['\\', 'n']
  | '\r' => ['\\', 'r']
  | '\t' => ['\\', 't']
  | _ =>
    if c.toNat < 0x20 then
      ['\\', 'u', '0', '0', hexDigit (c.toNat / 16), hexDigit (c.toNat % 16)]
    else [c]

def stringText (s : String) : List Char :=
  '"' :: (s.toList.flatMap escape ++ ['"'])

/-- What a value without parts is written as. A number that is not finite has no JSON text. -/
def leafText : Value → List Char
  | .boolean value => if value then "true".toList else "false".toList
  | .integer n => (toString n).toList
  | .float (.finite x) => x.scientificText.toList
  | .string text | .moment text => stringText text
  | _ => "null".toList

mutual

def compactValue : Value → List Char
  | .array items => '[' :: (compactItems items ++ [']'])
  | .object members => '{' :: (compactMembers members ++ ['}'])
  | leaf => leafText leaf

def compactItems : List Value → List Char
  | [] => []
  | [only] => compactValue only
  | first :: rest => compactValue first ++ ',' :: compactItems rest

def compactMembers : List (String × Value) → List Char
  | [] => []
  | [(name, only)] => stringText name ++ ':' :: compactValue only
  | (name, first) :: rest =>
    stringText name ++ ':' :: (compactValue first ++ ',' :: compactMembers rest)

end

def compact (value : Value) : String :=
  String.ofList (compactValue value)

def newLine (depth : Nat) : List Char :=
  '\n' :: List.replicate (2 * depth) ' '

mutual

def prettyValue (depth : Nat) : Value → List Char
  | .array [] => ['[', ']']
  | .object [] => ['{', '}']
  | .array items => '[' :: (prettyItems (depth + 1) items ++ newLine depth ++ [']'])
  | .object members => '{' :: (prettyMembers (depth + 1) members ++ newLine depth ++ ['}'])
  | leaf => leafText leaf

def prettyItems (depth : Nat) : List Value → List Char
  | [] => []
  | [only] => newLine depth ++ prettyValue depth only
  | first :: rest => newLine depth ++ prettyValue depth first ++ ',' :: prettyItems depth rest

def prettyMembers (depth : Nat) : List (String × Value) → List Char
  | [] => []
  | [(name, only)] => newLine depth ++ stringText name ++ ':' :: ' ' :: prettyValue depth only
  | (name, first) :: rest =>
    newLine depth ++ stringText name ++ ':' :: ' ' :: prettyValue depth first ++
      ',' :: prettyMembers depth rest

end

/-- Two blanks of indentation a level; empty containers stay on their line. -/
def pretty (value : Value) : String :=
  String.ofList (prettyValue 0 value)

end Runbook.Document.JsonPrinter
