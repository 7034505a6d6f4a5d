import Runbook.Document.Toml.Edition
import Runbook.Unicode.RangeSet

/-! What TOML text is made of: white space, comments, line ends, texts in quotes, and names.
-/

set_option autoImplicit false

namespace Runbook.Document.Toml

def isSpace (c : Char) : Bool :=
  c == ' ' || c == '\t'

def skipSpace (cs : List Char) : List Char :=
  cs.dropWhile isSpace

def isControl (c : Char) : Bool :=
  (c.toNat < 0x20 && c != '\t') || c.toNat == 0x7F

def skipComment (cs : List Char) : List Char :=
  match cs with
  | '#' :: rest => rest.dropWhile fun c => !isControl c
  | _ => cs

def newLine? : List Char → Option (List Char)
  | '\n' :: rest | '\r' :: '\n' :: rest => some rest
  | _ => none

def skipLines (fuel : Nat) (cs : List Char) : List Char :=
  match fuel with
  | 0 => cs
  | left + 1 =>
    let rest := skipComment (skipSpace cs)
    match newLine? rest with
    | some rest => skipLines left rest
    | none => rest

def skipAll (cs : List Char) : List Char :=
  skipLines (cs.length + 1) cs

/-! ### Strings -/

def isHex (c : Char) : Bool :=
  c.isDigit || ('a' ≤ c && c ≤ 'f') || ('A' ≤ c && c ≤ 'F')

def hexChar (width : Nat) (cs : List Char) : Option (Char × List Char) :=
  let digits := cs.take width
  let n := Unicode.RangeSet.hexValue digits
  if digits.length = width ∧ digits.all isHex then
    if h : n.isValidChar then some (Char.ofNatAux n h, cs.drop width) else none
  else none

def escape (edition : Edition) : List Char → Option (Char × List Char)
  | 'b' :: rest => some ('\x08', rest)
  | 't' :: rest => some ('\t', rest)
  | 'n' :: rest => some ('\n', rest)
  | 'f' :: rest => some ('\x0c', rest)
  | 'r' :: rest => some ('\r', rest)
  | '"' :: rest => some ('"', rest)
  | '\\' :: rest => some ('\\', rest)
  | 'u' :: rest => hexChar 4 rest
  | 'U' :: rest => hexChar 8 rest
  | 'e' :: rest => if edition.hasShortEscapes then some ('\x1b', rest) else none
  | 'x' :: rest => if edition.hasShortEscapes then hexChar 2 rest else none
  | _ => none

/-- Past a line end and all white space and line ends after it, if nothing but white space comes
before the first. -/
def foldedLine? (cs : List Char) : Option (List Char) := do
  let rest ← newLine? (skipSpace cs)
  return dropBlankLines (rest.length + 1) rest
where
  dropBlankLines (fuel : Nat) (cs : List Char) : List Char :=
    match fuel with
    | 0 => cs
    | left + 1 =>
      let rest := skipSpace cs
      match newLine? rest with
      | some rest => dropBlankLines left rest
      | none => rest

abbrev Scanned := Option (List Char × List Char)

def consAll (front : List Char) : Scanned → Scanned :=
  Option.map fun found => (front ++ found.1, found.2)

def basic (edition : Edition) (fuel : Nat) (cs : List Char) : Scanned :=
  match fuel, cs with
  | 0, _ | _, [] => none
  | left + 1, c :: rest =>
    if c = '"' then some ([], rest)
    else if c = '\\' then do
      let (plain, rest) ← escape edition rest
      consAll [plain] (basic edition left rest)
    else if isControl c then none
    else consAll [c] (basic edition left rest)

/-- The quotes at the end of a string that three of them close; up to two more belong to it. -/
def closing (quote : Char) (cs : List Char) : Option (List Char × List Char) :=
  let run := (cs.takeWhile (· == quote)).length
  if run < 3 then none
  else
    let kept := min (run - 3) 2
    some (List.replicate kept quote, cs.drop (kept + 3))

def lineEnd (edition : Edition) (cs behind : List Char) : List Char :=
  if edition.keepsLineEnds then cs.take (cs.length - behind.length) else ['\n']

def multiBasic (edition : Edition) (fuel : Nat) (cs : List Char) : Scanned :=
  match fuel, cs with
  | 0, _ | _, [] => none
  | left + 1, c :: rest =>
    if c = '"' then
      match closing '"' cs with
      | some (kept, rest) => some (kept, rest)
      | none => consAll [c] (multiBasic edition left rest)
    else if c = '\\' then
      match foldedLine? rest with
      | some rest => multiBasic edition left rest
      | none => do
        let (plain, rest) ← escape edition rest
        consAll [plain] (multiBasic edition left rest)
    else
      match newLine? cs with
      | some behind => consAll (lineEnd edition cs behind) (multiBasic edition left behind)
      | none => if isControl c then none else consAll [c] (multiBasic edition left rest)

def literal (cs : List Char) : Scanned :=
  let text := cs.takeWhile fun c => c != '\'' && !isControl c
  match cs.drop text.length with
  | '\'' :: rest => some (text, rest)
  | _ => none

def multiLiteral (edition : Edition) (fuel : Nat) (cs : List Char) : Scanned :=
  match fuel, cs with
  | 0, _ | _, [] => none
  | left + 1, c :: rest =>
    if c = '\'' then
      match closing '\'' cs with
      | some (kept, rest) => some (kept, rest)
      | none => consAll [c] (multiLiteral edition left rest)
    else
      match newLine? cs with
      | some behind => consAll (lineEnd edition cs behind) (multiLiteral edition left behind)
      | none => if isControl c then none else consAll [c] (multiLiteral edition left rest)

def trimFirst (cs : List Char) : List Char :=
  (newLine? cs).getD cs

def quoted? (edition : Edition) (cs : List Char) : Option Scanned :=
  match cs with
  | '"' :: '"' :: '"' :: rest => some (multiBasic edition (rest.length + 1) (trimFirst rest))
  | '\'' :: '\'' :: '\'' :: rest => some (multiLiteral edition (rest.length + 1) (trimFirst rest))
  | '"' :: rest => some (basic edition (rest.length + 1) rest)
  | '\'' :: rest => some (literal rest)
  | _ => none

/-! ### Names -/

def isBare (c : Char) : Bool :=
  c.isAlphanum || c == '_' || c == '-'

def simpleName (edition : Edition) (cs : List Char) : Option (String × List Char) := do
  let (text, rest) ←
    match cs with
    | '"' :: rest => basic edition (rest.length + 1) rest
    | '\'' :: rest => literal rest
    | _ =>
      let text := cs.takeWhile isBare
      if text.isEmpty then none else some (text, cs.drop text.length)
  return (String.ofList text, rest)

def dottedName (edition : Edition) (fuel : Nat) (cs : List Char) : Option (List String × String × List Char) :=
  match fuel with
  | 0 => none
  | left + 1 => do
    let (first, rest) ← simpleName edition (skipSpace cs)
    match skipSpace rest with
    | '.' :: rest => do
      let (outer, last, rest) ← dottedName edition left rest
      return (first :: outer, last, rest)
    | rest => return ([], first, rest)

def name (edition : Edition) (cs : List Char) : Option (List String × String × List Char) := do
  let (outer, last, rest) ← dottedName edition (cs.length + 1) cs
  if edition.nameLimit ≤ outer.length then none else return (outer, last, rest)

end Runbook.Document.Toml
