import Runbook.Document.Toml.Scalar
import Runbook.Document.Toml.Table

/-! TOML text as a document.
-/

set_option autoImplicit false

namespace Runbook.Document.Toml

def skipInTable (edition : Edition) (cs : List Char) : List Char :=
  if edition.hasOpenTables then skipAll cs else skipSpace cs

mutual

/-- A value and what follows it, where arrays and inline tables may still go `depth` levels deeper;
every call has taken a character since the last one with the same `fuel`. -/
def value (edition : Edition) (fuel depth : Nat) (cs : List Char) : Option (Value × List Char) :=
  match fuel with
  | 0 => none
  | left + 1 =>
    match quoted? edition cs with
    | some found => found.map fun (text, rest) => (.string (String.ofList text), rest)
    | none =>
      match cs, depth with
      | '[' :: rest, depth + 1 => do
        let (all, rest) ← items edition left depth (skipAll rest)
        return (.array all, rest)
      | '{' :: rest, depth + 1 => do
        let (entries, rest) ← entries edition left depth true [] (skipInTable edition rest)
        return (Table.toValue entries, rest)
      | '[' :: _, 0 | '{' :: _, 0 => none
      | _, _ => scalar edition cs

def items (edition : Edition) (fuel depth : Nat) (cs : List Char) : Option (List Value × List Char) :=
  match fuel with
  | 0 => none
  | left + 1 =>
    match cs with
    | ']' :: rest => some ([], rest)
    | _ => do
      let (first, rest) ← value edition left depth cs
      match skipAll rest with
      | ']' :: rest => return ([first], rest)
      | ',' :: rest => do
        let (others, rest) ← items edition left depth (skipAll rest)
        return (first :: others, rest)
      | _ => none

/-- The assignments of an inline table up to its closing brace, which may stand here if `closes`. -/
def entries (edition : Edition) (fuel depth : Nat) (closes : Bool) (found : Table.Entries)
    (cs : List Char) : Option (Table.Entries × List Char) :=
  match fuel with
  | 0 => none
  | left + 1 =>
    match cs with
    | '}' :: rest => if closes then some (found, rest) else none
    | _ => do
      let (outer, last, rest) ← name edition cs
      match rest with
      | '=' :: rest => do
        let (inner, rest) ← value edition left depth (skipSpace rest)
        let found ← Table.assign inner last found outer
        match skipInTable edition rest with
        | '}' :: rest => return (found, rest)
        | ',' :: rest =>
          entries edition left depth edition.hasOpenTables found (skipInTable edition rest)
        | _ => none
      | _ => none

end

def endOfLine? (cs : List Char) : Option (List Char) :=
  match skipComment (skipSpace cs) with
  | [] => some []
  | rest => newLine? rest

/-- A document as far as it has been read: its tables, and where assignments go. -/
structure Progress where
  entries : Table.Entries := []
  header : List String := []

def statement (edition : Edition) (progress : Progress) (cs : List Char) : Option (Progress × List Char) := do
  match cs with
  | '[' :: '[' :: rest => do
    let (outer, last, rest) ← name edition rest
    match rest with
    | ']' :: ']' :: rest => do
      let entries ← Table.append outer last progress.entries
      return (⟨entries, outer ++ [last]⟩, ← endOfLine? rest)
    | _ => none
  | '[' :: rest => do
    let (outer, last, rest) ← name edition rest
    match rest with
    | ']' :: rest => do
      let entries ← Table.define outer last progress.entries
      return (⟨entries, outer ++ [last]⟩, ← endOfLine? rest)
    | _ => none
  | _ => do
    let (outer, last, rest) ← name edition cs
    match rest with
    | '=' :: rest => do
      let (found, rest) ← value edition (2 * rest.length + 2) edition.depthLimit (skipSpace rest)
      let entries ← Table.within
        (fun inner => Table.assign found last inner outer) progress.entries progress.header
      return ({ progress with entries }, ← endOfLine? rest)
    | _ => none

def statements (edition : Edition) (fuel : Nat) (progress : Progress) (cs : List Char) : Option Progress :=
  match fuel with
  | 0 => none
  | left + 1 =>
    match skipAll cs with
    | [] => some progress
    | rest => do
      let (progress, rest) ← statement edition progress rest
      statements edition left progress rest

/-- The document that is all of a text; a byte order mark in front does not count. -/
def parse? (edition : Edition) (text : String) : Option Value := do
  let cs :=
    match text.toList with
    | '\ufeff' :: rest => rest
    | cs => cs
  let progress ← statements edition (cs.length + 1) {} cs
  return Table.toValue progress.entries

end Runbook.Document.Toml
