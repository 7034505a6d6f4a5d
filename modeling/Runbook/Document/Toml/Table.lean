import Runbook.Document.Value

/-! The tables of a TOML document while it is read, and what its headers and assignments may do to
them.

A table that only a longer header or a dotted name has brought about can still be defined, by a header
of its own or by more dotted names; nothing else is ever defined twice.
-/

set_option autoImplicit false

namespace Runbook.Document.Toml.Table

/-- How a table came about. -/
inductive Origin where
  /-- Part of a longer header. -/
  | passed
  /-- Part of a dotted name. -/
  | dotted
  /-- A header of its own. -/
  | defined
  deriving DecidableEq, Repr

inductive Node where
  | leaf (value : Value)
  | table (origin : Origin) (entries : List (String × Node))
  /-- Tables under one name, the last one apart from those before it. -/
  | tables (before : List Node) (last : List (String × Node))

abbrev Entries := List (String × Node)

def put (name : String) (node : Node) : Entries → Entries
  | [] => [(name, node)]
  | (other, old) :: rest =>
    if other = name then (name, node) :: rest else (other, old) :: put name node rest

/-- Assigns a value to a dotted name. -/
def assign (value : Value) (name : String) (entries : Entries) : List String → Option Entries
  | [] => if (entries.lookup name).isSome then none else some (put name (.leaf value) entries)
  | first :: rest =>
    match entries.lookup first with
    | none => do return put first (.table .dotted (← assign value name [] rest)) entries
    | some (.table origin inner) =>
      -- A table with a header of its own is closed to dotted names. One that headers have only passed
      -- through takes no value, but may be passed through again.
      if origin = .defined ∨ (origin = .passed ∧ rest.isEmpty) then none
      else do return put first (.table origin (← assign value name inner rest)) entries
    | some (.tables before last) =>
      if rest.isEmpty then none
      else do return put first (.tables before (← assign value name last rest)) entries
    | some (.leaf _) => none

/-- Does something to the table that the outer part of a header leads to. -/
def within (action : Entries → Option Entries) (entries : Entries) :
    List String → Option Entries
  | [] => action entries
  | first :: rest =>
    match entries.lookup first with
    | none => do return put first (.table .passed (← within action [] rest)) entries
    | some (.table origin inner) => do
      return put first (.table origin (← within action inner rest)) entries
    | some (.tables before last) => do
      return put first (.tables before (← within action last rest)) entries
    | some (.leaf _) => none

/-- The effect of a table header. -/
def define (outer : List String) (name : String) (entries : Entries) : Option Entries :=
  within (fun inner =>
    match inner.lookup name with
    | none => some (put name (.table .defined []) inner)
    | some (.table .passed old) => some (put name (.table .defined old) inner)
    | some _ => none) entries outer

/-- The effect of a header in double brackets. -/
def append (outer : List String) (name : String) (entries : Entries) : Option Entries :=
  within (fun inner =>
    match inner.lookup name with
    | none => some (put name (.tables [] []) inner)
    | some (.tables before last) =>
      some (put name (.tables (before ++ [.table .defined last]) []) inner)
    | some _ => none) entries outer

/-- A table has no order of its own and is read in the order of its names. -/
def sorted (members : List (String × Value)) : List (String × Value) :=
  members.mergeSort fun left right => left.1 ≤ right.1

mutual

def Node.toValue : Node → Value
  | .leaf value => value
  | .table _ entries => .object (sorted (membersOf entries))
  | .tables before last =>
    .array (valuesOf before ++ [.object (sorted (membersOf last))])

def valuesOf : List Node → List Value
  | [] => []
  | node :: rest => node.toValue :: valuesOf rest

def membersOf : List (String × Node) → List (String × Value)
  | [] => []
  | (name, node) :: rest => (name, node.toValue) :: membersOf rest

end

def toValue (entries : Entries) : Value :=
  .object (sorted (membersOf entries))

end Runbook.Document.Toml.Table
