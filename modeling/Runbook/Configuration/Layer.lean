import Runbook.Configuration.Path
import Runbook.Document.Value
import Runbook.Table

/-! Configuration as it is put together: layers of values under paths, later ones over earlier ones.

Tables are merged member by member, anything else is replaced. Upper and lower case of names do not
differ.
-/

set_option autoImplicit false

namespace Runbook.Configuration

open Document

namespace Layer

/-- The Kelvin sign is the one letter outside ASCII whose lower case is an ASCII letter. -/
def lowered (name : String) : String :=
  name.map fun c => if c = '\u212a' then 'k' else c.toLower

def members : Value → List Member
  | .object members => members
  | _ => []

def items : Value → List Value
  | .array items => items
  | _ => []

mutual

/-- A member put into a table; what is no table becomes one. -/
def put (root : Value) (name : String) : Value → Value
  | .object incoming =>
    let inside := ((members root).lookup (lowered name)).getD (.object [])
    .object (Table.put (lowered name) (merge inside incoming) (members root))
  | value => .object (Table.put (lowered name) value (members root))

def merge (root : Value) : List (String × Value) → Value
  | [] => root
  | (name, value) :: rest => merge (put root name value) rest

end

/-- No array is filled up beyond this; what would be behind it comes here, where nobody looks for it. -/
def longest : Nat :=
  1000000

/-- Where an index leads in an array of a length; it may lead behind its end, but not before its start. -/
def place? (index : Int) (length : Nat) : Option Nat :=
  let place := if index < 0 then length + index else index
  if 0 ≤ place then some (min place.toNat longest) else none

/-- The items with one of them changed; nulls fill them up to it. -/
def changeItem (change : Value → Value) (place : Nat) (items : List Value) : List Value :=
  (items ++ List.replicate (place + 1 - items.length) Value.null).modify place change

/-- A value put where steps lead to. What is not of the kind that a step leads into is replaced. -/
def putAt (value : Value) : List Step → Value → Value
  | [], _ => value
  | [.member name], root => put root name value
  | .member name :: rest, root =>
    let inside := ((members root).lookup (lowered name)).getD .null
    .object (Table.put (lowered name) (putAt value rest inside) (members root))
  | .item index :: rest, root =>
    match place? index (items root).length with
    | some place => .array (changeItem (putAt value rest) place (items root))
    | none => root

def overlay (root : Value) (layer : List Member) : Value :=
  layer.foldl (fun root (name, value) => putAt value (Path.ofText name).steps root) root

/-- All layers, each over the ones before it. What comes of them is a layer in turn: a name that was
no path becomes one if it is so in lower case. -/
def combine (layers : List (List Member)) : Value :=
  overlay (.object []) (members (layers.foldl overlay (.object [])))

end Layer

end Runbook.Configuration
