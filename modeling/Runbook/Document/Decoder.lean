import Runbook.Bindings
import Runbook.Document.Fault

/-! Reading a document as a value of a certain type.

A record is described once, field by field, and can then be read from an object or from an array of
its fields in order. In an object all members are looked at in the order of the text, and the first
that is wrong decides the fault; only then are missing fields noticed, in the order of the record.
Members with unknown names do not matter, except where a record is strict.
-/

set_option autoImplicit false

namespace Runbook.Document

abbrev Decoder (α : Type) := Format → Value → Except Fault α

namespace Decoder

variable {α β : Type}

def wanted (what : String) : Decoder α := fun format value =>
  .error <|
    match value with
    | .broken => .unreadable
    | _ => .invalidType (value.found format) what

def string : Decoder String := fun format value =>
  match value with
  | .string text => .ok text
  | _ => wanted "a string" format value

def boolean : Decoder Bool := fun format value =>
  match value with
  | .boolean b => .ok b
  | _ => wanted "a boolean" format value

def integer (what : String) (interval : Number.Interval) : Decoder Int := fun format value =>
  match value with
  | .integer n =>
    if interval.contains n then .ok n
    else if Value.isMachineInteger n then .error (.invalidValue (value.found format) what)
    else wanted what format value
  | _ => wanted what format value

def int32 : Decoder Int32 := fun format value => do
  return Int32.ofInt (← integer "i32" .int32 format value)

def uint64 : Decoder UInt64 := fun format value => do
  return UInt64.ofNat (← integer "u64" .uint64 format value).toNat

def index : Decoder Nat := fun format value => do
  return (← integer "usize" .uint64 format value).toNat

def float : Decoder Number.Real := fun format value =>
  match value with
  | .float x => .ok x
  | .integer n =>
    if Value.isMachineInteger n then
      match Number.Binary64.ofRatio (n < 0) n.natAbs 1 with
      | some x => .ok (.finite x)
      | none => .ok (.infinite (n < 0))
    else wanted "f64" format value
  | _ => wanted "f64" format value

def nullable (decode : Decoder α) : Decoder (Option α) := fun format value =>
  match value with
  | .null => .ok none
  | _ => some <$> decode format value

def list (decode : Decoder α) : Decoder (List α) := fun format value =>
  match value with
  | .array items => items.mapM (decode format)
  | _ => wanted "a sequence" format value

/-- Text under names; of several values for one name the last stays. -/
def bindings : Decoder Bindings := fun format value =>
  match value with
  | .object members => do
    let entries ← members.mapM fun member => do
      return (member.1, ← string format member.2)
    return Bindings.ofList entries
  | _ => wanted "a map" format value

/-- A text that has to pass a check. -/
def checked (check : String → Except String α) : Decoder α := fun format value => do
  let text ← string format value
  match check text with
  | .ok a => return a
  | .error message => throw (.rejected message)

/-- The constant that a name stands for; `known` are the names that a fault lists. -/
def constant (known : List String) (ofName? : String → Option α) (name : String) :
    Except Fault α :=
  match ofName? name with
  | some a => .ok a
  | none => .error (.unknownVariant name known)

/-- What may stand beside a constant that is written as the only name of a table. -/
def unitTable : Value → Except Fault Unit
  | .array [] | .object [] => .ok ()
  | .array _ => .error (.rejected "expected empty array")
  | .object _ => .error (.rejected "expected empty table")
  | .null | .broken => .error .unreadable
  | .boolean _ => .error (.rejected "expected table, found boolean")
  | .integer _ => .error (.rejected "expected table, found integer")
  | .float _ => .error (.rejected "expected table, found float")
  | .string _ => .error (.rejected "expected table, found string")
  | .moment _ => .error (.rejected "expected table, found datetime")

def choice (known : List String) (ofName? : String → Option α) : Decoder α :=
  fun format value =>
    match format, value with
    | _, .string name => constant known ofName? name
    | _, .broken => .error .unreadable
    | .json, .object ((name, inner) :: rest) => do
      let found ← constant known ofName? name
      match inner with
      | .null => if rest.isEmpty then return found else throw .valueExpected
      | _ => wanted "unit" format inner
    | .json, _ => .error .valueExpected
    | .toml, .object [(name, inner)] => do
      let found ← constant known ofName? name
      unitTable inner
      return found
    | .toml, .object [] => .error (.rejected "wanted exactly 1 element, found 0 elements")
    | .toml, .object _ => .error (.rejected "wanted exactly 1 element, more than 1 element")
    | .toml, _ => .error (.rejected "wanted string or table")

end Decoder

/-- A field as the members of an object are checked against it. -/
structure Field where
  name : String
  check : Format → Value → Except Fault Unit

/-- A record as it is read: its fields, how it is put together from the members of an object, and
how from the items of an array from a position on. -/
structure Record (α : Type) where
  fields : List Field := []
  ofMembers : Format → List Member → Except Fault α
  ofItems : Format → String → Nat → List Value → Except Fault (α × Nat × List Value)

namespace Record

variable {α β : Type}

def pure (a : α) : Record α where
  ofMembers _ _ := .ok a
  ofItems _ _ position items := .ok (a, position, items)

def seq (first : Record (α → β)) (second : Unit → Record α) : Record β where
  fields := first.fields ++ (second ()).fields
  ofMembers format members := do
    let f ← first.ofMembers format members
    return f (← (second ()).ofMembers format members)
  ofItems format shape position items := do
    let (f, position, items) ← first.ofItems format shape position items
    let (a, position, items) ← (second ()).ofItems format shape position items
    return (f a, position, items)

instance : Applicative Record where
  pure := Record.pure
  seq := Record.seq

/-- One field; the last two arguments are what stands for it where an object or an array ends without
it. -/
def field (name : String) (decode : Decoder α) (absent : Option α) (cut : Option α) : Record α where
  fields := [⟨name, fun format value => (decode format value).map fun _ => ()⟩]
  ofMembers format members :=
    match members.lookup name with
    | some value => decode format value
    | none =>
      match absent with
      | some a => .ok a
      | none => .error (.missingField name)
  ofItems format shape position items :=
    match items with
    | value :: rest => (decode format value).map fun a => (a, position + 1, rest)
    | [] =>
      match cut with
      | some a => .ok (a, position, [])
      | none => .error (.invalidLength position shape)

def required (name : String) (decode : Decoder α) : Record α :=
  field name decode none none

def optional (name : String) (decode : Decoder α) (default : α) : Record α :=
  field name decode (some default) (some default)

/-- A field that may be null, or absent in an object; in an array it has to be there. -/
def nullable (name : String) (decode : Decoder α) : Record (Option α) :=
  field name (Decoder.nullable decode) (some none) none

/-- The first member that is wrong: a field that was there before, a value that does not fit, or in
a strict record a name that is no field. -/
def check (fields : List Field) (strict : Bool) (format : Format) (seen : List String) :
    List Member → Except Fault Unit
  | [] => .ok ()
  | (name, value) :: rest =>
    match fields.find? (·.name == name) with
    | none =>
      if strict then .error (.unknownField name (fields.map Field.name))
      else check fields strict format seen rest
    | some field =>
      if name ∈ seen then .error (.duplicateField name)
      else do
        field.check format value
        check fields strict format (name :: seen) rest

def decodeMembers (record : Record α) (strict : Bool) (format : Format) (members : List Member) :
    Except Fault α := do
  check record.fields strict format [] members
  record.ofMembers format members

/-- An array of the fields in order. Items after the last field are a fault in JSON only. -/
def decodeItems (record : Record α) (shape : String) (format : Format) (items : List Value) :
    Except Fault α := do
  let count := record.fields.length
  let elements := if count = 1 then "1 element" else s!"{count} elements"
  let (a, _, rest) ← record.ofItems format s!"{shape} with {elements}" 0 items
  if format = .json ∧ !rest.isEmpty then throw .trailingItems
  return a

def decode (record : Record α) (name : String) (strict : Bool) : Decoder α := fun format value =>
  let shape := "struct " ++ name
  match value with
  | .object members => record.decodeMembers strict format members
  | .moment _ => record.decodeMembers strict format []
  | .array items => record.decodeItems shape format items
  | _ => Decoder.wanted shape format value

end Record

end Runbook.Document
