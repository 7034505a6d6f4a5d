import Runbook.Document.Value
import Runbook.Number.Interval
import Runbook.Text.Quoted

/-! What can be wrong with a document that is read for a certain kind of value, and the wording.
-/

set_option autoImplicit false

namespace Runbook.Document

/-- Notations write floating point numbers and other things of their own kind differently. -/
inductive Format where
  | json
  | toml
  deriving DecidableEq, Repr

inductive Fault where
  | invalidType (found wanted : String)
  | invalidValue (found wanted : String)
  | invalidLength (length : Nat) (wanted : String)
  | missingField (name : String)
  | duplicateField (name : String)
  | unknownField (name : String) (known : List String)
  | unknownVariant (name : String) (known : List String)
  /-- A text that fails a check of its own, in the words of that check. -/
  | rejected (message : String)
  | valueExpected
  | trailingItems
  /-- A value that cannot be held. -/
  | unreadable
  deriving DecidableEq, Repr

namespace Fault

def ticked (name : String) : String :=
  "\x60" ++ name ++ "\x60"

/-- One name alone, two with "or" between them, more as a list. -/
def oneOf (names : List String) : String :=
  match names with
  | [] => "nothing"
  | [only] => ticked only
  | [first, second] => ticked first ++ " or " ++ ticked second
  | _ => "one of " ++ ", ".intercalate (names.map ticked)

def message : Fault → String
  | .invalidType found wanted => s!"invalid type: {found}, expected {wanted}"
  | .invalidValue found wanted => s!"invalid value: {found}, expected {wanted}"
  | .invalidLength length wanted => s!"invalid length {length}, expected {wanted}"
  | .missingField name => s!"missing field {ticked name}"
  | .duplicateField name => s!"duplicate field {ticked name}"
  | .unknownField name known => s!"unknown field {ticked name}, expected {oneOf known}"
  | .unknownVariant name known => s!"unknown variant {ticked name}, expected {oneOf known}"
  | .rejected message => message
  | .valueExpected => "expected value"
  | .trailingItems => "trailing characters"
  | .unreadable => "unreadable value"

end Fault

namespace Value

def isMachineInteger (n : Int) : Bool :=
  Number.Interval.int64.contains n || Number.Interval.uint64.contains n

/-- One more than the highest integer of 127 bits. -/
def widest : Int := 170141183460469231731687303715884105728

def integerText (n : Int) : String :=
  if isMachineInteger n then "integer " ++ Fault.ticked (toString n)
  else "integer " ++ Fault.ticked (toString n) ++ (if n < widest then " as i128" else " as u128")

def floatText (format : Format) (x : Number.Real) : String :=
  match format with
  | .json => x.scientificText
  | .toml => x.positionalText

def found (format : Format) : Value → String
  | .null => "null"
  | .boolean value => "boolean " ++ Fault.ticked (toString value)
  | .integer value => integerText value
  | .float value => "floating point " ++ Fault.ticked (floatText format value)
  | .string value => "string " ++ Text.Quoted.quote value
  | .array _ => "sequence"
  | .object _ | .moment _ => "map"
  | .broken => "nothing"

end Value

end Runbook.Document
