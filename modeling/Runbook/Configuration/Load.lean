import Runbook.Bindings
import Runbook.Configuration.Conversion
import Runbook.Configuration.Layer
import Runbook.Document.Reading
import Runbook.Files.Basic

/-! Where the configuration comes from: two files, and over them the environment.
-/

set_option autoImplicit false

namespace Runbook.Configuration

open Document

inductive Fault where
  | unreadable (path : String)
  | conversion (fault : Conversion.Fault)
  deriving DecidableEq, Repr

namespace Fault

def message : Fault → String
  | .unreadable path => s!"invalid configuration file {path}"
  | .conversion .textWanted => "invalid type, expected a string"
  | .conversion .numberWanted => "invalid type, expected an integer"
  | .conversion .formatWanted => "enum LogFormat does not have such a variant constructor"
  | .conversion .tableWanted => "invalid type, expected a table"

end Fault

/-- What a text in the environment is taken for: a truth value, an integer, a fraction, or itself. -/
def guess (text : String) : Value :=
  match text.toLower with
  | "true" => .boolean true
  | "false" => .boolean false
  | _ =>
    match Number.Numeral.integer? .int64 text with
    | some n => .integer n
    | none =>
      match Number.Numeral.real? text with
      | some x => .float x
      | none => .string text

def variableStart : String := "netops__"

/-- Two underscores lead into a table, as a point does. -/
def pointed : List Char → List Char
  | '_' :: '_' :: rest => '.' :: pointed rest
  | c :: rest => c :: pointed rest
  | [] => []

def ofVariable (name value : String) : Option Member :=
  let name := Layer.lowered name
  if name.startsWith variableStart then
    some (String.ofList (pointed (name.toList.drop variableStart.length)), guess value)
  else none

def ofEnvironment (environment : Bindings) : List Member :=
  environment.entries.filterMap fun entry => ofVariable entry.1 entry.2

def withoutMark (text : String) : String :=
  match text.toList with
  | '\ufeff' :: rest => String.ofList rest
  | _ => text

/-- The value that a configuration file describes; of several members of one name the last one counts. -/
def document? : Format → String → Option Value
  | .toml, text => Toml.parse? .v10 text
  | .json, text => (JsonText.parse? text).map Value.withLastMembers

def ofText (path : String) (format : Format) (text : String) : Except Fault (List Member) :=
  match document? format (withoutMark text) with
  | some (.object members) =>
    if (Value.object members).isBroken then .error (.unreadable path) else .ok members
  | _ => .error (.unreadable path)

/-- The files that a source may be in. Other notations than these two are not looked for. -/
def candidates (name : String) : List (String × Format) :=
  [(name ++ ".toml", .toml), (name ++ ".json", .json)]

/-- The first file of a source that there is; without one the source is empty. -/
def ofFiles (read : Files.Reader) : List (String × Format) → Except Fault (List Member)
  | [] => .ok []
  | (path, format) :: rest =>
    match read path with
    | .ok text => ofText path format text
    | .error _ => ofFiles read rest

/-- What a source says. A file of just its name stands for it, but is in no notation, so that nothing
comes of it. -/
def ofSource (read : Files.Reader) (name : String) : Except Fault (List Member) :=
  match read name with
  | .ok _ => .ok []
  | .error _ => ofFiles read (candidates name)

/-- Defaults, local changes and the environment, later ones over earlier ones. -/
def load (read : Files.Reader) (environment : Bindings) : Except Fault Configuration := do
  let general ← ofSource read "config/default"
  let special ← ofSource read "config/local"
  let root := Layer.combine [general, special, ofEnvironment environment]
  (Conversion.configuration root).mapError .conversion

end Runbook.Configuration
