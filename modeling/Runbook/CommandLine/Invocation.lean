import Runbook.CommandLine.Assignment
import Runbook.CommandLine.Options

/-! What the program can be asked to do.
-/

set_option autoImplicit false

namespace Runbook.CommandLine

inductive Invocation where
  /-- Carries out a workflow against recorded responses. -/
  | run (workflow device : String) (responses : Option String)
      (parameters : List (String × String))
  /-- Checks a definition, and unless it alone is meant also the parameters. -/
  | validate (workflow : String) (parameters : List (String × String)) (definitionOnly : Bool)
  /-- Lists the parameters that a workflow needs. -/
  | parameters (workflow : String)
  | version
  | help
  deriving DecidableEq, Repr

namespace Invocation

def isPath (value : String) : Bool :=
  !value.isEmpty

def workflowOption : Option_ :=
  { long := "workflow", short := some 'w', allows := isPath }

def deviceOption : Option_ :=
  { long := "device", short := some 'd' }

def responsesOption : Option_ :=
  { long := "responses", short := some 'r', allows := isPath }

def parameterOption : Option_ :=
  { long := "param", short := some 'p', isRepeatable := true,
    allows := Assignment.isAssignment }

def definitionOnlyOption : Option_ :=
  { long := "definition-only", takesValue := false }

def assignments (found : List Occurrence) : List (String × String) :=
  (Options.values found "param").filterMap fun text => (Assignment.parse text).toOption

def build (subcommand : String) (found : List Occurrence) : Option Invocation := do
  let workflow ← Options.value? found "workflow"
  match subcommand with
  | "run" =>
    let device ← Options.value? found "device"
    some (.run workflow device (Options.value? found "responses") (assignments found))
  | "validate" =>
    some (.validate workflow (assignments found) (Options.has found "definition-only"))
  | "params" => some (.parameters workflow)
  | _ => none

def options? : String → Option (List Option_)
  | "run" => some [workflowOption, deviceOption, responsesOption, parameterOption]
  | "validate" => some [workflowOption, parameterOption, definitionOnlyOption]
  | "params" => some [workflowOption]
  | _ => none

def ofWords (first : String) (rest : List String) : Option Invocation :=
  match first, rest with
  | "help", [] => some .help
  | "help", [topic] => if topic == "help" || (options? topic).isSome then some .help else none
  | subcommand, arguments =>
    match options? subcommand with
    | none => none
    | some options =>
      match Options.read options [] arguments with
      | .error .help => some .help
      | .error .usage => none
      | .ok found => build subcommand found

def parse : List String → Option Invocation
  | [] => none
  | first :: rest =>
    match Options.shape first with
    | .long "version" none | .short 'V' _ => some .version
    | .long "help" none | .short 'h' _ => some .help
    | .word word => ofWords word rest
    | _ => none

end Invocation

end Runbook.CommandLine
