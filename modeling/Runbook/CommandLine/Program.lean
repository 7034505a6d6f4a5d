import Runbook.CommandLine.Invocation
import Runbook.Configuration.DotEnv
import Runbook.Configuration.Load
import Runbook.Document.JsonPrinter
import Runbook.Service.Timeline
import Runbook.Workflow.Load

/-! The program as a function of its arguments, its environment, the files it can read and the time.
-/

set_option autoImplicit false

namespace Runbook.CommandLine

structure Surroundings where
  read : Files.Reader
  environment : Bindings := .empty
  now : Time.Instant := ⟨1700000000, 0⟩

inductive Printed where
  | text (text : String)
  | record (run : Run)
  deriving DecidableEq, Repr

namespace Printed

def toText : Printed → String
  | .text whole => whole
  | .record run => Document.JsonPrinter.pretty run.encode ++ "\n"

end Printed

/-- Why the program fails, with the cause below it if there is one. -/
structure Complaint where
  message : String
  cause : Option String := none
  deriving DecidableEq, Repr

structure Outcome where
  printed : Printed := .text ""
  complaint : Option Complaint := none
  deriving DecidableEq, Repr

namespace Outcome

def exitCode (outcome : Outcome) : UInt32 :=
  if outcome.complaint.isSome then 1 else 0

def ofText (text : String) : Outcome :=
  { printed := .text text }

def ofResult : Except Complaint Outcome → Outcome
  | .ok outcome => outcome
  | .error complaint => { complaint := some complaint }

end Outcome

def complain {α : Type} (result : Except Error α) : Except Complaint α :=
  result.mapError fun error => { message := error.message }

/-- The configuration, with the variables of `.env` in the environment. -/
def bootstrap (surroundings : Surroundings) : Except Complaint Configuration :=
  let environment :=
    match surroundings.read ".env" with
    | .ok text => Configuration.DotEnv.load surroundings.environment text
    | .error _ => surroundings.environment
  (Configuration.load surroundings.read environment).mapError fun fault =>
    { message := fault.message }

def readResponses (surroundings : Surroundings) : Option String → Except Complaint Device.Script
  | none => .ok .empty
  | some path => do
    let text ← (surroundings.read path).mapError fun fault =>
      { message := s!"reading responses from {path}", cause := some fault.message }
    (Device.Script.parse text).mapError fun fault =>
      { message := s!"parsing responses from {path}", cause := some fault.message }

def serviceFor (configuration : Configuration) (workflow : Workflow) (script : Device.Script)
    (now : Time.Instant) : Service where
  settings := ⟨configuration.executor.defaultTimeoutMillis⟩
  workflows := .ofList [workflow]
  provider := { script := script }
  start := now

/-- A run that did not complete is printed too, and complained about. -/
def outcomeOfRun (run : Run) : Outcome where
  printed := .record run
  complaint :=
    if run.status = .completed then none
    else some { message := s!"run {run.id} ended with status {run.status}" }

def runWorkflow (surroundings : Surroundings) (workflow device : String)
    (responses : Option String) (parameters : List (String × String)) :
    Except Complaint Outcome := do
  let configuration ← bootstrap surroundings
  let workflow ← complain (Workflow.load surroundings.read workflow)
  let script ← readResponses surroundings responses
  let service := serviceFor configuration workflow script surroundings.now
  let request : Request := ⟨workflow.id, ⟨device⟩, Bindings.ofList parameters⟩
  match (service.execute request).1 with
  | some result => return outcomeOfRun (← complain result)
  | none => throw { message := "the run did not end" }

def validateWorkflow (surroundings : Surroundings) (workflow : String)
    (parameters : List (String × String)) (definitionOnly : Bool) : Except Complaint Outcome := do
  let _ ← bootstrap surroundings
  let workflow ← complain (Workflow.load surroundings.read workflow)
  if !definitionOnly then
    complain ((workflow.validateInvocation (Bindings.ofList parameters)).mapError fun fault =>
      .validation fault.message)
  return .ofText <|
    s!"Workflow '{workflow.id}' is valid ({workflow.commandCount} commands, " ++
      s!"status {workflow.status})\n"

def exampleRequest (workflow : Workflow) : Request where
  workflowId := workflow.id
  deviceId := ⟨"<device-id>"⟩
  parameters := Bindings.ofList (workflow.requiredParameters.map fun name => (name, s!"<{name}>"))

def listParameters (surroundings : Surroundings) (workflow : String) :
    Except Complaint Outcome := do
  let _ ← bootstrap surroundings
  let workflow ← complain (Workflow.load surroundings.read workflow)
  let required := workflow.requiredParameters
  let heading :=
    if required.isEmpty then s!"Workflow '{workflow.id}' takes no dynamic parameters\n"
    else s!"Required dynamic parameters for '{workflow.id}':\n"
  let names := String.join (required.map fun name => s!"  {name}\n")
  let request := Document.JsonPrinter.pretty (exampleRequest workflow).encode
  return .ofText (heading ++ names ++ "\nExample request:\n" ++ request ++ "\n")

def versionText : String :=
  "netops-workflow 0.1.0\n"

def helpText : String :=
  "Staged remediation workflows for network devices

Usage: netops-workflow <COMMAND>

Commands:
  run       Execute a workflow against a replayed device session
  validate  Validate a workflow definition and dynamic parameters
  params    Print the dynamic parameters a workflow requires
  help      Print this message

Options:
  -w, --workflow <WORKFLOW>    Workflow definition file (JSON or TOML)
  -d, --device <DEVICE>        Target device identifier
  -r, --responses <RESPONSES>  Recorded device responses (JSON)
  -p, --param <PARAMS>         Dynamic parameter, repeatable
      --definition-only        Only check the definition, not the parameters
  -h, --help                   Print help
  -V, --version                Print version
"

namespace Invocation

def perform (surroundings : Surroundings) : Invocation → Outcome
  | .run workflow device responses assigned =>
    .ofResult (runWorkflow surroundings workflow device responses assigned)
  | .validate workflow assigned definitionOnly =>
    .ofResult (validateWorkflow surroundings workflow assigned definitionOnly)
  | .parameters workflow => .ofResult (listParameters surroundings workflow)
  | .version => .ofText versionText
  | .help => .ofText helpText

def paths (invocation : Invocation) : List String :=
  let sources := ["config/default", "config/local"].flatMap fun name =>
    name :: (Configuration.candidates name).map Prod.fst
  let named := match invocation with
    | .run workflow _ responses _ => workflow :: responses.toList
    | .validate workflow _ _ | .parameters workflow => [workflow]
    | .version | .help => []
  ".env" :: (sources ++ named)

end Invocation

end Runbook.CommandLine
