import Runbook.Error
import Runbook.Workflow.Definition

/-! What is checked before a run is recorded and anything is sent: the definition by itself, and the
definition together with the parameters of an invocation.
-/

set_option autoImplicit false

namespace Runbook.Workflow

/-- What is wrong with one command. -/
inductive CommandFault where
  | emptyCommand
  | emptyBranchCommand
  | invalidVariableName (name : String)
  | invalidPattern (invalid : InvalidPattern)
  deriving DecidableEq, Repr

namespace CommandFault

def message : CommandFault → String
  | .emptyCommand => "command text is empty"
  | .emptyBranchCommand => "branch command text is empty"
  | .invalidVariableName name => s!"invalid variable name '{name}'"
  | .invalidPattern invalid => (Error.validation invalid.message).message

end CommandFault

inductive Fault where
  | command (stage : Stage) (index : Nat) (fault : CommandFault)
  | notExecutable (id : WorkflowId) (status : Status)
  | missingParameters (names : List String)
  deriving DecidableEq, Repr

namespace Fault

def message : Fault → String
  | .command stage index fault => s!"{stage} command {index}: {fault.message}"
  | .notExecutable id status => s!"Workflow '{id}' is {status} and cannot be executed"
  | .missingParameters names => "Missing dynamic parameters: " ++ ", ".intercalate names

end Fault

def checkName (name : String) : Except CommandFault Unit :=
  if Name.isName name then .ok () else .error (.invalidVariableName name)

def checkBranch (branch : BranchCommand) : Except CommandFault Unit :=
  if Text.isBlankText branch.template then .error .emptyBranchCommand else .ok ()

def checkCondition (condition : Condition) : Except CommandFault Unit := do
  match condition.test with
  | .variableEquals name _ => checkName name
  | _ => pure ()
  condition.allCommands.forM checkBranch

def checkCommand (command : Command) : Except CommandFault Unit := do
  if Text.isBlankText command.template then throw .emptyCommand
  match command.binding with
  | some binding => checkName binding.name
  | none => pure ()
  match command.condition with
  | some condition => checkCondition condition
  | none => pure ()

/-- A pattern has to compile with the parameters put in and the variables left empty. -/
def checkPattern (parameters : Bindings) (pattern : String) : Except CommandFault Unit :=
  match Pattern.ofText (Template.preview parameters pattern) with
  | .ok _ => .ok ()
  | .error invalid => .error (.invalidPattern invalid)

/-- The templates of a command that are compiled when it runs. -/
def regexTemplates (command : Command) : List String :=
  (match command.rule with
    | some rule => if rule.operator.isRegex then [rule.pattern] else []
    | none => []) ++
  (match command.condition with
    | some condition =>
      if condition.effectiveOperator.isRegex then condition.test.template?.toList else []
    | none => [])

def checkPatterns (parameters : Bindings) (command : Command) : Except CommandFault Unit :=
  (regexTemplates command).forM (checkPattern parameters)

/-- Each command of a stage from a position on; the first fault counts. -/
def checkFrom (check : Command → Except CommandFault Unit) (stage : Stage) (index : Nat) :
    List Command → Except Fault Unit
  | [] => .ok ()
  | command :: rest =>
    match check command with
    | .error fault => .error (.command stage index fault)
    | .ok () => checkFrom check stage (index + 1) rest

def checkAll (check : Command → Except CommandFault Unit) (workflow : Workflow) :
    Except Fault Unit :=
  Stage.all.forM fun stage => checkFrom check stage 0 (workflow.commands stage)

def validate (workflow : Workflow) : Except Fault Unit :=
  workflow.checkAll checkCommand

def missingParameters (workflow : Workflow) (parameters : Bindings) : List String :=
  workflow.requiredParameters.filter fun name => !parameters.contains name

/-- The definition for an invocation: its status, its commands, the parameters it needs, and the
patterns as they are with these parameters. -/
def validateInvocation (workflow : Workflow) (parameters : Bindings) : Except Fault Unit := do
  if !workflow.status.acceptsRuns then throw (.notExecutable workflow.id workflow.status)
  workflow.validate
  let missing := workflow.missingParameters parameters
  if !missing.isEmpty then throw (.missingParameters missing)
  workflow.checkAll (checkPatterns parameters)

end Runbook.Workflow
