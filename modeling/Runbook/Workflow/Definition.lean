import Runbook.Template
import Runbook.Workflow.Command
import Runbook.Workflow.Id
import Runbook.Workflow.Stage

/-! Workflow definitions: four lists of commands under an identifier.
-/

set_option autoImplicit false

namespace Runbook

namespace Workflow

inductive Status where
  | draft
  | active
  | paused
  | archived
  deriving DecidableEq, Repr

namespace Status

def all : List Status := [.draft, .active, .paused, .archived]

def name : Status → String
  | .draft => "draft"
  | .active => "active"
  | .paused => "paused"
  | .archived => "archived"

def ofName? (text : String) : Option Status :=
  all.find? fun status => status.name == text

def acceptsRuns : Status → Bool
  | .draft | .active => true
  | .paused | .archived => false

instance : ToString Status := ⟨name⟩

end Status

end Workflow

structure Workflow where
  id : WorkflowId
  name : String
  description : String := ""
  status : Workflow.Status := .draft
  preCheck : List Command := []
  implementation : List Command := []
  postCheck : List Command := []
  rollback : List Command := []
  deriving DecidableEq, Repr

namespace Workflow

def commands (workflow : Workflow) : Stage → List Command
  | .preCheck => workflow.preCheck
  | .implementation => workflow.implementation
  | .postCheck => workflow.postCheck
  | .rollback => workflow.rollback

def withCommands (workflow : Workflow) (stage : Stage) (commands : List Command) : Workflow :=
  match stage with
  | .preCheck => { workflow with preCheck := commands }
  | .implementation => { workflow with implementation := commands }
  | .postCheck => { workflow with postCheck := commands }
  | .rollback => { workflow with rollback := commands }

def hasRollback (workflow : Workflow) : Bool :=
  !workflow.rollback.isEmpty

/-- The commands of all stages in the order of a run that fails in the end. -/
def allCommands (workflow : Workflow) : List Command :=
  Stage.all.flatMap workflow.commands

def commandCount (workflow : Workflow) : Nat :=
  workflow.allCommands.length

/-- No run sends more commands than this. -/
def longestRun (workflow : Workflow) : Nat :=
  workflow.allCommands.foldr (fun command total => 1 + command.branchCount + total) 0

def templates (workflow : Workflow) : List String :=
  workflow.allCommands.flatMap Command.templates

/-- The first occurrence of each name, in the order of these. -/
def firsts (seen : List String) : List String → List String
  | [] => []
  | name :: rest => if name ∈ seen then firsts seen rest else name :: firsts (name :: seen) rest

/-- Every parameter that a template mentions, once, in the order of first mention. -/
def requiredParameters (workflow : Workflow) : List String :=
  firsts [] (workflow.templates.flatMap Template.parameters)

end Workflow

end Runbook
