import Runbook.Workflow.Operator

/-! The commands of a workflow, with what is expected of their output and what may follow it.

A branch command has no rule, binding or condition of its own, so conditions never nest.
-/

set_option autoImplicit false

namespace Runbook

structure MatchRule where
  operator : Operator
  pattern : String
  deriving DecidableEq, Repr

structure Binding where
  name : String
  description : Option String := none
  deriving DecidableEq, Repr

namespace Condition

/-- What a condition looks at, with the parameter it compares with. -/
inductive Test where
  | regexMatches (pattern : String)
  | exitCodeEquals (exitCode : Int32)
  | outputContains (text : String)
  | variableEquals (variableName value : String)
  deriving DecidableEq, Repr

namespace Test

def name : Test → String
  | .regexMatches _ => "if_regex_matches"
  | .exitCodeEquals _ => "if_exit_code_equals"
  | .outputContains _ => "if_output_contains"
  | .variableEquals _ _ => "if_variable_equals"

def names : List String :=
  ["if_regex_matches", "if_exit_code_equals", "if_output_contains", "if_variable_equals"]

def defaultOperator : Test → Operator
  | .regexMatches _ => .matches
  | .exitCodeEquals _ => .equals
  | .outputContains _ => .contains
  | .variableEquals _ _ => .equals

def template? : Test → Option String
  | .regexMatches pattern => some pattern
  | .exitCodeEquals _ => none
  | .outputContains text => some text
  | .variableEquals _ value => some value

end Test

end Condition

structure BranchCommand where
  template : String
  description : Option String := none
  deriving DecidableEq, Repr

inductive Arm where
  | then_
  | else_
  deriving DecidableEq, Repr

namespace Arm

def all : List Arm := [.then_, .else_]

def name : Arm → String
  | .then_ => "then"
  | .else_ => "else"

def ofName? (text : String) : Option Arm :=
  all.find? fun arm => arm.name == text

instance : ToString Arm := ⟨name⟩

end Arm

structure Condition where
  test : Condition.Test
  /-- Replaces the operator that the test has by itself. -/
  operator : Option Operator := none
  thenCommands : List BranchCommand := []
  elseCommands : List BranchCommand := []
  deriving DecidableEq, Repr

namespace Condition

def effectiveOperator (condition : Condition) : Operator :=
  condition.operator.getD condition.test.defaultOperator

def commands (condition : Condition) : Arm → List BranchCommand
  | .then_ => condition.thenCommands
  | .else_ => condition.elseCommands

def allCommands (condition : Condition) : List BranchCommand :=
  condition.thenCommands ++ condition.elseCommands

end Condition

structure Command where
  template : String
  description : Option String := none
  rule : Option MatchRule := none
  binding : Option Binding := none
  condition : Option Condition := none
  /-- Looked at apart from the rule. -/
  expectedExitCode : Option Int32 := none
  timeoutMillis : Option UInt64 := none
  deriving DecidableEq, Repr

namespace BranchCommand

def toCommand (branch : BranchCommand) : Command :=
  { template := branch.template, description := branch.description }

end BranchCommand

namespace Command

def branchCount (command : Command) : Nat :=
  match command.condition with
  | none => 0
  | some condition => condition.allCommands.length

/-- All texts that may have tokens: the command, its rule, its condition, its branches. -/
def templates (command : Command) : List String :=
  command.template ::
    ((command.rule.map MatchRule.pattern).toList ++
      (match command.condition with
        | none => []
        | some condition =>
          condition.test.template?.toList ++
            condition.allCommands.map BranchCommand.template))

end Command

end Runbook
