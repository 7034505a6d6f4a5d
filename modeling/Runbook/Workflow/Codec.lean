import Runbook.Document.Decoder
import Runbook.Document.Encoder
import Runbook.Error
import Runbook.Workflow.Definition

/-! Workflow definitions as documents, in both directions.

A condition is an object only. Its operator and its branches are members like those of other records;
the rest of its members belong to the test that its `type` names, wherever that stands among them.
-/

set_option autoImplicit false

namespace Runbook

open Document

namespace WorkflowId

def decode : Decoder WorkflowId :=
  Decoder.checked fun text =>
    (parse text).mapError fun fault => (Error.validation fault.message).message

def encode (id : WorkflowId) : Value :=
  .string id.text

end WorkflowId

namespace Operator

def decode : Decoder Operator :=
  Decoder.choice knownNames ofName?

def encode (operator : Operator) : Value :=
  .string operator.name

end Operator

namespace MatchRule

def layout : Record MatchRule :=
  MatchRule.mk <$> Record.required "operator" Operator.decode
    <*> Record.required "pattern" Decoder.string

def decode : Decoder MatchRule :=
  layout.decode "MatchRule" false

def encode (rule : MatchRule) : Value :=
  .object [("operator", rule.operator.encode), ("pattern", .string rule.pattern)]

end MatchRule

namespace Binding

def layout : Record Binding :=
  Binding.mk <$> Record.required "name" Decoder.string
    <*> Record.optional "description" (Decoder.nullable Decoder.string) none

def decode : Decoder Binding :=
  layout.decode "VariableBinding" false

def encode (binding : Binding) : Value :=
  .object (Encoder.text "name" binding.name ++
    Encoder.optional "description" .string binding.description)

end Binding

namespace BranchCommand

def layout : Record BranchCommand :=
  BranchCommand.mk <$> Record.required "command" Decoder.string
    <*> Record.optional "description" (Decoder.nullable Decoder.string) none

/-- Nothing but text and description: other members are refused. -/
def decode : Decoder BranchCommand :=
  layout.decode "BranchCommand" true

def encode (branch : BranchCommand) : Value :=
  .object (Encoder.text "command" branch.template ++
    Encoder.optional "description" .string branch.description)

end BranchCommand

namespace Condition

namespace Test

def encodeMembers : Test → List Member
  | .regexMatches pattern => [("pattern", .string pattern)]
  | .exitCodeEquals exitCode => [("exit_code", Encoder.int32 exitCode)]
  | .outputContains text => [("text", .string text)]
  | .variableEquals variableName value =>
    [("variable_name", .string variableName), ("value", .string value)]

def records : List (Record Test) :=
  [Test.regexMatches <$> Record.required "pattern" Decoder.string,
   Test.exitCodeEquals <$> Record.required "exit_code" Decoder.int32,
   Test.outputContains <$> Record.required "text" Decoder.string,
   Test.variableEquals <$> Record.required "variable_name" Decoder.string
     <*> Record.required "value" Decoder.string]

/-- The record that a name, or in JSON a position, stands for. -/
def decodeType : Decoder (Record Test) := fun format value =>
  match format, value with
  | _, .string name =>
    match (names.zip records).lookup name with
    | some record => .ok record
    | none => .error (.unknownVariant name names)
  | .json, .integer n =>
    if n < 0 then Decoder.wanted "variant identifier" format value
    else
      match records[n.toNat]? with
      | some record => .ok record
      | none =>
        .error (.invalidValue (value.found format) s!"variant index 0 <= i < {records.length}")
  | _, _ => Decoder.wanted "variant identifier" format value

def decodeMembers (format : Format) (members : List Member) : Except Fault Test :=
  match members.filter (fun member => member.1 == "type") with
  | [] => .error (.missingField "type")
  | (_, value) :: others => do
    let record ← decodeType format value
    if !others.isEmpty then throw (.duplicateField "type")
    record.decodeMembers false format (members.filter fun member => member.1 != "type")

end Test

def surroundings : Record (Option Operator × List BranchCommand × List BranchCommand) :=
  (fun operator thenCommands elseCommands => (operator, thenCommands, elseCommands))
    <$> Record.optional "operator" (Decoder.nullable Operator.decode) none
    <*> Record.optional "then" (Decoder.list BranchCommand.decode) []
    <*> Record.optional "else" (Decoder.list BranchCommand.decode) []

def isTestMember (member : Member) : Bool :=
  !(surroundings.fields.map Field.name).contains member.1

def decodeObject (format : Format) (members : List Member) : Except Fault Condition := do
  let (operator, thenCommands, elseCommands) ← surroundings.decodeMembers false format members
  let rest := members.filter isTestMember
  if (Value.object rest).isBroken || (Value.object rest).hasWideInteger then throw .unreadable
  let test ← Test.decodeMembers format rest
  return { test, operator, thenCommands, elseCommands }

def decode : Decoder Condition := fun format value =>
  match value with
  | .object members => decodeObject format members
  | .moment _ => decodeObject format []
  | _ => Decoder.wanted "struct ConditionSpec" format value

def encode (condition : Condition) : Value :=
  .object (Encoder.text "type" condition.test.name ++ condition.test.encodeMembers ++
    Encoder.optional "operator" Operator.encode condition.operator ++
    Encoder.member "then" (Encoder.list BranchCommand.encode condition.thenCommands) ++
    Encoder.member "else" (Encoder.list BranchCommand.encode condition.elseCommands))

end Condition

namespace Command

def layout : Record Command :=
  Command.mk <$> Record.required "command" Decoder.string
    <*> Record.optional "description" (Decoder.nullable Decoder.string) none
    <*> Record.optional "match" (Decoder.nullable MatchRule.decode) none
    <*> Record.optional "variable_binding" (Decoder.nullable Binding.decode) none
    <*> Record.optional "condition" (Decoder.nullable Condition.decode) none
    <*> Record.optional "expected_exit_code" (Decoder.nullable Decoder.int32) none
    <*> Record.optional "timeout_ms" (Decoder.nullable Decoder.uint64) none

def decode : Decoder Command :=
  layout.decode "CommandSpec" false

def encode (command : Command) : Value :=
  .object (Encoder.text "command" command.template ++
    Encoder.optional "description" .string command.description ++
    Encoder.optional "match" MatchRule.encode command.rule ++
    Encoder.optional "variable_binding" Binding.encode command.binding ++
    Encoder.optional "condition" Condition.encode command.condition ++
    Encoder.optional "expected_exit_code" Encoder.int32 command.expectedExitCode ++
    Encoder.optional "timeout_ms" Encoder.uint64 command.timeoutMillis)

end Command

namespace Workflow

namespace Status

def decode : Decoder Status :=
  Decoder.choice (all.map name) ofName?

def encode (status : Status) : Value :=
  .string status.name

end Status

def layout : Record Workflow :=
  Workflow.mk <$> Record.required "id" WorkflowId.decode
    <*> Record.required "name" Decoder.string
    <*> Record.optional "description" Decoder.string ""
    <*> Record.optional "status" Status.decode .draft
    <*> Record.optional "pre_check" (Decoder.list Command.decode) []
    <*> Record.optional "implementation" (Decoder.list Command.decode) []
    <*> Record.optional "post_check" (Decoder.list Command.decode) []
    <*> Record.optional "rollback" (Decoder.list Command.decode) []

def decode : Decoder Workflow :=
  layout.decode "Workflow" false

def encode (workflow : Workflow) : Value :=
  .object [("id", workflow.id.encode), ("name", .string workflow.name),
    ("description", .string workflow.description), ("status", workflow.status.encode),
    ("pre_check", Encoder.list Command.encode workflow.preCheck),
    ("implementation", Encoder.list Command.encode workflow.implementation),
    ("post_check", Encoder.list Command.encode workflow.postCheck),
    ("rollback", Encoder.list Command.encode workflow.rollback)]

end Workflow

end Runbook
