import Runbook.Proofs.Document.Spelling
import Runbook.Workflow.Source

/-! Workflow definitions are read back as they were written, part by part.

A condition is the one part that is no plain record: its own members and those of its test share an
object, and each reader has to find its members among those of the other.
-/

set_option autoImplicit false

namespace Runbook

open Document Encoder

variable {format : Format} {levels : Nat}

namespace WorkflowId

theorem parse_text (id : WorkflowId) : parse id.text = .ok id := by
  obtain ⟨text, wellFormed⟩ := id
  have parts := wellFormed
  simp only [isWellFormed, Bool.and_eq_true, decide_eq_true_eq] at parts
  have filled : text.isEmpty = false := by
    refine Bool.eq_false_iff.2 fun empty => ?_
    rw [String.isEmpty_iff.1 empty] at parts
    exact absurd parts.2 (by decide)
  rw [parse, if_neg (Bool.eq_false_iff.1 filled), if_neg (Nat.not_lt.2 parts.1), dif_pos wellFormed]

theorem conveys (id : WorkflowId) : Conveys decode format levels id.encode id :=
  .checked (by rw [parse_text]; rfl)

end WorkflowId

namespace Operator

theorem ofName?_name (operator : Operator) : ofName? operator.name = some operator := by
  cases operator <;> decide

theorem conveys (operator : Operator) : Conveys decode format levels operator.encode operator :=
  .choice operator.ofName?_name

end Operator

namespace MatchRule

theorem conveys (rule : MatchRule) : Conveys decode format (levels + 1) rule.encode rule := by
  have takes : layout.Takes format levels
      [("operator", some rule.operator.encode), ("pattern", some (.string rule.pattern))] rule :=
    .seq (.map mk (.given rule.operator.conveys)) (.given (.string rule.pattern))
  exact takes.conveys "MatchRule" false (by simp)

end MatchRule

namespace Binding

theorem conveys (binding : Binding) :
    Conveys decode format (levels + 1) binding.encode binding := by
  have takes : layout.Takes format levels
      [("name", some (.string binding.name)), ("description", binding.description.map .string)]
      binding :=
    .seq (.map mk (.given (.string binding.name)))
      (.maybe binding.description fun text _ => .string text)
  have conveyed := takes.conveys "VariableBinding" false (by simp)
  rwa [present_cons_some, present_cons_map, present_nil, List.append_nil] at conveyed

end Binding

namespace BranchCommand

theorem conveys (branch : BranchCommand) :
    Conveys decode format (levels + 1) branch.encode branch := by
  have takes : layout.Takes format levels
      [("command", some (.string branch.template)),
        ("description", branch.description.map .string)] branch :=
    .seq (.map mk (.given (.string branch.template)))
      (.maybe branch.description fun text _ => .string text)
  have conveyed := takes.conveys "BranchCommand" true (by simp)
  rwa [present_cons_some, present_cons_map, present_nil, List.append_nil] at conveyed

end BranchCommand

namespace Condition

namespace Test

/-- The name of a test leads to a record that takes the members of this test. -/
theorem decode_encodeMembers (format : Format) (test : Test) :
    ∃ record, decodeType format (.string test.name) = .ok record ∧
      record.decodeMembers false format test.encodeMembers = .ok test := by
  cases test with
  | regexMatches pattern =>
    have takes : Record.Takes (regexMatches <$> Record.required "pattern" Decoder.string) format 0
        [("pattern", some (.string pattern))] (regexMatches pattern) :=
      .map regexMatches (.given (.string pattern))
    exact ⟨_, rfl, takes.decode_present false (by simp)⟩
  | exitCodeEquals exitCode =>
    have takes : Record.Takes (exitCodeEquals <$> Record.required "exit_code" Decoder.int32) format
        0 [("exit_code", some (int32 exitCode))] (exitCodeEquals exitCode) :=
      .map exitCodeEquals (.given (.int32 exitCode))
    exact ⟨_, rfl, takes.decode_present false (by simp)⟩
  | outputContains text =>
    have takes : Record.Takes (outputContains <$> Record.required "text" Decoder.string) format 0
        [("text", some (.string text))] (outputContains text) :=
      .map outputContains (.given (.string text))
    exact ⟨_, rfl, takes.decode_present false (by simp)⟩
  | variableEquals variableName value =>
    have takes : Record.Takes (variableEquals <$> Record.required "variable_name" Decoder.string
        <*> Record.required "value" Decoder.string) format 0
        [("variable_name", some (.string variableName)), ("value", some (.string value))]
        (variableEquals variableName value) :=
      .seq (.map variableEquals (.given (.string variableName))) (.given (.string value))
    exact ⟨_, rfl, takes.decode_present false (by simp)⟩

def members (test : Test) : List Member :=
  text "type" test.name ++ test.encodeMembers

theorem of_mem_encodeMembers {test : Test} {member : Member}
    (inside : member ∈ test.encodeMembers) :
    member.1 ∈ ["pattern", "exit_code", "text", "variable_name", "value"] ∧
      ∀ levels, member.2.IsPlain levels := by
  cases test <;>
    simp only [encodeMembers, List.mem_cons, List.not_mem_nil, or_false] at inside
  case exitCodeEquals exitCode =>
    subst inside
    exact ⟨by simp, fun _ => .integer (Value.isMachineInteger_toInt exitCode)⟩
  case variableEquals => rcases inside with rfl | rfl <;> exact ⟨by simp, fun _ => .string _⟩
  all_goals subst inside; exact ⟨by simp, fun _ => .string _⟩

theorem name_ne_type {test : Test} {member : Member} (inside : member ∈ test.encodeMembers) :
    member.1 ≠ "type" := by
  intro same
  have known := (of_mem_encodeMembers inside).1
  simp [same] at known

theorem decodeMembers_members (format : Format) (test : Test) :
    decodeMembers format test.members = .ok test := by
  obtain ⟨record, named, taken⟩ := test.decode_encodeMembers format
  have only : test.members.filter (fun member => member.1 == "type") =
      [("type", .string test.name)] := by
    have others : test.encodeMembers.filter (fun member => member.1 == "type") = [] :=
      List.filter_eq_nil_iff.2 fun member inside => by simpa using name_ne_type inside
    simp [members, text, others]
  have rest : test.members.filter (fun member => member.1 != "type") = test.encodeMembers := by
    have others : test.encodeMembers.filter (fun member => member.1 != "type") =
        test.encodeMembers :=
      List.filter_eq_self.2 fun member inside => by simpa using name_ne_type inside
    simpa [members, text] using others
  rw [decodeMembers, only]
  show (do let record ← decodeType format (.string test.name); _) = _
  rw [named, rest]
  exact taken

end Test

def slots (condition : Condition) : List Slot :=
  [("operator", condition.operator.map Operator.encode),
    ("then", some (list BranchCommand.encode condition.thenCommands)),
    ("else", some (list BranchCommand.encode condition.elseCommands))]

theorem encode_eq (condition : Condition) :
    condition.encode = .object (condition.test.members ++ present condition.slots) := by
  simp [encode, Test.members, slots, member, present_cons_map, -List.cons_append]

theorem takes_slots (format : Format) (levels : Nat) (condition : Condition) :
    surroundings.Takes format (levels + 2) condition.slots
      (condition.operator, condition.thenCommands, condition.elseCommands) :=
  .seq
    (.seq (.map _ (.maybe condition.operator fun operator _ => operator.conveys))
      (.given (.list fun branch _ => branch.conveys)))
    (.given (.list fun branch _ => branch.conveys))

theorem names_slots (condition : Condition) :
    condition.slots.map Prod.fst = ["operator", "then", "else"] := rfl

theorem isTestMember_iff {member : Member} :
    isTestMember member = true ↔ member.1 ∉ ["operator", "then", "else"] := by
  show (!(["operator", "then", "else"].contains member.1)) = true ↔ _
  simp

theorem isTestMember_members {test : Test} {member : Member} (inside : member ∈ test.members) :
    isTestMember member = true := by
  refine isTestMember_iff.2 ?_
  rcases List.mem_cons.1 inside with rfl | own
  · simp
  · have apart : ∀ name ∈ ["pattern", "exit_code", "text", "variable_name", "value"],
        name ∉ ["operator", "then", "else"] := by decide
    exact apart member.1 (Test.of_mem_encodeMembers own).1

theorem isTestMember_slots {condition : Condition} {member : Member}
    (inside : member ∈ present condition.slots) : isTestMember member = false := by
  refine Bool.eq_false_iff.2 fun apart => isTestMember_iff.1 apart ?_
  rw [← names_slots condition]
  exact List.mem_map.2 ⟨_, mem_present.1 inside, rfl⟩

theorem nodup_members (condition : Condition) :
    ((condition.test.members ++ present condition.slots).map Prod.fst).Nodup := by
  rw [List.map_append, List.nodup_append']
  refine ⟨?_, nodup_present (by simp [names_slots]), fun name ofTest other => ?_⟩
  · cases condition.test <;> simp [Test.members, Test.encodeMembers, text]
  · obtain ⟨left, inTest, rfl⟩ := List.mem_map.1 ofTest
    obtain ⟨right, inSlots, same⟩ := List.mem_map.1 other
    have outside := isTestMember_iff.1 (isTestMember_members inTest)
    rw [← same, ← isTestMember_iff, isTestMember_slots inSlots] at outside
    exact Bool.false_ne_true outside

theorem lookup_members (condition : Condition) {slot : Slot} (inside : slot ∈ condition.slots) :
    (condition.test.members ++ present condition.slots).lookup slot.1 = slot.2 := by
  have absent : condition.test.members.lookup slot.1 = none := by
    refine List.lookup_eq_none_iff.2 fun member ofTest => bne_iff_ne.2 fun same => ?_
    refine isTestMember_iff.1 (isTestMember_members ofTest) ?_
    rw [← same, ← names_slots condition]
    exact List.mem_map.2 ⟨slot, inside, rfl⟩
  rw [List.lookup_append, absent, Option.none_or]
  exact lookup_present (by simp [names_slots]) inside

theorem filter_members (condition : Condition) :
    (condition.test.members ++ present condition.slots).filter isTestMember =
      condition.test.members := by
  rw [List.filter_append, List.filter_eq_self.2 fun _ => isTestMember_members,
    List.filter_eq_nil_iff.2 fun _ inside => by simp [isTestMember_slots inside], List.append_nil]

/-- Nothing in a test is beyond what a document can keep while its type is still unknown. -/
theorem readable_members (test : Test) :
    ((Value.object test.members).isBroken || (Value.object test.members).hasWideInteger) =
      false := by
  cases test
  case exitCodeEquals exitCode =>
    show (false || (!Value.isMachineInteger exitCode.toInt || false)) = false
    rw [Value.isMachineInteger_toInt]
    rfl
  all_goals rfl

theorem decodeObject_members (condition : Condition) :
    decodeObject format (condition.test.members ++ present condition.slots) = .ok condition := by
  have around : surroundings.decodeMembers false format
      (condition.test.members ++ present condition.slots) = .ok _ :=
    (takes_slots format 0 condition).decodeMembers (by simp [names_slots])
      condition.nodup_members (fun _ inside => condition.lookup_members inside) nofun
  rw [decodeObject, around]
  simp only [bind, Except.bind, filter_members, readable_members, Test.decodeMembers_members]
  rfl

theorem conveys (condition : Condition) :
    Conveys decode format (levels + 3) condition.encode condition := by
  rw [encode_eq]
  refine ⟨condition.decodeObject_members, .object fun member inside => ?_, nofun⟩
  rcases List.mem_append.1 inside with ofTest | other
  · rcases List.mem_cons.1 ofTest with rfl | own
    · exact .string _
    · exact (Test.of_mem_encodeMembers own).2 _
  · exact (takes_slots format levels condition).plain other

end Condition

namespace Command

def slots (command : Command) : List Slot :=
  [("command", some (.string command.template)),
    ("description", command.description.map .string),
    ("match", command.rule.map MatchRule.encode),
    ("variable_binding", command.binding.map Binding.encode),
    ("condition", command.condition.map Condition.encode),
    ("expected_exit_code", command.expectedExitCode.map int32),
    ("timeout_ms", command.timeoutMillis.map uint64)]

theorem encode_eq (command : Command) : command.encode = .object (present command.slots) := by
  simp [encode, text, slots, present_cons_map]

theorem conveys (command : Command) :
    Conveys decode format (levels + 4) command.encode command := by
  have takes : layout.Takes format (levels + 3) command.slots command :=
    .seq (.seq (.seq (.seq (.seq (.seq (.map mk (.given (.string command.template)))
      (.maybe command.description fun text _ => .string text))
      (.maybe command.rule fun rule _ => rule.conveys))
      (.maybe command.binding fun binding _ => binding.conveys))
      (.maybe command.condition fun condition _ => condition.conveys))
      (.maybe command.expectedExitCode fun code _ => .int32 code))
      (.maybe command.timeoutMillis fun millis _ => .uint64 millis)
  rw [encode_eq]
  exact takes.conveys "CommandSpec" false (by simp [slots])

end Command

namespace Workflow

theorem Status.ofName?_name (status : Status) : Status.ofName? status.name = some status := by
  cases status <;> decide

theorem Status.conveys (status : Status) :
    Conveys Status.decode format levels status.encode status :=
  .choice status.ofName?_name

theorem conveys (workflow : Workflow) :
    Conveys decode format (levels + 6) workflow.encode workflow := by
  have commands (list : List Command) : Conveys (Decoder.list Command.decode) format (levels + 5)
      (Encoder.list Command.encode list) list :=
    .list fun command _ => command.conveys
  have takes : layout.Takes format (levels + 5)
      [("id", some workflow.id.encode), ("name", some (.string workflow.name)),
        ("description", some (.string workflow.description)),
        ("status", some workflow.status.encode),
        ("pre_check", some (list Command.encode workflow.preCheck)),
        ("implementation", some (list Command.encode workflow.implementation)),
        ("post_check", some (list Command.encode workflow.postCheck)),
        ("rollback", some (list Command.encode workflow.rollback))] workflow :=
    .seq (.seq (.seq (.seq (.seq (.seq (.seq (.map mk (.given workflow.id.conveys))
      (.given (.string workflow.name)))
      (.given (.string workflow.description)))
      (.given workflow.status.conveys))
      (.given (commands workflow.preCheck)))
      (.given (commands workflow.implementation)))
      (.given (commands workflow.postCheck)))
      (.given (commands workflow.rollback))
  exact takes.conveys "Workflow" false (by simp)

/-- A definition written as JSON, on one line or on many, is read as the very same definition,
whatever it has and leaves out. It is accepted exactly if it is sound. -/
theorem survives_json (workflow : Workflow) :
    decode .json workflow.encode = .ok workflow ∧
      ∀ print ∈ [JsonPrinter.compact, JsonPrinter.pretty],
        readWith decode .json (print workflow.encode) = .ok workflow ∧
          (parse (print workflow.encode) .json = .ok workflow ↔ workflow.validate = .ok ()) := by
  have conveyed : Conveys decode .json 6 workflow.encode workflow := conveys workflow
  refine ⟨conveyed.read, fun print among => ?_⟩
  have read : readWith decode .json (print workflow.encode) = .ok workflow :=
    conveyed.readWith (by decide) print among
  refine ⟨read, ?_⟩
  cases sound : workflow.validate with
  | ok => simp [parse, read, sound]
  | error fault => simp [parse, read, sound]

end Workflow

end Runbook
