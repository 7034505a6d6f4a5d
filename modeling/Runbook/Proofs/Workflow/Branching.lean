import Runbook.Proofs.Document.Assembly
import Runbook.Workflow.Source

/-! Documents of workflows in which conditions do not nest.

Unknown members are passed over almost everywhere in a definition, so that it is no more than the names
of the fields that shows what a branch command could have. A document that is read has nothing else there.
-/

set_option autoImplicit false

namespace Runbook

open Document

/-- A list of values that have a text and a description at most. -/
def BranchCommand.AreFlat (value : Value) : Prop :=
  ∃ items, value = .array items ∧ ∀ item ∈ items, item.HasOnly ["command", "description"]

/-- An object with flat lists for its arms. -/
def Condition.IsFlat (value : Value) : Prop :=
  ∃ members, value = .object members ∧
    ∀ arm : Arm, ∀ listing, (arm.name, listing) ∈ members → BranchCommand.AreFlat listing

def Command.IsFlat (value : Value) : Prop :=
  ∀ condition, value.HasField layout.names "condition" condition →
    condition = .null ∨ Condition.IsFlat condition

def Workflow.IsFlat (value : Value) : Prop :=
  ∀ stage : Stage, ∀ listing, value.HasField layout.names stage.name listing →
    ∃ commands, listing = .array commands ∧ ∀ command ∈ commands, Command.IsFlat command

theorem BranchCommand.admits : decode.Admits fun value => value.HasOnly ["command", "description"] := by
  intro value branch read
  have assembled : layout.Assembled fun _ _ _ => True := .seq (.map _ (.field trivial)) (.field trivial)
  rcases assembled.hasOnly read with only | ⟨text, rfl⟩
  · exact only
  · cases read

theorem Condition.admits : decode.Admits Condition.IsFlat := by
  intro value condition read
  cases value with
  | object members =>
    refine ⟨members, rfl, fun arm listing inside => ?_⟩
    obtain ⟨around, surrounded, -⟩ := bind_eq_ok_iff.1 read
    have whole : surroundings.decode "" false .json (.object members) = .ok around := surrounded
    have own : surroundings.Assembled fun _ name decode =>
        name = arm.name → decode.Admits BranchCommand.AreFlat :=
      .seq (.seq (.map _ (.other (by cases arm <;> decide))) (.field fun _ => BranchCommand.admits.list))
        (.field fun _ => BranchCommand.admits.list)
    have known : arm.name ∈ surroundings.names := by cases arm <;> decide
    exact own.accepts known whole (.named inside)
  | moment text => cases read
  | _ => cases read

theorem Command.admits : decode.Admits Command.IsFlat := by
  intro value command read condition has
  have own : layout.Assembled fun _ name decode => name = "condition" →
      decode.Admits fun condition => condition = .null ∨ Condition.IsFlat condition :=
    .seq (.seq (.seq (.seq (.seq (.seq (.map _ (.other (by decide))) (.other (by decide)))
      (.other (by decide))) (.other (by decide))) (.field fun _ => Condition.admits.nullable))
      (.other (by decide))) (.other (by decide))
  exact own.accepts (by decide) read has

theorem Workflow.admits : decode.Admits Workflow.IsFlat := by
  intro value workflow read stage listing has
  have own : layout.Assembled fun _ name decode => name = stage.name → decode.Admits fun listing =>
      ∃ commands, listing = .array commands ∧ ∀ command ∈ commands, Command.IsFlat command :=
    .seq (.seq (.seq (.seq (.seq (.seq (.seq (.map _ (.other (by cases stage <;> decide)))
      (.other (by cases stage <;> decide))) (.other (by cases stage <;> decide)))
      (.other (by cases stage <;> decide))) (.field fun _ => Command.admits.list))
      (.field fun _ => Command.admits.list)) (.field fun _ => Command.admits.list))
      (.field fun _ => Command.admits.list)
  have known : stage.name ∈ layout.names := by cases stage <;> decide
  exact own.accepts known read has

/-- A text that is accepted is that of a document whose conditions do not nest. -/
theorem Workflow.isFlat_of_parse {text : String} {workflow : Workflow}
    (accepted : parse text .json = .ok workflow) :
    ∃ value, parse? .json text = some value ∧ IsFlat value := by
  cases told : parse? .json text with
  | none =>
    simp only [parse, readWith, told] at accepted
    cases accepted
  | some value =>
    refine ⟨value, rfl, ?_⟩
    cases read : decode .json value with
    | error fault =>
      simp only [parse, readWith, told, read] at accepted
      cases accepted
    | ok decoded => exact admits value decoded read

end Runbook
