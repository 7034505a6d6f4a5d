import Runbook.Proofs.Document.Rearrangement
import Runbook.Proofs.Document.Spelling
import Runbook.Workflow.Source

/-! A workflow definition is the same in whatever order its members are written.
-/

set_option autoImplicit false

namespace Runbook

open Document

theorem WorkflowId.orderless : decode.Orderless :=
  .checked _

theorem Operator.orderless : decode.Orderless :=
  .choice _ _

theorem MatchRule.orderless : decode.Orderless :=
  Record.IsOrderless.decode (.seq (.map mk (.field Operator.orderless)) (.field .string)) _ _

theorem Binding.orderless : decode.Orderless :=
  Record.IsOrderless.decode (.seq (.map mk (.field .string)) (.field (.nullable .string))) _ _

theorem BranchCommand.orderless : decode.Orderless :=
  Record.IsOrderless.decode (.seq (.map mk (.field .string)) (.field (.nullable .string))) _ _

namespace Condition

namespace Test

theorem orderless_decodeType : decodeType.Orderless :=
  .of_scalar nofun nofun

theorem orderless_records : ∀ record ∈ records, record.IsOrderless := by
  simp only [records, List.forall_mem_cons]
  refine ⟨.map _ (.field .string), .map _ (.field .int32), .map _ (.field .string),
    .seq (.map _ (.field .string)) (.field .string), nofun⟩

theorem mem_records {value : Value} {record : Record Test}
    (named : decodeType .json value = .ok record) : record ∈ records := by
  unfold decodeType at named
  split at named
  · split at named
    next found =>
      cases named
      obtain ⟨before, behind, split, -⟩ := List.lookup_eq_some_iff.1 found
      exact (List.of_mem_zip (split ▸ List.mem_append_right before List.mem_cons_self)).2
    next => cases named
  · split at named
    next => cases named
    next =>
      split at named
      next found =>
        cases named
        exact List.mem_of_getElem? found
      next => cases named
  · cases named

theorem decodeMembers_alike {members others : List Member} {test : Test}
    (alike : Value.AlikeMembers members others) (read : decodeMembers .json members = .ok test) :
    decodeMembers .json others = .ok test := by
  have types := alike.filter (· == "type")
  have rest := alike.filter (· != "type")
  unfold decodeMembers at read ⊢
  cases own : members.filter fun member => member.1 == "type" with
  | nil => rw [own] at read; cases read
  | cons first more =>
    rw [own] at read types
    obtain ⟨record, named, later⟩ := bind_eq_ok_iff.1 read
    cases more with
    | cons second more => cases later
    | nil =>
      have taken : record.decodeMembers false .json (members.filter fun member => member.1 != "type") =
          .ok test := later
      obtain ⟨other, same, likeness⟩ := types.singleton
      have namedOther : decodeType .json other = .ok record :=
        orderless_decodeType first.2 other record likeness named
      have orderless := orderless_records record (mem_records named)
      rw [same]
      exact bind_eq_ok_iff.2 ⟨record, namedOther, orderless.decodeMembers rest taken⟩

end Test

theorem orderless_surroundings : surroundings.IsOrderless :=
  .seq (.seq (.map _ (.field (.nullable Operator.orderless))) (.field (.list BranchCommand.orderless)))
    (.field (.list BranchCommand.orderless))

theorem orderless : decode.Orderless := by
  intro value other condition alike read
  cases value with
  | object members =>
    obtain ⟨others, rfl, within⟩ := alike.members
    have apart : Value.AlikeMembers (members.filter isTestMember) (others.filter isTestMember) :=
      within.filter fun name => !(surroundings.fields.map Field.name).contains name
    obtain ⟨around, surrounded, later⟩ := bind_eq_ok_iff.1 read
    refine bind_eq_ok_iff.2 ⟨around, orderless_surroundings.decodeMembers within surrounded, ?_⟩
    -- What is kept aside until its type is known can be kept in either order or in neither.
    dsimp only at later ⊢
    rw [← apart.isBroken_eq, ← apart.hasWideInteger_eq]
    split at later
    next => cases later
    next readable =>
      rw [if_neg readable]
      obtain ⟨test, found, done⟩ := bind_eq_ok_iff.1 later
      exact bind_eq_ok_iff.2 ⟨test, Test.decodeMembers_alike apart found, done⟩
  | moment text =>
    obtain ⟨-, rfl | shuffle⟩ := alike
    · exact read
    · cases shuffle
  | _ => cases read

end Condition

theorem Command.orderless : decode.Orderless :=
  Record.IsOrderless.decode
    (.seq (.seq (.seq (.seq (.seq (.seq (.map mk (.field .string)) (.field (.nullable .string)))
      (.field (.nullable MatchRule.orderless)))
      (.field (.nullable Binding.orderless)))
      (.field (.nullable Condition.orderless)))
      (.field (.nullable .int32)))
      (.field (.nullable .uint64))) _ _

namespace Workflow

theorem orderless : decode.Orderless :=
  Record.IsOrderless.decode
    (.seq (.seq (.seq (.seq (.seq (.seq (.seq (.map mk (.field WorkflowId.orderless)) (.field .string))
      (.field .string))
      (.field (.choice _ _)))
      (.field (.list Command.orderless)))
      (.field (.list Command.orderless)))
      (.field (.list Command.orderless)))
      (.field (.list Command.orderless))) _ _

theorem parse_congr {text other : String} {format : Format}
    (same : (readWith decode format text).toOption = (readWith decode format other).toOption) :
    (parse text format).toOption = (parse other format).toOption := by
  unfold parse
  cases first : readWith decode format text with
  | error fault =>
    cases second : readWith decode format other with
    | error => rfl
    | ok workflow => rw [first, second] at same; cases same
  | ok workflow =>
    cases second : readWith decode format other with
    | error fault => rw [first, second] at same; cases same
    | ok _ =>
      rw [first, second] at same
      cases same
      rfl

/-- A document in which no object repeats a name is read as the same definition as any document with the
members of its objects in another order, or neither is read. So are their texts. -/
theorem member_order_irrelevant (value other : Value) (plain : value.repeatsName = false)
    (shuffled : value.Shuffled other) :
    (decode .json value).toOption = (decode .json other).toOption ∧
      ∀ text text', parse? .json text = some value → parse? .json text' = some other →
        (readWith decode .json text).toOption = (readWith decode .json text').toOption ∧
          (parse text .json).toOption = (parse text' .json).toOption := by
  have same := orderless.toOption_shuffled plain shuffled
  refine ⟨same, fun text text' told told' => ?_⟩
  have read : (readWith decode .json text).toOption = (readWith decode .json text').toOption := by
    rw [toOption_readWith told, toOption_readWith told', same]
  exact ⟨read, parse_congr read⟩

theorem member_order_irrelevant_to_type :
    let condition : List Member :=
      [("type", .string "if_output_contains"), ("text", .string "up"), ("then", .array [])]
    let document (condition : List Member) : Value :=
      .object [("id", .string "probe"), ("name", .string "Probe"), ("pre_check", .array
        [.object [("command", .string "show"), ("condition", .object condition)]])]
    let text (condition : List Member) := JsonPrinter.compact (document condition)
    (document condition).repeatsName = false ∧
      (document condition).Shuffled (document condition.reverse) ∧
      parse? .json (text condition) = some (document condition) ∧
      parse? .json (text condition.reverse) = some (document condition.reverse) ∧
      (decode .json (document condition)).toOption.isSome = true ∧
      (parse (text condition) .json).toOption = (parse (text condition.reverse) .json).toOption := by
  intro condition document text
  have plain : (document condition).repeatsName = false := by decide
  have shuffle : (document condition).Shuffle (document condition.reverse) :=
    @Value.Shuffle.member [_, _] [] _ _ _ (@Value.Shuffle.item [] [] _ _
      (@Value.Shuffle.member [_] [] _ _ _ (.members condition.reverse_perm.symm)))
  have shuffled : (document condition).Shuffled (document condition.reverse) := .single shuffle
  have told (order : List Member) (among : ∀ member ∈ order, member ∈ condition) :
      parse? .json (text order) = some (document order) := by
    have each : ∀ member ∈ condition, member.2.IsPlain 1 := by
      simp only [condition, List.forall_mem_cons]
      exact ⟨.string _, .string _, .array nofun, nofun⟩
    have inner : (Value.object order).IsPlain 2 :=
      .object fun member inside => each member (among member inside)
    have command : (Value.object [("command", .string "show"), ("condition", .object order)]).IsPlain 3 :=
      .object (List.forall_mem_cons.2 ⟨.string _, List.forall_mem_singleton.2 inner⟩)
    have whole : (document order).IsPlain 5 := by
      refine .object ?_
      simp only [List.forall_mem_cons]
      exact ⟨.string _, .string _, .array (List.forall_mem_singleton.2 command), nofun⟩
    exact JsonText.parse?_compact whole (by decide)
  have forward := told condition fun _ inside => inside
  have backward := told condition.reverse fun _ => List.mem_reverse.1
  have read : (decode .json (document condition)).toOption.isSome = true := by decide +kernel
  refine ⟨plain, shuffled, forward, backward, read, ?_⟩
  exact ((member_order_irrelevant _ _ plain shuffled).2 _ _ forward backward).2

end Workflow

end Runbook
