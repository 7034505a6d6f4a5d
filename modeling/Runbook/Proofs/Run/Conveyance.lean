import Mathlib.Data.List.Induction
import Mathlib.Data.List.Sort
import Runbook.Proofs.Time.Timestamp
import Runbook.Proofs.Workflow.Conveyance
import Runbook.Run.Codec

/-! Run records are read back as they were written, part by part.

A record keeps its parameters in the order in which they came, its document has them in the order
of their names; what is read has them in that order, under the same names.
-/

set_option autoImplicit false

namespace Runbook

open Document Encoder

variable {format : Format} {levels : Nat}

namespace Table

variable {κ β : Type} [DecidableEq κ]

theorem put_of_not_mem {key : κ} {value : β} {entries : List (κ × β)}
    (absent : key ∉ entries.map Prod.fst) : put key value entries = entries ++ [(key, value)] := by
  induction entries with
  | nil => rfl
  | cons entry rest ih =>
    obtain ⟨differ, later⟩ := not_or.1 (mt List.mem_cons.2 absent)
    rw [put, if_neg (Ne.symm differ), ih later]
    rfl

theorem entries_ofList {entries : List (κ × β)} (distinct : (entries.map Prod.fst).Nodup) :
    (ofList entries).entries = entries := by
  induction entries using List.reverseRecOn with
  | nil => rfl
  | append_singleton entries entry ih =>
    rw [List.map_append, List.nodup_append'] at distinct
    obtain ⟨others, -, apart⟩ := distinct
    have absent : entry.1 ∉ entries.map Prod.fst := fun inside => apart inside (by simp)
    rw [ofList, List.foldl_append, ← ofList]
    show put entry.1 entry.2 (ofList entries).entries = _
    rw [ih others, put_of_not_mem absent]

theorem lookup_perm {entries others : List (κ × β)} (same : entries.Perm others)
    (distinct : (entries.map Prod.fst).Nodup) (key : κ) :
    entries.lookup key = others.lookup key := by
  induction same with
  | nil => rfl
  | cons entry _ ih =>
    rw [List.lookup_cons, List.lookup_cons, ih (List.nodup_cons.1 distinct).2]
  | swap first second rest =>
    obtain ⟨name, value⟩ := first
    obtain ⟨other, different⟩ := second
    obtain ⟨apart, -⟩ := List.nodup_cons.1 distinct
    have differ : other ≠ name := fun same => apart (same ▸ List.mem_cons_self)
    simp only [List.lookup_cons]
    by_cases found : key = other
    · have missed : (key == name) = false := beq_eq_false_iff_ne.2 (found ▸ differ)
      rw [missed]
    · have missed : (key == other) = false := beq_eq_false_iff_ne.2 found
      rw [missed]
  | trans first _ ih ih' =>
    rw [ih distinct, ih' (((first.map Prod.fst).nodup_iff).1 distinct)]

end Table

namespace Bindings

theorem perm_sorted (table : Bindings) : table.sorted.Perm table.entries :=
  List.mergeSort_perm table.entries _

def inOrder (table : Bindings) : Bindings :=
  ⟨table.sorted, ((table.perm_sorted.map Prod.fst).nodup_iff).2 table.distinct⟩

theorem get?_inOrder (table : Bindings) (name : String) :
    table.inOrder.get? name = table.get? name :=
  Table.lookup_perm table.perm_sorted table.inOrder.distinct name

theorem sorted_inOrder (table : Bindings) : table.inOrder.sorted = table.sorted := by
  have ordered : table.sorted.Pairwise fun left right => decide (left.1 ≤ right.1) := by
    refine List.pairwise_mergeSort (fun _ _ _ first second => ?_) (fun left right => ?_) _
    · exact decide_eq_true (String.le_trans (of_decide_eq_true first) (of_decide_eq_true second))
    · simpa using String.le_total left.1 right.1
  exact List.mergeSort_of_pairwise ordered

theorem conveys (table : Bindings) :
    Conveys Decoder.bindings format (levels + 1) (Encoder.bindings table) table.inOrder := by
  refine ⟨?_, .object fun member inside => ?_, nofun⟩
  · have read : (table.sorted.map fun entry => (entry.1, Value.string entry.2)).mapM
        (fun member => do return (member.1, ← Decoder.string format member.2)) =
          (.ok table.sorted : Except Fault _) :=
      mapM_eq_ok_iff.2 (List.forall₂_map_left_iff.2 (List.forall₂_same.2 fun _ _ => rfl))
    show (do return Bindings.ofList (← (table.sorted.map _).mapM _)) = _
    rw [read]
    exact congrArg Except.ok (Table.ext_entries (Table.entries_ofList table.inOrder.distinct))
  · obtain ⟨entry, -, rfl⟩ := List.mem_map.1 inside
    exact .string entry.2

end Bindings

namespace Time.Instant

theorem conveys {t : Instant} (kept : t.IsKept) : Conveys decode format levels t.encode t := by
  refine ⟨?_, .string _, nofun⟩
  simp only [encode, decode, Rfc3339.parse_text kept]

end Time.Instant

namespace RunId

theorem conveys (id : RunId) : Conveys decode format levels id.encode id :=
  .checked (by rw [parse?, dif_pos id.wellFormed])

end RunId

namespace DeviceId

theorem conveys (id : DeviceId) : Conveys decode format levels id.encode id :=
  ⟨rfl, .string id.text, nofun⟩

end DeviceId

theorem Stage.conveys (stage : Stage) : Conveys decode format levels stage.encode stage :=
  .choice (by cases stage <;> decide)

theorem Arm.conveys (arm : Arm) : Conveys decode format levels arm.encode arm :=
  .choice (by cases arm <;> decide)

theorem FailureKind.conveys (kind : FailureKind) : Conveys decode format levels kind.encode kind :=
  .choice (by cases kind <;> decide)

theorem Run.Status.conveys (status : Run.Status) :
    Conveys Run.Status.decode format levels status.encode status :=
  .choice (by cases status <;> decide)

/-! ## Steps and failures -/

namespace Step

theorem Error.conveys (error : Error) :
    Conveys Error.decode format (levels + 1) error.encode error := by
  have takes : Error.layout.Takes format levels
      [("kind", some error.kind.encode), ("message", some (.string error.message))] error :=
    .seq (.map Error.mk (.given error.kind.conveys)) (.given (.string error.message))
  exact takes.conveys "StepError" false (by simp)

/-- Positions are those of lists that fit a memory. -/
structure Branch.IsBounded (branch : Branch) : Prop where
  parentIndex : branch.parentIndex < UInt64.size
  index : branch.index < UInt64.size

theorem Branch.conveys {branch : Branch} (bounded : branch.IsBounded) :
    Conveys Branch.decode format (levels + 1) branch.encode branch := by
  have takes : Branch.layout.Takes format levels
      [("parent_index", some (natural branch.parentIndex)), ("arm", some branch.arm.encode),
        ("index", some (natural branch.index))] branch :=
    .seq (.seq (.map Branch.mk (.given (.index bounded.parentIndex))) (.given branch.arm.conveys))
      (.given (.index bounded.index))
  exact takes.conveys "BranchInfo" false (by simp)

structure IsBounded (step : Step) : Prop where
  commandIndex : step.commandIndex < UInt64.size
  branch : ∀ branch ∈ step.branch, branch.IsBounded
  startedAt : step.startedAt.IsKept

def slots (step : Step) : List Slot :=
  [("stage", some step.stage.encode), ("command_index", some (natural step.commandIndex)),
    ("branch", step.branch.map Branch.encode), ("description", step.description.map .string),
    ("template", some (.string step.template)), ("command_sent", some (.string step.commandSent)),
    ("raw_output", some (.string step.rawOutput)), ("matched", some (.boolean step.matched)),
    ("extracted_value", step.extractedValue.map .string), ("exit_code", step.exitCode.map int32),
    ("error", step.error.map Error.encode), ("started_at", some step.startedAt.encode),
    ("duration_ms", some (uint64 step.durationMillis))]

theorem encode_eq (step : Step) : step.encode = .object (present step.slots) := by
  simp [encode, text, member, slots, present_cons_map]

theorem conveys {step : Step} (bounded : step.IsBounded) :
    Conveys decode format (levels + 2) step.encode step := by
  have takes : layout.Takes format (levels + 1) step.slots step :=
    .seq (.seq (.seq (.seq (.seq (.seq (.seq (.seq (.seq (.seq (.seq (.seq
      (.map mk (.given step.stage.conveys))
      (.given (.index bounded.commandIndex)))
      (.maybe step.branch fun branch present => Branch.conveys (bounded.branch branch present)))
      (.maybe step.description fun text _ => .string text))
      (.given (.string step.template)))
      (.given (.string step.commandSent)))
      (.given (.string step.rawOutput)))
      (.given (.boolean step.matched)))
      (.maybe step.extractedValue fun text _ => .string text))
      (.maybe step.exitCode fun code _ => .int32 code))
      (.maybe step.error fun error _ => error.conveys))
      (.given (Time.Instant.conveys bounded.startedAt)))
      (.given (.uint64 step.durationMillis))
  rw [encode_eq]
  exact takes.conveys "StepResult" false (by simp [slots])

end Step

namespace Failure

structure IsBounded (failure : Failure) : Prop where
  commandIndex : failure.commandIndex < UInt64.size

theorem conveys {failure : Failure} (bounded : failure.IsBounded) :
    Conveys decode format (levels + 1) failure.encode failure := by
  have takes : layout.Takes format levels
      [("stage", some failure.stage.encode),
        ("command_index", some (natural failure.commandIndex)),
        ("kind", some failure.kind.encode), ("message", some (.string failure.message))] failure :=
    .seq (.seq (.seq (.map mk (.given failure.stage.conveys))
      (.given (.index bounded.commandIndex)))
      (.given failure.kind.conveys))
      (.given (.string failure.message))
  exact takes.conveys "RunFailure" false (by simp)

end Failure

/-! ## Records -/

namespace Run

/-- All positions are those of lists that fit a memory, all moments have a text. -/
structure IsBounded (run : Run) : Prop where
  steps : ∀ step ∈ run.steps, step.IsBounded
  failure : ∀ failure ∈ run.failure, failure.IsBounded
  rollbackFailure : ∀ failure ∈ run.rollbackFailure, failure.IsBounded
  createdAt : run.createdAt.IsKept
  startedAt : ∀ moment ∈ run.startedAt, moment.IsKept
  completedAt : ∀ moment ∈ run.completedAt, moment.IsKept

def slots (run : Run) : List Slot :=
  [("id", some run.id.encode), ("workflow_id", some run.workflowId.encode),
    ("device_id", some run.deviceId.encode), ("status", some run.status.encode),
    ("current_stage", run.currentStage.map Stage.encode),
    ("dynamic_params", some (bindings run.parameters)),
    ("steps", some (list Step.encode run.steps)), ("failure", run.failure.map Failure.encode),
    ("rollback_failure", run.rollbackFailure.map Failure.encode),
    ("created_at", some run.createdAt.encode),
    ("started_at", run.startedAt.map Time.Instant.encode),
    ("completed_at", run.completedAt.map Time.Instant.encode)]

theorem encode_eq (run : Run) : run.encode = .object (present run.slots) := by
  simp [encode, member, slots, present_cons_map]

/-- A document does not tell in which order the parameters came. -/
theorem encode_inOrder (run : Run) :
    Run.encode { run with parameters := run.parameters.inOrder } = run.encode := by
  simp only [encode, bindings, Bindings.sorted_inOrder]

theorem conveys {run : Run} (bounded : run.IsBounded) :
    Conveys decode format (levels + 4) run.encode
      { run with parameters := run.parameters.inOrder } := by
  have takes : layout.Takes format (levels + 3) run.slots
      { run with parameters := run.parameters.inOrder } :=
    .seq (.seq (.seq (.seq (.seq (.seq (.seq (.seq (.seq (.seq (.seq
      (.map mk (.given run.id.conveys))
      (.given run.workflowId.conveys))
      (.given run.deviceId.conveys))
      (.given run.status.conveys))
      (.maybe run.currentStage fun stage _ => stage.conveys))
      (.given run.parameters.conveys))
      (.given (.list fun step inside => Step.conveys (bounded.steps step inside))))
      (.maybe run.failure fun failure present => Failure.conveys (bounded.failure failure present)))
      (.maybe run.rollbackFailure fun failure present =>
        Failure.conveys (bounded.rollbackFailure failure present)))
      (.given (Time.Instant.conveys bounded.createdAt)))
      (.maybe run.startedAt fun moment present =>
        Time.Instant.conveys (bounded.startedAt moment present)))
      (.maybe run.completedAt fun moment present =>
        Time.Instant.conveys (bounded.completedAt moment present))
  rw [encode_eq]
  exact takes.conveys "WorkflowRun" false (by simp [slots])

end Run

end Runbook
