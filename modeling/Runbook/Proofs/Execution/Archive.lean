import Runbook.Proofs.Execution.Bench
import Runbook.Proofs.Execution.FailStop
import Runbook.Proofs.Execution.Upkeep

/-! Records that are put away as JSON and read again, whatever was done with them before.

Positions of a machine and moments with a text are all that a record needs for it; both are kept by
every change of a record and by every execution.
-/

set_option autoImplicit false

namespace Runbook

namespace Execution

section
variable {σ : Type} {world : World σ}

theorem timely_of_clock {α : Type} (kept : ∀ s, (world.clock s).1.IsKept) (p : Procedure α)
    (s : σ) : Timely (p.dialogue world s) := by
  unfold Timely
  induction p generalizing s with
  | done a => exact fun _ read => absurd read List.not_mem_nil
  | send command timeout next ih =>
    exact fun now read => ih _ _ now ((List.mem_cons.1 read).resolve_left Exchange.noConfusion)
  | poll next ih =>
    exact fun now read => ih _ _ now ((List.mem_cons.1 read).resolve_left Exchange.noConfusion)
  | clock next ih =>
    intro now read
    rcases List.mem_cons.1 read with here | later
    · exact Exchange.read.inj here ▸ kept s
    · exact ih _ _ now later
  | update run next ih =>
    exact fun now read => ih _ _ now ((List.mem_cons.1 read).resolve_left Exchange.noConfusion)
  | announce kind run next ih =>
    exact fun now read => ih _ now ((List.mem_cons.1 read).resolve_left Exchange.noConfusion)

theorem IsRecordOf.isBounded {s : σ} {settings : Settings} {workflow : Workflow}
    {run record : Run} (recorded : IsRecordOf world s settings workflow run record)
    (sized : workflow.IsSized) (bounded : run.IsBounded)
    (timely : Timely ((execute settings workflow run).run.dialogue world s)) :
    record.IsBounded := by
  have upholds : Upholds (execute settings workflow run) Run.IsBounded :=
    upholds_execute sized bounded
  have given := Procedure.gives_dialogue world (execute settings workflow run).run s
  rcases recorded with stored | returned
  · exact upholds.stores _ _ given timely record stored
  · rw [returned] at given
    exact upholds.yields _ record given timely

end

namespace Bench

def stopped : World Bench :=
  { world answers none with clock := fun bench => (⟨1700000000, 0⟩, bench) }

theorem isSized_workflow : workflow.IsSized where
  commands stage := by cases stage <;> decide
  arms stage := by
    cases stage <;> simp [workflow, Workflow.commands]
    -- The command of the first stage is the only one with a condition.
    rintro (_ | _) <;> decide

end Bench

end Execution

namespace Run

open Document Execution

/-- Records that come about by any changes and executions in any order. Steps and failures that are
put on a record have positions of a machine, as the lists of a workflow do, and clocks tell moments
that have a text. -/
inductive Reached : Run → Prop
  | new {id : RunId} {workflowId : WorkflowId} {deviceId : DeviceId} {parameters : Bindings}
      {createdAt : Time.Instant} :
      createdAt.IsKept → Reached (.new id workflowId deviceId parameters createdAt)
  | redated {run : Run} {createdAt : Time.Instant} :
      Reached run → createdAt.IsKept → Reached { run with createdAt }
  | changed {run : Run} {operation : Operation} {now : Time.Instant} :
      Reached run → now.IsKept → operation.IsBounded →
      Reached (Operation.left (operation.edit now run))
  | executed {σ : Type} {world : World σ} {s : σ} {settings : Settings} {workflow : Workflow}
      {run record : Run} :
      Reached run → workflow.IsSized →
      Timely ((execute settings workflow run).run.dialogue world s) →
      IsRecordOf world s settings workflow run record → Reached record

theorem Reached.isBounded {run : Run} (reached : run.Reached) : run.IsBounded := by
  induction reached with
  | new kept => exact isBounded_new kept
  | redated _ kept ih => exact { ih with createdAt := kept }
  | changed _ kept within ih => exact ih.left kept within
  | executed _ sized timely recorded ih => exact recorded.isBounded sized ih timely

/-- A record written as JSON, on one line or on many, is read as the very same record: it has
everything in its place, and every parameter under its name. Only the order in which the parameters
came is not in the document, which is therefore written again as it was. -/
theorem record_survives_json {run : Run} (reached : run.Reached) :
    let back := { run with parameters := run.parameters.inOrder }
    decode .json run.encode = .ok back ∧
      (∀ print ∈ [JsonPrinter.compact, JsonPrinter.pretty],
        readWith decode .json (print run.encode) = .ok back) ∧
      (∀ name, back.parameters.get? name = run.parameters.get? name) ∧
      back.encode = run.encode := by
  intro back
  have conveyed : Conveys decode .json 4 run.encode back := conveys reached.isBounded
  exact ⟨conveyed.read, conveyed.readWith (by decide), run.parameters.get?_inOrder,
    run.encode_inOrder⟩

theorem record_survives_json_on_bench :
    ∃ record : Run, record.Reached ∧ record.status = .failed ∧ record.failure.isSome = true ∧
      record.rollbackFailure.isSome = true ∧ record.steps.any Step.isBranch = true ∧
      ∀ print ∈ [JsonPrinter.compact, JsonPrinter.pretty],
        readWith decode .json (print record.encode) =
          .ok { record with parameters := record.parameters.inOrder } := by
  have pending : Bench.pending.Reached := .new ⟨by decide, .inl (by decide)⟩
  have kept : (⟨1700000000, 0⟩ : Time.Instant).IsKept := ⟨by decide, .inl (by decide)⟩
  have timely : Timely ((execute {} Bench.workflow Bench.pending).run.dialogue Bench.stopped {}) :=
    timely_of_clock (fun _ => kept) _ _
  have reliable : Bench.stopped.StoresAll := fun _ _ => rfl
  have status : Bench.pending.status = .pending := rfl
  obtain ⟨record, returned⟩ := returns_of_storesAll {} Bench.workflow reliable status {}
  have outcome : ((execute {} Bench.workflow Bench.pending).run.runIn Bench.stopped {}).1.map
      (fun record => (record.status, record.failure.isSome, record.rollbackFailure.isSome,
        record.steps.any Step.isBranch)) = .ok (.failed, true, true, true) := by
    decide +kernel
  rw [returned] at outcome
  simp only [Except.map, Except.ok.injEq, Prod.mk.injEq] at outcome
  obtain ⟨failed, failure, rollbackFailure, branched⟩ := outcome
  have reached : record.Reached := .executed pending Bench.isSized_workflow timely (.inr returned)
  have read := (record_survives_json reached).2.1
  exact ⟨record, reached, failed, failure, rollbackFailure, branched, read⟩

end Run

end Runbook
