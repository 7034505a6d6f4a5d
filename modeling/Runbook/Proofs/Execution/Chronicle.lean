import Mathlib.Data.List.Chain
import Runbook.Proofs.Execution.Conduct
import Runbook.Proofs.Execution.Verdict

/-! The history of a record in the store: from the pending run to the one that is returned, with one
change between each record and the next.
-/

set_option autoImplicit false

namespace Runbook.Execution

/-- A record goes on to another by one change, and by no other. -/
def Advances (run next : Run) : Prop :=
  ∃! change : Change, change.Leads run next

theorem Change.Leads.advances {change : Change} {run next : Run} (leads : change.Leads run next) :
    Advances run next :=
  ⟨change, leads, fun _ other => other.unique leads⟩

section
variable {workflow : Workflow} {parameters : Bindings} {run after : Run} {dialogue : List Exchange}

theorem Proceeds.chain (path : Proceeds workflow parameters run dialogue after) :
    (run :: updatesOf dialogue).IsChain Advances ∧
      (run :: updatesOf dialogue).getLast? = some after := by
  induction path with
  | refl => exact ⟨List.isChain_singleton _, rfl⟩
  | @change run after change before rest leg _ ih =>
    obtain ⟨chain, last⟩ := ih
    have given : updatesOf (before ++ .stored (change.apply run) (.ok ()) :: rest) =
        change.apply run :: updatesOf rest := by
      rw [updatesOf_append, leg.silent.1]
      rfl
    -- The store is given nothing on the way to the change, so its record is the next one.
    have leads : change.Leads run (change.apply run) := ⟨leg.allowed, rfl⟩
    rw [given]
    exact ⟨List.isChain_cons_cons.2 ⟨leads.advances, chain⟩, last⟩
  | announce _ ih => exact ih

end

/-! ### Along a chain of changes -/

section
variable {history : List Run}

theorem unfinished_of_chain (chain : history.IsChain Advances) :
    ∀ run ∈ history.dropLast, run.isTerminal = false := by
  induction history with
  | nil => exact fun _ member => absurd member List.not_mem_nil
  | cons run rest ih =>
    cases rest with
    | nil => exact fun _ member => absurd member List.not_mem_nil
    | cons next rest =>
      obtain ⟨⟨change, ⟨allowed, -⟩, -⟩, later⟩ := List.isChain_cons_cons.1 chain
      exact List.forall_mem_cons.2 ⟨allowed.unfinished, ih later⟩

theorem origin_of_chain {run : Run} (chain : (run :: history).IsChain Advances) :
    ∀ other ∈ history, other.origin = run.origin := by
  refine chain.cons_induction (·.origin = run.origin) history ?_ rfl
  rintro former next ⟨change, ⟨-, rfl⟩, -⟩ same
  rw [Change.apply_origin, same]

theorem prefix_of_chain (chain : history.IsChain Advances) :
    history.Pairwise fun earlier later => earlier.steps <+: later.steps := by
  have growing : (history.map Run.steps).IsChain (· <+: ·) := by
    refine List.isChain_map_of_isChain Run.steps ?_ chain
    rintro former next ⟨change, ⟨-, rfl⟩, -⟩
    exact Change.steps_prefix_apply
  have transitive : IsTrans (List Step) (· <+: ·) := ⟨fun _ _ _ => List.IsPrefix.trans⟩
  exact List.pairwise_map.1 growing.pairwise

end

section
variable {σ : Type} {world : World σ} (s : σ) (settings : Settings) (workflow : Workflow) (id : RunId)
  (workflowId : WorkflowId) (deviceId : DeviceId) (parameters : Bindings)
  (createdAt : Time.Instant)

/-- Where every update of a call succeeds, the records that the store was given go from the pending
one to the returned one by one change at a time, and the last of them alone has ended. -/
theorem history_advances
    (kept : Quiet ((execute settings workflow
      (.new id workflowId deviceId parameters createdAt)).run.dialogue world s)) :
    ∃ run history,
      ((execute settings workflow
        (.new id workflowId deviceId parameters createdAt)).run.runIn world s).1 = .ok run ∧
      history = .new id workflowId deviceId parameters createdAt ::
        updatesOf ((execute settings workflow
          (.new id workflowId deviceId parameters createdAt)).run.dialogue world s) ∧
      (history.IsChain fun earlier later => ∃! change : Change, change.Leads earlier later) ∧
      (∀ record ∈ history,
        record.origin = (Run.new id workflowId deviceId parameters createdAt).origin) ∧
      (history.Pairwise fun earlier later => earlier.steps <+: later.steps) ∧
      (∀ record ∈ history.dropLast, record.isTerminal = false) ∧
      history.getLast? = some run ∧ run.isTerminal = true := by
  have pending : (Run.new id workflowId deviceId parameters createdAt).status = .pending := rfl
  obtain ⟨run, returned⟩ := returns_of_quiet pending kept
  have course := course_of_returned returned
  obtain ⟨blocks, conclusion⟩ := course.conclusion
  obtain ⟨chain, last⟩ := (course.proceeds pending rfl).chain
  exact ⟨run, _, returned, rfl, chain, List.forall_mem_cons.2 ⟨rfl, origin_of_chain chain⟩,
    prefix_of_chain chain, unfinished_of_chain chain, last, conclusion.isTerminal⟩

theorem history_advances_on_bench :
    ∃ (run : Run) (history : List Run),
      ((execute {} Bench.workflow Bench.pending).run.runIn (Bench.world Bench.answers none) {}).1 =
        .ok run ∧
      (history.IsChain fun earlier later => ∃! change : Change, change.Leads earlier later) ∧
      history.length = 12 ∧ history.head? = some Bench.pending ∧ history.getLast? = some run := by
  obtain ⟨run, history, returned, split, chain, -, -, -, last, -⟩ := history_advances ({} : Bench) {}
    Bench.workflow (.ofSerial 1) Bench.workflow.id ⟨"bench"⟩ Bench.parameters ⟨0, 0⟩
    (Procedure.isOutage_of_storesAll (Bench.storesAll Bench.answers none) _ _)
  have count : (updatesOf ((execute {} Bench.workflow Bench.pending).run.dialogue
      (Bench.world Bench.answers none) {})).length = 11 := by
    decide +kernel
  refine ⟨run, history, returned, chain, ?_, ?_, last⟩
  · rw [split, List.length_cons]
    exact congrArg (· + 1) count
  · rw [split]
    rfl

end

end Runbook.Execution
