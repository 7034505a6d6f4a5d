import Runbook.Proofs.Execution.FailStop
import Runbook.Proofs.Execution.Ledger

/-! What an outage of the store leaves of a run: its beginning, and nothing after.

A run that the store cut short is the beginning of one that it did not, so what holds along every run
that comes to its end holds up to an outage as well.
-/

set_option autoImplicit false

namespace Runbook.Execution

namespace Procedure

variable {α σ : Type}

theorem Gives.rest {p : Procedure α} {first rest : List Exchange} {a : α}
    (given : p.Gives (first ++ rest) a) :
    ∃ q : Procedure α, q.Gives rest a ∧
      ∀ other b, q.Gives other b → p.Gives (first ++ other) b := by
  induction first generalizing p with
  | nil => exact ⟨p, given, fun _ _ goesOn => goesOn⟩
  | cons exchange first ih =>
    cases given with
    | send tail =>
      obtain ⟨q, own, others⟩ := ih tail
      exact ⟨q, own, fun _ _ goesOn => .send (others _ _ goesOn)⟩
    | poll tail =>
      obtain ⟨q, own, others⟩ := ih tail
      exact ⟨q, own, fun _ _ goesOn => .poll (others _ _ goesOn)⟩
    | clock tail =>
      obtain ⟨q, own, others⟩ := ih tail
      exact ⟨q, own, fun _ _ goesOn => .clock (others _ _ goesOn)⟩
    | update tail =>
      obtain ⟨q, own, others⟩ := ih tail
      exact ⟨q, own, fun _ _ goesOn => .update (others _ _ goesOn)⟩
    | announce tail =>
      obtain ⟨q, own, others⟩ := ih tail
      exact ⟨q, own, fun _ _ goesOn => .announce (others _ _ goesOn)⟩

/-- Every procedure comes to its end where the store keeps all it is given, as on the bench. -/
theorem exists_quiet (p : Procedure α) : ∃ dialogue a, p.Gives dialogue a ∧ Quiet dialogue :=
  ⟨_, _, gives_dialogue (Bench.world Bench.answers none) p {},
    isOutage_of_storesAll (Bench.storesAll Bench.answers none) p {}⟩

variable {world : World σ} {p : Procedure α} {s : σ}

theorem eq_done_of_dialogue (silent : p.dialogue world s = []) :
    p = .done (p.runIn world s).1 ∧ (p.runIn world s).2 = s := by
  cases p with
  | done a => exact ⟨rfl, rfl⟩
  | send => cases silent
  | poll => cases silent
  | clock => cases silent
  | update => cases silent
  | announce => cases silent

theorem eq_update_of_dialogue {run : Run} {result : Except Store.Error Unit} {rest : List Exchange}
    (stores : p.dialogue world s = .stored run result :: rest) :
    ∃ next, p = .update run next ∧ (world.update s run).1 = result := by
  cases p with
  | done => cases stores
  | send => cases stores
  | poll => cases stores
  | clock => cases stores
  | update record next =>
    obtain ⟨same, -⟩ := List.cons.inj stores
    obtain ⟨rfl, answered⟩ := Exchange.stored.inj same
    exact ⟨next, rfl, answered⟩
  | announce => cases stores

end Procedure

/-! ### Runs that were cut short -/

/-- A dialogue and a whole one, which it keeps to as long as no update is refused. -/
inductive Cut : List Exchange → List Exchange → Prop
  | whole {dialogue : List Exchange} : Cut dialogue dialogue
  | refused {run : Run} {cause : Store.Error} {rest : List Exchange} :
      Cut [.stored run (.error cause)] (.stored run (.ok ()) :: rest)
  | next {exchange : Exchange} {dialogue whole : List Exchange} :
      Cut dialogue whole → Cut (exchange :: dialogue) (exchange :: whole)

theorem Cut.append {first dialogue whole : List Exchange} (cut : Cut dialogue whole) :
    Cut (first ++ dialogue) (first ++ whole) := by
  induction first with
  | nil => exact cut
  | cons exchange first ih => exact .next ih

section
variable {settings : Settings} {workflow : Workflow} {run : Run} {dialogue : List Exchange}

theorem cut_course (pending : run.status = .pending) {result : Except Error Run}
    (given : (execute settings workflow run).run.Gives dialogue result) :
    ∃ whole after, Course settings workflow run whole after ∧ Cut dialogue whole := by
  cases result with
  | ok after => exact ⟨dialogue, after, course given, .whole⟩
  | error error =>
    obtain ⟨before, record, cause, rfl, quiet, -⟩ :=
      (failStop_execute pending).stops dialogue error given
    obtain ⟨q, own, others⟩ := given.rest
    cases own with
    | update tail =>
      rename_i next
      -- Had the update succeeded, the run would have gone on to some end.
      obtain ⟨later, end_, goesOn, silent⟩ := (next (.ok ())).exists_quiet
      have whole := others _ _ (Procedure.Gives.update goesOn)
      have kept : Quiet (before ++ .stored record (.ok ()) :: later) :=
        quiet.append (List.forall_mem_cons.2 ⟨rfl, silent⟩)
      cases end_ with
      | ok after => exact ⟨_, after, course whole, Cut.refused.append⟩
      | error other =>
        obtain ⟨first, stored, failure, split, -, -⟩ :=
          (failStop_execute pending).stops _ other whole
        have refused := kept (.stored stored (.error failure)) (by simp [split])
        cases refused

theorem FailStop.nothing_after {α : Type} {action : Action α} (failStop : FailStop action)
    {before rest : List Exchange} {record : Run} {cause : Store.Error} {result : Except Error α}
    (given : action.run.Gives (before ++ .stored record (.error cause) :: rest) result) :
    rest = [] ∧ result = .error (.persistence cause.message) := by
  cases result with
  | ok a =>
    have kept := failStop.stores _ a given (.stored record (.error cause)) (by simp)
    cases kept
  | error error =>
    obtain ⟨early, last, failure, split, quiet, rfl⟩ := failStop.stops _ error given
    rcases List.eq_nil_or_concat rest with rfl | ⟨middle, final, rfl⟩
    · obtain ⟨-, same⟩ := List.append_inj' split rfl
      cases same
      exact ⟨rfl, rfl⟩
    · -- The outage would be among what came before another one.
      have lists : (before ++ .stored record (.error cause) :: middle) ++ [final] =
          early ++ [.stored last (.error failure)] := by simpa using split
      have same := List.append_inj_left' lists rfl
      have kept := quiet (.stored record (.error cause)) (by simp [← same])
      cases kept

end

section
variable {σ : Type} {world : World σ} (s : σ) (settings : Settings) (workflow : Workflow)
  (id : RunId) (workflowId : WorkflowId) (deviceId : DeviceId) (parameters : Bindings)
  (createdAt : Time.Instant)

/-- An update that fails ends its run: no request comes after it, and its text is the error of the
run. No other error comes out of a run. -/
theorem outage_ends_run :
    (∀ number record next t cause,
      (execute settings workflow (.new id workflowId deviceId parameters createdAt)).run.after
          world number s = (.update record next, t) →
      (world.update t record).1 = .error cause →
      (execute settings workflow (.new id workflowId deviceId parameters createdAt)).run.after
          world (number + 1) s =
        (.done (.error (.persistence cause.message)), (world.update t record).2) ∧
      (execute settings workflow (.new id workflowId deviceId parameters createdAt)).run.runIn
          world s =
        (.error (.persistence cause.message), (world.update t record).2)) ∧
    (∀ error,
      ((execute settings workflow (.new id workflowId deviceId parameters createdAt)).run.runIn
          world s).1 = .error error →
      ∃ number record next t cause,
        (execute settings workflow (.new id workflowId deviceId parameters createdAt)).run.after
            world number s = (.update record next, t) ∧
        (world.update t record).1 = .error cause ∧ error = .persistence cause.message) := by
  have pending : (Run.new id workflowId deviceId parameters createdAt).status = .pending := rfl
  generalize Run.new id workflowId deviceId parameters createdAt = run at pending ⊢
  have failStop : FailStop (execute settings workflow run) := failStop_execute pending
  have given := Procedure.gives_dialogue world (execute settings workflow run).run s
  constructor
  · intro number record next t cause reached refused
    have later := Procedure.dialogue_after world number (execute settings workflow run).run s
    have result := Procedure.runIn_after world number (execute settings workflow run).run s
    simp only [reached, Procedure.dialogue, refused] at later
    simp only [reached, Procedure.runIn, refused] at result
    -- The refused update stands in the dialogue, and a run that stops at a failure says nothing after it.
    rw [← List.take_append_drop number (Procedure.dialogue _ _ _), ← later] at given
    obtain ⟨silent, failed⟩ := failStop.nothing_after given
    obtain ⟨done, same⟩ := Procedure.eq_done_of_dialogue silent
    rw [result] at done same
    rw [failed] at done
    refine ⟨?_, Prod.ext failed same⟩
    rw [Procedure.after_succ, reached]
    simp only [Procedure.step, refused, done]
  · intro error failed
    rw [failed] at given
    obtain ⟨before, record, cause, split, -, carried⟩ := failStop.stops _ error given
    -- The last exchange of the dialogue is the update that was refused.
    have later := Procedure.dialogue_after world before.length (execute settings workflow run).run s
    rw [split, List.drop_left] at later
    obtain ⟨next, stores, refused⟩ := Procedure.eq_update_of_dialogue later
    exact ⟨before.length, record, next, _, cause, Prod.ext stores rfl, refused, carried⟩

theorem outage_ends_run_on_ledger :
    ∃ number record next t,
      (execute {} Bench.workflow Bench.pending).run.after (Ledger.world Bench.answers none) number
          (Ledger.opened Bench.pending Ledger.fullDisk) = (.update record next, t) ∧
      (execute {} Bench.workflow Bench.pending).run.after (Ledger.world Bench.answers none)
          (number + 1) (Ledger.opened Bench.pending Ledger.fullDisk) =
        (.done (.error (.persistence "Storage error: disk full")),
          ((Ledger.world Bench.answers none).update t record).2) := by
  have failed : ((execute {} Bench.workflow Bench.pending).run.runIn
      (Ledger.world Bench.answers none) (Ledger.opened Bench.pending Ledger.fullDisk)).1 =
        .error (.persistence "Storage error: disk full") := by
    decide +kernel
  obtain ⟨ends, found⟩ := outage_ends_run (Ledger.opened Bench.pending Ledger.fullDisk) {}
    Bench.workflow (.ofSerial 1) Bench.workflow.id ⟨"bench"⟩ Bench.parameters ⟨0, 0⟩
  obtain ⟨number, record, next, t, cause, reached, refused, same⟩ := found _ failed
  have ended := (ends number record next t cause reached refused).1
  rw [← same] at ended
  exact ⟨number, record, next, t, reached, ended⟩

end

end Runbook.Execution
