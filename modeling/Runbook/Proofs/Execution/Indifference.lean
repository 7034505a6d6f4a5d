import Runbook.Proofs.Execution.Bench
import Runbook.Proofs.Execution.Likeness

/-! Nothing depends on parameters that a workflow does not require.

Two runs of a workflow go along together in worlds that do the same by both of them, and whatever else
was supplied is seen by neither the device nor the record.
-/

set_option autoImplicit false

namespace Runbook.Execution

/-- Two worlds, each with its own run, that answer alike for as long as the runs ask alike. Records
related by `Q` are kept or refused alike. -/
structure World.Mirrors {σ τ : Type} (world : World σ) (other : World τ) (Q : Run → Run → Prop)
    (twin : σ → τ → Prop) : Prop where
  send {s : σ} {t : τ} : twin s t → ∀ command timeout,
    (world.send s command timeout).1 = (other.send t command timeout).1 ∧
      twin (world.send s command timeout).2 (other.send t command timeout).2
  poll {s : σ} {t : τ} : twin s t →
    (world.poll s).1 = (other.poll t).1 ∧ twin (world.poll s).2 (other.poll t).2
  clock {s : σ} {t : τ} : twin s t → twin (world.clock s).2 (other.clock t).2
  update {s : σ} {t : τ} {run copy : Run} : twin s t → Q run copy →
    (world.update s run).1 = (other.update t copy).1 ∧
      twin (world.update s run).2 (other.update t copy).2
  announce {s : σ} {t : τ} {run copy : Run} : twin s t → Q run copy →
    ∀ kind, twin (world.announce s kind run) (other.announce t kind copy)

section
variable {σ τ α : Type} {world : World σ} {other : World τ} {twin : σ → τ → Prop}

theorem Similar.mirrored {Q : Run → Run → Prop} {R : α → α → Prop} {p q : Procedure α}
    (similar : Similar Q R p q) (mirrors : world.Mirrors other Q twin) {s : σ} {t : τ}
    (twins : twin s t) :
    R (p.runIn world s).1 (q.runIn other t).1 ∧
      commandsOf (p.dialogue world s) = commandsOf (q.dialogue other t) := by
  -- At every request both worlds give the same answer, so the same continuations are taken.
  induction similar generalizing s t with
  | done related => exact ⟨related, rfl⟩
  | @send command timeout next copy _ ih =>
    obtain ⟨reply, twins⟩ := mirrors.send twins command timeout
    obtain ⟨related, same⟩ := ih (world.send s command timeout).1 twins
    simp only [Procedure.runIn, Procedure.dialogue, ← reply]
    exact ⟨related, congrArg (command :: ·) same⟩
  | @poll next copy _ ih =>
    obtain ⟨cancelled, twins⟩ := mirrors.poll twins
    simp only [Procedure.runIn, Procedure.dialogue, ← cancelled]
    exact ih (world.poll s).1 twins
  | @clock next copy _ ih => exact ih (world.clock s).1 (other.clock t).1 (mirrors.clock twins)
  | @update run copied next copy kindred _ ih =>
    obtain ⟨result, twins⟩ := mirrors.update twins kindred
    simp only [Procedure.runIn, Procedure.dialogue, ← result]
    exact ih (world.update s run).1 twins
  | @announce kind run copied next copy kindred _ ih => exact ih (mirrors.announce twins kindred kind)

/-- Two invocations that agree on the required parameters pass the checks or fail them alike. In worlds
that do the same by both, their runs send the same commands and end with records that say the same. -/
theorem only_required_parameters_matter (settings : Settings) (workflow : Workflow)
    {parameters others : Bindings}
    (agree : ∀ name ∈ workflow.requiredParameters, parameters.get? name = others.get? name)
    (id otherId : RunId) (workflowId otherWorkflowId : WorkflowId)
    (deviceId otherDeviceId : DeviceId) (createdAt otherCreatedAt : Time.Instant) :
    let run := Run.new id workflowId deviceId parameters createdAt
    let copy := Run.new otherId otherWorkflowId otherDeviceId others otherCreatedAt
    workflow.validateInvocation parameters = workflow.validateInvocation others ∧
      ∀ s t, world.Mirrors other (Run.Kindred run.origin copy.origin) twin → twin s t →
        commandsOf ((execute settings workflow run).run.dialogue world s) =
          commandsOf ((execute settings workflow copy).run.dialogue other t) ∧
        ((execute settings workflow run).run.runIn world s).1.map Run.gist =
          ((execute settings workflow copy).run.runIn other t).1.map Run.gist := by
  intro run copy
  refine ⟨Workflow.validateInvocation_congr agree, fun s t mirrors twins => ?_⟩
  have bisimulation : Run.Bisimulation workflow.requiredParameters
      (Run.Kindred run.origin copy.origin) := Run.bisimulation_kindred agree
  have kindred : Run.Kindred run.origin copy.origin run copy := ⟨rfl, rfl, rfl⟩
  have similar := alike_execute_of_bisimulation bisimulation
    (fun _ => Workflow.mentionsOnly_requiredParameters) settings kindred
  obtain ⟨paired, same⟩ := similar.mirrored mirrors twins
  exact ⟨same, paired_map_iff.1 (paired.imp fun _ _ _ _ kindred => kindred.gist)⟩

end

namespace Bench

theorem mirrors (answers : Answers) (cancelDuring : Option Nat) (Q : Run → Run → Prop) :
    (world answers cancelDuring).Mirrors (world answers cancelDuring) Q
      fun bench other => bench.sent = other.sent where
  send twins command timeout :=
    ⟨congrArg (answers · command timeout) twins, congrArg (· ++ [command]) twins⟩
  poll {bench other} twins := by
    have told : bench.isCancelled cancelDuring = other.isCancelled cancelDuring := by
      rw [isCancelled, isCancelled, twins]
    exact ⟨told, twins⟩
  clock twins := twins
  update twins _ := ⟨rfl, twins⟩
  announce twins _ _ := twins

end Bench

theorem only_required_parameters_matter_on_bench :
    let others := Bindings.ofList [("note", "{{host}}"), ("host", "core")]
    let copy := Run.new (.ofSerial 2) Bench.workflow.id ⟨"other"⟩ others ⟨60, 0⟩
    (∀ name ∈ Bench.workflow.requiredParameters, Bench.parameters.get? name = others.get? name) ∧
      Bench.workflow.validateInvocation others = .ok () ∧
      commandsOf ((execute {} Bench.workflow copy).run.dialogue (Bench.world Bench.answers none)
        { now := ⟨60, 0⟩ }) = ["probe core", "prepare 7", "apply", "verify", "revert"] := by
  intro others copy
  have agree : ∀ name ∈ Bench.workflow.requiredParameters,
      Bench.parameters.get? name = others.get? name := by decide +kernel
  have valid : Bench.workflow.validateInvocation Bench.parameters = .ok () := by decide +kernel
  have commands : commandsOf ((execute {} Bench.workflow Bench.pending).run.dialogue
      (Bench.world Bench.answers none) {}) =
        ["probe core", "prepare 7", "apply", "verify", "revert"] := by
    decide +kernel
  obtain ⟨checked, alike⟩ := only_required_parameters_matter {} Bench.workflow agree (.ofSerial 1)
    (.ofSerial 2) Bench.workflow.id Bench.workflow.id ⟨"bench"⟩ ⟨"other"⟩ ⟨0, 0⟩ ⟨60, 0⟩
  obtain ⟨same, -⟩ := alike {} { now := ⟨60, 0⟩ } (Bench.mirrors Bench.answers none _) rfl
  exact ⟨agree, checked.symm.trans valid, same.symm.trans commands⟩

end Runbook.Execution
