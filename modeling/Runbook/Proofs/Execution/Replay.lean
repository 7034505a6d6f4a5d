import Runbook.Execution.Rehearsal
import Runbook.Proofs.Device.Recording
import Runbook.Proofs.Execution.Bench
import Runbook.Proofs.Execution.FailStop
import Runbook.Proofs.Execution.Likeness

/-! A run repeats itself on the script of its answers.

The run and its replay are similar procedures. As long as neither is disturbed they ask for the same, so
each command of the replay finds its answer first in the queue.
-/

set_option autoImplicit false

namespace Runbook.Execution

open Device (Replay.Provider Replay.Session Script)

namespace Exchange

def answer? : Exchange → Option (String × Device.Reply)
  | .sent command _ reply => some (command, reply)
  | _ => none

/-- Whether a run was told here that it is cancelled, or that the store has refused its record. -/
def disturbs : Exchange → Bool
  | .polled cancelled => cancelled
  | .stored _ (.error _) => true
  | _ => false

end Exchange

def answersOf (dialogue : List Exchange) : List (String × Device.Reply) :=
  dialogue.filterMap Exchange.answer?

def Undisturbed (dialogue : List Exchange) : Prop :=
  ∀ exchange ∈ dialogue, exchange.disturbs = false

theorem eq_ok_of_undisturbed {run : Run} {result : Except Store.Error Unit}
    (kept : (Exchange.stored run result).disturbs = false) : result = .ok () := by
  cases result with
  | ok u => rfl
  | error cause => cases kept

theorem Quiet.undisturbed {dialogue : List Exchange} (quiet : Quiet dialogue)
    (uncancelled : .polled true ∉ dialogue) : Undisturbed dialogue := by
  intro exchange member
  cases exchange with
  | polled cancelled =>
    cases cancelled with
    | true => exact absurd member uncancelled
    | false => rfl
  | stored run result =>
    cases result with
    | ok u => rfl
    | error cause => exact quiet _ member
  | sent => rfl
  | read => rfl
  | announced => rfl

/-- The device is one session of a provider of scripts, which nothing else makes use of. -/
structure World.Replays {τ : Type} (world : World τ)
    (seat : τ → Replay.Provider × Replay.Session) : Prop where
  reply (t : τ) (command : String) (timeout : UInt64) :
    (world.send t command timeout).1 =
      (((seat t).1.send (seat t).2 command).1.within timeout).reply
  after_send (t : τ) (command : String) (timeout : UInt64) :
    seat (world.send t command timeout).2 =
      (((seat t).1.send (seat t).2 command).2.2, ((seat t).1.send (seat t).2 command).2.1)
  after_poll (t : τ) : seat (world.poll t).2 = seat t
  after_clock (t : τ) : seat (world.clock t).2 = seat t
  after_update (t : τ) (run : Run) : seat (world.update t run).2 = seat t
  after_announce (t : τ) (kind : Notification.EventKind) (run : Run) :
    seat (world.announce t kind run) = seat t

theorem Rehearsal.replays :
    Rehearsal.world.Replays fun rehearsal => (rehearsal.provider, rehearsal.session) where
  reply _ _ _ := rfl
  after_send _ _ _ := rfl
  after_poll _ := rfl
  after_clock _ := rfl
  after_update _ _ := rfl
  after_announce _ _ _ := rfl

section
variable {τ α : Type} {world : World τ} {seat : τ → Replay.Provider × Replay.Session}

theorem Similar.repeated {Q : Run → Run → Prop} {R : α → α → Prop} {p q : Procedure α}
    (similar : Similar Q R p q) (replays : world.Replays seat) {dialogue : List Exchange} {a : α}
    (given : p.Gives dialogue a) (undisturbed : Undisturbed dialogue)
    (plain : ∀ answer ∈ answersOf dialogue, Device.Reply.isPlain answer.2 = true) {t : τ}
    (calm : Undisturbed (q.dialogue world t))
    (foretells : (seat t).2.Foretells (answersOf dialogue)) :
    R a (q.runIn world t).1 ∧
      (seat (q.runIn world t).2).1.transcript = (seat t).1.transcript ++
        (answersOf dialogue).map fun answer => ⟨(seat t).2.device, answer.1⟩ := by
  -- Along the requests, with the answers that are still to come.
  induction similar generalizing dialogue t with
  | done related =>
    cases given
    exact ⟨related, (List.append_nil _).symm⟩
  | @send command timeout next copy _ ih =>
    cases given with
    | @send _ _ _ reply rest _ given =>
    obtain ⟨here, others⟩ := List.forall_mem_cons.1 plain
    obtain ⟨answer, session, provider, sent, replied, later, device, transcript⟩ :=
      foretells.send here (seat t).1 timeout
    have same : (world.send t command timeout).1 = reply := by
      rw [replays.reply, sent, replied]
    have after : seat (world.send t command timeout).2 = (provider, session) := by
      rw [replays.after_send, sent]
    simp only [Procedure.dialogue, Procedure.runIn, same] at calm ⊢
    obtain ⟨related, told⟩ := ih reply given (List.forall_mem_cons.1 undisturbed).2 others
      (List.forall_mem_cons.1 calm).2 (after ▸ later)
    refine ⟨related, ?_⟩
    rw [told, after, transcript, device, List.append_assoc]
    rfl
  | @poll next copy _ ih =>
    cases given with
    | @poll _ cancelled rest _ given =>
    obtain ⟨here, others⟩ := List.forall_mem_cons.1 undisturbed
    obtain ⟨there, further⟩ := List.forall_mem_cons.1 calm
    -- Neither is cancelled, so both are told the same.
    have same : (world.poll t).1 = cancelled := Eq.trans there here.symm
    rw [same] at further
    have repeated := ih cancelled given others plain further (replays.after_poll t ▸ foretells)
    rw [replays.after_poll] at repeated
    simp only [Procedure.runIn, same]
    exact repeated
  | @clock next copy _ ih =>
    cases given with
    | @clock _ now rest _ given =>
    have repeated := ih now (world.clock t).1 given (List.forall_mem_cons.1 undisturbed).2 plain
      (List.forall_mem_cons.1 calm).2 (replays.after_clock t ▸ foretells)
    rw [replays.after_clock] at repeated
    exact repeated
  | @update run copied next copy alike _ ih =>
    cases given with
    | @update _ _ result rest _ given =>
    obtain ⟨here, others⟩ := List.forall_mem_cons.1 undisturbed
    obtain ⟨there, further⟩ := List.forall_mem_cons.1 calm
    have same : (world.update t copied).1 = result :=
      (eq_ok_of_undisturbed there).trans (eq_ok_of_undisturbed here).symm
    rw [same] at further
    have repeated := ih result given others plain further (replays.after_update t copied ▸ foretells)
    rw [replays.after_update] at repeated
    simp only [Procedure.runIn, same]
    exact repeated
  | @announce kind run copied next copy alike _ ih =>
    cases given with
    | announce given =>
    have repeated := ih given (List.forall_mem_cons.1 undisturbed).2 plain
      (List.forall_mem_cons.1 calm).2 (replays.after_announce t kind copied ▸ foretells)
    rw [replays.after_announce] at repeated
    exact repeated

/-- A run carried out again on the script of what the device answered: with the same result, by the same
commands. -/
theorem replay_repeats {σ : Type} {other : World σ} (s : σ) (settings : Settings)
    (workflow : Workflow) (parameters : Bindings) (id otherId : RunId)
    (workflowId otherWorkflowId : WorkflowId) (deviceId otherDeviceId : DeviceId)
    (createdAt otherCreatedAt : Time.Instant) (replays : world.Replays seat) {t : τ} {run : Run}
    {dialogue : List Exchange}
    (ran : (execute settings workflow (.new id workflowId deviceId parameters createdAt)).run.dialogue
      other s = dialogue)
    (returned : ((execute settings workflow
      (.new id workflowId deviceId parameters createdAt)).run.runIn other s).1 = .ok run)
    (uncancelled : .polled true ∉ dialogue)
    (plain : ∀ answer ∈ answersOf dialogue, Device.Reply.isPlain answer.2 = true)
    (fresh : (seat t).2 = { device := otherDeviceId, script := .recorded (answersOf dialogue) })
    (calm : Undisturbed ((execute settings workflow
      (.new otherId otherWorkflowId otherDeviceId parameters otherCreatedAt)).run.dialogue world t)) :
    ∃ copy after,
      (execute settings workflow (.new otherId otherWorkflowId otherDeviceId parameters
        otherCreatedAt)).run.runIn world t = (.ok copy, after) ∧
      copy.status = run.status ∧ copy.failure = run.failure ∧
      copy.rollbackFailure = run.rollbackFailure ∧
      copy.steps.map Step.untimed = run.steps.map Step.untimed ∧
      (seat after).1.transcript = (seat t).1.transcript ++
        (answersOf dialogue).map fun answer => ⟨otherDeviceId, answer.1⟩ := by
  have pending : (Run.new id workflowId deviceId parameters createdAt).status = .pending := rfl
  have alike : (Run.new id workflowId deviceId parameters createdAt).outline =
    (Run.new otherId otherWorkflowId otherDeviceId parameters otherCreatedAt).outline := rfl
  have given := Procedure.gives_dialogue other
    (execute settings workflow (.new id workflowId deviceId parameters createdAt)).run s
  rw [ran, returned] at given
  have quiet := (failStop_execute pending).stores dialogue run given
  -- The fresh session foretells just what the device answered, so the alike runs get the same answers.
  have foretells : (seat t).2.Foretells (answersOf dialogue) := by
    rw [fresh]
    exact ⟨rfl, Script.foretells_recorded _⟩
  obtain ⟨same, transcript⟩ := (alike_execute settings workflow alike).repeated replays given
    (quiet.undisturbed uncancelled) plain calm foretells
  obtain ⟨⟨ended, after⟩, result⟩ : ∃ result, (execute settings workflow (.new otherId
      otherWorkflowId otherDeviceId parameters otherCreatedAt)).run.runIn world t = result :=
    ⟨_, rfl⟩
  rw [result] at same transcript
  rw [fresh] at transcript
  cases ended with
  | error error => cases same
  | ok copy =>
    have outline : run.outline = copy.outline := Except.ok.inj same
    exact ⟨copy, after, result, congrArg Run.Outline.status outline.symm,
      congrArg Run.Outline.failure outline.symm, congrArg Run.Outline.rollbackFailure outline.symm,
      congrArg Run.Outline.steps outline.symm, transcript⟩

end

namespace Bench

/-! A workflow that sends one command again and again, and is not always answered the same. -/

def retry : Workflow where
  id := ⟨"retry", by decide⟩
  name := "Retry"
  preCheck := [{ template := "show", rule := some ⟨.contains, "down"⟩ }]
  implementation := [{ template := "reset" }]
  postCheck := [{ template := "show", rule := some ⟨.contains, "up"⟩ }, { template := "reset" }]
  rollback := [{ template := "show" }]

def fading : Answers := fun sent command _ =>
  if command = "show" then .ok ⟨if sent.isEmpty then "down" else "up", some 0⟩
  else if sent.length = 1 then .ok ⟨"", none⟩
  else .error (.transport "no carrier")

def retryRun : Run :=
  .new (.ofSerial 1) retry.id ⟨"bench"⟩ .empty ⟨0, 0⟩

def retryDialogue : List Exchange :=
  (execute {} retry retryRun).run.dialogue (world fading none) {}

def rehearsal : Rehearsal :=
  let rehearsal := Rehearsal.on retryRun.deviceId (.recorded (answersOf retryDialogue)) {}
  { rehearsal with store := (rehearsal.store.create retryRun).2 }

end Bench

/-- On the bench the second reset fails, and so it does in the rehearsal. -/
theorem replay_repeats_on_bench :
    ∃ run copy after,
      ((execute {} Bench.retry Bench.retryRun).run.runIn (Bench.world Bench.fading none) {}).1 =
        .ok run ∧
      (execute {} Bench.retry Bench.retryRun).run.runIn Rehearsal.world Bench.rehearsal =
        (.ok copy, after) ∧
      run.status = .rolledBack ∧ copy.status = .rolledBack ∧
      copy.steps.map Step.untimed = run.steps.map Step.untimed ∧
      after.sent = ["show", "reset", "show", "reset", "show"] := by
  have pending : Bench.retryRun.status = .pending := rfl
  obtain ⟨run, returned⟩ := returns_of_storesAll {} Bench.retry
    (Bench.storesAll Bench.fading none) pending {}
  have undisturbed : ∀ exchange ∈ Bench.retryDialogue, exchange.disturbs = false := by
    decide +kernel
  have plain : ∀ answer ∈ answersOf Bench.retryDialogue, Device.Reply.isPlain answer.2 = true := by
    decide +kernel
  have calm : ∀ exchange ∈ (execute {} Bench.retry Bench.retryRun).run.dialogue Rehearsal.world
      Bench.rehearsal, exchange.disturbs = false := by
    decide +kernel
  have rolledBack : ((execute {} Bench.retry Bench.retryRun).run.runIn
      (Bench.world Bench.fading none) {}).1.toOption.map Run.status = some .rolledBack := by
    decide +kernel
  have sent : (answersOf Bench.retryDialogue).map Prod.fst =
      ["show", "reset", "show", "reset", "show"] := by
    decide +kernel
  obtain ⟨copy, after, result, status, -, -, steps, transcript⟩ :=
    replay_repeats ({} : Bench) {} Bench.retry .empty (.ofSerial 1) (.ofSerial 1) Bench.retry.id
      Bench.retry.id ⟨"bench"⟩ ⟨"bench"⟩ ⟨0, 0⟩ ⟨0, 0⟩ Rehearsal.replays rfl returned
      (fun member => Bool.noConfusion (undisturbed _ member)) plain rfl calm
  rw [returned] at rolledBack
  have ended : run.status = .rolledBack := Option.some.inj rolledBack
  refine ⟨run, copy, after, returned, result, ended, status.trans ended, steps, ?_⟩
  rw [← sent, Rehearsal.sent, transcript]
  exact List.map_map

end Runbook.Execution
