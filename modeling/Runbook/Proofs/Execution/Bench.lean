import Runbook.Proofs.Execution.Dialogue
import Runbook.Workflow.Definition

/-! A bench for runs: the device answers by the commands that it was sent before, the store keeps every
record, and cancellation comes while the command of a chosen number is on the device.
-/

set_option autoImplicit false

namespace Runbook.Execution

/-- What a device replies to a command, by the commands that it was sent before. -/
abbrev Answers := List String → String → UInt64 → Device.Reply

structure World.Serves {σ : Type} (world : World σ) (answers : Answers) (sent : σ → List String) :
    Prop where
  reply (s : σ) (command : String) (timeout : UInt64) :
    (world.send s command timeout).1 = answers (sent s) command timeout
  after_send (s : σ) (command : String) (timeout : UInt64) :
    sent (world.send s command timeout).2 = sent s ++ [command]
  after_poll (s : σ) : sent (world.poll s).2 = sent s
  after_clock (s : σ) : sent (world.clock s).2 = sent s
  after_update (s : σ) (run : Run) : sent (world.update s run).2 = sent s
  after_announce (s : σ) (kind : Notification.EventKind) (run : Run) :
    sent (world.announce s kind run) = sent s

theorem World.Serves.sent_runIn {σ α : Type} {world : World σ} {answers : Answers}
    {sent : σ → List String} (serves : world.Serves answers sent) (p : Procedure α) (s : σ) :
    sent (p.runIn world s).2 = sent s ++ commandsOf (p.dialogue world s) := by
  induction p generalizing s with
  | done a => exact (List.append_nil _).symm
  | send command timeout next ih =>
    refine (ih _ _).trans ?_
    rw [serves.after_send, List.append_assoc]
    rfl
  | poll next ih =>
    refine (ih _ _).trans ?_
    rw [serves.after_poll]
    rfl
  | clock next ih =>
    refine (ih _ _).trans ?_
    rw [serves.after_clock]
    rfl
  | update run next ih =>
    refine (ih _ _).trans ?_
    rw [serves.after_update]
    rfl
  | announce kind run next ih =>
    refine (ih _).trans ?_
    rw [serves.after_announce]
    rfl

structure Bench where
  sent : List String := []
  now : Time.Instant := ⟨0, 0⟩

namespace Bench

def isCancelled (cancelDuring : Option Nat) (bench : Bench) : Bool :=
  cancelDuring.any fun number => number ≤ bench.sent.length

def world (answers : Answers) (cancelDuring : Option Nat) : World Bench where
  send bench command timeout :=
    (answers bench.sent command timeout, { bench with sent := bench.sent ++ [command] })
  poll bench := (bench.isCancelled cancelDuring, bench)
  clock bench := (bench.now, { bench with now := bench.now.addNanos 1 })
  update bench _ := (.ok (), bench)
  announce bench _ _ := bench

/-! A workflow that binds a variable, takes a branch, fails in its last stage, and fails again while
it is rolled back. -/

def workflow : Workflow where
  id := ⟨"upgrade", by decide⟩
  name := "Upgrade"
  preCheck := [{
    template := "probe {{host}}"
    rule := some ⟨.matches, "v([0-9])"⟩
    binding := some ⟨"version", none⟩
    condition := some {
      test := .outputContains "ready", thenCommands := [{ template := "prepare {version}" }] } }]
  implementation := [{ template := "apply" }]
  postCheck := [{ template := "verify" }]
  rollback := [{ template := "revert" }, { template := "restore {backup}" }]

def answers : Answers := fun _ command _ =>
  if command = "verify" then .error .closed else .ok ⟨"ready v7", none⟩

def parameters : Bindings :=
  .ofList [("host", "core")]

def pending : Run :=
  .new (.ofSerial 1) workflow.id ⟨"bench"⟩ parameters ⟨0, 0⟩

section
variable (answers : Answers) (cancelDuring : Option Nat)

theorem storesAll : (world answers cancelDuring).StoresAll :=
  fun _ _ => rfl

theorem serves : (world answers cancelDuring).Serves answers Bench.sent where
  reply _ _ _ := rfl
  after_send _ _ _ := rfl
  after_poll _ := rfl
  after_clock _ := rfl
  after_update _ _ := rfl
  after_announce _ _ _ := rfl

theorem readsFlag : (world answers cancelDuring).ReadsFlag (isCancelled cancelDuring) where
  poll _ := rfl
  after_send bench command _ set := by
    obtain ⟨number, member, reached⟩ := (Option.any_eq_true _ _).1 set
    refine (Option.any_eq_true _ _).2 ⟨number, member, ?_⟩
    simp only [decide_eq_true_eq] at reached ⊢
    exact Nat.le_trans reached (List.sublist_append_left bench.sent [command]).length_le
  after_poll _ set := set
  after_clock _ set := set
  after_update _ _ set := set
  after_announce _ _ _ set := set

end

end Bench

end Runbook.Execution
