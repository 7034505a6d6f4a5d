import Runbook.Execution.Procedure

/-! What passes between a procedure and its surroundings: every request with its answer, in order.

A procedure by itself fixes which dialogues are possible (`Gives`), a world picks one of them
(`dialogue`). What holds along every possible dialogue therefore holds in every world.
-/

set_option autoImplicit false

namespace Runbook.Execution

open Notification (EventKind)

inductive Exchange where
  | sent (command : String) (timeout : UInt64) (reply : Device.Reply)
  | polled (cancelled : Bool)
  | read (now : Time.Instant)
  | stored (run : Run) (result : Except Store.Error Unit)
  | announced (kind : EventKind) (run : Run)

namespace Exchange

def command? : Exchange → Option String
  | .sent command _ _ => some command
  | _ => none

def isOutage : Exchange → Bool
  | .stored _ (.error _) => true
  | _ => false

def isPoll : Exchange → Bool
  | .polled _ => true
  | _ => false

end Exchange

def commandsOf (dialogue : List Exchange) : List String :=
  dialogue.filterMap Exchange.command?

namespace Procedure

variable {α β σ : Type}

/-- Along this dialogue a procedure leads to this result. -/
inductive Gives : Procedure α → List Exchange → α → Prop
  | done {a : α} : Gives (.done a) [] a
  | send {command : String} {timeout : UInt64} {next : Device.Reply → Procedure α}
      {reply : Device.Reply} {rest : List Exchange} {a : α} :
      Gives (next reply) rest a →
      Gives (.send command timeout next) (.sent command timeout reply :: rest) a
  | poll {next : Bool → Procedure α} {cancelled : Bool} {rest : List Exchange} {a : α} :
      Gives (next cancelled) rest a → Gives (.poll next) (.polled cancelled :: rest) a
  | clock {next : Time.Instant → Procedure α} {now : Time.Instant} {rest : List Exchange} {a : α} :
      Gives (next now) rest a → Gives (.clock next) (.read now :: rest) a
  | update {run : Run} {next : Except Store.Error Unit → Procedure α}
      {result : Except Store.Error Unit} {rest : List Exchange} {a : α} :
      Gives (next result) rest a → Gives (.update run next) (.stored run result :: rest) a
  | announce {kind : EventKind} {run : Run} {next : Procedure α} {rest : List Exchange} {a : α} :
      Gives next rest a → Gives (.announce kind run next) (.announced kind run :: rest) a

theorem Gives.bind {p : Procedure α} {f : α → Procedure β} {first rest : List Exchange} {a : α}
    {b : β} (head : p.Gives first a) (tail : (f a).Gives rest b) :
    (p.bind f).Gives (first ++ rest) b := by
  induction head with
  | done => exact tail
  | send _ ih => exact .send (ih tail)
  | poll _ ih => exact .poll (ih tail)
  | clock _ ih => exact .clock (ih tail)
  | update _ ih => exact .update (ih tail)
  | announce _ ih => exact .announce (ih tail)

theorem Gives.of_bind {p : Procedure α} {f : α → Procedure β} {dialogue : List Exchange} {b : β}
    (whole : (p.bind f).Gives dialogue b) :
    ∃ first rest a, dialogue = first ++ rest ∧ p.Gives first a ∧ (f a).Gives rest b := by
  -- Along the first procedure: the derivation does not say where its part ends.
  induction p generalizing dialogue with
  | done a => exact ⟨[], dialogue, a, rfl, .done, whole⟩
  | send command timeout next ih =>
    cases whole with
    | send tail =>
      obtain ⟨first, rest, a, rfl, head, tail⟩ := ih _ tail
      exact ⟨_ :: first, rest, a, rfl, .send head, tail⟩
  | poll next ih =>
    cases whole with
    | poll tail =>
      obtain ⟨first, rest, a, rfl, head, tail⟩ := ih _ tail
      exact ⟨_ :: first, rest, a, rfl, .poll head, tail⟩
  | clock next ih =>
    cases whole with
    | clock tail =>
      obtain ⟨first, rest, a, rfl, head, tail⟩ := ih _ tail
      exact ⟨_ :: first, rest, a, rfl, .clock head, tail⟩
  | update run next ih =>
    cases whole with
    | update tail =>
      obtain ⟨first, rest, a, rfl, head, tail⟩ := ih _ tail
      exact ⟨_ :: first, rest, a, rfl, .update head, tail⟩
  | announce kind run next ih =>
    cases whole with
    | announce tail =>
      obtain ⟨first, rest, a, rfl, head, tail⟩ := ih tail
      exact ⟨_ :: first, rest, a, rfl, .announce head, tail⟩

theorem gives_bind_iff {p : Procedure α} {f : α → Procedure β} {dialogue : List Exchange} {b : β} :
    (p.bind f).Gives dialogue b ↔
      ∃ first rest a, dialogue = first ++ rest ∧ p.Gives first a ∧ (f a).Gives rest b := by
  constructor
  · exact Gives.of_bind
  · rintro ⟨first, rest, a, rfl, head, tail⟩
    exact head.bind tail

@[simp] theorem gives_done_iff {a b : α} {dialogue : List Exchange} :
    (done a).Gives dialogue b ↔ dialogue = [] ∧ b = a := by
  constructor
  · intro given
    cases given
    exact ⟨rfl, rfl⟩
  · rintro ⟨rfl, rfl⟩
    exact .done

theorem gives_send_iff {command : String} {timeout : UInt64} {next : Device.Reply → Procedure α}
    {dialogue : List Exchange} {a : α} :
    (send command timeout next).Gives dialogue a ↔
      ∃ reply rest, dialogue = .sent command timeout reply :: rest ∧
        (next reply).Gives rest a := by
  constructor
  · intro given
    cases given with
    | send tail => exact ⟨_, _, rfl, tail⟩
  · rintro ⟨reply, rest, rfl, tail⟩
    exact .send tail

theorem gives_poll_iff {next : Bool → Procedure α} {dialogue : List Exchange} {a : α} :
    (poll next).Gives dialogue a ↔
      ∃ cancelled rest, dialogue = .polled cancelled :: rest ∧ (next cancelled).Gives rest a := by
  constructor
  · intro given
    cases given with
    | poll tail => exact ⟨_, _, rfl, tail⟩
  · rintro ⟨cancelled, rest, rfl, tail⟩
    exact .poll tail

theorem gives_clock_iff {next : Time.Instant → Procedure α} {dialogue : List Exchange} {a : α} :
    (clock next).Gives dialogue a ↔
      ∃ now rest, dialogue = .read now :: rest ∧ (next now).Gives rest a := by
  constructor
  · intro given
    cases given with
    | clock tail => exact ⟨_, _, rfl, tail⟩
  · rintro ⟨now, rest, rfl, tail⟩
    exact .clock tail

theorem gives_update_iff {run : Run} {next : Except Store.Error Unit → Procedure α}
    {dialogue : List Exchange} {a : α} :
    (update run next).Gives dialogue a ↔
      ∃ result rest, dialogue = .stored run result :: rest ∧ (next result).Gives rest a := by
  constructor
  · intro given
    cases given with
    | update tail => exact ⟨_, _, rfl, tail⟩
  · rintro ⟨result, rest, rfl, tail⟩
    exact .update tail

theorem gives_announce_iff {kind : EventKind} {run : Run} {next : Procedure α}
    {dialogue : List Exchange} {a : α} :
    (announce kind run next).Gives dialogue a ↔
      ∃ rest, dialogue = .announced kind run :: rest ∧ next.Gives rest a := by
  constructor
  · intro given
    cases given with
    | announce tail => exact ⟨_, rfl, tail⟩
  · rintro ⟨rest, rfl, tail⟩
    exact .announce tail

def dialogue (world : World σ) : Procedure α → σ → List Exchange
  | .done _, _ => []
  | .send command timeout next, s =>
    let (reply, s) := world.send s command timeout
    .sent command timeout reply :: (next reply).dialogue world s
  | .poll next, s =>
    let (cancelled, s) := world.poll s
    .polled cancelled :: (next cancelled).dialogue world s
  | .clock next, s =>
    let (now, s) := world.clock s
    .read now :: (next now).dialogue world s
  | .update run next, s =>
    let (result, s) := world.update s run
    .stored run result :: (next result).dialogue world s
  | .announce kind run next, s =>
    .announced kind run :: next.dialogue world (world.announce s kind run)

theorem gives_dialogue (world : World σ) (p : Procedure α) (s : σ) :
    p.Gives (p.dialogue world s) (p.runIn world s).1 := by
  induction p generalizing s with
  | done a => exact .done
  | send command timeout next ih => exact .send (ih _ _)
  | poll next ih => exact .poll (ih _ _)
  | clock next ih => exact .clock (ih _ _)
  | update run next ih => exact .update (ih _ _)
  | announce kind run next ih => exact .announce (ih _)

end Procedure

/-! ### What a world keeps to -/

namespace World

variable {σ : Type}

def StoresAll (world : World σ) : Prop :=
  ∀ s run, (world.update s run).1 = .ok ()

/-- Polls read a flag that stays set once it is. -/
structure ReadsFlag (world : World σ) (isSet : σ → Bool) : Prop where
  poll (s : σ) : (world.poll s).1 = isSet s
  after_send (s : σ) (command : String) (timeout : UInt64) :
    isSet s = true → isSet (world.send s command timeout).2 = true
  after_poll (s : σ) : isSet s = true → isSet (world.poll s).2 = true
  after_clock (s : σ) : isSet s = true → isSet (world.clock s).2 = true
  after_update (s : σ) (run : Run) : isSet s = true → isSet (world.update s run).2 = true
  after_announce (s : σ) (kind : EventKind) (run : Run) :
    isSet s = true → isSet (world.announce s kind run) = true

end World

namespace Procedure

variable {α σ : Type} {world : World σ}

theorem isOutage_of_storesAll (reliable : world.StoresAll) (p : Procedure α) (s : σ) :
    ∀ exchange ∈ p.dialogue world s, exchange.isOutage = false := by
  induction p generalizing s with
  | done a => exact fun _ member => absurd member List.not_mem_nil
  | send command timeout next ih => exact List.forall_mem_cons.2 ⟨rfl, ih _ _⟩
  | poll next ih => exact List.forall_mem_cons.2 ⟨rfl, ih _ _⟩
  | clock next ih => exact List.forall_mem_cons.2 ⟨rfl, ih _ _⟩
  | update run next ih =>
    refine List.forall_mem_cons.2 ⟨?_, ih _ _⟩
    simp only [reliable s run, Exchange.isOutage]
  | announce kind run next ih => exact List.forall_mem_cons.2 ⟨rfl, ih _⟩

variable {isSet : σ → Bool}

theorem isSet_runIn (flag : world.ReadsFlag isSet) (p : Procedure α) (s : σ)
    (already : isSet s = true) : isSet (p.runIn world s).2 = true := by
  induction p generalizing s with
  | done a => exact already
  | send command timeout next ih => exact ih _ _ (flag.after_send s command timeout already)
  | poll next ih => exact ih _ _ (flag.after_poll s already)
  | clock next ih => exact ih _ _ (flag.after_clock s already)
  | update run next ih => exact ih _ _ (flag.after_update s run already)
  | announce kind run next ih => exact ih _ (flag.after_announce s kind run already)

theorem isSet_of_polled (flag : world.ReadsFlag isSet) (p : Procedure α) (s : σ)
    (polled : .polled true ∈ p.dialogue world s) : isSet (p.runIn world s).2 = true := by
  induction p generalizing s with
  | done a => exact absurd polled List.not_mem_nil
  | send command timeout next ih =>
    exact ih _ _ ((List.mem_cons.1 polled).resolve_left Exchange.noConfusion)
  | poll next ih =>
    rcases List.mem_cons.1 polled with here | later
    · have set : isSet s = true := by
        rw [← flag.poll s]
        exact (Exchange.polled.inj here).symm
      -- Set at this poll, the flag is set at the end.
      exact isSet_runIn flag (.poll next) s set
    · exact ih _ _ later
  | clock next ih =>
    exact ih _ _ ((List.mem_cons.1 polled).resolve_left Exchange.noConfusion)
  | update run next ih =>
    exact ih _ _ ((List.mem_cons.1 polled).resolve_left Exchange.noConfusion)
  | announce kind run next ih =>
    exact ih _ ((List.mem_cons.1 polled).resolve_left Exchange.noConfusion)

end Procedure

end Runbook.Execution
