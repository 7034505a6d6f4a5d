import Runbook.Device.Session
import Runbook.Notification.Event
import Runbook.Store.Error

/-! Runs as finite procedures that ask for what they need from the outside: an answer of the device,
the time, whether they were cancelled, a place in the store, an announcement.

A procedure is data, so it can be carried out to its end, or one request at a time beside others.
Nothing outside can make it longer: it ends whatever it is answered.
-/

set_option autoImplicit false

namespace Runbook.Execution

open Notification (EventKind)

inductive Procedure (α : Type) where
  | done (a : α)
  /-- Sends a command and waits for the reply, up to a timeout in milliseconds. -/
  | send (command : String) (timeout : UInt64) (next : Device.Reply → Procedure α)
  /-- Whether cancellation has been asked for. -/
  | poll (next : Bool → Procedure α)
  | clock (next : Time.Instant → Procedure α)
  /-- Puts the run into the store in place of its former state. -/
  | update (run : Run) (next : Except Store.Error Unit → Procedure α)
  | announce (kind : EventKind) (run : Run) (next : Procedure α)

namespace Procedure

variable {α β γ : Type}

def bind (p : Procedure α) (f : α → Procedure β) : Procedure β :=
  match p with
  | .done a => f a
  | .send command timeout next => .send command timeout fun reply => (next reply).bind f
  | .poll next => .poll fun cancelled => (next cancelled).bind f
  | .clock next => .clock fun now => (next now).bind f
  | .update run next => .update run fun result => (next result).bind f
  | .announce kind run next => .announce kind run (next.bind f)

instance : Monad Procedure where
  pure := .done
  bind := bind

@[simp] theorem done_bind (a : α) (f : α → Procedure β) : (Procedure.done a).bind f = f a := rfl

theorem bind_done (p : Procedure α) : p.bind .done = p := by
  induction p with
  | done a => rfl
  | send command timeout next ih => simp [bind, ih]
  | poll next ih => simp [bind, ih]
  | clock next ih => simp [bind, ih]
  | update run next ih => simp [bind, ih]
  | announce kind run next ih => simp [bind, ih]

theorem bind_assoc (p : Procedure α) (f : α → Procedure β) (g : β → Procedure γ) :
    (p.bind f).bind g = p.bind fun a => (f a).bind g := by
  induction p with
  | done a => rfl
  | send command timeout next ih => simp [bind, ih]
  | poll next ih => simp [bind, ih]
  | clock next ih => simp [bind, ih]
  | update run next ih => simp [bind, ih]
  | announce kind run next ih => simp [bind, ih]

def ask (command : String) (timeout : UInt64) : Procedure Device.Reply :=
  .send command timeout .done

def isCancelled : Procedure Bool :=
  .poll .done

def now : Procedure Time.Instant :=
  .clock .done

end Procedure

/-- What surrounds a procedure: how each of its requests is answered, and what that changes. -/
structure World (σ : Type) where
  send : σ → String → UInt64 → Device.Reply × σ
  poll : σ → Bool × σ
  clock : σ → Time.Instant × σ
  update : σ → Run → Except Store.Error Unit × σ
  announce : σ → EventKind → Run → σ

namespace Procedure

variable {α σ : Type}

def runIn (world : World σ) : Procedure α → σ → α × σ
  | .done a, s => (a, s)
  | .send command timeout next, s =>
    let (reply, s) := world.send s command timeout
    (next reply).runIn world s
  | .poll next, s =>
    let (cancelled, s) := world.poll s
    (next cancelled).runIn world s
  | .clock next, s =>
    let (now, s) := world.clock s
    (next now).runIn world s
  | .update run next, s =>
    let (result, s) := world.update s run
    (next result).runIn world s
  | .announce kind run next, s => next.runIn world (world.announce s kind run)

def step (world : World σ) : Procedure α → σ → Procedure α × σ
  | .done a, s => (.done a, s)
  | .send command timeout next, s =>
    let (reply, s) := world.send s command timeout
    (next reply, s)
  | .poll next, s =>
    let (cancelled, s) := world.poll s
    (next cancelled, s)
  | .clock next, s =>
    let (now, s) := world.clock s
    (next now, s)
  | .update run next, s =>
    let (result, s) := world.update s run
    (next result, s)
  | .announce kind run next, s => (next, world.announce s kind run)

/-- Carries out requests as long as a condition holds before each of them. -/
def runWhile (world : World σ) (go : σ → Bool) : Procedure α → σ → Procedure α × σ
  | .done a, s => (.done a, s)
  | .send command timeout next, s =>
    if go s then
      let (reply, s) := world.send s command timeout
      (next reply).runWhile world go s
    else (.send command timeout next, s)
  | .poll next, s =>
    if go s then
      let (cancelled, s) := world.poll s
      (next cancelled).runWhile world go s
    else (.poll next, s)
  | .clock next, s =>
    if go s then
      let (now, s) := world.clock s
      (next now).runWhile world go s
    else (.clock next, s)
  | .update run next, s =>
    if go s then
      let (result, s) := world.update s run
      (next result).runWhile world go s
    else (.update run next, s)
  | .announce kind run next, s =>
    if go s then next.runWhile world go (world.announce s kind run)
    else (.announce kind run next, s)

/-- A step does not change where a procedure leads. -/
theorem runIn_step (world : World σ) (p : Procedure α) (s : σ) :
    (p.step world s).1.runIn world (p.step world s).2 = p.runIn world s := by
  cases p <;> rfl

end Procedure

end Runbook.Execution
