import Runbook.Proofs.Execution.Dialogue

/-! A run at any moment: what is left of it after a number of requests, and what its surroundings show
by then.

What a device has been sent, or which record a store holds, is a view of the surroundings. A view that
follows the requests is thereby a fold of the dialogue up to the moment.
-/

set_option autoImplicit false

namespace Runbook.Execution

open Notification (EventKind)

namespace Procedure

variable {α σ : Type} (world : World σ)

/-- What is left of a procedure after a number of requests, and its surroundings by then. -/
def after : Nat → Procedure α → σ → Procedure α × σ
  | 0, p, s => (p, s)
  | number + 1, p, s => after number (p.step world s).1 (p.step world s).2

def command? : Procedure α → Option String
  | .send command _ _ => some command
  | _ => none

theorem eq_send_of_command? {p : Procedure α} {command : String}
    (sends : p.command? = some command) : ∃ timeout next, p = .send command timeout next := by
  cases p with
  | send other timeout next =>
    cases sends
    exact ⟨timeout, next, rfl⟩
  | done => cases sends
  | poll => cases sends
  | clock => cases sends
  | update => cases sends
  | announce => cases sends

theorem eq_after_of_command? {p : Procedure α} {number : Nat} {s : σ} {command : String}
    (sends : (after world number p s).1.command? = some command) :
    ∃ timeout next,
      after world number p s = (.send command timeout next, (after world number p s).2) := by
  obtain ⟨timeout, next, same⟩ := eq_send_of_command? sends
  exact ⟨timeout, next, Prod.ext same rfl⟩

theorem dialogue_step (p : Procedure α) (s : σ) :
    (p.step world s).1.dialogue world (p.step world s).2 = (p.dialogue world s).tail := by
  cases p <;> rfl

theorem dialogue_after (number : Nat) (p : Procedure α) (s : σ) :
    (after world number p s).1.dialogue world (after world number p s).2 =
      (p.dialogue world s).drop number := by
  induction number generalizing p s with
  | zero => rfl
  | succ number ih => rw [after, ih, dialogue_step, List.drop_tail]

theorem runIn_after (number : Nat) (p : Procedure α) (s : σ) :
    (after world number p s).1.runIn world (after world number p s).2 = p.runIn world s := by
  induction number generalizing p s with
  | zero => rfl
  | succ number ih => rw [after, ih, runIn_step]

theorem after_succ (number : Nat) (p : Procedure α) (s : σ) :
    after world (number + 1) p s =
      (after world number p s).1.step world (after world number p s).2 := by
  induction number generalizing p s with
  | zero => rfl
  | succ number ih => rw [after, ih, ← after]

end Procedure

/-! ### Views of the surroundings -/

/-- A view that every request changes in this way, by what is answered. -/
structure World.Shows {σ γ : Type} (world : World σ) (view : σ → γ) (change : γ → Exchange → γ) :
    Prop where
  send (s : σ) (command : String) (timeout : UInt64) :
    view (world.send s command timeout).2 =
      change (view s) (.sent command timeout (world.send s command timeout).1)
  poll (s : σ) : view (world.poll s).2 = change (view s) (.polled (world.poll s).1)
  clock (s : σ) : view (world.clock s).2 = change (view s) (.read (world.clock s).1)
  update (s : σ) (run : Run) :
    view (world.update s run).2 = change (view s) (.stored run (world.update s run).1)
  announce (s : σ) (kind : EventKind) (run : Run) :
    view (world.announce s kind run) = change (view s) (.announced kind run)

def hear (heard : List String) (exchange : Exchange) : List String :=
  heard ++ exchange.command?.toList

/-- The record that a store holds under an identifier, after one more exchange. An update that fails
leaves it as it was. -/
def hold (id : RunId) (held : Run) : Exchange → Run
  | .stored run (.ok ()) => if run.id = id then run else held
  | _ => held

section
variable {α σ γ : Type} {world : World σ} {view : σ → γ} {change : γ → Exchange → γ}

theorem World.Shows.step (shows : world.Shows view change) (p : Procedure α) (s : σ) :
    view (p.step world s).2 = ((p.dialogue world s).take 1).foldl change (view s) := by
  cases p with
  | done a => rfl
  | send command timeout next => exact shows.send s command timeout
  | poll next => exact shows.poll s
  | clock next => exact shows.clock s
  | update run next => exact shows.update s run
  | announce kind run next => exact shows.announce s kind run

theorem World.Shows.after (shows : world.Shows view change) (number : Nat) (p : Procedure α) (s : σ) :
    view (Procedure.after world number p s).2 =
      ((p.dialogue world s).take number).foldl change (view s) := by
  induction number generalizing p s with
  | zero => rfl
  | succ number ih =>
    rw [Procedure.after, ih, shows.step, Procedure.dialogue_step, ← List.foldl_append]
    cases p.dialogue world s with
    | nil => rw [List.take_nil, List.tail_nil, List.take_nil, List.take_nil, List.append_nil]
    | cons exchange rest => rfl

theorem foldl_hear (heard : List String) (dialogue : List Exchange) :
    dialogue.foldl hear heard = heard ++ commandsOf dialogue := by
  induction dialogue generalizing heard with
  | nil => exact (List.append_nil _).symm
  | cons exchange rest ih =>
    rw [List.foldl_cons, ih, hear, List.append_assoc]
    cases exchange <;> rfl

end

end Runbook.Execution
