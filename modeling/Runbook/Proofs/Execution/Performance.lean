import Runbook.Proofs.Device.Occupation
import Runbook.Proofs.Execution.Replay

/-! What passes between a procedure and the session that answers it.

A session answers by itself, so what it answers depends on nothing but what it was asked before. Whoever
goes through similar procedures with the same session hears the same, as long as nothing else disturbs.
-/

set_option autoImplicit false

namespace Runbook.Execution

open Device.Replay (Session)

namespace Procedure

variable {α : Type}

/-- A dialogue after which a procedure is left that goes on in ways of the whole. -/
def Reaches (p : Procedure α) (dialogue : List Exchange) (q : Procedure α) : Prop :=
  ∀ rest a, q.Gives rest a → p.Gives (dialogue ++ rest) a

theorem Reaches.refl (p : Procedure α) : p.Reaches [] p :=
  fun _ _ given => given

section
variable {p : Procedure α} {dialogue : List Exchange}

theorem Reaches.gives {a : α} (reaches : p.Reaches dialogue (.done a)) : p.Gives dialogue a := by
  have whole := reaches [] a .done
  rwa [List.append_nil] at whole

theorem Gives.reaches {a : α} (given : p.Gives dialogue a) : p.Reaches dialogue (.done a) := by
  intro rest b nothing
  obtain ⟨rfl, rfl⟩ := gives_done_iff.1 nothing
  rwa [List.append_nil]

theorem Reaches.next {q after : Procedure α} {exchange : Exchange} (reaches : p.Reaches dialogue q)
    (goesOn : ∀ rest a, after.Gives rest a → q.Gives (exchange :: rest) a) :
    p.Reaches (dialogue ++ [exchange]) after := by
  intro rest a given
  rw [List.append_assoc]
  exact reaches _ a (goesOn rest a given)

end

end Procedure

inductive Plays : Session → List Exchange → Session → Prop
  | silent {session : Session} : Plays session [] session
  | heard {session after : Session} {command : String} {timeout : UInt64} {rest : List Exchange} :
      Plays (session.hear command).2 rest after →
      Plays session
        (.sent command timeout ((session.hear command).1.within timeout).reply :: rest) after
  | other {session after : Session} {exchange : Exchange} {rest : List Exchange} :
      exchange.command? = none → Plays session rest after → Plays session (exchange :: rest) after

section
variable {session middle after : Session} {first rest : List Exchange}

theorem Plays.append (head : Plays session first middle) (tail : Plays middle rest after) :
    Plays session (first ++ rest) after := by
  induction head with
  | silent => exact tail
  | heard _ ih => exact .heard (ih tail)
  | other none _ ih => exact .other none (ih tail)

theorem Plays.same (plays : Plays session first after) :
    after.device = session.device ∧ after.closed = session.closed := by
  induction plays with
  | silent => exact ⟨rfl, rfl⟩
  | heard _ ih => exact ⟨ih.1.trans (Session.hear_device ..), ih.2.trans (Session.hear_closed ..)⟩
  | other _ _ ih => exact ih

end

/-! ### In step -/

section
variable {session after : Session} {exchange : Exchange} {rest : List Exchange}

theorem Plays.of_sent {command : String} {timeout : UInt64} {reply : Device.Reply}
    (plays : Plays session (.sent command timeout reply :: rest) after) :
    reply = ((session.hear command).1.within timeout).reply ∧
      Plays (session.hear command).2 rest after := by
  cases plays with
  | heard plays => exact ⟨rfl, plays⟩
  | other none => cases none

theorem Plays.of_other (none : exchange.command? = none)
    (plays : Plays session (exchange :: rest) after) : Plays session rest after := by
  cases plays with
  | heard => cases none
  | other _ plays => exact plays

end

section
variable {α : Type}

theorem exists_played (p : Procedure α) (session : Session) :
    ∃ dialogue a after, p.Gives dialogue a ∧ Undisturbed dialogue ∧ Plays session dialogue after := by
  induction p generalizing session with
  | done a => exact ⟨[], a, session, .done, fun _ member => absurd member List.not_mem_nil, .silent⟩
  | send command timeout next ih =>
    obtain ⟨dialogue, a, after, given, calm, plays⟩ := ih _ (session.hear command).2
    exact ⟨_, a, after, .send given, List.forall_mem_cons.2 ⟨rfl, calm⟩, .heard plays⟩
  | poll next ih =>
    obtain ⟨dialogue, a, after, given, calm, plays⟩ := ih false session
    exact ⟨_, a, after, .poll given, List.forall_mem_cons.2 ⟨rfl, calm⟩, .other rfl plays⟩
  | clock next ih =>
    obtain ⟨dialogue, a, after, given, calm, plays⟩ := ih ⟨0, 0⟩ session
    exact ⟨_, a, after, .clock given, List.forall_mem_cons.2 ⟨rfl, calm⟩, .other rfl plays⟩
  | update run next ih =>
    obtain ⟨dialogue, a, after, given, calm, plays⟩ := ih (.ok ()) session
    exact ⟨_, a, after, .update given, List.forall_mem_cons.2 ⟨rfl, calm⟩, .other rfl plays⟩
  | announce kind run next ih =>
    obtain ⟨dialogue, a, after, given, calm, plays⟩ := ih session
    exact ⟨_, a, after, .announce given, List.forall_mem_cons.2 ⟨rfl, calm⟩, .other rfl plays⟩

/-- Similar procedures with the same session go in step: they ask for the same commands, in dialogues of
the same length, and come to related results. -/
theorem Similar.inStep {Q : Run → Run → Prop} {R : α → α → Prop} {p q : Procedure α}
    (similar : Similar Q R p q) {session left right : Session} {first second : List Exchange} {a b : α}
    (given : p.Gives first a) (also : q.Gives second b) (calm : Undisturbed first)
    (alsoCalm : Undisturbed second) (plays : Plays session first left)
    (alsoPlays : Plays session second right) :
    R a b ∧ commandsOf first = commandsOf second ∧ first.length = second.length := by
  -- Along the requests; what differs between the dialogues is what nobody looks at.
  induction similar generalizing first second session with
  | done related =>
    cases given
    cases also
    exact ⟨related, rfl, rfl⟩
  | @send command timeout next other _ ih =>
    obtain ⟨reply, rest, rfl, tail⟩ := Procedure.gives_send_iff.1 given
    obtain ⟨copy, more, rfl, alsoTail⟩ := Procedure.gives_send_iff.1 also
    obtain ⟨rfl, heard⟩ := plays.of_sent
    obtain ⟨rfl, alsoHeard⟩ := alsoPlays.of_sent
    obtain ⟨related, commands, length⟩ := ih _ tail alsoTail (List.forall_mem_cons.1 calm).2
      (List.forall_mem_cons.1 alsoCalm).2 heard alsoHeard
    exact ⟨related, congrArg (command :: ·) commands, congrArg (· + 1) length⟩
  | poll _ ih =>
    obtain ⟨cancelled, rest, rfl, tail⟩ := Procedure.gives_poll_iff.1 given
    obtain ⟨copy, more, rfl, alsoTail⟩ := Procedure.gives_poll_iff.1 also
    obtain ⟨here, calmRest⟩ := List.forall_mem_cons.1 calm
    obtain ⟨there, alsoCalmRest⟩ := List.forall_mem_cons.1 alsoCalm
    obtain rfl : copy = cancelled := Eq.trans there here.symm
    obtain ⟨related, commands, length⟩ :=
      ih copy tail alsoTail calmRest alsoCalmRest (plays.of_other rfl) (alsoPlays.of_other rfl)
    exact ⟨related, commands, congrArg (· + 1) length⟩
  | clock _ ih =>
    obtain ⟨now, rest, rfl, tail⟩ := Procedure.gives_clock_iff.1 given
    obtain ⟨later, more, rfl, alsoTail⟩ := Procedure.gives_clock_iff.1 also
    obtain ⟨related, commands, length⟩ := ih now later tail alsoTail (List.forall_mem_cons.1 calm).2
      (List.forall_mem_cons.1 alsoCalm).2 (plays.of_other rfl) (alsoPlays.of_other rfl)
    exact ⟨related, commands, congrArg (· + 1) length⟩
  | update _ _ ih =>
    obtain ⟨result, rest, rfl, tail⟩ := Procedure.gives_update_iff.1 given
    obtain ⟨copy, more, rfl, alsoTail⟩ := Procedure.gives_update_iff.1 also
    obtain ⟨here, calmRest⟩ := List.forall_mem_cons.1 calm
    obtain ⟨there, alsoCalmRest⟩ := List.forall_mem_cons.1 alsoCalm
    obtain rfl : copy = result :=
      (eq_ok_of_undisturbed there).trans (eq_ok_of_undisturbed here).symm
    obtain ⟨related, commands, length⟩ :=
      ih copy tail alsoTail calmRest alsoCalmRest (plays.of_other rfl) (alsoPlays.of_other rfl)
    exact ⟨related, commands, congrArg (· + 1) length⟩
  | announce _ _ ih =>
    obtain ⟨rest, rfl, tail⟩ := Procedure.gives_announce_iff.1 given
    obtain ⟨more, rfl, alsoTail⟩ := Procedure.gives_announce_iff.1 also
    obtain ⟨related, commands, length⟩ := ih tail alsoTail (List.forall_mem_cons.1 calm).2
      (List.forall_mem_cons.1 alsoCalm).2 (plays.of_other rfl) (alsoPlays.of_other rfl)
    exact ⟨related, commands, congrArg (· + 1) length⟩

end

end Runbook.Execution
