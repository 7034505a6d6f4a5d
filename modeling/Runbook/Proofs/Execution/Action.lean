import Runbook.Execution.Orchestrate
import Runbook.Proofs.Execution.Dialogue
import Runbook.Proofs.Run.Changes

/-! How actions end: with a value (`Yields`) or with an error (`Refuses`), and along which dialogue.
-/

set_option autoImplicit false

namespace Runbook.Execution

open Notification (EventKind)

variable {α β : Type}

def Yields (action : Action α) (dialogue : List Exchange) (a : α) : Prop :=
  action.run.Gives dialogue (.ok a)

def Refuses (action : Action α) (dialogue : List Exchange) (error : Error) : Prop :=
  action.run.Gives dialogue (.error error)

theorem Yields.of_bind {action : Action α} {next : α → Action β} {dialogue : List Exchange} {b : β}
    (whole : Yields (action >>= next) dialogue b) :
    ∃ first rest a, dialogue = first ++ rest ∧ Yields action first a ∧ Yields (next a) rest b := by
  obtain ⟨first, rest, result, split, head, tail⟩ := Procedure.Gives.of_bind whole
  cases result with
  | ok a => exact ⟨first, rest, a, split, head, tail⟩
  | error error => cases tail

theorem Refuses.of_bind {action : Action α} {next : α → Action β} {dialogue : List Exchange}
    {error : Error} (whole : Refuses (action >>= next) dialogue error) :
    Refuses action dialogue error ∨
      ∃ first rest a, dialogue = first ++ rest ∧ Yields action first a ∧
        Refuses (next a) rest error := by
  obtain ⟨first, rest, result, split, head, tail⟩ := Procedure.Gives.of_bind whole
  cases result with
  | ok a => exact .inr ⟨first, rest, a, split, head, tail⟩
  | error other =>
    cases tail
    rw [List.append_nil] at split
    exact .inl (split ▸ head)

section
variable {dialogue : List Exchange} {a b : α} {error : Error}

@[simp] theorem yields_pure_iff :
    Yields (pure a) dialogue b ↔ dialogue = [] ∧ b = a := by
  simp [Yields, pure, ExceptT.pure, ExceptT.mk, ExceptT.run]

@[simp] theorem not_refuses_pure : ¬Refuses (pure a) dialogue error := by
  simp [Refuses, pure, ExceptT.pure, ExceptT.mk, ExceptT.run]

@[simp] theorem yields_except_iff {result : Except Error α} :
    Yields (liftM result : Action α) dialogue a ↔ dialogue = [] ∧ result = .ok a := by
  cases result <;> simp [Yields, liftM, monadLift, MonadLift.monadLift, ExceptT.mk, ExceptT.run,
    pure, eq_comm]

@[simp] theorem refuses_except_iff {result : Except Error α} :
    Refuses (liftM result : Action α) dialogue error ↔ dialogue = [] ∧ result = .error error := by
  cases result <;> simp [Refuses, liftM, monadLift, MonadLift.monadLift, ExceptT.mk, ExceptT.run,
    pure, eq_comm]

theorem run_lift (procedure : Procedure α) :
    (liftM procedure : Action α).run = procedure.bind fun a => .done (.ok a) := rfl

@[simp] theorem yields_lift_iff {procedure : Procedure α} :
    Yields (liftM procedure : Action α) dialogue a ↔ procedure.Gives dialogue a := by
  rw [Yields, run_lift, Procedure.gives_bind_iff]
  constructor
  · rintro ⟨first, rest, other, rfl, head, tail⟩
    obtain ⟨rfl, same⟩ := Procedure.gives_done_iff.1 tail
    cases same
    rwa [List.append_nil]
  · intro given
    exact ⟨dialogue, [], a, (List.append_nil _).symm, given, .done⟩

@[simp] theorem not_refuses_lift {procedure : Procedure α} :
    ¬Refuses (liftM procedure : Action α) dialogue error := by
  rw [Refuses, run_lift, Procedure.gives_bind_iff]
  rintro ⟨first, rest, other, rfl, -, tail⟩
  cases tail

end

/-! ### Storing and announcing -/

section
variable {dialogue : List Exchange} {run after : Run} {error : Error}

theorem persist_run (run : Run) :
    (persist run).run = Procedure.update run fun result =>
      .done (result.mapError fun error => .persistence error.message) := by
  refine congrArg (Procedure.update run) (funext fun result => ?_)
  cases result <;> rfl

theorem yields_persist_iff {u : Unit} :
    Yields (persist run) dialogue u ↔ dialogue = [.stored run (.ok ())] := by
  rw [Yields, persist_run, Procedure.gives_update_iff]
  constructor
  · rintro ⟨result, rest, rfl, tail⟩
    obtain ⟨rfl, same⟩ := Procedure.gives_done_iff.1 tail
    cases result with
    | ok u => rfl
    | error error => cases same
  · rintro rfl
    exact ⟨.ok (), [], rfl, .done⟩

theorem refuses_persist_iff :
    Refuses (persist run) dialogue error ↔
      ∃ cause, dialogue = [.stored run (.error cause)] ∧ error = .persistence cause.message := by
  rw [Refuses, persist_run, Procedure.gives_update_iff]
  constructor
  · rintro ⟨result, rest, rfl, tail⟩
    obtain ⟨rfl, same⟩ := Procedure.gives_done_iff.1 tail
    cases result with
    | ok u => cases same
    | error cause =>
      cases same
      exact ⟨cause, rfl, rfl⟩
  · rintro ⟨cause, rfl, rfl⟩
    exact ⟨.error cause, [], rfl, .done⟩

theorem yields_announce_iff {kind : EventKind} {u : Unit} :
    Yields (announce kind run) dialogue u ↔ dialogue = [.announced kind run] := by
  rw [announce, yields_lift_iff, Procedure.gives_announce_iff]
  simp only [Procedure.gives_done_iff, and_true, exists_eq_right]

theorem yields_recordStep {step : Step} (given : Yields (recordStep run step) dialogue after) :
    run.isTerminal = false ∧ after = run.append [step] ∧ dialogue = [.stored after (.ok ())] := by
  obtain ⟨_, _, recorded, rfl, lifted, rest⟩ := given.of_bind
  obtain ⟨_, _, u, rfl, stored, returned⟩ := rest.of_bind
  obtain ⟨rfl, change⟩ := yields_except_iff.1 lifted
  obtain ⟨rfl, rfl⟩ := yields_pure_iff.1 returned
  obtain ⟨unfinished, rfl⟩ := Run.record_eq_ok_iff.1 change
  rw [yields_persist_iff.1 stored]
  exact ⟨unfinished, rfl, rfl⟩

def closing (run : Run) : List Exchange :=
  .stored run (.ok ()) :: (EventKind.terminal? run.status).toList.map fun kind =>
    .announced kind run

theorem yields_finish (given : Yields (finish run) dialogue after) :
    after = run ∧ dialogue = closing run := by
  obtain ⟨_, _, u, rfl, stored, told⟩ := given.of_bind
  rw [yields_persist_iff.1 stored, closing]
  cases kind : EventKind.terminal? run.status with
  | none =>
    rw [kind] at told
    obtain ⟨rfl, rfl⟩ := yields_pure_iff.1 told
    exact ⟨rfl, rfl⟩
  | some kind =>
    simp only [kind] at told
    obtain ⟨_, _, u, rfl, announced, returned⟩ := told.of_bind
    obtain ⟨rfl, rfl⟩ := yields_pure_iff.1 returned
    rw [yields_announce_iff.1 announced]
    exact ⟨rfl, rfl⟩

theorem yields_now_iff {now : Time.Instant} :
    Yields (liftM Procedure.now : Action Time.Instant) dialogue now ↔ dialogue = [.read now] := by
  rw [yields_lift_iff, Procedure.now, Procedure.gives_clock_iff]
  constructor
  · rintro ⟨_, _, rfl, tail⟩
    obtain ⟨rfl, rfl⟩ := Procedure.gives_done_iff.1 tail
    rfl
  · rintro rfl
    exact ⟨now, [], rfl, .done⟩

theorem yields_isCancelled_iff {cancelled : Bool} :
    Yields (liftM Procedure.isCancelled : Action Bool) dialogue cancelled ↔
      dialogue = [.polled cancelled] := by
  rw [yields_lift_iff, Procedure.isCancelled, Procedure.gives_poll_iff]
  constructor
  · rintro ⟨_, _, rfl, tail⟩
    obtain ⟨rfl, rfl⟩ := Procedure.gives_done_iff.1 tail
    rfl
  · rintro rfl
    exact ⟨cancelled, [], rfl, .done⟩

theorem yields_finishBy {change : Time.Instant → Except Error Run}
    (given : Yields (finishBy change) dialogue after) :
    ∃ now, change now = .ok after ∧ dialogue = .read now :: closing after := by
  obtain ⟨_, _, now, rfl, read, rest⟩ := given.of_bind
  obtain ⟨_, _, changed, rfl, lifted, finished⟩ := rest.of_bind
  obtain ⟨rfl, change⟩ := yields_except_iff.1 lifted
  obtain ⟨rfl, rfl⟩ := yields_finish finished
  rw [yields_now_iff.1 read]
  exact ⟨now, change, rfl⟩

theorem yields_enter {stage : Stage} (given : Yields (enter stage run) dialogue after) :
    run.enterStage stage = .ok after ∧ dialogue = [.stored after (.ok ())] := by
  obtain ⟨_, _, entered, rfl, lifted, rest⟩ := given.of_bind
  obtain ⟨_, _, u, rfl, stored, returned⟩ := rest.of_bind
  obtain ⟨rfl, change⟩ := yields_except_iff.1 lifted
  obtain ⟨rfl, rfl⟩ := yields_pure_iff.1 returned
  rw [yields_persist_iff.1 stored]
  exact ⟨change, rfl⟩

end

end Runbook.Execution
