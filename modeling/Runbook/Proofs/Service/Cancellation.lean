import Runbook.Proofs.Execution.Announcement
import Runbook.Proofs.Service.Bookkeeping
import Runbook.Proofs.Service.Tenancy

/-! What a client is told who asks for the cancellation of a run.

The answer goes by the runs that count as in progress. A run comes among them only after its record can
be seen, and leaves them only after its record has ended, so the answer can be wrong at both ends.
-/

set_option autoImplicit false

namespace Runbook

namespace Execution

/-- A procedure that has at most an announcement left to make. -/
def Procedure.isOver {α : Type} : Procedure α → Bool
  | .done _ | .announce _ _ (.done _) => true
  | _ => false

section
variable {settings : Settings} {workflow : Workflow} {run after : Run} {dialogue later : List Exchange}

theorem Course.closes (course : Course settings workflow run dialogue after) :
    ∃ body, dialogue = body ++ closing after := by
  rcases course.walk with ⟨now, rfl, rfl⟩ | ⟨now, rest, rfl, walk⟩
  · exact ⟨[.polled true, .read now], rfl⟩
  · obtain ⟨-, body, rfl, -⟩ := walk.closes rfl
    exact ⟨.polled false :: .read now :: .stored (begun run now) (.ok ()) ::
      .announced .started (begun run now) :: body, rfl⟩

theorem eq_nil_or_announced_of_closing {body : List Exchange} (terminal : after.isTerminal = true)
    (split : dialogue ++ later = body ++ closing after) (unstored : updatesOf later = []) :
    later = [] ∨ later = [.announced (ending after.status) after] := by
  rw [closing_of_isTerminal terminal] at split
  rcases List.append_eq_append_iff.1 split with ⟨middle, -, rfl⟩ | ⟨middle, -, tail⟩
  · rw [updatesOf_append] at unstored
    cases (List.append_eq_nil_iff.1 unstored).2
  · rcases middle with _ | ⟨first, _ | ⟨second, _ | ⟨third, middle⟩⟩⟩
    · rw [List.nil_append] at tail
      rw [← tail] at unstored
      cases unstored
    · exact .inr (List.cons.inj tail).2.symm
    · exact .inl (List.cons.inj (List.cons.inj tail).2).2.symm
    · cases (List.cons.inj (List.cons.inj tail).2).2

variable {rest : Procedure (Except Error Run)}

theorem isTerminal_latest (pending : run.status = .pending) (fresh : run.steps = [])
    (quiet : Quiet dialogue)
    (reaches : (execute settings workflow run).run.Reaches dialogue rest) :
    (latest run dialogue).isTerminal = rest.isOver := by
  obtain ⟨later, after, goesOn, silent, course⟩ := exists_course_of_reaches pending quiet reaches
  have terminal := course.kept.2
  by_cases unstored : updatesOf later = []
  · rw [← latest_append_of_unstored unstored, course.latest pending fresh, terminal]
    obtain ⟨body, split⟩ := course.closes
    rcases eq_nil_or_announced_of_closing terminal split unstored with rfl | rfl
    · cases goesOn
      rfl
    · cases goesOn with
      | announce done =>
        cases done
        rfl
  · have unfinished : (latest run dialogue).isTerminal = false := by
      obtain ⟨chain, -⟩ := (course.proceeds pending fresh).chain
      refine unfinished_of_chain chain _ ?_
      rw [updatesOf_append, ← List.cons_append, List.dropLast_append_of_ne_nil unstored]
      exact List.mem_append_left _ (List.getLastD_mem_cons ..)
    rw [unfinished]
    -- Whatever is over would have let no further record follow.
    cases goesOn with
    | done => exact absurd rfl unstored
    | announce done =>
      cases done with
      | done => exact absurd rfl unstored
      | _ => rfl
    | _ => rfl

end

end Execution

namespace Service

open Execution (Exchange Procedure Quiet latest)

/-! ### What a call and its record say of a run -/

namespace Phase

/-- Others can see the record of the run, but it does not count as in progress yet. -/
def isRegistering : Phase → Bool
  | .register _ _ _ => true
  | _ => false

/-- The run has given the store its last record. -/
def isOver : Phase → Bool
  | .drive _ _ rest => rest.isOver
  | .close _ _ _ | .unregister _ _ | .finished _ => true
  | _ => false

/-- The run has given the store its last record, but still counts as in progress. -/
def isWindingUp (phase : Phase) : Bool :=
  phase.isOver && phase.active?.isSome

end Phase

section
variable {start : Service} {request : Request} {run : Run} {phase : Phase}
  {dialogue : List Exchange}

theorem Biography.standing (life : Biography start request (some run) phase dialogue) :
    phase.active? = some run.id ∧ phase.isRegistering = false ∧ phase.result? = none ∨
      phase.active? = none ∧ phase.isRegistering = !phase.result?.isSome := by
  cases life with
  | recorded | ended => exact .inr ⟨rfl, rfl⟩
  | inProgress | closing | leaving => exact .inl ⟨rfl, rfl, rfl⟩

theorem Biography.isTerminal (life : Biography start request (some run) phase dialogue)
    (quiet : Quiet dialogue) : (latest run dialogue).isTerminal = phase.isOver := by
  cases life with
  | recorded records =>
    obtain ⟨id, createdAt, rfl⟩ := records.new
    rfl
  | inProgress records reaches =>
    obtain ⟨id, createdAt, rfl⟩ := records.new
    exact Execution.isTerminal_latest rfl rfl quiet reaches
  | closing records given | leaving records given | ended records given =>
    obtain ⟨id, createdAt, rfl⟩ := records.new
    exact Execution.isTerminal_latest rfl rfl quiet given.reaches

end

/-! ### The runs in progress and the records, at any moment -/

theorem cancel_of_stored {service : Service} {id : RunId} {record : Run}
    (stored : service.getRun id = some record) :
    ∃ after, service.cancel id = .ok (service.active.contains id, after) := by
  have held : service.store.runs.get? id = some record := stored
  rw [cancel]
  cases marked : service.active.contains id with
  | true => exact ⟨_, rfl⟩
  | false =>
    simp only [Bool.false_eq_true, if_false, held]
    exact ⟨_, rfl⟩

section
variable {start : Service} (idle : start.Idle) (reliable : start.store.outages = .none)
  (events : List Event) (undeleted : ∀ event ∈ events, event.isDeletion = false)
include idle reliable undeleted

theorem eq_of_active {index other : Nat} {call another : Call} {id : RunId}
    (found : (start.history events).service.calls[index]? = some call)
    (also : (start.history events).service.calls[other]? = some another)
    (marked : call.phase.active? = some id) (alsoMarked : another.phase.active? = some id) :
    index = other := by
  have kept : Kept (fun _ => True) (start.history events) :=
    kept_history idle reliable (fun _ _ => trivial) events (.inr undeleted)
  obtain ⟨run, recorded, same⟩ := (biography idle events found).active marked
  obtain ⟨copy, alsoRecorded, alsoSame⟩ := (biography idle events also).active alsoMarked
  exact kept.apart recorded alsoRecorded trivial trivial (same.trans alsoSame.symm)

theorem contains_of_active {index : Nat} {call : Call} {id : RunId}
    (found : (start.history events).service.calls[index]? = some call)
    (marked : call.phase.active? = some id) :
    (start.history events).service.active.contains id = true := by
  induction events using List.reverseRecOn generalizing index call with
  | nil =>
    have none : start.calls[index]? = some call := found
    rw [idle.calls] at none
    cases none
  | append_singleton events event ih =>
    obtain ⟨before, -⟩ := List.forall_mem_append.1 undeleted
    have apart := @eq_of_active start idle reliable events before
    have passes := passes_history start events event
    generalize start.history (events ++ [event]) = next at passes found ⊢
    have inserted {active : Table RunId Bool} {added : RunId} {flag : Bool}
        (there : active.contains id = true) : (active.insert added flag).contains id = true := by
      rw [Table.contains, Table.get?_insert]
      split
      · rfl
      · exact there
    cases passes with
    | accepted =>
      rcases eq_of_getElem?_concat found with earlier | ⟨-, rfl⟩
      · exact ih before earlier marked
      · cases marked
    | cancelled => exact inserted (ih before found marked)
    | @turned turning own after recorded exchange service there turn =>
      rw [History.getElem?_turned there turn] at found
      have marking := turn.marks
      simp only [History.turned]
      generalize service.active = active at marking ⊢
      by_cases same : index = turning
      · subst same
        rw [if_pos rfl] at found
        cases found
        cases marking with
        | leaves kept => exact ih before there (kept.symm.trans marked)
        | inserts registering registered =>
          cases marked.symm.trans registered
          rw [Table.contains, Table.get?_insert, if_pos rfl]
          rfl
        | erases unregistering unregistered =>
          rw [unregistered] at marked
          cases marked
      · rw [if_neg same] at found
        cases marking with
        | leaves => exact ih before found marked
        | inserts => exact inserted (ih before found marked)
        | @erases erased result _ unregistering unregistered =>
          -- What is taken off is the run of another call.
          have other : id ≠ erased := by
            rintro rfl
            exact same (apart found there marked (by rw [unregistering]; rfl))
          rw [Table.contains, Table.get?_erase, if_neg other]
          exact ih before found marked
    | _ => exact ih before found marked

theorem contains_eq_isSome {index : Nat} {call : Call} {run : Run}
    (found : (start.history events).service.calls[index]? = some call)
    (recorded : (start.history events).run? index = some run) :
    (start.history events).service.active.contains run.id = call.phase.active?.isSome := by
  have life := biography idle events found
  rw [recorded] at life
  rcases life.standing with ⟨marked, -⟩ | ⟨unmarked, -⟩
  · rw [contains_of_active idle reliable events undeleted found marked, marked]
    rfl
  · rw [unmarked, Option.isSome_none, Bool.eq_false_iff]
    intro contained
    obtain ⟨other, another, also, marked⟩ := exists_call_of_active idle events contained
    have kept : Kept (fun _ => True) (start.history events) :=
      kept_history idle reliable (fun _ _ => trivial) events (.inr undeleted)
    obtain ⟨copy, alsoRecorded, same⟩ := (biography idle events also).active marked
    obtain rfl := kept.apart alsoRecorded recorded trivial trivial same
    cases found.symm.trans also
    rw [unmarked] at marked
    cases marked

end

/-! ### The answers -/

/-- Whether a client is told the truth about the run of a call: that there is nothing to cancel any more
only where the call has come to its end, and that there is only where the record has not ended. -/
def Truthful (call : Call) (record : Run) (answer : Bool) : Prop :=
  (answer = false → call.phase.result?.isSome = true) ∧
    (answer = true → record.isTerminal = false)

section
variable {start : Service}

/-- Whatever record a client has seen, it belongs to the run of a call. The client is told whether that
run counts as in progress, which is the truth but for two windows: between the creation of the record and
the moment from which the run counts, and between the last record of the run and the moment from which it
counts no more. That the record is looked for later changes nothing, for it stays. -/
theorem cancel_truthful_iff (idle : start.Idle) (reliable : start.store.outages = .none)
    (events : List Event) (undeleted : ∀ event ∈ events, event.isDeletion = false) {id : RunId}
    {record : Run} (new : start.getRun id = none)
    (stored : (start.history events).service.getRun id = some record) :
    let history := start.history events
    ∃ index call run answer after,
      history.service.calls[index]? = some call ∧ history.run? index = some run ∧ run.id = id ∧
      history.service.cancel id = .ok (answer, after) ∧
      answer = call.phase.active?.isSome ∧ record.isTerminal = call.phase.isOver ∧
      (Truthful call record answer ↔
        call.phase.isRegistering = false ∧ call.phase.isWindingUp = false) ∧
      ∀ later : List Event, (∀ event ∈ later, event.isDeletion = false) →
        ∃ kept, (start.after (events ++ later)).getRun id = some kept := by
  intro history
  obtain ⟨index, run, recorded, rfl⟩ := exists_run_of_stored idle reliable events undeleted new stored
  obtain ⟨call, found⟩ := exists_call_of_recorded recorded
  have kept : Kept (fun _ => True) history :=
    kept_history idle reliable (fun _ _ => trivial) events (.inr undeleted)
  have life := biography idle events found
  rw [recorded] at life
  obtain ⟨after, told⟩ := cancel_of_stored stored
  rw [contains_eq_isSome idle reliable events undeleted found recorded] at told
  -- What the client sees is the latest record of the run, as the store is up to date.
  have latest := Option.some.inj (stored.symm.trans (kept.stored recorded trivial))
  have ended : record.isTerminal = call.phase.isOver := latest ▸ life.isTerminal (kept.quiet index)
  refine ⟨index, call, run, _, after, found, recorded, rfl, told, rfl, ended, ?_, fun later spared => ?_⟩
  · rw [Truthful, ended, Phase.isWindingUp]
    rcases life.standing with ⟨marked, registered, unfinished⟩ | ⟨unmarked, registering⟩
    · simp [marked, registered, unfinished]
    · simp [unmarked, registering]
  · rw [after_append, ← service_history start events]
    exact exists_record_of_after _ later stored spared

end

theorem cancel_truthful_iff_midway :
    ∃ call record answer after, (probing.history midway).service.calls[0]? = some call ∧
      (probing.history midway).service.getRun (.ofSerial 0) = some record ∧
      (probing.history midway).service.cancel (.ofSerial 0) = .ok (answer, after) ∧
      Truthful call record answer := by
  have idle : probing.Idle := ⟨rfl, rfl, rfl, rfl⟩
  have undeleted : ∀ event ∈ midway, event.isDeletion = false :=
    List.forall_mem_cons.2 ⟨rfl, fun _ member => List.eq_of_mem_replicate member ▸ rfl⟩
  obtain ⟨record, stored⟩ : ∃ record,
      (probing.history midway).service.getRun (.ofSerial 0) = some record := ⟨_, rfl⟩
  obtain ⟨index, call, _, answer, after, found, -, -, told, -, -, truthful, -⟩ :=
    cancel_truthful_iff idle rfl midway undeleted rfl stored
  have alone : (probing.history midway).service.calls.length = 1 := by decide +kernel
  have inside := (List.getElem?_eq_some_iff.1 found).1
  obtain rfl : index = 0 := by omega
  have windows : (probing.history midway).service.calls[0]?.map (fun call =>
      (call.phase.isRegistering, call.phase.isWindingUp)) = some (false, false) := by
    decide +kernel
  rw [found] at windows
  have outside := Option.some.inj windows
  exact ⟨call, record, answer, after, found, stored, told,
    truthful.2 ⟨congrArg Prod.fst outside, congrArg Prod.snd outside⟩⟩

/-! The two windows. -/

def listed : List Event :=
  .accept probeCore :: List.replicate 3 (.goOn 0)

def concluded : List Event :=
  .accept probeCore :: List.replicate 24 (.goOn 0)

/-- A client that has seen the record of a run is told that there is nothing to cancel any more, and the
run sends its commands afterwards. A client that could see that a run is completed is told that it will be
cancelled. -/
theorem cancel_untruthful_in_windows :
    (((probing.after listed).listRuns probeCore.workflowId).map Run.id = [.ofSerial 0] ∧
      ((probing.after listed).cancel (.ofSerial 0)).map Prod.fst = .ok false ∧
      (probing.after listed).provider.sentTo ⟨"core"⟩ = [] ∧
      ((probing.after listed).follow (List.replicate 23 0)).provider.sentTo ⟨"core"⟩ =
        ["show", "check"]) ∧
    ((probing.after concluded).getRun (.ofSerial 0)).map Run.status = some .completed ∧
      ((probing.after concluded).cancel (.ofSerial 0)).map Prod.fst = .ok true := by
  refine ⟨⟨?_, ?_, ?_, ?_⟩, ?_, ?_⟩ <;> decide +kernel

end Service

end Runbook
