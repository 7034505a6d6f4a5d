import Runbook.Proofs.Run.Identifier
import Runbook.Proofs.Service.Bookkeeping
import Runbook.Proofs.Service.Schedule

/-! Nothing disturbs a run while nobody cancels one or deletes records.

As long as no two runs get one identifier, every run of a call that has its session is recorded, and every
record that it gives the store is kept.
-/

set_option autoImplicit false

namespace Runbook

namespace Service

open Execution (Exchange Undisturbed)

/-- A service as it is set up, with a store that holds nothing and does not fail. -/
structure Fresh (start : Service) : Prop extends Idle start where
  empty : start.store.runs = .empty
  reliable : start.store.outages = .none

/-- No two of the identifiers that could have been given so far are the same. -/
def DistinctIds (service : Service) : Prop :=
  ∀ m n, m < service.readings → n < service.readings →
    RunId.ofSerial m = RunId.ofSerial n → m = n

/-! ### Identifiers -/

section
variable {start service after : Service} {call next : Call} {recorded : Option Run}
  {exchange : Option Exchange} {history following : History} {event : Event}

theorem newRun_id (service : Service) (request : Request) :
    (service.newRun request).1.id = .ofSerial service.readings := rfl

theorem readings_afterCreate (service : Service) (request : Request) :
    (service.afterCreate request).readings = service.readings + 1 := rfl

theorem Turn.readings (turn : Turn service call recorded exchange next after) :
    service.readings ≤ after.readings ∧ ∀ run, recorded = some run →
      run.id = .ofSerial service.readings ∧ service.readings < after.readings := by
  have nothing {P : Run → Prop} : ∀ run, none = some run → P run := fun _ same => nomatch same
  cases turn with
  | recorded =>
    rw [readings_afterCreate]
    refine ⟨Nat.le_succ _, fun run same => ⟨?_, Nat.lt_succ_self _⟩⟩
    rw [← Option.some.inj same, newRun_id]
  | unrecorded =>
    rw [readings_afterCreate]
    exact ⟨Nat.le_succ _, nothing⟩
  | read => exact ⟨Nat.le_succ _, nothing⟩
  | _ => exact ⟨Nat.le_refl _, nothing⟩

theorem Turn.of_create {workflow : Workflow} {session : Device.Replay.Session}
    (turn : Turn service call recorded exchange next after)
    (creating : call.phase = .create workflow session) :
    after = service.afterCreate call.request ∧
      ((service.store.create (service.newRun call.request).1).1 = .ok () →
        recorded = some (service.newRun call.request).1 ∧
        next.phase = .register workflow (service.newRun call.request).1 session) := by
  cases turn with
  | recorded at_ =>
    cases creating.symm.trans at_
    exact ⟨rfl, fun _ => ⟨rfl, rfl⟩⟩
  | unrecorded at_ failed =>
    refine ⟨rfl, fun succeeded => ?_⟩
    rw [failed] at succeeded
    cases succeeded
  | rejected at_ | checked at_ | refused at_ | opened at_ | discarded at_ | registered at_ | sent at_
  | polled at_ | read at_ | stored at_ | announced at_ | returned at_ | closed at_ | unregistered at_
  | idle at_ =>
    cases creating.symm.trans at_

theorem Turn.of_discard {session : Device.Replay.Session} {error : Error}
    (turn : Turn service call recorded exchange next after)
    (discarding : next.phase = .discard session error) :
    ∃ workflow session, call.phase = .create workflow session := by
  cases turn with
  | unrecorded creating => exact ⟨_, _, creating⟩
  | idle at_ => cases discarding.symm.trans at_
  | _ => cases discarding

theorem Passes.readings (passes : Passes history event following) :
    history.service.readings ≤ following.service.readings := by
  cases passes with
  | turned _ turn => exact turn.readings.1
  | read => exact Nat.le_succ _
  | _ => exact Nat.le_refl _

theorem DistinctIds.of_le (distinct : DistinctIds after) (le : service.readings ≤ after.readings) :
    DistinctIds service :=
  fun m n first second => distinct m n (Nat.lt_of_lt_of_le first le) (Nat.lt_of_lt_of_le second le)

theorem distinctIds_of_le (few : service.readings ≤ 16 ^ 32) : DistinctIds service :=
  fun _ _ first second => RunId.ofSerial_inj (Nat.lt_of_lt_of_le first few) (Nat.lt_of_lt_of_le second few)

theorem exists_serial (start : Service) (events : List Event) {index : Nat} {run : Run}
    (own : (start.history events).run? index = some run) :
    ∃ serial < (start.history events).service.readings, run.id = .ofSerial serial := by
  induction events using List.reverseRecOn generalizing index run with
  | nil => cases own
  | append_singleton events event ih =>
    have passes := passes_history start events event
    have le := passes.readings
    generalize start.history (events ++ [event]) = following at passes own le ⊢
    -- An identifier that was given before stays among those given so far.
    have old {other : Nat} (there : (start.history events).run? other = some run) :
        ∃ serial < following.service.readings, run.id = .ofSerial serial := by
      obtain ⟨serial, less, same⟩ := ih there
      exact ⟨serial, Nat.lt_of_lt_of_le less le, same⟩
    cases passes with
    | @turned turning call next recorded _ _ found turn =>
      rw [History.run?_turned] at own
      by_cases here : index = turning
      · rw [if_pos here] at own
        cases recorded with
        | none => exact old own
        | some new =>
          cases own
          obtain ⟨same, less⟩ := turn.readings.2 _ rfl
          exact ⟨_, less, same⟩
      · rw [if_neg here] at own
        exact old own
    | _ => exact old own

end

theorem Event.isDeletion_of_isPlain {event : Event} (plain : event.isPlain = true) :
    event.isDeletion = false := by
  cases event with
  | deleteExpired => cases plain
  | _ => rfl

/-! ### Nothing disturbs a run -/

section
variable {start : Service} (events : List Event) (plain : ∀ event ∈ events, event.isPlain = true)
include plain

theorem uncancelled (idle : start.Idle) (run : RunId) :
    (start.history events).service.isCancelled run = false := by
  induction events using List.reverseRecOn with
  | nil =>
    have none : start.active = .empty := idle.active
    rw [history, List.foldl_nil, isCancelled, none]
    rfl
  | append_singleton events event ih =>
    obtain ⟨before, last⟩ := List.forall_mem_append.1 plain
    have unasked := ih before
    have passes := passes_history start events event
    generalize start.history (events ++ [event]) = following at passes ⊢
    cases passes with
    | cancelled => cases last _ (List.mem_singleton_self _)
    | @turned turning call next recorded exchange after found turn =>
      have marking := turn.marks
      simp only [History.turned, isCancelled] at unasked ⊢
      generalize after.active = active at marking ⊢
      -- Only a cancellation sets a mark, and it is not among these events.
      cases marking with
      | leaves => exact unasked
      | inserts =>
        rw [Table.get?_insert]
        split
        · rfl
        · exact unasked
      | erases =>
        rw [Table.get?_erase]
        split
        · rfl
        · exact unasked
    | _ => exact unasked

variable (fresh : start.Fresh)
include fresh

theorem kept_of_plain : Kept (fun _ => True) (start.history events) :=
  kept_history fresh.toIdle fresh.reliable (fun _ _ => trivial) events
    (.inr fun event member => Event.isDeletion_of_isPlain (plain event member))

/-- No run is ever told that it is cancelled, or that the store has refused its record. -/
theorem undisturbed (index : Nat) : Undisturbed ((start.history events).dialogue index) := by
  refine ((kept_of_plain events plain fresh).quiet index).undisturbed ?_
  induction events using List.reverseRecOn with
  | nil => exact List.not_mem_nil
  | append_singleton events event ih =>
    obtain ⟨before, -⟩ := List.forall_mem_append.1 plain
    have unasked := uncancelled events before fresh.toIdle
    have passes := passes_history start events event
    generalize start.history (events ++ [event]) = following at passes ⊢
    cases passes with
    | @turned turning call next recorded exchange after found turn =>
      rw [History.dialogue_turned]
      split
      · rename_i here
        subst here
        rw [List.mem_append]
        rintro (earlier | now)
        · exact ih before earlier
        · -- Of its own turns only a poll could tell it of a cancellation.
          cases turn with
          | polled =>
            rw [unasked] at now
            cases List.mem_singleton.1 now
          | sent | read | stored | announced => cases List.mem_singleton.1 now
          | _ => cases now
      · exact ih before
    | _ => exact ih before

theorem created_of_distinct {request : Request}
    (distinct : DistinctIds ((start.history events).service.afterCreate request)) :
    ((start.history events).service.store.create
      ((start.history events).service.newRun request).1).1 = .ok () := by
  have outages : (start.history events).service.store.outages = .none :=
    (congrArg Configuration.outages (configuration_history start events)).trans fresh.reliable
  refine Store.FaultyRuns.create_ok outages ?_
  cases stored : (start.history events).service.store.runs.get?
      ((start.history events).service.newRun request).1.id with
  | none => rfl
  | some record =>
    have new : start.getRun ((start.history events).service.newRun request).1.id = none := by
      rw [getRun, fresh.empty]
      rfl
    -- A record under this identifier would be that of a run with a serial number given earlier.
    obtain ⟨index, run, own, same⟩ := exists_run_of_stored fresh.toIdle fresh.reliable events
      (fun event member => Event.isDeletion_of_isPlain (plain event member)) new stored
    obtain ⟨serial, less, taken⟩ := exists_serial start events own
    have later : (start.history events).service.readings <
        ((start.history events).service.afterCreate request).readings := Nat.lt_succ_self _
    have equal := distinct _ _ (Nat.lt_trans less later) later
      (taken.symm.trans (same.trans (newRun_id ..)))
    exact absurd equal (Nat.ne_of_lt less)

theorem recorded_of_create {call next : Call} {recorded : Option Run} {exchange : Option Exchange}
    {after : Service} {workflow : Workflow} {session : Device.Replay.Session}
    (turn : Turn (start.history events).service call recorded exchange next after)
    (creating : call.phase = .create workflow session) (distinct : DistinctIds after) :
    ∃ run, recorded = some run ∧ next.phase = .register workflow run session := by
  obtain ⟨rfl, records⟩ := turn.of_create creating
  exact ⟨_, records (created_of_distinct events plain fresh distinct)⟩

end

/-- Whether the run of a call is recorded, or about to be. -/
def Seated (run? : Option Run) (phase : Phase) : Prop :=
  (∃ workflow session, phase = .create workflow session) ∨ run?.isSome = true

section
variable {start : Service} (fresh : start.Fresh)
include fresh

theorem undiscarded (events : List Event) (plain : ∀ event ∈ events, event.isPlain = true)
    (distinct : DistinctIds (start.history events).service) {index : Nat} {call : Call}
    {session : Device.Replay.Session} {error : Error}
    (found : (start.history events).service.calls[index]? = some call) :
    call.phase ≠ .discard session error := by
  induction events using List.reverseRecOn generalizing index call with
  | nil =>
    have none : start.calls[index]? = some call := found
    rw [fresh.calls] at none
    cases none
  | append_singleton events event ih =>
    obtain ⟨before, -⟩ := List.forall_mem_append.1 plain
    have recorded := @recorded_of_create start events before fresh
    have passes := passes_history start events event
    have le := passes.readings
    generalize start.history (events ++ [event]) = following at passes found distinct le
    have old {other : Nat} (there : (start.history events).service.calls[other]? = some call) :=
      ih before (distinct.of_le le) there
    cases passes with
    | accepted =>
      rcases eq_of_getElem?_concat found with earlier | ⟨-, rfl⟩
      · exact old earlier
      · exact nofun
    | @turned turning own next _ _ after there turn =>
      rw [History.getElem?_turned there turn] at found
      by_cases same : index = turning
      · rw [if_pos same] at found
        cases found
        intro discarding
        -- A session is given up only by a creation that failed, and none fails here.
        obtain ⟨workflow, session, creating⟩ := turn.of_discard discarding
        obtain ⟨run, -, registering⟩ := recorded turn creating distinct
        rw [registering] at discarding
        cases discarding
      · rw [if_neg same] at found
        exact old found
    | _ => exact old found

/-- Once a call has got a session, its run is recorded or about to be, whatever happens. -/
theorem seated (earlier later : List Event)
    (plain : ∀ event ∈ earlier ++ later, event.isPlain = true)
    (distinct : DistinctIds (start.history (earlier ++ later)).service) {index : Nat} {call next : Call}
    {session : Device.Replay.Session}
    (found : (start.history earlier).service.calls[index]? = some call)
    (obtained : call.phase.session? = some session)
    (at_ : (start.history (earlier ++ later)).service.calls[index]? = some next) :
    Seated ((start.history (earlier ++ later)).run? index) next.phase := by
  induction later using List.reverseRecOn generalizing next with
  | nil =>
    rw [List.append_nil] at plain distinct at_ ⊢
    cases found.symm.trans at_
    -- Of the phases with a session only one is without a run to come, and no call is in it.
    have life := biography fresh.toIdle earlier found
    have kept := fun session error => @undiscarded start fresh earlier plain distinct index call session
      error found
    obtain ⟨request, phase, due⟩ := call
    simp only at life kept obtained ⊢
    generalize (start.history earlier).run? index = run? at life ⊢
    generalize (start.history earlier).dialogue index = dialogue at life
    cases life with
    | opened => exact .inl ⟨_, _, rfl⟩
    | discarding => exact absurd rfl (kept _ _)
    | recorded | inProgress | closing => exact .inr rfl
    | _ => cases obtained
  | append_singleton later event ih =>
    rw [← List.append_assoc] at plain distinct at_ ⊢
    obtain ⟨before, -⟩ := List.forall_mem_append.1 plain
    obtain ⟨former, there, -⟩ := exists_call_append start earlier later found
    have passes := passes_history start (earlier ++ later) event
    have concerns := passes.concerns there
    have recorded := @recorded_of_create start (earlier ++ later) before fresh
    have stays := @run?_history_concat start fresh.toIdle (earlier ++ later) event index
    rcases ih before (distinct.of_le passes.readings) there with creating | own
    · generalize start.history (earlier ++ later ++ [event]) = following at concerns distinct at_ ⊢
      cases concerns with
      | goesOn turn =>
        obtain ⟨workflow, session, creating⟩ := creating
        obtain ⟨run, rfl, -⟩ := recorded turn creating distinct
        rw [History.run?_turned_self]
        exact .inr rfl
      | stays _ same =>
        cases same.symm.trans at_
        exact .inl creating
    · obtain ⟨run, own⟩ := Option.isSome_iff_exists.1 own
      rw [stays own]
      exact .inr rfl

end

end Service

end Runbook
