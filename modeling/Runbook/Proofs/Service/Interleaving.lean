import Mathlib.Data.List.Induction
import Mathlib.Logic.Function.Basic
import Runbook.Proofs.Service.Turn

/-! How the calls of a service interleave, with each other and with what clients ask for besides.

A history is a list of events in whatever order. What each call records and says as it goes on is kept
beside the service, so a fact about a history can speak of one call by itself.
-/

set_option autoImplicit false

namespace Runbook

namespace Service

open Execution (Exchange)

/-! ### Histories -/

/-- What can happen to a service next. A cleaning up reads the clock first and deletes later, so other
events may come in between. -/
inductive Event where
  | accept (request : Request)
  | goOn (index : Nat)
  | cancel (run : RunId)
  | readClock
  | deleteExpired (before : Time.Instant)
  | wait (millis : Nat)

def withRuns (service : Service) (runs : Store.Runs) : Service :=
  { service with store := { service.store with runs } }

def react (service : Service) : Event → Service
  | .accept request => (service.accept request).2
  | .goOn index => service.step index
  | .cancel run =>
    match service.cancel run with
    | .ok (_, after) => after
    | .error _ => service
  | .readClock => service.now.2
  | .deleteExpired before => service.withRuns (service.store.runs.deleteExpired before).1
  | .wait millis => service.waitUntil millis

def after (service : Service) (events : List Event) : Service :=
  events.foldl react service

theorem after_append (service : Service) (events later : List Event) :
    service.after (events ++ later) = (service.after events).after later :=
  List.foldl_append

def Event.isTurnOf (index : Nat) : Event → Bool
  | .goOn other => other == index
  | _ => false

theorem cleanUp_eq (service : Service) (days : Nat) :
    service.cleanUp days = (service.now.1.subDays days).map fun cutoff =>
      ((service.store.runs.deleteExpired cutoff).2,
        service.after [.readClock, .deleteExpired cutoff]) := rfl

/-! ### What is remembered of the calls -/

/-- A service, with what its calls have recorded and said up to now. Nothing of it depends on what is
remembered. -/
structure History where
  service : Service
  /-- The run that a call has recorded. -/
  run? : Nat → Option Run := fun _ => none
  /-- What a call has asked for its run, and the answers. -/
  dialogue : Nat → List Exchange := fun _ => []

namespace History

def turned (history : History) (index : Nat) (recorded : Option Run) (exchange : Option Exchange)
    (next : Call) (after : Service) : History where
  service := { after with calls := after.calls.set index next }
  run? := Function.update history.run? index (recorded <|> history.run? index)
  dialogue := Function.update history.dialogue index (history.dialogue index ++ exchange.toList)

def react (history : History) : Event → History
  | .goOn index =>
    match history.service.calls[index]? with
    | none => history
    | some call =>
      history.turned index (history.service.recorded? call) (history.service.exchange? call)
        (stepCall call history.service).1 (stepCall call history.service).2
  | event => { history with service := history.service.react event }

theorem service_react (history : History) (event : Event) :
    (history.react event).service = history.service.react event := by
  cases event with
  | goOn index =>
    simp only [react, Service.react, step, onCall]
    cases history.service.calls[index]? <;> rfl
  | accept request => rfl
  | cancel run => rfl
  | readClock => rfl
  | deleteExpired before => rfl
  | wait millis => rfl

end History

def history (start : Service) (events : List Event) : History :=
  events.foldl History.react { service := start }

theorem history_concat (start : Service) (events : List Event) (event : Event) :
    start.history (events ++ [event]) = (start.history events).react event :=
  List.foldl_concat ..

theorem service_history (start : Service) (events : List Event) :
    (start.history events).service = start.after events := by
  induction events using List.reverseRecOn with
  | nil => rfl
  | append_singleton events event ih =>
    rw [history_concat, History.service_react, ih, after_append]
    rfl

/-- What can become of a history with one event. -/
inductive Passes (history : History) : Event → History → Prop
  | accepted {request : Request} :
      Passes history (.accept request)
        { history with service :=
          { history.service with calls := history.service.calls ++ [{ request }] } }
  | absent {index : Nat} :
      history.service.calls[index]? = none → Passes history (.goOn index) history
  | turned {index : Nat} {call next : Call} {recorded : Option Run} {exchange : Option Exchange}
      {after : Service} :
      history.service.calls[index]? = some call →
      Turn history.service call recorded exchange next after →
      Passes history (.goOn index) (history.turned index recorded exchange next after)
  | cancelled {run : RunId} :
      history.service.active.contains run = true →
      Passes history (.cancel run)
        { history with service :=
          { history.service with active := history.service.active.insert run true } }
  | unheard {run : RunId} :
      history.service.active.contains run = false → Passes history (.cancel run) history
  | read : Passes history .readClock { history with service := history.service.now.2 }
  | expired {before : Time.Instant} :
      Passes history (.deleteExpired before)
        { history with service :=
          history.service.withRuns (history.service.store.runs.deleteExpired before).1 }
  | waited {millis : Nat} :
      Passes history (.wait millis) { history with service := history.service.waitUntil millis }

theorem passes_react (history : History) (event : Event) :
    Passes history event (history.react event) := by
  cases event with
  | accept request => exact .accepted
  | goOn index =>
    cases found : history.service.calls[index]? with
    | none =>
      simp only [History.react, found]
      exact .absent found
    | some call =>
      simp only [History.react, found]
      exact .turned found (turn_stepCall history.service call)
  | cancel run =>
    by_cases inProgress : history.service.active.contains run = true
    · simp only [History.react, react, cancel, if_pos inProgress]
      exact .cancelled inProgress
    · -- Whether or not its record is there, nothing changes.
      simp only [History.react, react, cancel, if_neg inProgress]
      cases history.service.store.runs.get? run with
      | none => exact .unheard (Bool.eq_false_iff.2 inProgress)
      | some record => exact .unheard (Bool.eq_false_iff.2 inProgress)
  | readClock => exact .read
  | deleteExpired before => exact .expired
  | wait millis => exact .waited

theorem passes_history (start : Service) (events : List Event) (event : Event) :
    Passes (start.history events) event (start.history (events ++ [event])) := by
  rw [history_concat]
  exact passes_react _ _

/-! ### Along a history -/

theorem eq_of_getElem?_concat {calls : List Call} {index : Nat} {call last : Call}
    (found : (calls ++ [last])[index]? = some call) :
    calls[index]? = some call ∨ index = calls.length ∧ call = last := by
  rcases Nat.lt_trichotomy index calls.length with earlier | rfl | later
  · rw [List.getElem?_append_left earlier] at found
    exact .inl found
  · rw [List.getElem?_concat_length] at found
    exact .inr ⟨rfl, (Option.some.inj found).symm⟩
  · rw [List.getElem?_eq_none (List.length_append ▸ later)] at found
    cases found

section
variable {history next : History} {event : Event}

theorem History.getElem?_turned {index : Nat} {call after : Call} {recorded : Option Run}
    {exchange : Option Exchange} {service : Service}
    (found : history.service.calls[index]? = some call)
    (turn : Turn history.service call recorded exchange after service) (other : Nat) :
    (history.turned index recorded exchange after service).service.calls[other]? =
      if other = index then some after else history.service.calls[other]? := by
  have inside : index < history.service.calls.length := (List.getElem?_eq_some_iff.1 found).1
  rw [turned, turn.calls, List.getElem?_set, if_pos inside]
  by_cases same : other = index
  · rw [if_pos same.symm, if_pos same]
  · rw [if_neg (Ne.symm same), if_neg same]

theorem History.getElem?_turned_self {index : Nat} {call after : Call} {recorded : Option Run}
    {exchange : Option Exchange} {service : Service}
    (found : history.service.calls[index]? = some call)
    (turn : Turn history.service call recorded exchange after service) :
    (history.turned index recorded exchange after service).service.calls[index]? = some after := by
  rw [getElem?_turned found turn, if_pos rfl]

section
variable (history : History) (index other : Nat) (recorded : Option Run) (exchange : Option Exchange)
  (call : Call) (service : Service)

theorem History.run?_turned :
    (history.turned index recorded exchange call service).run? other =
      if other = index then recorded <|> history.run? index else history.run? other :=
  Function.update_apply ..

theorem History.dialogue_turned :
    (history.turned index recorded exchange call service).dialogue other =
      if other = index then history.dialogue index ++ exchange.toList else history.dialogue other :=
  Function.update_apply ..

theorem History.run?_turned_self :
    (history.turned index recorded exchange call service).run? index =
      (recorded <|> history.run? index) :=
  Function.update_self ..

theorem History.dialogue_turned_self :
    (history.turned index recorded exchange call service).dialogue index =
      history.dialogue index ++ exchange.toList :=
  Function.update_self ..

end

/-- What an event is to a call: one of its turns, or nothing. -/
inductive Concerns (history : History) (index : Nat) (call : Call) : Event → History → Prop
  | goesOn {after : Call} {recorded : Option Run} {exchange : Option Exchange} {service : Service} :
      Turn history.service call recorded exchange after service →
      Concerns history index call (.goOn index) (history.turned index recorded exchange after service)
  | stays {event : Event} {next : History} :
      event.isTurnOf index = false → next.service.calls[index]? = some call →
      next.run? index = history.run? index → next.dialogue index = history.dialogue index →
      Concerns history index call event next

theorem Passes.concerns (passes : Passes history event next) {index : Nat} {call : Call}
    (found : history.service.calls[index]? = some call) :
    Concerns history index call event next := by
  cases passes with
  | accepted =>
    have inside := (List.getElem?_eq_some_iff.1 found).1
    exact .stays rfl ((List.getElem?_append_left inside).trans found) rfl rfl
  | @absent other nobody =>
    refine .stays (beq_eq_false_iff_ne.2 ?_) found rfl rfl
    rintro rfl
    rw [nobody] at found
    cases found
  | @turned turning own after recorded exchange service there turn =>
    by_cases here : index = turning
    · subst here
      cases there.symm.trans found
      exact .goesOn turn
    · refine .stays (beq_eq_false_iff_ne.2 (Ne.symm here)) ?_ ?_ ?_
      · rw [History.getElem?_turned there turn, if_neg here, found]
      · rw [History.run?_turned, if_neg here]
      · rw [History.dialogue_turned, if_neg here]
  | _ => exact .stays rfl found rfl rfl

theorem Passes.configuration (passes : Passes history event next) :
    next.service.configuration = history.service.configuration := by
  cases passes with
  | turned _ turn => exact turn.configuration
  | _ => rfl

theorem Passes.length_calls (passes : Passes history event next) :
    history.service.calls.length ≤ next.service.calls.length := by
  cases passes with
  | accepted =>
    rw [List.length_append]
    exact Nat.le_add_right _ _
  | turned found turn => simp only [History.turned, List.length_set, turn.calls, Nat.le_refl]
  | _ => exact Nat.le_refl _

end

theorem configuration_history (start : Service) (events : List Event) :
    (start.history events).service.configuration = start.configuration := by
  induction events using List.reverseRecOn with
  | nil => rfl
  | append_singleton events event ih => exact (passes_history start events event).configuration.trans ih

theorem forgotten (start : Service) (events : List Event) {index : Nat}
    (absent : (start.history events).service.calls.length ≤ index) :
    (start.history events).run? index = none ∧ (start.history events).dialogue index = [] := by
  induction events using List.reverseRecOn with
  | nil => exact ⟨rfl, rfl⟩
  | append_singleton events event ih =>
    have passes := passes_history start events event
    generalize start.history (events ++ [event]) = next at passes absent ⊢
    have before := ih (Nat.le_trans passes.length_calls absent)
    cases passes with
    | @turned turning _ _ _ _ _ found turn =>
      simp only [History.turned, List.length_set, turn.calls] at absent
      have inside := (List.getElem?_eq_some_iff.1 found).1
      have other : index ≠ turning := (Nat.ne_of_lt (Nat.lt_of_lt_of_le inside absent)).symm
      rw [History.run?_turned, History.dialogue_turned, if_neg other, if_neg other]
      exact before
    | _ => exact before

theorem exists_call_append (start : Service) (events later : List Event) {index : Nat} {call : Call}
    (found : (start.history events).service.calls[index]? = some call) :
    ∃ next, (start.history (events ++ later)).service.calls[index]? = some next ∧
      next.request = call.request := by
  induction later using List.reverseRecOn with
  | nil =>
    rw [List.append_nil]
    exact ⟨call, found, rfl⟩
  | append_singleton later event ih =>
    obtain ⟨next, at_, same⟩ := ih
    have concerns := (passes_history start (events ++ later) event).concerns at_
    rw [← List.append_assoc]
    generalize start.history (events ++ later ++ [event]) = following at concerns ⊢
    cases concerns with
    | @goesOn after _ _ _ turn =>
      exact ⟨after, History.getElem?_turned_self at_ turn, turn.request.trans same⟩
    | stays _ kept => exact ⟨next, kept, same⟩

theorem exists_call_of_recorded {start : Service} {events : List Event} {index : Nat} {run : Run}
    (recorded : (start.history events).run? index = some run) :
    ∃ call, (start.history events).service.calls[index]? = some call := by
  cases found : (start.history events).service.calls[index]? with
  | some call => exact ⟨call, rfl⟩
  | none =>
    have nothing := (forgotten start events (List.getElem?_eq_none_iff.1 found)).1
    rw [nothing] at recorded
    cases recorded

/-- A service that nobody has asked for anything. Its store may hold records. -/
structure Idle (start : Service) : Prop where
  calls : start.calls = []
  active : start.active = .empty
  openDevices : start.provider.openDevices = []
  transcript : start.provider.transcript = []

section
variable {start : Service} (idle : start.Idle)
include idle

/-- What holds of a call when it comes in, and after each of its turns if before it, always holds,
whatever the other calls do. -/
theorem forall_calls {P : Option Run → Call → List Exchange → Prop}
    (comesIn : ∀ request, P none { request } [])
    (goesOn : ∀ {service after : Service} {call next : Call} {run? recorded : Option Run}
      {dialogue : List Exchange} {exchange : Option Exchange},
      service.configuration = start.configuration →
      Turn service call recorded exchange next after → P run? call dialogue →
      P (recorded <|> run?) next (dialogue ++ exchange.toList))
    (events : List Event) {index : Nat} {call : Call}
    (found : (start.history events).service.calls[index]? = some call) :
    P ((start.history events).run? index) call ((start.history events).dialogue index) := by
  induction events using List.reverseRecOn generalizing index call with
  | nil =>
    have none : start.calls[index]? = some call := found
    rw [idle.calls] at none
    cases none
  | append_singleton events event ih =>
    have unknown := @forgotten start events index
    have passes := passes_history start events event
    have setUp := configuration_history start events
    generalize start.history (events ++ [event]) = after at passes found
    cases passes with
    | @accepted request =>
      rcases eq_of_getElem?_concat found with earlier | ⟨rfl, rfl⟩
      · exact ih earlier
      · -- Nothing is known yet of a call that has just come in.
        obtain ⟨unrecorded, silent⟩ := unknown (Nat.le_refl _)
        simp only [unrecorded, silent]
        exact comesIn request
    | @turned turning _ _ _ _ _ there turn =>
      rw [History.getElem?_turned there turn] at found
      by_cases same : index = turning
      · subst same
        rw [if_pos rfl] at found
        cases found
        rw [History.run?_turned_self, History.dialogue_turned_self]
        exact goesOn setUp turn (ih there)
      · rw [if_neg same] at found
        rw [History.run?_turned, History.dialogue_turned, if_neg same, if_neg same]
        exact ih found
    | _ => exact ih found

end

end Service

end Runbook
