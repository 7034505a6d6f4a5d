import Runbook.Proofs.Execution.Chronicle
import Runbook.Proofs.Execution.Ledger
import Runbook.Proofs.Execution.Outage
import Runbook.Proofs.Service.Biography
import Runbook.Proofs.Store.Contents

/-! The store keeps up with every run that has not ended, whatever else is done with it.

Before each of its updates a run has a record in the store that has not ended, so the update finds it.
That the records of other runs are other records rests on their creation: it would have failed.
-/

set_option autoImplicit false

namespace Runbook

namespace Store

section
variable {store : FaultyRuns} {run : Run}

theorem FaultyRuns.of_create_ok (succeeded : (store.create run).1 = .ok ()) :
    store.runs.get? run.id = none ∧ ∀ id, (store.create run).2.runs.get? id =
      if id = run.id then some run else store.runs.get? id := by
  rw [create_eq] at succeeded ⊢
  cases result : store.created run with
  | error error =>
    rw [result] at succeeded
    cases succeeded
  | ok runs =>
    have stored : store.runs.create run = .ok runs := by
      unfold created at result
      split at result
      · cases result
      · exact result
    unfold Runs.create at stored
    split at stored
    · cases stored
    · rename_i absent
      cases stored
      refine ⟨?_, fun id => Table.get?_insert store.runs.table run.id id run⟩
      rwa [Table.contains, Bool.not_eq_true, Option.isSome_eq_false_iff, Option.isNone_iff_eq_none]
        at absent

section
variable (reliable : store.outages = .none)
include reliable

theorem FaultyRuns.create_ok (absent : store.runs.get? run.id = none) :
    (store.create run).1 = .ok () := by
  have missing : store.runs.table.contains run.id = false := congrArg Option.isSome absent
  have stored : store.created run = .ok ⟨store.runs.table.insert run.id run⟩ := by
    rw [created, reliable]
    simp only [Outages.none, Runs.create, missing, Bool.false_eq_true, if_false]
  rw [create_eq, stored]
  rfl

theorem FaultyRuns.update_ok {held : Run} (present : store.runs.get? run.id = some held) :
    (store.update run).1 = .ok () := by
  have found : store.runs.table.contains run.id = true := congrArg Option.isSome present
  simp only [update, reliable, Outages.none, Runs.update, found, if_true]
  rfl

end

end

end Store

namespace Execution

def latest (run : Run) (dialogue : List Exchange) : Run :=
  (updatesOf dialogue).getLastD run

section
variable {run : Run} {dialogue : List Exchange}

theorem latest_concat (record : Run) (result : Except Store.Error Unit) :
    latest run (dialogue ++ [.stored record result]) = record := by
  rw [latest, updatesOf_append]
  exact List.getLastD_concat ..

theorem latest_append_of_unstored {more : List Exchange} (unstored : updatesOf more = []) :
    latest run (dialogue ++ more) = latest run dialogue := by
  rw [latest, updatesOf_append, unstored, List.append_nil, latest]

theorem Course.latest {settings : Settings} {workflow : Workflow} {after : Run}
    (course : Course settings workflow run dialogue after) (pending : run.status = .pending)
    (fresh : run.steps = []) : latest run dialogue = after := by
  obtain ⟨-, last⟩ := (course.proceeds pending fresh).chain
  rw [List.getLast?_cons] at last
  exact (List.getLastD_eq_getLast? ..).trans (Option.some.inj last)

section
variable {settings : Settings} {workflow : Workflow} {rest : Procedure (Except Error Run)}
  (pending : run.status = .pending) (fresh : run.steps = []) (quiet : Quiet dialogue)
  (reaches : (execute settings workflow run).run.Reaches dialogue rest)
include pending quiet

theorem exists_ok_of_quiet {result : Except Error Run}
    (given : (execute settings workflow run).run.Gives dialogue result) :
    ∃ after, result = .ok after := by
  cases result with
  | ok after => exact ⟨after, rfl⟩
  | error error =>
    obtain ⟨before, refused, cause, split, -, -⟩ :=
      (failStop_execute pending).stops _ error given
    have kept := quiet (.stored refused (.error cause)) (by rw [split]; simp)
    cases kept

include reaches

/-- As long as the store has kept everything, a run can go on to its end. -/
theorem exists_course_of_reaches : ∃ later after, rest.Gives later (.ok after) ∧ Quiet later ∧
    Course settings workflow run (dialogue ++ later) after := by
  obtain ⟨later, result, goesOn, silent⟩ := rest.exists_quiet
  have whole := reaches later result goesOn
  obtain ⟨after, rfl⟩ := exists_ok_of_quiet pending (quiet.append silent) whole
  exact ⟨later, after, goesOn, silent, course whole⟩

include fresh

theorem unfinished_of_update {record : Run}
    {next : Except Store.Error Unit → Procedure (Except Error Run)}
    (updating : rest = .update record next) :
    record.id = run.id ∧ (latest run dialogue).isTerminal = false := by
  subst updating
  obtain ⟨later, after, goesOn, silent, course⟩ := exists_course_of_reaches pending quiet reaches
  obtain ⟨result, later, rfl, -⟩ := Procedure.gives_update_iff.1 goesOn
  obtain ⟨chain, -⟩ := (course.proceeds pending fresh).chain
  rw [updatesOf_append] at chain
  have origin := origin_of_chain chain record (List.mem_append_right _ List.mem_cons_self)
  refine ⟨congrArg Run.Origin.id origin, unfinished_of_chain chain _ ?_⟩
  have split : run :: (updatesOf dialogue ++ updatesOf (.stored record result :: later)) =
      (run :: updatesOf dialogue) ++ record :: updatesOf later := rfl
  rw [split, List.dropLast_append_cons]
  exact List.mem_append_left _ (List.getLastD_mem_cons ..)

end

end

end Execution

namespace Service

open Execution (Exchange Quiet latest)

/-- The store is up to date with the runs in scope: it holds the latest record of each, under an
identifier that no other run in scope has. -/
structure Kept (scope : Run → Prop) (history : History) : Prop where
  quiet (index : Nat) : Quiet (history.dialogue index)
  stored {index : Nat} {run : Run} : history.run? index = some run →
    scope (latest run (history.dialogue index)) →
    history.service.store.runs.get? run.id = some (latest run (history.dialogue index))
  apart {index other : Nat} {run another : Run} : history.run? index = some run →
    history.run? other = some another → scope (latest run (history.dialogue index)) →
    scope (latest another (history.dialogue other)) → run.id = another.id → index = other

section
variable {start : Service} {scope : Run → Prop} {history next : History} {event : Event}

def Event.isDeletion : Event → Bool
  | .deleteExpired _ => true
  | _ => false

/-- Nothing but its expiry takes a record out of the store. -/
theorem exists_record_of_react (service : Service) (event : Event) {id : RunId} {run : Run}
    (held : service.store.runs.get? id = some run)
    (spared : event.isDeletion = false ∨ run.isTerminal = false) :
    ∃ kept, (service.react event).store.runs.get? id = some kept := by
  have passes := passes_react { service } event
  rw [← History.service_react { service } event]
  generalize History.react { service } event = next at passes ⊢
  cases passes with
  | @turned index call after recorded exchange next found turn =>
    have keeps := turn.keeps
    simp only [History.turned]
    generalize next.store = store at keeps ⊢
    cases keeps with
    | leaves => exact ⟨run, held⟩
    | refuses failed =>
      rw [Store.FaultyRuns.runs_of_create_error failed]
      exact ⟨run, held⟩
    | creates creating succeeded =>
      rw [(Store.FaultyRuns.of_create_ok succeeded).2]
      split
      · exact ⟨_, rfl⟩
      · exact ⟨run, held⟩
    | updates =>
      rw [Store.FaultyRuns.get?_update]
      split
      · split
        · exact ⟨_, rfl⟩
        · exact ⟨run, held⟩
      · exact ⟨run, held⟩
  | expired =>
    refine ⟨run, (Store.Runs.get?_deleteExpired ..).trans ?_⟩
    have kept : service.store.runs.get? id = some run := held
    -- What has not ended does not expire.
    have unfinished : run.isTerminal = false := spared.resolve_left (by simp [Event.isDeletion])
    rw [kept, Option.filter_some_pos]
    rw [Store.Runs.isExpired, unfinished]
    rfl
  | _ => exact ⟨run, held⟩

theorem exists_record_of_after (service : Service) (events : List Event) {id : RunId} {run : Run}
    (held : service.store.runs.get? id = some run)
    (undeleted : ∀ event ∈ events, event.isDeletion = false) :
    ∃ kept, (service.after events).store.runs.get? id = some kept := by
  induction events generalizing service run with
  | nil => exact ⟨run, held⟩
  | cons event events ih =>
    obtain ⟨first, others⟩ := List.forall_mem_cons.1 undeleted
    obtain ⟨next, kept⟩ := exists_record_of_react service event held (.inl first)
    exact ih (service.react event) kept others

theorem Biography.update {request : Request} {run? : Option Run} {dialogue : List Exchange}
    {run : RunId} {session : Device.Replay.Session} {record : Run}
    {next : Except Store.Error Unit → Execution.Procedure (Except Error Run)}
    (life : Biography start request run? (.drive run session (.update record next)) dialogue)
    (quiet : Quiet dialogue) :
    ∃ own, run? = some own ∧ record.id = own.id ∧ (latest own dialogue).isTerminal = false := by
  cases life with
  | inProgress records reaches =>
    obtain ⟨id, createdAt, rfl⟩ := records.new
    exact ⟨_, rfl, Execution.unfinished_of_update rfl rfl quiet reaches rfl⟩

theorem Biography.silent {request : Request} {run? : Option Run} {dialogue : List Exchange}
    {workflow : Workflow} {session : Device.Replay.Session}
    (life : Biography start request run? (.create workflow session) dialogue) : dialogue = [] := by
  cases life
  rfl

theorem Kept.congr (kept : Kept scope history) (quiet : ∀ index, Quiet (next.dialogue index))
    (runs : next.service.store.runs = history.service.store.runs)
    (recorded : ∀ index, next.run? index = history.run? index)
    (given : ∀ index run, latest run (next.dialogue index) = latest run (history.dialogue index)) :
    Kept scope next where
  quiet := quiet
  stored own inside := by
    rw [recorded] at own
    rw [given] at inside ⊢
    rw [runs]
    exact kept.stored own inside
  apart own also inside alsoInside := by
    rw [recorded] at own also
    rw [given] at inside alsoInside
    exact kept.apart own also inside alsoInside

section
variable {index : Nat} {call after : Call} {recorded : Option Run} {exchange : Option Exchange}
  {service : Service} (kept : Kept scope history)
include kept

theorem Kept.turned_of_unstored (unstored : exchange.bind Exchange.record? = none)
    (runs : service.store.runs = history.service.store.runs) :
    Kept scope (history.turned index none exchange after service) := by
  have nothing : Execution.updatesOf exchange.toList = [] := by
    cases exchange with
    | none => rfl
    | some exchange => exact List.filterMap_cons_none unstored
  have silent : Quiet exchange.toList := by
    cases exchange with
    | none => exact Execution.quiet_nil
    | some exchange => cases exchange <;> first | exact Execution.quiet_singleton rfl | cases unstored
  refine kept.congr (fun other => ?_) runs (fun other => ?_) fun other run => ?_
  · rw [History.dialogue_turned]
    split
    · exact (kept.quiet index).append silent
    · exact kept.quiet other
  · rw [History.run?_turned]
    split
    · rename_i same
      rw [same]
      rfl
    · rfl
  · rw [History.dialogue_turned]
    split
    · rename_i same
      rw [same]
      exact Execution.latest_append_of_unstored nothing
    · rfl

theorem Kept.turned_of_created {run : Run} (fresh : history.dialogue index = [])
    (absent : history.service.store.runs.get? run.id = none)
    (runs : ∀ id, service.store.runs.get? id =
      if id = run.id then some run else history.service.store.runs.get? id) :
    Kept scope (history.turned index (some run) none after service) := by
  have said (other : Nat) : (history.turned index (some run) none after service).dialogue other =
      history.dialogue other := by
    rw [History.dialogue_turned]
    split
    · rename_i same
      rw [same]
      exact List.append_nil _
    · rfl
  -- The runs in scope are in the store already, under other identifiers.
  have differ {other : Nat} {another : Run} (own : history.run? other = some another)
      (inside : scope (latest another (history.dialogue other))) : another.id ≠ run.id := by
    intro same
    have present := kept.stored own inside
    rw [same, absent] at present
    cases present
  refine ⟨fun other => ?_, fun {other another} own inside => ?_,
    fun {first second run' another} own also inside alsoInside same => ?_⟩
  · rw [said]
    exact kept.quiet other
  · rw [said] at inside ⊢
    rw [History.run?_turned] at own
    by_cases here : other = index
    · rw [if_pos here] at own
      cases own
      rw [here, fresh]
      exact (runs run.id).trans (if_pos rfl)
    · rw [if_neg here] at own
      exact (runs another.id).trans ((if_neg (differ own inside)).trans (kept.stored own inside))
  · rw [said] at inside alsoInside
    rw [History.run?_turned] at own also
    by_cases here : first = index
    · by_cases there : second = index
      · rw [here, there]
      · rw [if_neg there] at also
        rw [if_pos here] at own
        cases own
        exact absurd same.symm (differ also alsoInside)
    · rw [if_neg here] at own
      by_cases there : second = index
      · rw [if_pos there] at also
        cases also
        exact absurd same (differ own inside)
      · rw [if_neg there] at also
        exact kept.apart own also inside alsoInside same

theorem Kept.turned_of_updated {own record : Run} (recorded : history.run? index = some own)
    (inScope : scope (latest own (history.dialogue index))) (same : record.id = own.id)
    (runs : ∀ id, service.store.runs.get? id =
      if id = record.id then some record else history.service.store.runs.get? id) :
    Kept scope
      (history.turned index none (some (.stored record (.ok ()))) after service) := by
  have run?_ (other : Nat) : (history.turned index none (some (.stored record (.ok ()))) after
      service).run? other = history.run? other := by
    rw [History.run?_turned]
    split
    · rename_i same
      rw [same]
      rfl
    · rfl
  -- What is in scope now was in scope before.
  have before {other : Nat} {run : Run} (at_ : history.run? other = some run)
      (inside : scope (latest run ((history.turned index none (some (.stored record (.ok ())))
        after service).dialogue other))) : scope (latest run (history.dialogue other)) := by
    rw [History.dialogue_turned] at inside
    by_cases here : other = index
    · rw [here, recorded] at at_
      cases at_
      rw [here]
      exact inScope
    · rwa [if_neg here] at inside
  refine ⟨fun other => ?_, fun {other run} at_ inside => ?_,
    fun {first second run another} at_ also inside alsoInside equal => ?_⟩
  · rw [History.dialogue_turned]
    split
    · exact (kept.quiet index).append (Execution.quiet_singleton rfl)
    · exact kept.quiet other
  · rw [run?_] at at_
    have earlier := before at_ inside
    rw [History.dialogue_turned]
    by_cases here : other = index
    · rw [here, recorded] at at_
      cases at_
      rw [if_pos here, Option.toList_some, Execution.latest_concat]
      exact (runs own.id).trans (if_pos same.symm)
    · rw [if_neg here]
      refine (runs run.id).trans ((if_neg fun equal => here ?_).trans (kept.stored at_ earlier))
      exact kept.apart at_ recorded earlier inScope (equal.trans same)
  · rw [run?_] at at_ also
    exact kept.apart at_ also (before at_ inside) (before also alsoInside) equal

end

theorem Kept.turned {index : Nat} {call after : Call} {recorded : Option Run}
    {exchange : Option Exchange} {service : Service} (kept : Kept scope history)
    (wide : ∀ run : Run, run.isTerminal = false → scope run)
    (reliable : history.service.store.outages = .none)
    (life : Biography start call.request (history.run? index) call.phase (history.dialogue index))
    (turn : Turn history.service call recorded exchange after service) :
    Kept scope (history.turned index recorded exchange after service) := by
  have keeps := turn.keeps
  obtain ⟨store, changed⟩ : ∃ store, service.store = store := ⟨_, rfl⟩
  rw [changed] at keeps
  cases keeps with
  | leaves unstored => exact kept.turned_of_unstored unstored (by rw [changed])
  | refuses failed =>
    exact kept.turned_of_unstored rfl (by rw [changed, Store.FaultyRuns.runs_of_create_error failed])
  | creates creating succeeded =>
    obtain ⟨absent, runs⟩ := Store.FaultyRuns.of_create_ok succeeded
    rw [creating] at life
    exact kept.turned_of_created life.silent absent (changed ▸ runs)
  | @updates run session record next updating =>
    rw [updating] at life
    obtain ⟨own, recorded, same, unfinished⟩ := life.update (kept.quiet index)
    -- A record that is updated has not ended, and so is in scope.
    have inScope := wide _ unfinished
    have succeeded : (history.service.store.update record).1 = .ok () :=
      Store.FaultyRuns.update_ok reliable (same ▸ kept.stored recorded inScope)
    rw [succeeded]
    refine kept.turned_of_updated recorded inScope same fun id => ?_
    rw [changed, Store.FaultyRuns.get?_update, succeeded]

/-- Whatever happens, the store stays up to date. Runs in scope must not be deleted. -/
theorem Kept.passes (kept : Kept scope history)
    (wide : ∀ run : Run, run.isTerminal = false → scope run)
    (reliable : history.service.store.outages = .none)
    (lives : ∀ index call, history.service.calls[index]? = some call →
      Biography start call.request (history.run? index) call.phase (history.dialogue index))
    (spared : (∀ run : Run, scope run → run.isTerminal = false) ∨ event.isDeletion = false)
    (passes : Passes history event next) : Kept scope next := by
  cases passes with
  | turned found turn => exact kept.turned wide reliable (lives _ _ found) turn
  | @expired before =>
    have running := spared.resolve_right Bool.noConfusion
    refine ⟨kept.quiet, fun {index run} own inside => ?_, kept.apart⟩
    refine (Store.Runs.get?_deleteExpired ..).trans ?_
    rw [kept.stored own inside]
    refine Option.filter_some_pos ?_
    rw [Store.Runs.isExpired, running _ inside]
    rfl
  | _ => exact ⟨kept.quiet, kept.stored, kept.apart⟩

end

section
variable {start : Service} (idle : start.Idle) (reliable : start.store.outages = .none)
include idle reliable

theorem kept_history {scope : Run → Prop} (wide : ∀ run : Run, run.isTerminal = false → scope run)
    (events : List Event) (spared : (∀ run : Run, scope run → run.isTerminal = false) ∨
      ∀ event ∈ events, event.isDeletion = false) :
    Kept scope (start.history events) := by
  induction events using List.reverseRecOn with
  | nil => exact ⟨fun _ => Execution.quiet_nil, nofun, nofun⟩
  | append_singleton events event ih =>
    have outages : (start.history events).service.store.outages = .none :=
      (congrArg Configuration.outages (configuration_history start events)).trans reliable
    refine (ih (spared.imp_right fun kept event member => ?_)).passes wide outages
      (fun _ _ => biography idle events) (spared.imp_right fun kept => ?_)
      (passes_history start events event)
    · exact kept event (List.mem_append_left _ member)
    · exact kept event (List.mem_append_right _ (List.mem_singleton_self event))

/-- Every record that was not there from the start belongs to the run of a call. -/
theorem exists_run_of_stored (events : List Event)
    (undeleted : ∀ event ∈ events, event.isDeletion = false) {id : RunId} {record : Run}
    (new : start.getRun id = none)
    (stored : (start.history events).service.getRun id = some record) :
    ∃ index run, (start.history events).run? index = some run ∧ run.id = id := by
  induction events using List.reverseRecOn generalizing record with
  | nil =>
    have nothing : start.getRun id = some record := stored
    rw [new] at nothing
    cases nothing
  | append_singleton events event ih =>
    obtain ⟨before, last⟩ := List.forall_mem_append.1 undeleted
    have kept : Kept (fun _ => True) (start.history events) :=
      kept_history idle reliable (fun _ _ => trivial) events (.inr before)
    have lives := fun index call => @biography start call idle events index
    have passes := passes_history start events event
    -- A record that was there before was that of a run, which is still the run of its call.
    have old {held : Run} (there : (start.history events).service.getRun id = some held) :
        ∃ index run, (start.history (events ++ [event])).run? index = some run ∧ run.id = id := by
      obtain ⟨index, run, own, same⟩ := ih before there
      exact ⟨index, run, run?_history_concat idle events event own, same⟩
    generalize start.history (events ++ [event]) = next at passes stored old ⊢
    cases passes with
    | @turned turning call after recorded exchange service found turn =>
      have keeps := turn.keeps
      simp only [History.turned, getRun] at stored
      generalize service.store = store at keeps stored
      cases keeps with
      | leaves => exact old stored
      | refuses failed =>
        rw [Store.FaultyRuns.runs_of_create_error failed] at stored
        exact old stored
      | creates creating succeeded =>
        rw [(Store.FaultyRuns.of_create_ok succeeded).2] at stored
        by_cases own : id = ((start.history events).service.newRun call.request).1.id
        · refine ⟨turning, _, ?_, own.symm⟩
          rw [History.run?_turned_self]
          rfl
        · rw [if_neg own] at stored
          exact old stored
      | updates updating =>
        have life := lives turning call found
        rw [updating] at life
        obtain ⟨own, recorded, same, -⟩ := life.update (kept.quiet turning)
        rw [Store.FaultyRuns.get?_update, same] at stored
        by_cases here : id = own.id
        · refine ⟨turning, own, ?_, here.symm⟩
          rw [History.run?_turned_self]
          exact recorded
        · rw [if_neg here] at stored
          split at stored <;> exact old stored
    | expired => cases last _ (List.mem_singleton_self _)
    | _ => exact old stored

end

end Service

end Runbook
