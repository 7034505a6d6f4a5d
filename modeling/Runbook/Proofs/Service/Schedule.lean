import Runbook.Proofs.Execution.Moment
import Runbook.Proofs.Service.Interleaving

/-! What a service does at once it does in steps.

To prepare a call, to drive its run on and to wind it up are steps of that call, one after the other. So
what is done with a service is always some history, whether it is done inline or by a timeline.
-/

set_option autoImplicit false

namespace Runbook

open Execution (Procedure)

namespace Execution.Procedure

variable {α σ : Type} (world : World σ)

def isDone : Procedure α → Bool
  | .done _ => true
  | _ => false

theorem exists_after_of_runWhile (go : σ → Bool) (p : Procedure α) (s : σ) :
    ∃ number, p.runWhile world go s = after world number p s ∧
      ∀ fewer < number, (after world fewer p s).1.isDone = false := by
  -- One request more, before which the procedure is not done.
  have next {p : Procedure α} {s : σ} (open_ : p.isDone = false) {result : Procedure α × σ}
      (later : ∃ number, result = after world number (p.step world s).1 (p.step world s).2 ∧
        ∀ fewer < number,
          (after world fewer (p.step world s).1 (p.step world s).2).1.isDone = false) :
      ∃ number, result = after world number p s ∧
        ∀ fewer < number, (after world fewer p s).1.isDone = false := by
    obtain ⟨number, same, before⟩ := later
    refine ⟨number + 1, same, fun fewer less => ?_⟩
    cases fewer with
    | zero => exact open_
    | succ fewer => exact before fewer (Nat.lt_of_succ_lt_succ less)
  have stop (p : Procedure α) (s : σ) : ∃ number, (p, s) = after world number p s ∧
      ∀ fewer < number, (after world fewer p s).1.isDone = false := ⟨0, rfl, nofun⟩
  induction p generalizing s with
  | done a => exact stop _ s
  | send command timeout rest ih =>
    rw [runWhile]
    split
    · exact next rfl (ih _ _)
    · exact stop _ s
  | poll rest ih =>
    rw [runWhile]
    split
    · exact next rfl (ih _ _)
    · exact stop _ s
  | clock rest ih =>
    rw [runWhile]
    split
    · exact next rfl (ih _ _)
    · exact stop _ s
  | update run rest ih =>
    rw [runWhile]
    split
    · exact next rfl (ih _ _)
    · exact stop _ s
  | announce kind run rest ih =>
    rw [runWhile]
    split
    · exact next rfl (ih _)
    · exact stop _ s

theorem runWhile_true (p : Procedure α) (s : σ) :
    p.runWhile world (fun _ => true) s = (.done (p.runIn world s).1, (p.runIn world s).2) := by
  induction p generalizing s with
  | done a => rfl
  | send command timeout rest ih => exact ih _ _
  | poll rest ih => exact ih _ _
  | clock rest ih => exact ih _ _
  | update run rest ih => exact ih _ _
  | announce kind run rest ih => exact ih _

end Execution.Procedure

namespace Service

theorem follow_append (service : Service) (schedule later : List Nat) :
    service.follow (schedule ++ later) = (service.follow schedule).follow later :=
  List.foldl_append

theorem after_map_goOn (service : Service) (schedule : List Nat) :
    service.after (schedule.map .goOn) = service.follow schedule :=
  List.foldl_map

def Proceeds (index : Nat) (service after : Service) : Prop :=
  ∃ number, after = service.follow (List.replicate number index)

section
variable {index : Nat} {service middle after : Service}

theorem Proceeds.refl (index : Nat) (service : Service) : Proceeds index service service :=
  ⟨0, rfl⟩

theorem Proceeds.trans (first : Proceeds index service middle)
    (second : Proceeds index middle after) : Proceeds index service after := by
  obtain ⟨number, rfl⟩ := first
  obtain ⟨more, rfl⟩ := second
  exact ⟨number + more, by rw [← List.replicate_append_replicate, follow_append]⟩

theorem Proceeds.step (index : Nat) (service : Service) :
    Proceeds index service (service.step index) :=
  ⟨1, rfl⟩

/-! ### Preparing and winding up -/

theorem proceeds_prepareOnce (index : Nat) (service : Service) :
    Proceeds index service (prepareOnce index service) := by
  unfold prepareOnce
  cases service.calls[index]? with
  | none => exact .refl index service
  | some call =>
    simp only
    split
    · exact .step index service
    · exact .refl index service

theorem proceeds_prepare (index : Nat) (service : Service) :
    Proceeds index service (service.prepare index) := by
  rw [prepare_eq]
  exact (proceeds_prepareOnce index _).trans ((proceeds_prepareOnce index _).trans
    ((proceeds_prepareOnce index _).trans (proceeds_prepareOnce index _)))

def windUpOnce (index : Nat) (service : Service) : Service :=
  match service.calls[index]? with
  | some call => if call.phase.isEnding then service.step index else service
  | none => service

theorem windUp_eq (service : Service) (index : Nat) :
    service.windUp index = windUpOnce index (windUpOnce index (windUpOnce index service)) := rfl

theorem proceeds_windUpOnce (index : Nat) (service : Service) :
    Proceeds index service (windUpOnce index service) := by
  unfold windUpOnce
  cases service.calls[index]? with
  | none => exact .refl index service
  | some call =>
    simp only
    split
    · exact .step index service
    · exact .refl index service

theorem proceeds_windUp (index : Nat) (service : Service) :
    Proceeds index service (service.windUp index) := by
  rw [windUp_eq]
  exact (proceeds_windUpOnce index _).trans
    ((proceeds_windUpOnce index _).trans (proceeds_windUpOnce index _))

end

/-! ### Driving a run on -/

/-- A view with other calls around it. -/
def View.withCalls (calls : List Call) (view : View) : View :=
  { view with service := { view.service with calls } }

def Call.driving (call : Call) (run : RunId) (moment : Procedure (Except Error Run) × View) : Call :=
  { call with phase := .drive run moment.2.session moment.1, due := moment.2.due }

/-- A service in which the run of a call has come to a moment. -/
def at_ (calls : List Call) (index : Nat) (call : Call) (run : RunId)
    (moment : Procedure (Except Error Run) × View) : Service :=
  { moment.2.service with calls := calls.set index (call.driving run moment) }

/-- A step of a run does not see the calls, nor change them. -/
theorem stepCall_driving {call : Call} {run : RunId} {calls : List Call}
    {moment : Procedure (Except Error Run) × View} (open_ : moment.1.isDone = false) :
    stepCall (call.driving run moment) (moment.2.withCalls calls).service =
      (call.driving run (moment.1.step (world run) moment.2),
        ((moment.1.step (world run) moment.2).2.withCalls calls).service) := by
  obtain ⟨rest, view⟩ := moment
  cases rest with
  | done result => cases open_
  | send => rfl
  | poll => rfl
  | clock => rfl
  | update => rfl
  | announce => rfl

section
variable {service : Service} {index : Nat} {call : Call} {run : RunId}

theorem step_at {calls : List Call} {moment : Procedure (Except Error Run) × View}
    (inside : index < calls.length) (open_ : moment.1.isDone = false) :
    (at_ calls index call run moment).step index =
      at_ calls index call run (moment.1.step (world run) moment.2) := by
  have found : (at_ calls index call run moment).calls[index]? = some (call.driving run moment) :=
    List.getElem?_set_self inside
  have stepped : stepCall (call.driving run moment) (at_ calls index call run moment) = _ :=
    stepCall_driving open_
  rw [step, onCall, found]
  simp only [stepped]
  simp only [at_, View.withCalls, List.set_set]

theorem follow_at {calls : List Call} {moment : Procedure (Except Error Run) × View}
    (inside : index < calls.length) (number : Nat)
    (open_ : ∀ fewer < number,
      (Procedure.after (world run) fewer moment.1 moment.2).1.isDone = false) :
    (at_ calls index call run moment).follow (List.replicate number index) =
      at_ calls index call run (Procedure.after (world run) number moment.1 moment.2) := by
  induction number with
  | zero => rfl
  | succ number ih =>
    have before := ih fun fewer less => open_ fewer (Nat.lt_succ_of_lt less)
    rw [List.replicate_succ', follow_append, before, Procedure.after_succ]
    exact step_at inside (open_ number (Nat.lt_succ_self number))

theorem calls_after {α : Type} (run : RunId) (number : Nat) (p : Procedure α) (view : View) :
    (Procedure.after (world run) number p view).2.service.calls = view.service.calls := by
  induction number generalizing p view with
  | zero => rfl
  | succ number ih =>
    rw [Procedure.after, ih]
    cases p <;> rfl

theorem proceeds_driveWhile (go : View → Bool) (service : Service) (index : Nat) :
    Proceeds index service (driveWhile go service index) := by
  rw [driveWhile, onCall]
  cases found : service.calls[index]? with
  | none => exact .refl index service
  | some call =>
    obtain ⟨inside, entry⟩ := List.getElem?_eq_some_iff.1 found
    have unchanged : service.calls.set index call = service.calls :=
      entry ▸ List.set_getElem_self inside
    cases phase : call.phase with
    | drive run session rest =>
      obtain ⟨number, same, open_⟩ := Procedure.exists_after_of_runWhile (world run) go rest
        ⟨service, session, call.due⟩
      have start : at_ service.calls index call run (rest, ⟨service, session, call.due⟩) = service := by
        have own : call.driving run (rest, ⟨service, session, call.due⟩) = call := by
          rw [Call.driving, ← phase]
        rw [at_, own, unchanged]
      refine ⟨number, ?_⟩
      have steps : (at_ service.calls index call run (rest, ⟨service, session, call.due⟩)).follow
          (List.replicate number index) = _ := follow_at inside number open_
      rw [start] at steps
      rw [steps, at_, ← calls_after run number rest ⟨service, session, call.due⟩, ← same]
      simp only [phase]
      rfl
    | _ =>
      refine ⟨0, ?_⟩
      simp only [phase, unchanged]
      rfl

end

/-! ### Whole requests -/

def finish (service : Service) (index : Nat) : Service :=
  (driveWhile (fun _ => true) service index).windUp index

theorem proceeds_finish (service : Service) (index : Nat) :
    Proceeds index service (service.finish index) :=
  (proceeds_driveWhile _ _ _).trans (proceeds_windUp _ _)

section
variable (service : Service) (request : Request)

theorem execute_eq : service.execute request =
    ((((service.accept request).2.prepare service.calls.length).finish service.calls.length).resultOf?
        service.calls.length,
      ((service.accept request).2.prepare service.calls.length).finish service.calls.length) := by
  rw [finish, execute]
  rfl

theorem fst_execute :
    (service.execute request).1 = (service.execute request).2.resultOf? service.calls.length := by
  rw [execute_eq]

/-- A request that is carried out inline is one call, which goes on without the others: first until it is
prepared, then to its end. -/
theorem exists_history_of_execute :
    ∃ first more, (service.accept request).2.prepare service.calls.length =
        service.after (.accept request :: List.replicate first (.goOn service.calls.length)) ∧
      (service.execute request).2 = service.after
        (.accept request :: List.replicate first (.goOn service.calls.length) ++
          List.replicate more (.goOn service.calls.length)) := by
  obtain ⟨first, prepared⟩ := proceeds_prepare service.calls.length (service.accept request).2
  obtain ⟨more, ended⟩ := proceeds_finish
    ((service.accept request).2.prepare service.calls.length) service.calls.length
  have accepted : service.after (.accept request :: List.replicate first (.goOn service.calls.length)) =
      (service.accept request).2.prepare service.calls.length := by
    rw [prepared, ← after_map_goOn, List.map_replicate]
    rfl
  refine ⟨first, more, accepted.symm, ?_⟩
  rw [after_append, accepted, execute_eq, ended, ← after_map_goOn, List.map_replicate]

variable {service} in
theorem driveWhile_true {calls : List Call} {call : Call} {run : RunId}
    {session : Device.Replay.Session} {rest : Procedure (Except Error Run)}
    (driving : call.phase = .drive run session rest) :
    ∃ (after : Service) (used : Device.Replay.Session) (result : Except Error Run) (due : Nat),
      driveWhile (fun _ => true) (service.seat calls call) calls.length =
        after.seat calls { call with phase := .drive run used (.done result), due } := by
  let view : View := ⟨service.seat calls call, session, call.due⟩
  obtain ⟨⟨result, after⟩, ended⟩ : ∃ ended, rest.runIn (world run) view = ended := ⟨_, rfl⟩
  have whole := Procedure.runWhile_true (world run) rest view
  rw [ended] at whole
  have unchanged : after.service.calls = calls ++ [call] := by
    obtain ⟨number, same, -⟩ :=
      Procedure.exists_after_of_runWhile (world run) (fun _ => true) rest view
    have kept := calls_after run number rest view
    rwa [← same, whole] at kept
  refine ⟨after.service, after.session, result, after.due, onCall_seat ?_⟩
  simp only [driving, drive]
  rw [whole, seat, ← unchanged]

variable {service} in
theorem windUp_of_done {calls : List Call} {call : Call} {run : RunId}
    {session : Device.Replay.Session} {result : Except Error Run}
    (driving : call.phase = .drive run session (.done result)) :
    ∃ after : Service, (service.seat calls call).windUp calls.length =
      after.seat calls { call with phase := .finished result } := by
  have once {service after : Service} {call next : Call} (ending : call.phase.isEnding = true)
      (stepped : stepCall call (service.seat calls call) = (next, after.seat calls call)) :
      windUpOnce calls.length (service.seat calls call) = after.seat calls next := by
    rw [windUpOnce, seat_last]
    simp only [ending, if_true]
    exact onCall_seat stepped
  obtain ⟨request, phase, due⟩ := call
  cases driving
  rw [windUp_eq]
  rw [@once service (service.waitUntil due) _ { request, phase := .close run session result, due } rfl rfl]
  rw [@once _ { service.waitUntil due with provider := (service.provider.release session).2 } _
    { request, phase := .unregister run result, due } rfl rfl]
  exact ⟨_, @once _ { service.waitUntil due with
    provider := (service.provider.release session).2, active := service.active.erase run } _ _ rfl rfl⟩

theorem exists_result_of_execute : ∃ result, (service.execute request).1 = some result := by
  by_cases refused : ∃ error, service.Refusal request error
  · obtain ⟨error, refusal⟩ := refused
    obtain ⟨after, prepared, -⟩ := refusal.prepare service.calls
    exact ⟨_, congrArg Prod.fst (execute_of_prepare prepared)⟩
  · obtain ⟨after, session, rest, prepared, -⟩ :=
      prepare_of_unrefused (fun error refusal => refused ⟨error, refusal⟩) service.calls
    obtain ⟨driven, used, result, due, done⟩ := @driveWhile_true after service.calls
      { request, phase := .drive (service.newRun request).1.id session rest } _ _ _ rfl
    obtain ⟨unwound, finished⟩ := @windUp_of_done driven service.calls
      { request, phase := .drive (service.newRun request).1.id used (.done result), due } _ _ _ rfl
    refine ⟨result, ?_⟩
    rw [execute, accept_eq]
    simp only [prepared, done, finished, resultOf?, seat_last]
    rfl

end

/-! ### The timeline -/

/-- What may happen to a service while nobody asks for a cancellation and no run is deleted. -/
def Event.isPlain : Event → Bool
  | .cancel _ | .deleteExpired _ => false
  | _ => true

/-- What plain events can make of a service. -/
def Evolves (service after : Service) : Prop :=
  ∃ events, (∀ event ∈ events, event.isPlain = true) ∧ after = service.after events

namespace Evolves

variable {service middle after : Service}

theorem refl (service : Service) : Evolves service service :=
  ⟨[], nofun, rfl⟩

theorem trans (first : Evolves service middle) (second : Evolves middle after) :
    Evolves service after := by
  obtain ⟨events, plain, rfl⟩ := first
  obtain ⟨later, alsoPlain, rfl⟩ := second
  exact ⟨events ++ later, List.forall_mem_append.2 ⟨plain, alsoPlain⟩, (after_append ..).symm⟩

theorem accept (service : Service) (request : Request) :
    Evolves service (service.accept request).2 :=
  ⟨[.accept request], List.forall_mem_singleton.2 rfl, rfl⟩

theorem wait (service : Service) (millis : Nat) : Evolves service (service.waitUntil millis) :=
  ⟨[.wait millis], List.forall_mem_singleton.2 rfl, rfl⟩

theorem of_proceeds {index : Nat} (proceeds : Proceeds index service after) :
    Evolves service after := by
  obtain ⟨number, rfl⟩ := proceeds
  refine ⟨(List.replicate number index).map .goOn, ?_, (after_map_goOn ..).symm⟩
  exact List.forall_mem_map.2 fun _ _ => rfl

theorem execute (service : Service) (request : Request) :
    Evolves service (service.execute request).2 := by
  have proceeds := (proceeds_prepare service.calls.length (service.accept request).2).trans
    (proceeds_finish _ service.calls.length)
  have evolves := (Evolves.accept service request).trans (.of_proceeds proceeds)
  rwa [execute_eq]

end Evolves

end Service

namespace Timeline

open Service (Evolves)

theorem evolves_spawn (timeline : Timeline) (request : Request) :
    Evolves timeline.service (timeline.spawn request).2.service := by
  have evolves : Evolves timeline.service
      ((timeline.service.accept request).2.prepare timeline.service.calls.length) :=
    (Evolves.accept _ request).trans (.of_proceeds (Service.proceeds_prepare _ _))
  simp only [spawn]
  split <;> exact evolves

theorem evolves_settle (timeline : Timeline) (index : Nat) :
    Evolves timeline.service (timeline.settle index).service :=
  .of_proceeds ((Service.proceeds_driveWhile _ _ _).trans (Service.proceeds_windUp _ _))

theorem evolves_goOn (horizon : Option Nat) (timeline : Timeline) (fuel : Nat) :
    Evolves timeline.service (timeline.goOn horizon fuel).service := by
  induction fuel generalizing timeline with
  | zero => exact .refl _
  | succ fuel ih =>
    rw [goOn]
    split
    · exact (evolves_settle timeline _).trans (ih _)
    · split
      · exact .refl _
      · split
        · exact (Evolves.wait _ _).trans (ih _)
        · exact .refl _

theorem evolves_advance (timeline : Timeline) (millis : Nat) :
    Evolves timeline.service (timeline.advance millis).service :=
  (evolves_goOn _ timeline _).trans (.wait _ _)

theorem evolves_join (timeline : Timeline) :
    Evolves timeline.service timeline.join.2.service :=
  evolves_goOn none timeline timeline.turns

end Timeline

end Runbook
