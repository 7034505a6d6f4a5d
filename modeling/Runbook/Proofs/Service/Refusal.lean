import Runbook.Service.Timeline

/-! A refused request leaves nothing behind.

A request can be refused in four places before its run is recorded. Only in the last of them is there
anything to undo: the session that was opened for the run is closed again.
-/

set_option autoImplicit false

namespace Runbook

open Device.Replay (Session Provider)

theorem Device.Replay.Provider.release_open {provider held : Provider} {device : DeviceId}
    {session : Session} (opened : provider.open_ device = .ok (session, held)) :
    (held.release session).2 = provider := by
  unfold open_ at opened
  by_cases unreachable : provider.unreachable.contains device = true
  · rw [if_pos unreachable] at opened
    cases opened
  · rw [if_neg unreachable] at opened
    by_cases taken : provider.isOpen device = true
    · rw [if_pos taken] at opened
      cases opened
    · rw [if_neg taken] at opened
      cases opened
      have absent : device ∉ provider.openDevices := by
        simpa only [isOpen, List.contains_iff_mem] using taken
      have others : provider.openDevices.filter (· != device) = provider.openDevices := by
        refine List.filter_eq_self.2 fun other member => bne_iff_ne.2 ?_
        rintro rfl
        exact absent member
      have removed : (provider.openDevices ++ [device]).filter (· != device) =
          provider.openDevices := by
        rw [List.filter_append, others, List.filter_cons_of_neg (by simp)]
        exact List.append_nil _
      exact congrArg (fun openDevices => { provider with openDevices }) removed

namespace Store.FaultyRuns

variable {store : FaultyRuns} {run : Run}

def created (store : FaultyRuns) (run : Run) : Except Error Runs :=
  match store.outages.create (store.creates + 1) with
  | some error => .error error
  | none => store.runs.create run

theorem create_eq (store : FaultyRuns) (run : Run) :
    store.create run = keep { store with creates := store.creates + 1 } (store.created run) := by
  simp only [create, created]
  cases store.outages.create (store.creates + 1) <;> rfl

theorem runs_of_create_error {error : Error} (failed : (store.create run).1 = .error error) :
    (store.create run).2.runs = store.runs := by
  rw [create_eq] at failed ⊢
  cases result : store.created run with
  | error error => rfl
  | ok runs =>
    rw [result] at failed
    cases failed

theorem get?_of_create_ok (succeeded : (store.create run).1 = .ok ()) :
    (store.create run).2.runs.get? run.id = some run := by
  rw [create_eq] at succeeded ⊢
  cases result : store.created run with
  | error error =>
    rw [result] at succeeded
    cases succeeded
  | ok runs =>
    have stored : store.runs.create run = .ok runs := by
      unfold created at result
      split at result
      · cases result
      · exact result
    unfold Runs.create at stored
    split at stored
    · cases stored
    · cases stored
      exact (Table.get?_insert _ _ _ _).trans (if_pos rfl)

end Store.FaultyRuns

namespace Service

/-! ### The last call of a service -/

/-- The service with these calls, and one more behind them. -/
def seat (calls : List Call) (call : Call) (service : Service) : Service :=
  { service with calls := calls ++ [call] }

section
variable {service after : Service} {calls : List Call} {call next : Call}

theorem seat_last : (service.seat calls call).calls[calls.length]? = some call :=
  List.getElem?_concat_length

theorem onCall_seat {change : Call → Service → Call × Service}
    (changed : change call (service.seat calls call) = (next, after.seat calls call)) :
    onCall change (service.seat calls call) calls.length = after.seat calls next := by
  have replaced : (calls ++ [call]).set calls.length next = calls ++ [next] := by
    rw [List.set_append_right _ _ (Nat.le_refl _), Nat.sub_self]
    rfl
  rw [onCall, seat_last]
  simp only [changed]
  exact congrArg (fun calls => { after with calls }) replaced

/-- A step of a call that is being prepared. -/
def prepareOnce (index : Nat) (service : Service) : Service :=
  match service.calls[index]? with
  | some call => if call.phase.isPreparing then service.step index else service
  | none => service

theorem prepare_eq (service : Service) (index : Nat) :
    service.prepare index =
      prepareOnce index (prepareOnce index (prepareOnce index (prepareOnce index service))) := rfl

theorem prepareOnce_seat (preparing : call.phase.isPreparing = true)
    (stepped : stepCall call (service.seat calls call) = (next, after.seat calls call)) :
    prepareOnce calls.length (service.seat calls call) = after.seat calls next := by
  rw [prepareOnce, seat_last]
  simp only [preparing, if_true]
  exact onCall_seat stepped

theorem prepareOnce_finished {request : Request} {result : Except Error Run} :
    prepareOnce calls.length (service.seat calls { request, phase := .finished result }) =
      service.seat calls { request, phase := .finished result } := by
  rw [prepareOnce, seat_last]
  rfl

end

/-! ### The steps of a preparation -/

def afterCreate (service : Service) (request : Request) : Service :=
  { (service.newRun request).2 with
    store := (service.store.create (service.newRun request).1).2 }

section
variable {service : Service} {calls : List Call} {request : Request} {workflow : Workflow}
  {session : Session} {held : Provider} {run : Run} {error : Error}

theorem lookUp_refused (invalid : service.validate request = .error error) :
    prepareOnce calls.length (service.seat calls { request }) =
      service.seat calls { request, phase := .finished (.error error) } := by
  have answer : (service.seat calls { request }).validate request = .error error := invalid
  exact prepareOnce_seat rfl (by simp only [stepCall, answer])

theorem lookUp_passed (valid : service.validate request = .ok workflow) :
    prepareOnce calls.length (service.seat calls { request }) =
      service.seat calls { request, phase := .open_ workflow } := by
  have answer : (service.seat calls { request }).validate request = .ok workflow := valid
  exact prepareOnce_seat rfl (by simp only [stepCall, answer])

theorem open_refused {cause : Device.Error}
    (unavailable : service.provider.open_ request.deviceId = .error cause) :
    prepareOnce calls.length (service.seat calls { request, phase := .open_ workflow }) =
      service.seat calls { request, phase := .finished (.error
        (.sessionUnavailable request.deviceId.text cause.message)) } := by
  refine prepareOnce_seat rfl ?_
  simp only [stepCall, seat, unavailable]

theorem open_passed (opened : service.provider.open_ request.deviceId = .ok (session, held)) :
    prepareOnce calls.length (service.seat calls { request, phase := .open_ workflow }) =
      ({ service with provider := held } : Service).seat calls
        { request, phase := .create workflow session } := by
  refine prepareOnce_seat rfl ?_
  simp only [stepCall, seat, opened]

theorem create_refused {cause : Store.Error}
    (failed : (service.store.create (service.newRun request).1).1 = .error cause) :
    prepareOnce calls.length (service.seat calls { request, phase := .create workflow session }) =
      (service.afterCreate request).seat calls
        { request, phase := .discard session (.persistence cause.message) } := by
  obtain ⟨⟨result, store⟩, created⟩ :
      ∃ created, service.store.create (service.newRun request).1 = created := ⟨_, rfl⟩
  rw [created] at failed
  cases failed
  refine prepareOnce_seat rfl ?_
  rw [afterCreate, created]
  simp only [newRun, now] at created
  simp only [stepCall, newRun, now, seat, created]

theorem create_passed
    (recorded : (service.store.create (service.newRun request).1).1 = .ok ()) :
    prepareOnce calls.length (service.seat calls { request, phase := .create workflow session }) =
      (service.afterCreate request).seat calls
        { request, phase := .register workflow (service.newRun request).1 session } := by
  obtain ⟨⟨result, store⟩, created⟩ :
      ∃ created, service.store.create (service.newRun request).1 = created := ⟨_, rfl⟩
  rw [created] at recorded
  cases recorded
  refine prepareOnce_seat rfl ?_
  rw [afterCreate, created]
  simp only [newRun, now] at created
  simp only [stepCall, newRun, now, seat, created]

theorem discarded :
    prepareOnce calls.length (service.seat calls { request, phase := .discard session error }) =
      ({ service with provider := (service.provider.release session).2 } : Service).seat calls
        { request, phase := .finished (.error error) } :=
  prepareOnce_seat rfl rfl

theorem registered :
    prepareOnce calls.length (service.seat calls { request, phase := .register workflow run session }) =
      ({ service with active := service.active.insert run.id false } : Service).seat calls
        { request, phase :=
          .drive run.id session (Execution.execute service.settings workflow run).run } :=
  prepareOnce_seat rfl rfl

end

/-! ### Refusals -/

/-- Why a request is refused while no run has been recorded for it. -/
inductive Refusal (service : Service) (request : Request) : Error → Prop
  | unknown : service.workflows.get? request.workflowId = none →
      Refusal service request (.notFound request.workflowId.text)
  | invalid {workflow : Workflow} {fault : Workflow.Fault} :
      service.workflows.get? request.workflowId = some workflow →
      workflow.validateInvocation request.parameters = .error fault →
      Refusal service request (.validation fault.message)
  | unavailable {workflow : Workflow} {cause : Device.Error} :
      service.validate request = .ok workflow →
      service.provider.open_ request.deviceId = .error cause →
      Refusal service request (.sessionUnavailable request.deviceId.text cause.message)
  | unrecorded {workflow : Workflow} {session : Session} {held : Provider} {cause : Store.Error} :
      service.validate request = .ok workflow →
      service.provider.open_ request.deviceId = .ok (session, held) →
      (service.store.create (service.newRun request).1).1 = .error cause →
      Refusal service request (.persistence cause.message)

/-- The same runs, sessions and announcements, and no call changed that there was before. What else may
differ is how often the clock was read and a creation was tried. -/
structure Untouched (before after : Service) : Prop where
  calls : before.calls <+: after.calls
  runs : after.store.runs = before.store.runs
  active : after.active = before.active
  provider : after.provider = before.provider
  events : after.events = before.events

section
variable {service : Service} {calls : List Call} {request : Request} {error : Error}

theorem Untouched.refl (service : Service) : Untouched service service :=
  ⟨List.prefix_rfl, rfl, rfl, rfl, rfl⟩

theorem Untouched.seat {after : Service} (untouched : Untouched service after) (call : Call) :
    Untouched service (after.seat service.calls call) :=
  ⟨List.prefix_append _ _, untouched.runs, untouched.active, untouched.provider, untouched.events⟩

theorem validate_of_unknown (unknown : service.workflows.get? request.workflowId = none) :
    service.validate request = .error (.notFound request.workflowId.text) := by
  simp only [validate, getWorkflow, unknown]
  rfl

theorem validate_of_known {workflow : Workflow}
    (known : service.workflows.get? request.workflowId = some workflow) :
    service.validate request = match workflow.validateInvocation request.parameters with
      | .ok () => .ok workflow
      | .error fault => .error (.validation fault.message) := by
  simp only [validate, getWorkflow, known, bind, Except.bind]
  cases workflow.validateInvocation request.parameters <;> rfl

theorem Refusal.of_validate (rejected : service.validate request = .error error) :
    Refusal service request error := by
  cases found : service.workflows.get? request.workflowId with
  | none =>
    rw [validate_of_unknown found] at rejected
    cases rejected
    exact .unknown found
  | some workflow =>
    rw [validate_of_known found] at rejected
    cases checked : workflow.validateInvocation request.parameters with
    | ok u =>
      rw [checked] at rejected
      cases rejected
    | error fault =>
      rw [checked] at rejected
      cases rejected
      exact .invalid found checked

theorem Refusal.prepare (refusal : Refusal service request error) (calls : List Call) :
    ∃ after, (service.seat calls { request }).prepare calls.length =
        after.seat calls { request, phase := .finished (.error error) } ∧ Untouched service after := by
  cases refusal with
  | unknown unknown =>
    refine ⟨service, ?_, .refl service⟩
    rw [prepare_eq, lookUp_refused (validate_of_unknown unknown)]
    simp only [prepareOnce_finished]
  | invalid known fault =>
    have rejected := validate_of_known known
    rw [fault] at rejected
    refine ⟨service, ?_, .refl service⟩
    rw [prepare_eq, lookUp_refused rejected]
    simp only [prepareOnce_finished]
  | unavailable valid unavailable =>
    refine ⟨service, ?_, .refl service⟩
    rw [prepare_eq, lookUp_passed valid, open_refused unavailable]
    simp only [prepareOnce_finished]
  | @unrecorded workflow session held cause valid opened failed =>
    -- Here a session was opened, and one more step closes it.
    let holding : Service := { service with provider := held }
    have tried : (holding.store.create (holding.newRun request).1).1 = .error cause := failed
    refine ⟨{ holding.afterCreate request with provider := (held.release session).2 }, ?_, ?_⟩
    · rw [prepare_eq, lookUp_passed valid, open_passed opened, create_refused tried]
      exact discarded
    · exact ⟨List.prefix_rfl, Store.FaultyRuns.runs_of_create_error failed, rfl,
        Provider.release_open opened, rfl⟩

theorem prepare_of_unrefused (unrefused : ∀ error, ¬Refusal service request error) (calls : List Call) :
    ∃ (after : Service) (session : Session) (rest : Execution.Procedure (Except Error Run)),
      (service.seat calls { request }).prepare calls.length =
        after.seat calls { request, phase := .drive (service.newRun request).1.id session rest } ∧
      after.store.runs.get? (service.newRun request).1.id = some (service.newRun request).1 := by
  cases validated : service.validate request with
  | error error => exact absurd (.of_validate validated) (unrefused _)
  | ok workflow =>
    cases opening : service.provider.open_ request.deviceId with
    | error cause => exact absurd (.unavailable validated opening) (unrefused _)
    | ok opened =>
      obtain ⟨session, held⟩ := opened
      cases creation : (service.store.create (service.newRun request).1).1 with
      | error cause => exact absurd (.unrecorded validated opening creation) (unrefused _)
      | ok u =>
        let holding : Service := { service with provider := held }
        have recorded : (holding.store.create (holding.newRun request).1).1 = .ok () := creation
        have prepared := prepare_eq (service.seat calls { request }) calls.length
        rw [lookUp_passed validated, open_passed opening, create_passed recorded, registered] at prepared
        exact ⟨_, session, _, prepared, Store.FaultyRuns.get?_of_create_ok creation⟩

/-! ### Calls that are refused -/

theorem accept_eq (service : Service) (request : Request) :
    service.accept request = (service.calls.length, service.seat service.calls { request }) := rfl

theorem execute_of_prepare {after : Service} {result : Except Error Run}
    (prepared : (service.seat service.calls { request }).prepare service.calls.length =
      after.seat service.calls { request, phase := .finished result }) :
    service.execute request =
      (some result, after.seat service.calls { request, phase := .finished result }) := by
  -- What is finished goes on to nothing.
  have driven : driveWhile (fun _ => true)
      (after.seat service.calls { request, phase := .finished result }) service.calls.length =
      after.seat service.calls { request, phase := .finished result } := onCall_seat rfl
  have unwound : (after.seat service.calls { request, phase := .finished result }).windUp
      service.calls.length = after.seat service.calls { request, phase := .finished result } := by
    have ended : (Phase.finished result).isEnding = false := rfl
    simp only [windUp, seat_last, ended, Bool.false_eq_true, if_false]
  have answer : (after.seat service.calls { request, phase := .finished result }).resultOf?
      service.calls.length = some result := by
    rw [resultOf?, seat_last]
    rfl
  simp only [execute, accept_eq, prepared, driven, unwound, answer]

end

end Service

namespace Timeline

variable {timeline : Timeline} {request : Request} {after : Service}

theorem spawn_of_refused {error : Error}
    (prepared : (timeline.service.seat timeline.service.calls { request }).prepare
      timeline.service.calls.length =
        after.seat timeline.service.calls { request, phase := .finished (.error error) }) :
    timeline.spawn request = (some (.error error), { timeline with
      service := after.seat timeline.service.calls
        { request, phase := .finished (.error error) } }) := by
  simp only [spawn, Service.accept_eq, prepared, Service.startedRun?, Service.seat_last, Option.map_some]

theorem spawn_of_recorded {run : RunId} {session : Session}
    {rest : Execution.Procedure (Except Error Run)}
    (prepared : (timeline.service.seat timeline.service.calls { request }).prepare
      timeline.service.calls.length =
        after.seat timeline.service.calls { request, phase := .drive run session rest }) :
    (timeline.spawn request).1 = some (.ok run) ∧
      (timeline.spawn request).2.service.store = after.store := by
  simp only [spawn, Service.accept_eq, prepared, Service.startedRun?, Service.seat_last, Option.map_some,
    true_and]
  rfl

/-- A request that is refused before its run is recorded leaves everything as it was, whatever else is
going on. Any other has its run recorded. -/
theorem refusal_leaves_no_trace (timeline : Timeline) (request : Request) :
    let service := timeline.service
    (∀ error, service.Refusal request error →
      (service.execute request).1 = some (.error error) ∧
        service.Untouched (service.execute request).2 ∧
      (timeline.spawn request).1 = some (.error error) ∧
        service.Untouched (timeline.spawn request).2.service ∧
        (timeline.spawn request).2.waiting = timeline.waiting ∧
        (timeline.spawn request).2.unclaimed = timeline.unclaimed) ∧
    ((∀ error, ¬service.Refusal request error) →
      ∃ run, (timeline.spawn request).1 = some (.ok run.id) ∧
        (timeline.spawn request).2.service.store.runs.get? run.id = some run) := by
  intro service
  constructor
  · intro error refusal
    obtain ⟨after, prepared, untouched⟩ := refusal.prepare service.calls
    rw [Service.execute_of_prepare prepared, spawn_of_refused prepared]
    exact ⟨rfl, untouched.seat _, rfl, untouched.seat _, rfl, rfl⟩
  · intro unrefused
    obtain ⟨after, session, rest, prepared, recorded⟩ :=
      Service.prepare_of_unrefused unrefused service.calls
    obtain ⟨answer, store⟩ := spawn_of_recorded prepared
    exact ⟨_, answer, store ▸ recorded⟩

/-! A service whose store fails, while a session to another device is open. -/

def failing : Timeline where
  service :=
    { workflows := .ofList [{
        id := ⟨"probe", by decide⟩, name := "Probe", preCheck := [{ template := "show" }] }]
      store := { outages := Store.Outages.none.everyCreate (.storage "disk full") }
      provider := { openDevices := [⟨"edge"⟩], transcript := [⟨⟨"edge"⟩, "show"⟩] } }

def probe : Request where
  workflowId := ⟨"probe", by decide⟩
  deviceId := ⟨"core"⟩

theorem refusal_leaves_no_trace_when_unrecorded :
    ∃ message, (failing.spawn probe).1 = some (.error (.persistence message)) ∧
      (failing.spawn probe).2.service.provider.openDevices = [⟨"edge"⟩] ∧
      (failing.spawn probe).2.service.store.runs.isEmpty = true := by
  obtain ⟨workflow, valid⟩ : ∃ workflow, failing.service.validate probe = .ok workflow :=
    ⟨_, rfl⟩
  obtain ⟨⟨session, held⟩, opened⟩ :
      ∃ opened, failing.service.provider.open_ probe.deviceId = .ok opened := ⟨_, rfl⟩
  obtain ⟨cause, failed⟩ : ∃ cause,
      (failing.service.store.create (failing.service.newRun probe).1).1 = .error cause := ⟨_, rfl⟩
  obtain ⟨-, -, answer, untouched, -⟩ :=
    (refusal_leaves_no_trace failing probe).1 _ (.unrecorded valid opened failed)
  refine ⟨cause.message, answer, ?_, ?_⟩
  · rw [untouched.provider]
    rfl
  · rw [untouched.runs]
    rfl

end Timeline

end Runbook
