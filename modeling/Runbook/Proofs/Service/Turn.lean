import Runbook.Proofs.Device.Occupation
import Runbook.Proofs.Execution.Itinerary
import Runbook.Proofs.Service.Refusal

/-! What a call can do when it goes on.

Each step of a call is one of its turns. The devices, the store and the runs in progress see but a part of
it, and each of them gets a view of its own.
-/

set_option autoImplicit false

namespace Runbook

namespace Store.FaultyRuns

theorem outages_create (store : FaultyRuns) (run : Run) :
    (store.create run).2.outages = store.outages := by
  rw [create_eq]
  cases store.created run <;> rfl

theorem outages_update (store : FaultyRuns) (run : Run) :
    (store.update run).2.outages = store.outages := by
  simp only [update]
  cases store.outages.update (store.updates + 1) with
  | some cause => rfl
  | none => cases store.runs.update run <;> rfl

end Store.FaultyRuns

namespace Service

open Device.Replay (Session Provider)
open Execution (Exchange Procedure)
open Notification (EventKind)

/-! ### The turns of a call -/

def recorded? (service : Service) (call : Call) : Option Run :=
  match call.phase with
  | .create _ _ =>
    match (service.store.create (service.newRun call.request).1).1 with
    | .ok () => some (service.newRun call.request).1
    | .error _ => none
  | _ => none

def exchange? (service : Service) (call : Call) : Option Exchange :=
  match call.phase with
  | .drive run session rest =>
    (rest.dialogue (world run) { service, session, due := call.due }).head?
  | _ => none

/-- All that a call can do when it goes on: the run that it records, what it asks, and what becomes of it
and of the service around it. -/
inductive Turn (service : Service) (call : Call) :
    Option Run → Option Exchange → Call → Service → Prop
  | rejected {error : Error} :
      call.phase = .lookUp → service.validate call.request = .error error →
      Turn service call none none { call with phase := .finished (.error error) } service
  | checked {workflow : Workflow} :
      call.phase = .lookUp → service.validate call.request = .ok workflow →
      Turn service call none none { call with phase := .open_ workflow } service
  | refused {workflow : Workflow} {cause : Device.Error} :
      call.phase = .open_ workflow →
      service.provider.open_ call.request.deviceId = .error cause →
      Turn service call none none { call with phase := .finished (.error
        (.sessionUnavailable call.request.deviceId.text cause.message)) } service
  | opened {workflow : Workflow} {session : Session} {provider : Provider} :
      call.phase = .open_ workflow →
      service.provider.open_ call.request.deviceId = .ok (session, provider) →
      Turn service call none none { call with phase := .create workflow session }
        { service with provider }
  | unrecorded {workflow : Workflow} {session : Session} {cause : Store.Error} :
      call.phase = .create workflow session →
      (service.store.create (service.newRun call.request).1).1 = .error cause →
      Turn service call none none
        { call with phase := .discard session (.persistence cause.message) }
        (service.afterCreate call.request)
  | recorded {workflow : Workflow} {session : Session} :
      call.phase = .create workflow session →
      (service.store.create (service.newRun call.request).1).1 = .ok () →
      Turn service call (some (service.newRun call.request).1) none
        { call with phase := .register workflow (service.newRun call.request).1 session }
        (service.afterCreate call.request)
  | discarded {session : Session} {error : Error} :
      call.phase = .discard session error →
      Turn service call none none { call with phase := .finished (.error error) }
        { service with provider := (service.provider.release session).2 }
  | registered {workflow : Workflow} {run : Run} {session : Session} :
      call.phase = .register workflow run session →
      Turn service call none none
        { call with
          phase := .drive run.id session (Execution.execute service.settings workflow run).run }
        { service with active := service.active.insert run.id false }
  | sent {run : RunId} {session heard : Session} {command : String} {timeout : UInt64}
      {next : Device.Reply → Procedure (Except Error Run)} {answer : Device.Replay.Answer}
      {provider : Provider} :
      call.phase = .drive run session (.send command timeout next) →
      service.provider.send session command = (answer, heard, provider) →
      Turn service call none (some (.sent command timeout (answer.within timeout).reply))
        { call with
          phase := .drive run heard (next (answer.within timeout).reply)
          due := (service.waitUntil call.due).elapsedMillis +
            (answer.within timeout).delayMillis.toNat }
        { service.waitUntil call.due with provider }
  | polled {run : RunId} {session : Session} {next : Bool → Procedure (Except Error Run)} :
      call.phase = .drive run session (.poll next) →
      Turn service call none (some (.polled (service.isCancelled run)))
        { call with phase := .drive run session (next (service.isCancelled run)) }
        (service.waitUntil call.due)
  | read {run : RunId} {session : Session}
      {next : Time.Instant → Procedure (Except Error Run)} :
      call.phase = .drive run session (.clock next) →
      Turn service call none (some (.read (service.waitUntil call.due).now.1))
        { call with phase := .drive run session (next (service.waitUntil call.due).now.1) }
        (service.waitUntil call.due).now.2
  | stored {run : RunId} {session : Session} {record : Run}
      {next : Except Store.Error Unit → Procedure (Except Error Run)} :
      call.phase = .drive run session (.update record next) →
      Turn service call none (some (.stored record (service.store.update record).1))
        { call with phase := .drive run session (next (service.store.update record).1) }
        { service.waitUntil call.due with store := (service.store.update record).2 }
  | announced {run : RunId} {session : Session} {kind : EventKind} {record : Run}
      {next : Procedure (Except Error Run)} :
      call.phase = .drive run session (.announce kind record next) →
      Turn service call none (some (.announced kind record))
        { call with phase := .drive run session next }
        { service.waitUntil call.due with events := service.events ++ [(kind, record)] }
  | returned {run : RunId} {session : Session} {result : Except Error Run} :
      call.phase = .drive run session (.done result) →
      Turn service call none none { call with phase := .close run session result }
        (service.waitUntil call.due)
  | closed {run : RunId} {session : Session} {result : Except Error Run} :
      call.phase = .close run session result →
      Turn service call none none { call with phase := .unregister run result }
        { service with provider := (service.provider.release session).2 }
  | unregistered {run : RunId} {result : Except Error Run} :
      call.phase = .unregister run result →
      Turn service call none none { call with phase := .finished result }
        { service with active := service.active.erase run }
  | idle {result : Except Error Run} :
      call.phase = .finished result → Turn service call none none call service

theorem turn_stepCall (service : Service) (call : Call) :
    Turn service call (service.recorded? call) (service.exchange? call) (stepCall call service).1
      (stepCall call service).2 := by
  obtain ⟨request, phase, due⟩ := call
  cases phase with
  | lookUp =>
    cases checked : service.validate request with
    | ok workflow =>
      simp only [stepCall, checked]
      exact .checked rfl checked
    | error error =>
      simp only [stepCall, checked]
      exact .rejected rfl checked
  | open_ workflow =>
    cases opening : service.provider.open_ request.deviceId with
    | ok opened =>
      simp only [stepCall, opening]
      exact .opened rfl opening
    | error cause =>
      simp only [stepCall, opening]
      exact .refused rfl opening
  | create workflow session =>
    -- The answer of the store decides which turn this is, so it is named before the step is opened.
    obtain ⟨⟨result, store⟩, created⟩ :
        ∃ created, service.store.create (service.newRun request).1 = created := ⟨_, rfl⟩
    have kept : service.afterCreate request = { (service.newRun request).2 with store } := by
      rw [afterCreate, created]
    have answered : (service.store.create (service.newRun request).1).1 = result := by rw [created]
    have same : (service.newRun request).2.store.create (service.newRun request).1 =
        (result, store) := created
    cases result with
    | ok u =>
      simp only [stepCall, recorded?, exchange?, answered, same, ← kept]
      exact .recorded rfl answered
    | error cause =>
      simp only [stepCall, recorded?, exchange?, answered, same, ← kept]
      exact .unrecorded rfl answered
  | discard session error => exact .discarded rfl
  | register workflow run session => exact .registered rfl
  | drive run session rest =>
    cases rest with
    | done result => exact .returned rfl
    | send command timeout next => exact .sent rfl rfl
    | poll next => exact .polled rfl
    | clock next => exact .read rfl
    | update record next => exact .stored rfl
    | announce kind record next => exact .announced rfl
  | close run session result => exact .closed rfl
  | unregister run result => exact .unregistered rfl
  | finished result => exact .idle rfl

/-! ### What a turn leaves as it is -/

/-- What a service is set up with. -/
structure Configuration where
  settings : Execution.Settings
  workflows : Store.Workflows
  stock : Device.Script × Table DeviceId Device.Script × List DeviceId
  outages : Store.Outages

def configuration (service : Service) : Configuration where
  settings := service.settings
  workflows := service.workflows
  stock := service.provider.stock
  outages := service.store.outages

section
variable {service after : Service} {call next : Call} {recorded : Option Run}
  {exchange : Option Exchange}

theorem Turn.request (turn : Turn service call recorded exchange next after) :
    next.request = call.request := by
  cases turn <;> rfl

theorem Turn.calls (turn : Turn service call recorded exchange next after) :
    after.calls = service.calls := by
  cases turn <;> rfl

/-! ### What a turn does to the devices, the store and the runs in progress -/

namespace Phase

def session? : Phase → Option Session
  | .create _ session | .discard session _ | .register _ _ session | .drive _ session _
  | .close _ session _ => some session
  | _ => none

def active? : Phase → Option RunId
  | .drive run _ _ | .close run _ _ | .unregister run _ => some run
  | _ => none

end Phase

/-- A turn as the devices see it. -/
inductive Handles (service : Service) (call : Call) : Option Exchange → Call → Provider → Prop
  | leaves {exchange : Option Exchange} {next : Call} :
      next.phase.session? = call.phase.session? → exchange.bind Exchange.command? = none →
      Handles service call exchange next service.provider
  | opens {workflow : Workflow} {session : Session} {provider : Provider} {next : Call} :
      call.phase = .open_ workflow →
      service.provider.open_ call.request.deviceId = .ok (session, provider) →
      next.phase = .create workflow session →
      Handles service call none next provider
  | sends {session heard : Session} {command : String} {timeout : UInt64}
      {answer : Device.Replay.Answer} {provider : Provider} {next : Call} :
      call.phase.session? = some session → next.phase.session? = some heard →
      service.provider.send session command = (answer, heard, provider) →
      Handles service call (some (.sent command timeout (answer.within timeout).reply)) next
        provider
  | releases {session : Session} {next : Call} :
      call.phase.session? = some session → next.phase.session? = none →
      Handles service call none next (service.provider.release session).2

theorem Turn.handles (turn : Turn service call recorded exchange next after) :
    Handles service call exchange next after.provider := by
  cases turn with
  | opened opening opened => exact .opens opening opened rfl
  | sent driving sent => exact .sends (by rw [driving]; rfl) rfl sent
  | discarded discarding => exact .releases (by rw [discarding]; rfl) rfl
  | closed closing => exact .releases (by rw [closing]; rfl) rfl
  | idle => exact .leaves rfl rfl
  | rejected at_ | checked at_ | refused at_ | unrecorded at_ | recorded at_ | registered at_
  | polled at_ | read at_ | stored at_ | announced at_ | returned at_ | unregistered at_ =>
    exact .leaves (by rw [at_]; rfl) rfl

/-- A turn as the store sees it. -/
inductive Keeps (service : Service) (call : Call) :
    Option Run → Option Exchange → Store.FaultyRuns → Prop
  | leaves {exchange : Option Exchange} :
      exchange.bind Exchange.record? = none → Keeps service call none exchange service.store
  | refuses {cause : Store.Error} :
      (service.store.create (service.newRun call.request).1).1 = .error cause →
      Keeps service call none none (service.store.create (service.newRun call.request).1).2
  | creates {workflow : Workflow} {session : Session} :
      call.phase = .create workflow session →
      (service.store.create (service.newRun call.request).1).1 = .ok () →
      Keeps service call (some (service.newRun call.request).1) none
        (service.store.create (service.newRun call.request).1).2
  | updates {run : RunId} {session : Session} {record : Run}
      {next : Except Store.Error Unit → Procedure (Except Error Run)} :
      call.phase = .drive run session (.update record next) →
      Keeps service call none (some (.stored record (service.store.update record).1))
        (service.store.update record).2

theorem Turn.keeps (turn : Turn service call recorded exchange next after) :
    Keeps service call recorded exchange after.store := by
  cases turn with
  | unrecorded _ failed => exact .refuses failed
  | recorded creating succeeded => exact .creates creating succeeded
  | stored storing => exact .updates storing
  | _ => exact .leaves rfl

/-- A turn as those see it who ask which runs are in progress. -/
inductive Marks (service : Service) (call : Call) : Call → Table RunId Bool → Prop
  | leaves {next : Call} :
      next.phase.active? = call.phase.active? → Marks service call next service.active
  | inserts {workflow : Workflow} {run : Run} {session : Session} {next : Call} :
      call.phase = .register workflow run session → next.phase.active? = some run.id →
      Marks service call next (service.active.insert run.id false)
  | erases {run : RunId} {result : Except Error Run} {next : Call} :
      call.phase = .unregister run result → next.phase.active? = none →
      Marks service call next (service.active.erase run)

theorem Turn.marks (turn : Turn service call recorded exchange next after) :
    Marks service call next after.active := by
  cases turn with
  | registered registering => exact .inserts registering rfl
  | unregistered unregistering => exact .erases unregistering rfl
  | idle => exact .leaves rfl
  | rejected at_ | checked at_ | refused at_ | opened at_ | unrecorded at_ | recorded at_
  | discarded at_ | sent at_ | polled at_ | read at_ | stored at_ | announced at_ | returned at_
  | closed at_ =>
    exact .leaves (by rw [at_]; rfl)

theorem Handles.stock {provider : Provider} (handles : Handles service call exchange next provider) :
    provider.stock = service.provider.stock := by
  cases handles with
  | leaves => rfl
  | opens _ opened => exact Provider.stock_of_open opened
  | @sends session heard command timeout answer provider next _ _ sent =>
    have kept := Provider.stock_send service.provider session command
    rw [sent] at kept
    exact kept
  | releases => exact Provider.stock_release

theorem Keeps.outages {store : Store.FaultyRuns} (keeps : Keeps service call recorded exchange store) :
    store.outages = service.store.outages := by
  cases keeps with
  | leaves => rfl
  | refuses => exact Store.FaultyRuns.outages_create _ _
  | creates => exact Store.FaultyRuns.outages_create _ _
  | updates => exact Store.FaultyRuns.outages_update _ _

theorem Turn.configuration (turn : Turn service call recorded exchange next after) :
    after.configuration = service.configuration := by
  have stock := turn.handles.stock
  have outages := turn.keeps.outages
  have others : after.settings = service.settings ∧ after.workflows = service.workflows := by
    cases turn <;> exact ⟨rfl, rfl⟩
  rw [Service.configuration, others.1, others.2, stock, outages, Service.configuration]

end

end Service

end Runbook
