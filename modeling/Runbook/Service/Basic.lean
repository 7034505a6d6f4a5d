import Runbook.Device.Replay
import Runbook.Execution.Orchestrate
import Runbook.Run.Request
import Runbook.Store.Outages
import Runbook.Store.Workflows
import Runbook.Workflow.Validation

/-! The service that starts runs: it checks a request, opens a session, records the run, carries it out
and lets go of everything it took.

Many calls may be in progress at once. A call goes on in small steps, and between two of them any other
call may go on, so a schedule of steps stands for one way in which the calls can interleave. Waiting
for a device is no step of its own: a call that has to wait has a time from which it can go on, and
going on makes the service wait until then.
-/

set_option autoImplicit false

namespace Runbook

open Device (Replay.Session Replay.Provider)
open Execution (Procedure World)
open Notification (EventKind)

namespace Service

/-- How far a call has come. -/
inductive Phase where
  | lookUp
  | open_ (workflow : Workflow)
  | create (workflow : Workflow) (session : Replay.Session)
  /-- Closes the session of a run that could not be recorded. -/
  | discard (session : Replay.Session) (error : Error)
  | register (workflow : Workflow) (run : Run) (session : Replay.Session)
  | drive (run : RunId) (session : Replay.Session) (rest : Procedure (Except Error Run))
  | close (run : RunId) (session : Replay.Session) (result : Except Error Run)
  | unregister (run : RunId) (result : Except Error Run)
  | finished (result : Except Error Run)

namespace Phase

/-- Before the run exists for others: what a caller waits for who does not wait for the run. -/
def isPreparing : Phase → Bool
  | .lookUp | .open_ _ | .create _ _ | .discard _ _ | .register _ _ _ => true
  | _ => false

def isEnding : Phase → Bool
  | .drive _ _ (.done _) | .close _ _ _ | .unregister _ _ => true
  | _ => false

def result? : Phase → Option (Except Error Run)
  | .finished result => some result
  | _ => none

end Phase

structure Call where
  request : Request
  phase : Phase := .lookUp
  /-- The millisecond from which the call can go on. -/
  due : Nat := 0

end Service

structure Service where
  settings : Execution.Settings := {}
  workflows : Store.Workflows := {}
  store : Store.FaultyRuns := {}
  provider : Replay.Provider := {}
  /-- The runs in progress, and whether their cancellation has been asked for. -/
  active : Table RunId Bool := .empty
  /-- All calls in the order in which they came. -/
  calls : List Service.Call := []
  /-- What has been announced. -/
  events : List (EventKind × Run) := []
  start : Time.Instant := ⟨1700000000, 0⟩
  elapsedMillis : Nat := 0
  /-- How often the clock has been read; no two readings are the same. -/
  readings : Nat := 0

namespace Service

def waitUntil (service : Service) (millis : Nat) : Service :=
  { service with elapsedMillis := max service.elapsedMillis millis }

def now (service : Service) : Time.Instant × Service :=
  ((service.start.addMillis service.elapsedMillis).addNanos (1000 * service.readings),
    { service with readings := service.readings + 1 })

def isCancelled (service : Service) (run : RunId) : Bool :=
  (service.active.get? run).getD false

def getWorkflow (service : Service) (id : WorkflowId) : Except Error Workflow :=
  match service.workflows.get? id with
  | some workflow => .ok workflow
  | none => .error (.notFound id.text)

def validate (service : Service) (request : Request) : Except Error Workflow := do
  let workflow ← service.getWorkflow request.workflowId
  match workflow.validateInvocation request.parameters with
  | .ok () => return workflow
  | .error fault => throw (.validation fault.message)

def newRun (service : Service) (request : Request) : Run × Service :=
  let id := RunId.ofSerial service.readings
  let (now, service) := service.now
  (Run.new id request.workflowId request.deviceId request.parameters now, service)

/-- The service as a run in progress sees it, with the session that the run holds. -/
structure View where
  service : Service
  session : Replay.Session
  due : Nat := 0

namespace View

/-- Waits for what the last command has to wait for. -/
def arrive (view : View) : View :=
  { view with service := view.service.waitUntil view.due }

def send (view : View) (command : String) (timeout : UInt64) : Device.Reply × View :=
  let view := view.arrive
  let (answer, session, provider) := view.service.provider.send view.session command
  let answer := answer.within timeout
  (answer.reply,
    { service := { view.service with provider }, session,
      due := view.service.elapsedMillis + answer.delayMillis.toNat })

def poll (run : RunId) (view : View) : Bool × View :=
  let view := view.arrive
  (view.service.isCancelled run, view)

def clock (view : View) : Time.Instant × View :=
  let view := view.arrive
  let (now, service) := view.service.now
  (now, { view with service })

def update (view : View) (record : Run) : Except Store.Error Unit × View :=
  let view := view.arrive
  let (result, store) := view.service.store.update record
  (result, { view with service := { view.service with store } })

def announce (view : View) (kind : EventKind) (record : Run) : View :=
  let view := view.arrive
  { view with service := { view.service with events := view.service.events ++ [(kind, record)] } }

end View

def world (run : RunId) : World View where
  send := View.send
  poll := View.poll run
  clock := View.clock
  update := View.update
  announce := View.announce

def drive (call : Call) (run : RunId) (session : Replay.Session)
    (rest : Procedure (Except Error Run)) (service : Service)
    (go : Procedure (Except Error Run) → View → Procedure (Except Error Run) × View) :
    Call × Service :=
  let (rest, view) := go rest { service, session, due := call.due }
  ({ call with phase := .drive run view.session rest, due := view.due }, view.service)

def stepCall (call : Call) (service : Service) : Call × Service :=
  match call.phase with
  | .lookUp =>
    match service.validate call.request with
    | .ok workflow => ({ call with phase := .open_ workflow }, service)
    | .error error => ({ call with phase := .finished (.error error) }, service)
  | .open_ workflow =>
    match service.provider.open_ call.request.deviceId with
    | .ok (session, provider) =>
      ({ call with phase := .create workflow session }, { service with provider })
    | .error error =>
      let error := .sessionUnavailable call.request.deviceId.text error.message
      ({ call with phase := .finished (.error error) }, service)
  | .create workflow session =>
    -- The session is open already, so where the record is refused it has to be closed again.
    let (run, service) := service.newRun call.request
    let (result, store) := service.store.create run
    let service := { service with store }
    match result with
    | .ok () => ({ call with phase := .register workflow run session }, service)
    | .error error =>
      ({ call with phase := .discard session (.persistence error.message) }, service)
  | .discard session error =>
    let (_, provider) := service.provider.release session
    ({ call with phase := .finished (.error error) }, { service with provider })
  | .register workflow run session =>
    let rest := (Execution.execute service.settings workflow run).run
    ({ call with phase := .drive run.id session rest },
      { service with active := service.active.insert run.id false })
  | .drive run session rest =>
    match rest with
    | .done result => ({ call with phase := .close run session result }, service.waitUntil call.due)
    | rest => drive call run session rest service (·.step (world run))
  | .close run session result =>
    let (_, provider) := service.provider.release session
    ({ call with phase := .unregister run result }, { service with provider })
  | .unregister run result =>
    ({ call with phase := .finished result },
      { service with active := service.active.erase run })
  | .finished _ => (call, service)

def onCall (change : Call → Service → Call × Service) (service : Service) (index : Nat) :
    Service :=
  match service.calls[index]? with
  | none => service
  | some call =>
    let (call, service) := change call service
    { service with calls := service.calls.set index call }

def step (service : Service) (index : Nat) : Service :=
  onCall stepCall service index

/-- The steps of a schedule, which names the calls in the order in which they go on. -/
def follow (service : Service) (schedule : List Nat) : Service :=
  schedule.foldl step service

def accept (service : Service) (request : Request) : Nat × Service :=
  (service.calls.length, { service with calls := service.calls ++ [{ request }] })

/-! ### What clients ask for besides runs -/

def requiredParameters (service : Service) (id : WorkflowId) : Except Error (List String) :=
  (service.getWorkflow id).map Workflow.requiredParameters

/-- Asks for the cancellation of a run: true where the run is in progress, false where there is only
its record. -/
def cancel (service : Service) (run : RunId) : Except Error (Bool × Service) :=
  if service.active.contains run then
    .ok (true, { service with active := service.active.insert run true })
  else
    match service.store.runs.get? run with
    | some _ => .ok (false, service)
    | none => .error (.notFound run.text)

def getRun (service : Service) (run : RunId) : Option Run :=
  service.store.runs.get? run

def listRuns (service : Service) (id : WorkflowId) : List Run :=
  service.store.runs.ofWorkflow id

/-- Deletes the runs that have ended and were created before some days ago, and counts them. There is
no answer where no date lies so far back. -/
def cleanUp (service : Service) (days : Nat) : Option (Nat × Service) :=
  let (now, service) := service.now
  (now.subDays days).map fun cutoff =>
    let (runs, count) := service.store.runs.deleteExpired cutoff
    (count, { service with store := { service.store with runs } })

end Service

end Runbook
