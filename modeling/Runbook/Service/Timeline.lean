import Runbook.Service.Basic

/-! The service in virtual time: a run that is called for inline has it all to itself, runs on tasks of
their own go on side by side as time passes.

Of several runs that can go on at the same moment the one that has waited longest goes first.
-/

set_option autoImplicit false

namespace Runbook

namespace Service

/-- Steps of a call until its run is recorded and known, or refused. There are four at most. -/
def prepare (service : Service) (index : Nat) : Service :=
  let once (service : Service) : Service :=
    match service.calls[index]? with
    | some call => if call.phase.isPreparing then service.step index else service
    | none => service
  once (once (once (once service)))

/-- Steps of a call whose run has made its last request. There are three at most. -/
def windUp (service : Service) (index : Nat) : Service :=
  let once (service : Service) : Service :=
    match service.calls[index]? with
    | some call => if call.phase.isEnding then service.step index else service
    | none => service
  once (once (once service))

/-- Drives the run of a call on as long as a condition holds. -/
def driveWhile (go : View → Bool) (service : Service) (index : Nat) : Service :=
  onCall (fun call service =>
    match call.phase with
    | .drive run session rest =>
      drive call run session rest service fun rest view => rest.runWhile (world run) go view
    | _ => (call, service)) service index

def resultOf? (service : Service) (index : Nat) : Option (Except Error Run) :=
  (service.calls[index]?).bind fun call => call.phase.result?

def startedRun? (service : Service) (index : Nat) : Option (Except Error RunId) :=
  match (service.calls[index]?).map Call.phase with
  | some (.drive run _ _) => some (.ok run)
  | some (.finished (.error error)) => some (.error error)
  | _ => none

def execute (service : Service) (request : Request) : Option (Except Error Run) × Service :=
  let (index, service) := service.accept request
  let service := service.prepare index
  let service := driveWhile (fun _ => true) service index
  let service := service.windUp index
  (service.resultOf? index, service)

end Service

structure Timeline where
  service : Service
  /-- Calls that go on by themselves, the one that has waited longest first. -/
  waiting : List Nat := []
  /-- Calls whose results nobody has asked for yet, in order. -/
  unclaimed : List Nat := []

namespace Timeline

def now (timeline : Timeline) : Nat :=
  timeline.service.elapsedMillis

def due? (timeline : Timeline) (index : Nat) : Option Nat :=
  (timeline.service.calls[index]?).map Service.Call.due

def spawn (timeline : Timeline) (request : Request) : Option (Except Error RunId) × Timeline :=
  let (index, service) := timeline.service.accept request
  let service := service.prepare index
  match service.startedRun? index with
  | some (.ok run) =>
    (some (.ok run),
      { service, waiting := timeline.waiting ++ [index],
        unclaimed := timeline.unclaimed ++ [index] })
  | other => (other, { timeline with service })

/-- Lets a call go on until it has to wait or is finished. -/
def settle (timeline : Timeline) (index : Nat) : Timeline :=
  let isDue (view : Service.View) : Bool := view.due ≤ view.service.elapsedMillis
  let service := (Service.driveWhile isDue timeline.service index).windUp index
  let others := timeline.waiting.filter (· != index)
  let waiting := if (service.resultOf? index).isSome then others else others ++ [index]
  { timeline with service, waiting }

def isReady (timeline : Timeline) (index : Nat) : Bool :=
  match timeline.due? index with
  | some due => due ≤ timeline.now
  | none => false

def nextDue? (timeline : Timeline) : Option Nat :=
  (timeline.waiting.filterMap timeline.due?).min?

def isWithin (due : Nat) : Option Nat → Bool
  | none => true
  | some horizon => due ≤ horizon

/-- Lets calls go on and time pass up to a horizon, or until no call is left. -/
def goOn (horizon : Option Nat) (timeline : Timeline) : Nat → Timeline
  | 0 => timeline
  | fuel + 1 =>
    match timeline.waiting.find? timeline.isReady with
    | some index => (timeline.settle index).goOn horizon fuel
    | none =>
      match timeline.nextDue? with
      | none => timeline
      | some due =>
        if isWithin due horizon then
          goOn horizon { timeline with service := timeline.service.waitUntil due } fuel
        else timeline

/-- More turns than the calls that wait can take: each turn of a run but the last ends with a command
that it waits for, and time passes once between two turns. -/
def turns (timeline : Timeline) : Nat :=
  let sends (index : Nat) : Nat :=
    match timeline.service.calls[index]? with
    | none => 0
    | some call =>
      match timeline.service.workflows.get? call.request.workflowId with
      | none => 0
      | some workflow => workflow.longestRun
  2 * (timeline.waiting.foldr (fun index total => sends index + 2 + total) 0) + 1

def advance (timeline : Timeline) (millis : Nat) : Timeline :=
  let horizon := timeline.now + millis
  let timeline := goOn (some horizon) timeline timeline.turns
  { timeline with service := timeline.service.waitUntil horizon }

/-- Waits for all runs, and gives the results of those that nobody has asked for yet. -/
def join (timeline : Timeline) : List (Except Error Run) × Timeline :=
  let timeline := goOn none timeline timeline.turns
  (timeline.unclaimed.filterMap timeline.service.resultOf?, { timeline with unclaimed := [] })

end Timeline

end Runbook
