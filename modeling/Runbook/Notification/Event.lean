import Runbook.Run.Codec

/-! The events that tell others about a run: that it started, and how it ended.
-/

set_option autoImplicit false

namespace Runbook.Notification

open Document

inductive EventKind where
  | started
  | completed
  | failed
  deriving DecidableEq, Repr

namespace EventKind

def all : List EventKind := [.started, .completed, .failed]

def name : EventKind → String
  | .started => "execution_started"
  | .completed => "execution_completed"
  | .failed => "execution_failed"

def ofName? (text : String) : Option EventKind :=
  all.find? fun kind => kind.name == text

def terminal? : Run.Status → Option EventKind
  | .completed => some .completed
  | .failed | .rolledBack | .cancelled => some .failed
  | .pending | .running | .rollingBack => none

def decode : Decoder EventKind :=
  Decoder.choice (all.map name) ofName?

def encode (kind : EventKind) : Value :=
  .string kind.name

end EventKind

/-- A run as it was at the moment of the event. -/
structure Event where
  id : String
  kind : EventKind
  timestamp : Time.Instant
  workflowId : WorkflowId
  deviceId : DeviceId
  runId : RunId
  status : Run.Status
  currentStage : Option Stage
  startedAt : Option Time.Instant
  completedAt : Option Time.Instant
  durationSeconds : Option Number.Real
  errorMessage : Option String
  steps : List Step
  deriving DecidableEq, Repr

namespace Event

def ofRun (id : String) (kind : EventKind) (run : Run) (now : Time.Instant) : Event where
  id := id
  kind := kind
  timestamp := now
  workflowId := run.workflowId
  deviceId := run.deviceId
  runId := run.id
  status := run.status
  currentStage := run.currentStage
  startedAt := run.startedAt
  completedAt := run.completedAt
  durationSeconds := run.duration?.map .finite
  errorMessage := run.errorMessage?
  steps := run.steps

def layout : Record Event :=
  Event.mk <$> Record.required "event_id" Decoder.string
    <*> Record.required "event_type" EventKind.decode
    <*> Record.required "timestamp" Time.Instant.decode
    <*> Record.required "workflow_id" WorkflowId.decode
    <*> Record.required "device_id" DeviceId.decode
    <*> Record.required "run_id" RunId.decode
    <*> Record.required "status" Run.Status.decode
    <*> Record.nullable "current_stage" Stage.decode
    <*> Record.nullable "started_at" Time.Instant.decode
    <*> Record.nullable "completed_at" Time.Instant.decode
    <*> Record.nullable "duration_seconds" Decoder.float
    <*> Record.nullable "error_message" Decoder.string
    <*> Record.required "steps" (Decoder.list Step.decode)

def decode : Decoder Event :=
  layout.decode "ExecutionEvent" false

def encode (event : Event) : Value :=
  .object (Encoder.text "event_id" event.id ++
    Encoder.member "event_type" event.kind.encode ++
    Encoder.member "timestamp" event.timestamp.encode ++
    Encoder.member "workflow_id" event.workflowId.encode ++
    Encoder.member "device_id" event.deviceId.encode ++
    Encoder.member "run_id" event.runId.encode ++
    Encoder.member "status" event.status.encode ++
    Encoder.optional "current_stage" Stage.encode event.currentStage ++
    Encoder.optional "started_at" Time.Instant.encode event.startedAt ++
    Encoder.optional "completed_at" Time.Instant.encode event.completedAt ++
    Encoder.optional "duration_seconds" .float event.durationSeconds ++
    Encoder.optional "error_message" .string event.errorMessage ++
    Encoder.member "steps" (Encoder.list Step.encode event.steps))

end Event

end Runbook.Notification
