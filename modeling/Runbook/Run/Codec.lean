import Runbook.Run.Record
import Runbook.Time.Codec
import Runbook.Workflow.Codec

/-! Run records as documents, in both directions.
-/

set_option autoImplicit false

namespace Runbook

open Document

namespace RunId

def decode : Decoder RunId :=
  Decoder.checked fun text =>
    match parse? text with
    | some id => .ok id
    | none => .error (Error.validation (faultMessage text)).message

def encode (id : RunId) : Value :=
  .string id.text

end RunId

namespace DeviceId

def decode : Decoder DeviceId := fun format value => do
  return ⟨← Decoder.string format value⟩

def encode (id : DeviceId) : Value :=
  .string id.text

end DeviceId

namespace Stage

def decode : Decoder Stage :=
  Decoder.choice (all.map name) ofName?

def encode (stage : Stage) : Value :=
  .string stage.name

end Stage

namespace Arm

def decode : Decoder Arm :=
  Decoder.choice (all.map name) ofName?

def encode (arm : Arm) : Value :=
  .string arm.name

end Arm

namespace FailureKind

def decode : Decoder FailureKind :=
  Decoder.choice (all.map name) ofName?

def encode (kind : FailureKind) : Value :=
  .string kind.name

end FailureKind

namespace Step

namespace Error

def layout : Record Error :=
  Error.mk <$> Record.required "kind" FailureKind.decode
    <*> Record.required "message" Decoder.string

def decode : Decoder Error :=
  layout.decode "StepError" false

def encode (error : Error) : Value :=
  .object [("kind", error.kind.encode), ("message", .string error.message)]

end Error

namespace Branch

def layout : Record Branch :=
  Branch.mk <$> Record.required "parent_index" Decoder.index
    <*> Record.required "arm" Arm.decode
    <*> Record.required "index" Decoder.index

def decode : Decoder Branch :=
  layout.decode "BranchInfo" false

def encode (branch : Branch) : Value :=
  .object [("parent_index", Encoder.natural branch.parentIndex), ("arm", branch.arm.encode),
    ("index", Encoder.natural branch.index)]

end Branch

def layout : Record Step :=
  Step.mk <$> Record.required "stage" Stage.decode
    <*> Record.required "command_index" Decoder.index
    <*> Record.optional "branch" (Decoder.nullable Branch.decode) none
    <*> Record.optional "description" (Decoder.nullable Decoder.string) none
    <*> Record.required "template" Decoder.string
    <*> Record.required "command_sent" Decoder.string
    <*> Record.required "raw_output" Decoder.string
    <*> Record.required "matched" Decoder.boolean
    <*> Record.optional "extracted_value" (Decoder.nullable Decoder.string) none
    <*> Record.optional "exit_code" (Decoder.nullable Decoder.int32) none
    <*> Record.optional "error" (Decoder.nullable Error.decode) none
    <*> Record.required "started_at" Time.Instant.decode
    <*> Record.required "duration_ms" Decoder.uint64

def decode : Decoder Step :=
  layout.decode "StepResult" false

def encode (step : Step) : Value :=
  .object (Encoder.member "stage" step.stage.encode ++
    Encoder.member "command_index" (Encoder.natural step.commandIndex) ++
    Encoder.optional "branch" Branch.encode step.branch ++
    Encoder.optional "description" .string step.description ++
    Encoder.text "template" step.template ++
    Encoder.text "command_sent" step.commandSent ++
    Encoder.text "raw_output" step.rawOutput ++
    Encoder.member "matched" (.boolean step.matched) ++
    Encoder.optional "extracted_value" .string step.extractedValue ++
    Encoder.optional "exit_code" Encoder.int32 step.exitCode ++
    Encoder.optional "error" Error.encode step.error ++
    Encoder.member "started_at" step.startedAt.encode ++
    Encoder.member "duration_ms" (Encoder.uint64 step.durationMillis))

end Step

namespace Failure

def layout : Record Failure :=
  Failure.mk <$> Record.required "stage" Stage.decode
    <*> Record.required "command_index" Decoder.index
    <*> Record.required "kind" FailureKind.decode
    <*> Record.required "message" Decoder.string

def decode : Decoder Failure :=
  layout.decode "RunFailure" false

def encode (failure : Failure) : Value :=
  .object [("stage", failure.stage.encode),
    ("command_index", Encoder.natural failure.commandIndex), ("kind", failure.kind.encode),
    ("message", .string failure.message)]

end Failure

namespace Run

namespace Status

def decode : Decoder Status :=
  Decoder.choice (all.map name) ofName?

def encode (status : Status) : Value :=
  .string status.name

end Status

def layout : Record Run :=
  Run.mk <$> Record.required "id" RunId.decode
    <*> Record.required "workflow_id" WorkflowId.decode
    <*> Record.required "device_id" DeviceId.decode
    <*> Record.required "status" Status.decode
    <*> Record.nullable "current_stage" Stage.decode
    <*> Record.required "dynamic_params" Decoder.bindings
    <*> Record.required "steps" (Decoder.list Step.decode)
    <*> Record.nullable "failure" Failure.decode
    <*> Record.nullable "rollback_failure" Failure.decode
    <*> Record.required "created_at" Time.Instant.decode
    <*> Record.nullable "started_at" Time.Instant.decode
    <*> Record.nullable "completed_at" Time.Instant.decode

def decode : Decoder Run :=
  layout.decode "WorkflowRun" false

def encode (run : Run) : Value :=
  .object (Encoder.member "id" run.id.encode ++
    Encoder.member "workflow_id" run.workflowId.encode ++
    Encoder.member "device_id" run.deviceId.encode ++
    Encoder.member "status" run.status.encode ++
    Encoder.optional "current_stage" Stage.encode run.currentStage ++
    Encoder.member "dynamic_params" (Encoder.bindings run.parameters) ++
    Encoder.member "steps" (Encoder.list Step.encode run.steps) ++
    Encoder.optional "failure" Failure.encode run.failure ++
    Encoder.optional "rollback_failure" Failure.encode run.rollbackFailure ++
    Encoder.member "created_at" run.createdAt.encode ++
    Encoder.optional "started_at" Time.Instant.encode run.startedAt ++
    Encoder.optional "completed_at" Time.Instant.encode run.completedAt)

end Run

end Runbook
