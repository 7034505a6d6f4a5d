import Runbook.Run.Codec

/-! The request to start a run.
-/

set_option autoImplicit false

namespace Runbook

open Document

structure Request where
  workflowId : WorkflowId
  deviceId : DeviceId
  parameters : Bindings := .empty
  deriving DecidableEq, Repr

namespace Request

/-- More parameters; of two values for one name the new one stays. -/
def withParameters (request : Request) (parameters : Bindings) : Request :=
  { request with parameters := request.parameters.union parameters }

def withParameter (request : Request) (name value : String) : Request :=
  { request with parameters := request.parameters.insert name value }

def layout : Record Request :=
  Request.mk <$> Record.required "workflow_id" WorkflowId.decode
    <*> Record.required "device_id" DeviceId.decode
    <*> Record.optional "dynamic_params" Decoder.bindings .empty

def decode : Decoder Request :=
  layout.decode "ExecutionRequest" false

def encode (request : Request) : Value :=
  .object [("workflow_id", request.workflowId.encode), ("device_id", request.deviceId.encode),
    ("dynamic_params", Encoder.bindings request.parameters)]

end Request

end Runbook
