import Runbook.Device.Session
import Runbook.Document.Decoder
import Runbook.Document.Encoder

/-! What a device answered, as a document.
-/

set_option autoImplicit false

namespace Runbook.Device.Output

open Document

def layout : Record Output :=
  Output.mk <$> Record.required "raw_output" Decoder.string
    <*> Record.optional "exit_code" (Decoder.nullable Decoder.int32) none

def decode : Decoder Output :=
  layout.decode "CommandOutput" false

def encode (output : Output) : Value :=
  .object (Encoder.text "raw_output" output.text ++
    Encoder.optional "exit_code" Encoder.int32 output.exitCode)

end Runbook.Device.Output
