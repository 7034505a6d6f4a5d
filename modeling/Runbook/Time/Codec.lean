import Runbook.Document.Decoder
import Runbook.Time.Rfc3339

/-! Moments in documents.
-/

set_option autoImplicit false

namespace Runbook.Time.Instant

open Document

def decode : Decoder Instant := fun format value =>
  match value with
  | .string text =>
    match Rfc3339.parse text with
    | .ok instant => .ok instant
    | .error fault => .error (.rejected fault.message)
  | _ => Decoder.wanted "an RFC 3339 formatted date and time string" format value

def encode (instant : Instant) : Value :=
  .string (Rfc3339.text instant)

end Runbook.Time.Instant
