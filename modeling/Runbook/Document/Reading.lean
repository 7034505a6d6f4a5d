import Runbook.Document.Decoder
import Runbook.Document.JsonText
import Runbook.Document.Toml.Reader

/-! From text to a value of a certain type.

A text that is no document of its notation is one kind of failure, a document that does not describe
such a value another. A broken value or an integer that is too great counts as the former, but only
where the latter came to light.
-/

set_option autoImplicit false

namespace Runbook.Document

inductive ReadFault where
  | malformed
  | content (fault : Fault)
  deriving DecidableEq, Repr

namespace ReadFault

def message : ReadFault → String
  | .malformed => "syntax"
  | .content fault => fault.message

end ReadFault

variable {α : Type}

def parse? : Format → String → Option Value
  | .json => JsonText.parse?
  | .toml => Toml.parse? .v11

def exceeds : Format → Value → Bool
  | .json, _ => false
  | .toml, value => value.hasUnsignedInteger

def readWith (decode : Decoder α) (format : Format) (text : String) : Except ReadFault α :=
  match parse? format text with
  | none => .error .malformed
  | some value =>
    match decode format value with
    | .ok a => .ok a
    | .error fault =>
      .error (if value.isBroken || exceeds format value then .malformed else .content fault)

end Runbook.Document
