import Runbook.Url.Parse

/-! Which addresses a request can be sent to.
-/

set_option autoImplicit false

namespace Runbook.Url

/-- Why there is no request for a text. -/
inductive Refusal where
  | malformed
  | unsuitable (url : Url)
  deriving DecidableEq, Repr

namespace Refusal

def message : Refusal → String
  | .malformed => "builder error"
  | .unsuitable url => s!"builder error for url ({url.text})"

end Refusal

/-- Characters that a name may have by the standard, but that no request is made with. -/
def isUnsuitable (c : Char) : Bool :=
  ['"', '\x60', '\x7b', '\x7d'].contains c

def isSuitable (url : Url) : Bool :=
  (url.scheme == "http" || url.scheme == "https") &&
    !((url.host?.map Host.text).getD "").any isUnsuitable && url.text.utf8ByteSize ≤ 65534

/-- The address of a request to what a text names; name and password are not part of it. -/
def forRequest (text : String) : Except Refusal Url :=
  match parse? text with
  | none => .error .malformed
  | some url =>
    if url.host?.isNone then .error (.unsuitable url)
    else
      let url := url.withoutCredentials
      if url.isSuitable then .ok url else .error (.unsuitable url)

end Runbook.Url
