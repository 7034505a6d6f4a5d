import Runbook.Digest.Sha256
import Runbook.Document.JsonPrinter
import Runbook.Notification.Error
import Runbook.Notification.Event
import Runbook.Url.Request

/-! Delivery of events to an address: what is sent, how it is signed, and what the answer means.

The connection itself is a parameter, so everything but the network can be reasoned about.
-/

set_option autoImplicit false

namespace Runbook.Notification

structure Webhook where
  url : String
  /-- Signs every delivery. -/
  secret : Option String := none
  timeoutMillis : Nat := 10000
  deriving DecidableEq, Repr

structure Delivery where
  url : String
  headers : List (String × String)
  body : String
  deriving DecidableEq, Repr

/-- The end of a request without an answer. -/
inductive Disconnection where
  | timedOut
  | notConnected
  | other (message : String)
  deriving DecidableEq, Repr

namespace Disconnection

def error : Disconnection → Error
  | .timedOut => .request "Request timed out"
  | .notConnected => .request "Connection failed"
  | .other message => .request message

end Disconnection

namespace Webhook

def sign (secret payload : String) : String :=
  Digest.hexText (Digest.hmac (Digest.octets secret) (Digest.octets payload))

def payload (event : Event) : String :=
  Document.JsonPrinter.compact event.encode

def signatureHeader (payload secret : String) : String × String :=
  ("X-Signature", s!"sha256={sign secret payload}")

def delivery (hook : Webhook) (event : Event) : Delivery where
  url := hook.url
  headers :=
    [("Content-Type", "application/json"), ("X-Event-Type", event.kind.name),
      ("X-Timestamp", Time.Rfc3339.headerText event.timestamp)] ++
    (hook.secret.map (signatureHeader (payload event))).toList
  body := payload event

def isSuccess (status : Nat) : Bool :=
  200 ≤ status && status < 300

/-- Sends an event, and gives the status of the answer. -/
def deliver (hook : Webhook) (post : Delivery → Except Disconnection Nat) (event : Event) :
    Except Error Nat :=
  match Url.forRequest hook.url with
  | .error refusal => .error (.request refusal.message)
  | .ok _ =>
    match post (hook.delivery event) with
    | .error disconnection => .error disconnection.error
    | .ok status => if isSuccess status then .ok status else .error (.status status)

end Webhook

end Runbook.Notification
