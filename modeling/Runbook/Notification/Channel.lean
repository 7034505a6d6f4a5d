import Runbook.Configuration.Basic
import Runbook.Notification.Webhook
import Runbook.Text.Blank

/-! Where events go.
-/

set_option autoImplicit false

namespace Runbook.Notification

inductive Channel where
  | log
  | webhook (hook : Webhook)
  deriving DecidableEq, Repr

namespace Channel

/-- To an address, if one is configured that is not blank; an empty secret signs nothing. -/
def choose (settings : Configuration.Notifications) : Channel :=
  match settings.webhookUrl.filter fun url => !Text.isBlankText url with
  | none => .log
  | some url =>
    .webhook
      { url, secret := settings.webhookSecret.filter fun secret => !secret.isEmpty,
        timeoutMillis := 1000 * settings.timeoutSeconds.toNat }

end Channel

end Runbook.Notification
