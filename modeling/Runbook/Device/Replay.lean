import Runbook.Device.Script

/-! Sessions that answer from scripts instead of reaching a device.

Every session has a script of its own to use up. A device has one open session at most; closing or
dropping it makes way for the next.
-/

set_option autoImplicit false

namespace Runbook.Device.Replay

structure Session where
  device : DeviceId
  script : Script
  closed : Bool := false
  deriving DecidableEq, Repr

structure Sent where
  device : DeviceId
  command : String
  deriving DecidableEq, Repr

structure Provider where
  script : Script := .empty
  /-- Scripts of devices that have one of their own. -/
  deviceScripts : Table DeviceId Script := .empty
  unreachable : List DeviceId := []
  openDevices : List DeviceId := []
  /-- All commands of all sessions in the order of sending. -/
  transcript : List Sent := []
  deriving DecidableEq, Repr

structure Answer where
  reply : Reply
  delayMillis : UInt64 := 0

namespace Answer

/-- The answer as far as someone waits for it: beyond the timeout there is none. -/
def within (answer : Answer) (timeoutMillis : UInt64) : Answer :=
  if timeoutMillis < answer.delayMillis then ⟨.error (.timeout timeoutMillis), timeoutMillis⟩
  else answer

end Answer

namespace Provider

def scriptFor (provider : Provider) (device : DeviceId) : Script :=
  (provider.deviceScripts.get? device).getD provider.script

def isOpen (provider : Provider) (device : DeviceId) : Bool :=
  provider.openDevices.contains device

def sentTo (provider : Provider) (device : DeviceId) : List String :=
  provider.transcript.filterMap fun sent =>
    if sent.device = device then some sent.command else none

def open_ (provider : Provider) (device : DeviceId) : Except Error (Session × Provider) :=
  if provider.unreachable.contains device then
    .error (.unavailable s!"{device} did not answer")
  else if provider.isOpen device then
    .error (.unavailable s!"a session to {device} is already open")
  else
    .ok ({ device, script := provider.scriptFor device },
      { provider with openDevices := provider.openDevices ++ [device] })

def send (provider : Provider) (session : Session) (command : String) :
    Answer × Session × Provider :=
  if session.closed then (⟨.error .closed, 0⟩, session, provider)
  else
    let provider :=
      { provider with transcript := provider.transcript ++ [⟨session.device, command⟩] }
    -- A command without a response has been sent all the same.
    match session.script.next command with
    | (none, script) =>
      (⟨.error (.transport s!"no recorded response for '{command}'"), 0⟩,
        { session with script }, provider)
    | (some response, script) =>
      (⟨response.reply, response.delayMillis.getD 0⟩, { session with script }, provider)

/-- Closes a session, or drops it; the second time nothing happens. -/
def release (provider : Provider) (session : Session) : Session × Provider :=
  if session.closed then (session, provider)
  else
    ({ session with closed := true },
      { provider with openDevices := provider.openDevices.filter (· != session.device) })

end Provider

end Runbook.Device.Replay
