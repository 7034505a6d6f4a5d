import Runbook.Device.Replay

/-! What the use of a device changes. To open or close a session touches the list of open devices alone,
to send a command the transcript alone, and the answer comes from the session alone.
-/

set_option autoImplicit false

namespace Runbook.Device.Replay

def Provider.fresh (provider : Provider) (device : DeviceId) : Session :=
  { device, script := provider.scriptFor device }

theorem Provider.open_eq_ok_iff {provider after : Provider} {device : DeviceId} {session : Session} :
    provider.open_ device = .ok (session, after) ↔
      device ∉ provider.unreachable ∧ device ∉ provider.openDevices ∧
        session = provider.fresh device ∧
        after = { provider with openDevices := provider.openDevices ++ [device] } := by
  unfold open_
  by_cases unreachable : provider.unreachable.contains device = true
  · rw [if_pos unreachable]
    refine ⟨nofun, fun opened => absurd ?_ opened.1⟩
    exact List.contains_iff_mem.1 unreachable
  · by_cases taken : provider.isOpen device = true
    · rw [if_neg unreachable, if_pos taken]
      refine ⟨nofun, fun opened => absurd ?_ opened.2.1⟩
      exact List.contains_iff_mem.1 taken
    · rw [if_neg unreachable, if_neg taken, Except.ok.injEq, Prod.mk.injEq]
      rw [List.contains_iff_mem] at unreachable
      rw [isOpen, List.contains_iff_mem] at taken
      constructor
      · rintro ⟨rfl, rfl⟩
        exact ⟨unreachable, taken, rfl, rfl⟩
      · rintro ⟨-, -, rfl, rfl⟩
        exact ⟨rfl, rfl⟩

/-- What a session answers to a command, and the session from then on. -/
def Session.hear (session : Session) (command : String) : Answer × Session :=
  ((({} : Provider).send session command).1, (({} : Provider).send session command).2.1)

section
variable (provider : Provider) (session : Session) (command : String)

theorem Provider.send_eq :
    provider.send session command =
      ((session.hear command).1, (session.hear command).2,
        if session.closed then provider
        else { provider with transcript := provider.transcript ++ [⟨session.device, command⟩] }) := by
  unfold Session.hear send
  split
  · rfl
  · simp only
    split <;> rfl

@[simp] theorem Session.hear_device : (session.hear command).2.device = session.device := by
  unfold hear Provider.send
  split
  · rfl
  · simp only
    split <;> rfl

@[simp] theorem Session.hear_closed : (session.hear command).2.closed = session.closed := by
  unfold hear Provider.send
  split
  · rfl
  · simp only
    split <;> rfl

end

section
variable {provider after : Provider} {session heard : Session} {command : String} {answer : Answer}

theorem Session.hear_of_send (sent : provider.send session command = (answer, heard, after)) :
    session.hear command = (answer, heard) := by
  rw [Provider.send_eq] at sent
  cases sent
  rfl

theorem Session.device_of_send (sent : provider.send session command = (answer, heard, after)) :
    heard.device = session.device := by
  have kept := hear_device session command
  rwa [hear_of_send sent] at kept

theorem Provider.of_send (sent : provider.send session command = (answer, heard, after))
    (isOpen : session.closed = false) :
    after =
      { provider with transcript := provider.transcript ++ [⟨session.device, command⟩] } := by
  rw [send_eq, isOpen] at sent
  cases sent
  rfl

theorem Provider.release_of_open (isOpen : session.closed = false) :
    (provider.release session).2 =
      { provider with openDevices := provider.openDevices.filter (· != session.device) } := by
  rw [release, isOpen]
  rfl

end

/-- What a provider is set up with, whatever has been done with it. -/
def Provider.stock (provider : Provider) : Script × Table DeviceId Script × List DeviceId :=
  (provider.script, provider.deviceScripts, provider.unreachable)

section
variable {provider after : Provider} {session : Session} {device : DeviceId}

theorem Provider.stock_of_open (opened : provider.open_ device = .ok (session, after)) :
    after.stock = provider.stock := by
  obtain ⟨-, -, -, rfl⟩ := open_eq_ok_iff.1 opened
  rfl

theorem Provider.stock_send (provider : Provider) (session : Session) (command : String) :
    (provider.send session command).2.2.stock = provider.stock := by
  rw [send_eq]
  cases session.closed <;> rfl

theorem Provider.stock_release : (provider.release session).2.stock = provider.stock := by
  unfold release
  split <;> rfl

theorem Provider.fresh_congr (same : after.stock = provider.stock) :
    after.fresh device = provider.fresh device := by
  simp only [stock, Prod.mk.injEq] at same
  rw [fresh, fresh, scriptFor, scriptFor, same.1, same.2.1]

end

end Runbook.Device.Replay
