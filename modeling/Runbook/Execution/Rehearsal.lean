import Runbook.Device.Replay
import Runbook.Execution.Orchestrate
import Runbook.Store.Outages

/-! Rehearsals: a run, or a single stage, against a scripted device and a store of its own, with
trouble at chosen moments.
-/

set_option autoImplicit false

namespace Runbook.Execution

open Notification (EventKind)
open Device (Replay.Session Replay.Provider)

structure Trouble where
  /-- Cancellation comes while the command of this number is on the device, with 0 beforehand. -/
  cancelDuring : Option Nat := none
  outages : Store.Outages := .none

structure Rehearsal where
  provider : Replay.Provider
  session : Replay.Session
  cancelDuring : Option Nat := none
  cancelled : Bool := false
  commands : Nat := 0
  store : Store.FaultyRuns := {}
  /-- The records that were stored, in order. -/
  history : List Run := []
  events : List (EventKind × Run) := []
  now : Time.Instant := ⟨1700000000, 0⟩

namespace Rehearsal

def send (rehearsal : Rehearsal) (command : String) (timeout : UInt64) :
    Device.Reply × Rehearsal :=
  let (answer, session, provider) := rehearsal.provider.send rehearsal.session command
  let commands := rehearsal.commands + 1
  let cancelled := rehearsal.cancelled || rehearsal.cancelDuring == some commands
  ((answer.within timeout).reply, { rehearsal with session, provider, commands, cancelled })

def update (rehearsal : Rehearsal) (run : Run) : Except Store.Error Unit × Rehearsal :=
  let (result, store) := rehearsal.store.update run
  let history := if result.isOk then rehearsal.history ++ [run] else rehearsal.history
  (result, { rehearsal with store, history })

/-- Time passes a little with every look at the clock. -/
def clock (rehearsal : Rehearsal) : Time.Instant × Rehearsal :=
  (rehearsal.now, { rehearsal with now := rehearsal.now.addNanos 1 })

def world : World Rehearsal where
  send := send
  poll rehearsal := (rehearsal.cancelled, rehearsal)
  clock := clock
  update := update
  announce rehearsal kind run := { rehearsal with events := rehearsal.events ++ [(kind, run)] }

def on (device : DeviceId) (script : Device.Script) (trouble : Trouble) : Rehearsal where
  provider := { script := script, openDevices := [device] }
  session := { device := device, script := script }
  cancelDuring := trouble.cancelDuring
  cancelled := trouble.cancelDuring == some 0
  store := { outages := trouble.outages }

def sent (rehearsal : Rehearsal) : List String :=
  rehearsal.provider.transcript.map Device.Replay.Sent.command

/-- Runs a single stage; its steps go nowhere but into the result. -/
def runStage (settings : Settings) (cancellable : Bool) (stage : Stage) (commands : List Command)
    (context : Template.Context) (rehearsal : Rehearsal) :
    Except Error (StageOutcome × Progress (List Step)) × Rehearsal :=
  let runner : StageRunner (List Step) :=
    { settings, cancellable, sink := fun steps step => pure (steps ++ [step]) }
  Procedure.runIn world (runner.run stage commands ⟨context, []⟩).run rehearsal

def execute (settings : Settings) (workflow : Workflow) (run : Run) (rehearsal : Rehearsal) :
    Except Error Run × Rehearsal :=
  let store := (rehearsal.store.create run).2
  Procedure.runIn world (Execution.execute settings workflow run).run { rehearsal with store }

end Rehearsal

end Runbook.Execution
