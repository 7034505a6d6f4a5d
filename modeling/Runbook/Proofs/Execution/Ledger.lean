import Runbook.Proofs.Execution.Bench
import Runbook.Proofs.Execution.Moment
import Runbook.Store.Outages

/-! A bench with a store: it holds the record of a run, and refuses updates at chosen calls.
-/

set_option autoImplicit false

namespace Runbook

theorem Store.FaultyRuns.get?_update (store : Store.FaultyRuns) (run : Run) (id : RunId) :
    (store.update run).2.runs.get? id =
      match (store.update run).1 with
      | .ok () => if id = run.id then some run else store.runs.get? id
      | .error _ => store.runs.get? id := by
  simp only [Store.FaultyRuns.update]
  cases store.outages.update (store.updates + 1) with
  | some error => rfl
  | none =>
    by_cases present : store.runs.table.contains run.id = true
    · simp only [Store.Runs.update, if_pos present]
      exact Table.get?_insert store.runs.table run.id id run
    · simp only [Store.Runs.update, if_neg present]
      rfl

namespace Execution

structure Ledger where
  bench : Bench := {}
  store : Store.FaultyRuns

namespace Ledger

def world (answers : Answers) (cancelDuring : Option Nat) : World Ledger where
  send ledger command timeout :=
    let (reply, bench) := (Bench.world answers cancelDuring).send ledger.bench command timeout
    (reply, { ledger with bench })
  poll ledger := (ledger.bench.isCancelled cancelDuring, ledger)
  clock ledger :=
    let (now, bench) := (Bench.world answers cancelDuring).clock ledger.bench
    (now, { ledger with bench })
  update ledger run :=
    let (result, store) := ledger.store.update run
    (result, { ledger with store })
  announce ledger _ _ := ledger

def opened (run : Run) (outages : Store.Outages) : Ledger where
  store := (({ outages } : Store.FaultyRuns).create run).2

def heard (ledger : Ledger) : List String :=
  ledger.bench.sent

/-- The third update is refused. -/
def fullDisk : Store.Outages where
  update number := if number = 3 then some (.storage "disk full") else none

def held (run : Run) (ledger : Ledger) : Run :=
  (ledger.store.runs.get? run.id).getD run

theorem held_opened (run : Run) (update : Nat → Option Store.Error) :
    held run (opened run { update }) = run := by
  simp only [held, opened, Store.FaultyRuns.create, Store.Runs.create]
  exact congrArg (Option.getD · run)
    ((Table.get?_insert Table.empty run.id run.id run).trans (if_pos rfl))

section
variable (answers : Answers) (cancelDuring : Option Nat)

theorem shows_heard : (world answers cancelDuring).Shows heard hear where
  send _ _ _ := rfl
  poll _ := (List.append_nil _).symm
  clock _ := (List.append_nil _).symm
  update _ _ := (List.append_nil _).symm
  announce _ _ _ := (List.append_nil _).symm

theorem shows_held (run : Run) : (world answers cancelDuring).Shows (held run) (hold run.id) where
  send _ _ _ := rfl
  poll _ := rfl
  clock _ := rfl
  update ledger other := by
    have found := ledger.store.get?_update other run.id
    simp only [world, held, found]
    cases (ledger.store.update other).1 with
    | error error => rfl
    | ok u =>
      by_cases same : run.id = other.id
      · simp only [hold, if_pos same, if_pos same.symm]
        rfl
      · simp only [hold, if_neg same, if_neg (Ne.symm same)]
  announce _ _ _ := rfl

end

end Ledger

end Execution

end Runbook
