import Runbook.Store.Runs

/-! A store of runs that can fail: which of its calls do is decided by their number, from 1 on.

A call that fails leaves the records as they were.
-/

set_option autoImplicit false

namespace Runbook.Store

/-- The faults of the calls that fail. -/
structure Outages where
  create : Nat → Option Error := fun _ => none
  update : Nat → Option Error := fun _ => none

namespace Outages

def none : Outages := {}

def everyCreate (error : Error) (outages : Outages) : Outages :=
  { outages with create := fun _ => some error }

def updateOf (number : Nat) (error : Error) (outages : Outages) : Outages :=
  { outages with update := fun n => if n = number then some error else outages.update n }

end Outages

structure FaultyRuns where
  runs : Runs := .empty
  outages : Outages := .none
  /-- How many creations there have been. -/
  creates : Nat := 0
  updates : Nat := 0

namespace FaultyRuns

def keep (store : FaultyRuns) : Except Error Runs → Except Error Unit × FaultyRuns
  | .ok runs => (.ok (), { store with runs })
  | .error error => (.error error, store)

def create (store : FaultyRuns) (run : Run) : Except Error Unit × FaultyRuns :=
  let creates := store.creates + 1
  let store := { store with creates }
  match store.outages.create creates with
  | some error => store.keep (.error error)
  | none => store.keep (store.runs.create run)

def update (store : FaultyRuns) (run : Run) : Except Error Unit × FaultyRuns :=
  let updates := store.updates + 1
  let store := { store with updates }
  match store.outages.update updates with
  | some error => store.keep (.error error)
  | none => store.keep (store.runs.update run)

end FaultyRuns

end Runbook.Store
