import Runbook.Run.Record
import Runbook.Store.Error
import Runbook.Table

/-! A store of runs: a table by identifier with views in the order of creation.
-/

set_option autoImplicit false

namespace Runbook.Store

structure Runs where
  table : Table RunId Run := .empty
  deriving DecidableEq, Repr

namespace Runs

def empty : Runs := {}

def get? (store : Runs) (id : RunId) : Option Run :=
  store.table.get? id

def create (store : Runs) (run : Run) : Except Error Runs :=
  if store.table.contains run.id then .error (.conflict s!"Run '{run.id}' already exists")
  else .ok ⟨store.table.insert run.id run⟩

def update (store : Runs) (run : Run) : Except Error Runs :=
  if store.table.contains run.id then .ok ⟨store.table.insert run.id run⟩
  else .error (.notFound s!"Run '{run.id}' not found")

def oldestFirst (runs : List Run) : List Run :=
  runs.mergeSort fun first second => first.createdAt.le second.createdAt

def withStatus (store : Runs) (status : Run.Status) : List Run :=
  oldestFirst (store.table.values.filter fun run => run.status == status)

def ofWorkflow (store : Runs) (id : WorkflowId) : List Run :=
  oldestFirst (store.table.values.filter fun run => run.workflowId == id)

/-- Ended, and created before the moment. -/
def isExpired (before : Time.Instant) (run : Run) : Bool :=
  run.isTerminal && run.createdAt.lt before

/-- Without the runs that have ended and were created before a moment, and how many those were. -/
def deleteExpired (store : Runs) (before : Time.Instant) : Runs × Nat :=
  let kept := store.table.filter fun _ run => !isExpired before run
  (⟨kept⟩, store.table.size - kept.size)

def size (store : Runs) : Nat :=
  store.table.size

def isEmpty (store : Runs) : Bool :=
  store.size == 0

end Runs

end Runbook.Store
