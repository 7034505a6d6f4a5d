import Runbook.Store.Error
import Runbook.Table
import Runbook.Workflow.Definition

/-! A store of workflow definitions.
-/

set_option autoImplicit false

namespace Runbook.Store

structure Workflows where
  table : Table WorkflowId Workflow := .empty
  deriving Repr

namespace Workflows

/-- Of several definitions under one identifier the last stays. -/
def ofList (workflows : List Workflow) : Workflows :=
  ⟨Table.ofList (workflows.map fun workflow => (workflow.id, workflow))⟩

def get? (store : Workflows) (id : WorkflowId) : Option Workflow :=
  store.table.get? id

def create (store : Workflows) (workflow : Workflow) : Except Error Workflows :=
  if store.table.contains workflow.id then
    .error (.conflict s!"Workflow '{workflow.id}' already exists")
  else .ok ⟨store.table.insert workflow.id workflow⟩

def list (store : Workflows) : List Workflow :=
  store.table.values.mergeSort fun first second => first.id.text ≤ second.id.text

end Workflows

end Runbook.Store
