import Runbook.Table

/-! Text under names: the parameters of an invocation and the variables bound while it runs.
-/

set_option autoImplicit false

namespace Runbook

abbrev Bindings := Table String String

namespace Bindings

def empty : Bindings := Table.empty

def ofList (entries : List (String × String)) : Bindings :=
  Table.ofList entries

def sorted (table : Bindings) : List (String × String) :=
  table.entries.mergeSort fun left right => left.1 ≤ right.1

end Bindings

end Runbook
