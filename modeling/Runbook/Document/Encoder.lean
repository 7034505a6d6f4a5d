import Runbook.Bindings
import Runbook.Document.Value

/-! Writing values as documents: the members of a record one after the other, those left out that
have nothing to say.
-/

set_option autoImplicit false

namespace Runbook.Document.Encoder

variable {α : Type}

def member (name : String) (value : Value) : List Member :=
  [(name, value)]

def text (name text : String) : List Member :=
  [(name, .string text)]

def optional (name : String) (encode : α → Value) (value : Option α) : List Member :=
  match value with
  | none => []
  | some a => [(name, encode a)]

def list (encode : α → Value) (items : List α) : Value :=
  .array (items.map encode)

def int32 (n : Int32) : Value :=
  .integer n.toInt

def uint64 (n : UInt64) : Value :=
  .integer n.toNat

def natural (n : Nat) : Value :=
  .integer n

def bindings (table : Bindings) : Value :=
  .object (table.sorted.map fun entry => (entry.1, .string entry.2))

end Runbook.Document.Encoder
