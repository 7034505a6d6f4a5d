import Runbook.Number.Real

/-! Versions of TOML, and what is different between them.

A later version accepts more. It also keeps the line ends of a text as they are.
-/

set_option autoImplicit false

namespace Runbook.Document.Toml

inductive Edition where
  | v10
  | v11
  deriving DecidableEq, Repr

namespace Edition

def hasShortTimes (edition : Edition) : Bool :=
  edition == .v11

def hasShortEscapes (edition : Edition) : Bool :=
  edition == .v11

/-- Whether an inline table may have line ends, comments and a comma at its end. -/
def hasOpenTables (edition : Edition) : Bool :=
  edition == .v11

def keepsLineEnds (edition : Edition) : Bool :=
  edition == .v11

def depthLimit : Edition → Nat
  | .v10 => 79
  | .v11 => 80

def nameLimit : Edition → Nat
  | .v10 => 79
  | .v11 => 80

/-- The integers that can be written: of 64 bits with a sign, or of 128 bits with or without one. -/
def holds (edition : Edition) (n : Int) : Bool :=
  match edition with
  | .v10 => -(Nat.pow 2 63 : Nat) ≤ n && n < (Nat.pow 2 63 : Nat)
  | .v11 => -(Nat.pow 2 127 : Nat) ≤ n && n < (Nat.pow 2 128 : Nat)

/-- What a number stands for that is greater than all finite ones, or less, in digits. -/
def beyond? : Edition → Bool → Option Number.Real
  | .v10, true => some (.infinite true)
  | _, _ => none

end Edition

end Runbook.Document.Toml
