import Runbook.Number.Shortest

/-! Doubles together with the values that are not finite.
-/

set_option autoImplicit false

namespace Runbook.Number

inductive Real where
  | finite (value : Binary64)
  | infinite (negative : Bool)
  | notANumber
  deriving DecidableEq, Repr

namespace Real

def textWith (finiteText : Binary64 → String) : Real → String
  | .finite value => finiteText value
  | .infinite negative => if negative then "-inf" else "inf"
  | .notANumber => "NaN"

def positionalText (x : Real) : String :=
  x.textWith Binary64.positionalText

/-- All digits written out, without a point where there is no fraction. -/
def plainText (x : Real) : String :=
  x.textWith Binary64.plainText

def scientificText (x : Real) : String :=
  x.textWith Binary64.scientificText

end Real

end Runbook.Number
