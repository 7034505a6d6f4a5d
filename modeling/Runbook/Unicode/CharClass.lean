import Runbook.Unicode.DerivedProperty

/-! The three classes of characters that patterns have a shorthand for: decimal digits, white space, and
the characters of words.
-/

set_option autoImplicit false

namespace Runbook.Unicode

def digits : RangeSet :=
  GeneralCategory.decimalNumber.ranges

def blanks : RangeSet :=
  Property.whiteSpace.ranges

def wordChars : RangeSet :=
  .unionAll [DerivedProperty.alphabetic.ranges, Property.joinControl.ranges,
    GeneralCategory.rangesOf (GeneralCategory.marks ++ [.decimalNumber, .connectorPunctuation])]

def isWordChar (c : Char) : Bool :=
  if c.toNat < 128 then c.isAlphanum || c == '_' else wordChars.contains c.toNat

end Runbook.Unicode
