import Runbook.Unicode.GeneralCategory
import Runbook.Unicode.Property

/-! Binary properties that follow from general categories and from properties that are data.

Each starts from the categories that suggest it and is mended by a property kept for that purpose. The
identifiers of the `xid` kind leave out what normalization would turn into something else.
-/

set_option autoImplicit false

namespace Runbook.Unicode

inductive DerivedProperty where
  | alphabetic
  | cased
  | defaultIgnorableCodePoint
  | graphemeBase
  | graphemeExtend
  | idContinue
  | idStart
  | lowercase
  | math
  | uppercase
  | xidContinue
  | xidStart
  deriving DecidableEq, Repr

namespace DerivedProperty

open GeneralCategory (rangesOf letters separators)

def uppercaseSet (_ : Unit) : RangeSet :=
  (rangesOf [.uppercaseLetter]).union Property.otherUppercase.ranges

def lowercaseSet (_ : Unit) : RangeSet :=
  (rangesOf [.lowercaseLetter]).union Property.otherLowercase.ranges

/-- The two cases are letters already, save for what makes them more than the categories. -/
def alphabeticSet (_ : Unit) : RangeSet :=
  .unionAll [rangesOf (.letterNumber :: letters), Property.otherUppercase.ranges,
    Property.otherLowercase.ranges, Property.otherAlphabetic.ranges]

def graphemeExtendSet (_ : Unit) : RangeSet :=
  (rangesOf [.nonspacingMark, .enclosingMark]).union Property.otherGraphemeExtend.ranges

/-- Everything that shows and does not extend what stands before it. -/
def graphemeBaseSet (_ : Unit) : RangeSet :=
  (RangeSet.unionAll [rangesOf [.control, .format, .privateUse, .lineSeparator, .paragraphSeparator],
    GeneralCategory.surrogates, GeneralCategory.unassigned (), graphemeExtendSet ()]).complement

def patternSet (_ : Unit) : RangeSet :=
  Property.patternSyntax.ranges.union Property.patternWhiteSpace.ranges

def idStartSet (_ : Unit) : RangeSet :=
  ((rangesOf (.letterNumber :: letters)).union Property.otherIdStart.ranges).diff (patternSet ())

def idContinueSet (_ : Unit) : RangeSet :=
  (RangeSet.unionAll
    [idStartSet (), Property.otherIdContinue.ranges,
      rangesOf [.nonspacingMark, .spacingMark, .decimalNumber, .connectorPunctuation]]).diff
    (patternSet ())

/-- Characters whose normal form has no place in an identifier. -/
def unstableSet : RangeSet :=
  .ofText "37a 309b-309c fc5e-fc63 fdfa-fdfb fe70 fe72 fe74 fe76 fe78 fe7a fe7c fe7e"

def unstableStartSet : RangeSet :=
  unstableSet.union (.ofText "e33 eb3 ff9e-ff9f")

def defaultIgnorableSet (_ : Unit) : RangeSet :=
  (RangeSet.unionAll [Property.otherDefaultIgnorableCodePoint.ranges, rangesOf [.format],
    Property.variationSelector.ranges]).diff
    (.unionAll [Property.whiteSpace.ranges, .ofText "fff9-fffb 13430-1343f",
      Property.prependedConcatenationMark.ranges])

def ranges : DerivedProperty → RangeSet
  | .alphabetic => alphabeticSet ()
  | .cased => .unionAll [uppercaseSet (), lowercaseSet (), rangesOf [.titlecaseLetter]]
  | .defaultIgnorableCodePoint => defaultIgnorableSet ()
  | .graphemeBase => graphemeBaseSet ()
  | .graphemeExtend => graphemeExtendSet ()
  | .idContinue => idContinueSet ()
  | .idStart => idStartSet ()
  | .lowercase => lowercaseSet ()
  | .math => (rangesOf [.mathSymbol]).union Property.otherMath.ranges
  | .uppercase => uppercaseSet ()
  | .xidContinue => (idContinueSet ()).diff unstableSet
  | .xidStart => (idStartSet ()).diff unstableStartSet

def byName : List (List String × DerivedProperty) :=
  [(["alphabetic", "alpha"], .alphabetic),
   (["cased"], .cased),
   (["defaultignorablecodepoint", "di"], .defaultIgnorableCodePoint),
   (["graphemebase", "grbase"], .graphemeBase),
   (["graphemeextend", "grext"], .graphemeExtend),
   (["idcontinue", "idc"], .idContinue),
   (["idstart", "ids"], .idStart),
   (["lowercase", "lower"], .lowercase),
   (["math"], .math),
   (["uppercase", "upper"], .uppercase),
   (["xidcontinue", "xidc"], .xidContinue),
   (["xidstart", "xids"], .xidStart)]

def named? (name : String) : Option RangeSet :=
  (byName.find? fun entry => entry.1.contains name).map fun entry => entry.2.ranges

end DerivedProperty

end Runbook.Unicode
