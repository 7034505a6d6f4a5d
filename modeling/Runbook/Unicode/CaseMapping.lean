import Runbook.Unicode.CaseFolding
import Runbook.Unicode.Segmentation

/-! Properties of characters that concern case: which of them change when a text is put into another
case, and which do not stop a word from being cased.

A character changes if it has a partner of the other case, or if its other case is written with several
characters.
-/

set_option autoImplicit false

namespace Runbook.Unicode

inductive CaseProperty where
  | caseIgnorable
  | changesWhenCasefolded
  | changesWhenCasemapped
  | changesWhenLowercased
  | changesWhenTitlecased
  | changesWhenUppercased
  deriving DecidableEq, Repr

namespace CaseProperty

open GeneralCategory (rangesOf)

def pairedSet (_ : Unit) : RangeSet :=
  .ofList (CaseFolding.groups.flatten.map fun n => (n, n))

def lowercasedSet (_ : Unit) : RangeSet :=
  (((DerivedProperty.uppercase.ranges).union (rangesOf [.titlecaseLetter])).inter
    (pairedSet ())).union (.single 0x130)

/-- Those beside the partners of capitals are written with several capitals. -/
def uppercasedSet (_ : Unit) : RangeSet :=
  ((pairedSet ()).diff DerivedProperty.uppercase.ranges).union
    (.ofText "131 149 1f0 587 1e96-1e9a 1f50 1f52 1f54 1f56 1fb2 1fb4 1fb6-1fb7 1fc2 1fc4 1fc6-1fc7
      1fd2 1fd6-1fd7 1fe2 1fe4 1fe6-1fe7 1ff2 1ff4 1ff6-1ff7 fb00-fb04 fb13-fb17")

/-- Letters in title case stay, and so do those that only a text all in capitals changes. -/
def titlecasedSet (_ : Unit) : RangeSet :=
  ((uppercasedSet ()).diff
    ((rangesOf [.titlecaseLetter]).union (.ofText "10d0-10fa 10fd-10ff"))).union
    (.ofText "1c4 1c7 1ca 1f1")

/-- What changes in lower case, save for capitals that stand for both cases, and forms of small letters
that differ from the plain one. -/
def casefoldedSet (_ : Unit) : RangeSet :=
  ((lowercasedSet ()).diff (.ofText "13a0-13f5")).union
    (.ofText "b5 df 149 17f 345 3c2 3d0-3d1 3d5-3d6 3f0-3f1 3f5 587 13f8-13fd 1c80-1c88 1e9a-1e9b
      1f80-1f87 1f90-1f97 1fa0-1fa7 1fb2-1fb4 1fb7 1fc2-1fc4 1fc7 1ff2-1ff4 1ff7 ab70-abbf fb00-fb06
      fb13-fb17")

def caseIgnorableSet (_ : Unit) : RangeSet :=
  .unionAll
    [rangesOf [.nonspacingMark, .enclosingMark, .format, .modifierLetter, .modifierSymbol],
      WordBreak.midLetterSet, WordBreak.midNumLetSet, WordBreak.singleQuoteSet]

def ranges : CaseProperty → RangeSet
  | .caseIgnorable => caseIgnorableSet ()
  | .changesWhenCasefolded => casefoldedSet ()
  | .changesWhenCasemapped => .unionAll [lowercasedSet (), uppercasedSet (), titlecasedSet ()]
  | .changesWhenLowercased => lowercasedSet ()
  | .changesWhenTitlecased => titlecasedSet ()
  | .changesWhenUppercased => uppercasedSet ()

def byName : List (List String × CaseProperty) :=
  [(["caseignorable", "ci"], .caseIgnorable),
   (["changeswhencasefolded", "cwcf"], .changesWhenCasefolded),
   (["changeswhencasemapped", "cwcm"], .changesWhenCasemapped),
   (["changeswhenlowercased", "cwl"], .changesWhenLowercased),
   (["changeswhentitlecased", "cwt"], .changesWhenTitlecased),
   (["changeswhenuppercased", "cwu"], .changesWhenUppercased)]

def named? (name : String) : Option RangeSet :=
  (byName.find? fun entry => entry.1.contains name).map fun entry => entry.2.ranges

end CaseProperty

end Runbook.Unicode
