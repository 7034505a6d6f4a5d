import Runbook.Unicode.DerivedProperty

/-! The characters that version 17.0 of Unicode adds to those of 16.0, by what they are, and the classes
of characters as that version has them.
-/

set_option autoImplicit false

namespace Runbook.Unicode

namespace Addition

def letters (_ : Unit) : RangeSet :=
  .ofText "88f c5c cdc a7ce-a7cf a7d2 a7d4 a7f1 10940-10959 10ec5-10ec7 11b61 11b65 11b67 11db0-11ddb
    16ea0-16eb8 16ebb-16ed3 16ff2-16ff6 187f8-187ff 18d09-18d1e 18d80-18df2 1e6c0-1e6de 1e6e0-1e6e2
    1e6e4-1e6e5 1e6e7-1e6ed 1e6f0-1e6f4 1e6fe-1e6ff 2b73a-2b73f 2cea2-2cead 323b0-33479"

def vowelMarks (_ : Unit) : RangeSet :=
  .ofText "10efa-10efb 11b60 11b62-11b64 11b66 1e6e3 1e6e6 1e6ee-1e6ef 1e6f5"

def plainMarks (_ : Unit) : RangeSet :=
  .ofText "1acf-1add 1ae0-1aeb"

def digits (_ : Unit) : RangeSet :=
  .ofText "11de0-11de9"

def symbols (_ : Unit) : RangeSet :=
  .ofText "20c1 2b96 fbc3-fbd2 fd90-fd91 fdc8-fdce 10ed0-10ed8 1ccfa-1ccfc 1ceba-1ced0 1cee0-1cef0
    1f6d8 1f777-1f77a 1f8d0-1f8d8 1fa54-1fa57 1fa8a 1fa8e 1fac8 1facd 1faea 1faef 1fbfa"

def shown (_ : Unit) : RangeSet :=
  .unionAll [letters (), digits (), symbols ()]

end Addition

/-- Marks that take no room beside the character before them. -/
def nonspacingMarks : RangeSet :=
  .unionAll [GeneralCategory.rangesOf [.nonspacingMark, .enclosingMark], Addition.vowelMarks (),
    Addition.plainMarks ()]

def marks : RangeSet :=
  .unionAll [nonspacingMarks, GeneralCategory.rangesOf [.spacingMark], .ofText "11b61 11b65 11b67"]

def alphabetics : RangeSet :=
  .unionAll [DerivedProperty.alphabetic.ranges, Addition.letters (), Addition.vowelMarks ()]

def alphanumerics : RangeSet :=
  .unionAll [alphabetics, GeneralCategory.rangesOf GeneralCategory.numbers, Addition.digits ()]

def isAlphabetic (c : Char) : Bool :=
  if c.toNat < 128 then c.isAlpha else alphabetics.contains c.toNat

def isAlphanumeric (c : Char) : Bool :=
  if c.toNat < 128 then c.isAlphanum else alphanumerics.contains c.toNat

/-- Characters that cannot be seen by themselves in print: those of categories without a glyph, white
space other than the blank, marks on the character before and fillers that leave a gap. -/
def hidden : RangeSet :=
  (RangeSet.unionAll
    [.single 0x7F, GeneralCategory.rangesOf ([.control, .format, .privateUse] ++ GeneralCategory.separators),
      GeneralCategory.surrogates, GeneralCategory.unassigned (),
      DerivedProperty.graphemeExtend.ranges,
      DerivedProperty.defaultIgnorableCodePoint.ranges]).diff
    (.unionAll [.single 0x20, .ofText "ff9e-ff9f", Addition.shown ()])

/-- Whether a character shows in print as itself. -/
def isShown (c : Char) : Bool :=
  if c.toNat < 127 then 0x20 ≤ c.toNat else !hidden.contains c.toNat

end Runbook.Unicode
