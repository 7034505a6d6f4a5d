import Runbook.Unicode.DerivedProperty
import Runbook.Unicode.Script

/-! The classes of characters at which text is divided into what a reader takes for one character, into
words and into sentences. Each kind of division has names for its classes; a character in none of them
has no particular effect.
-/

set_option autoImplicit false

namespace Runbook.Unicode

open GeneralCategory (rangesOf)

def lineFeed : RangeSet := .single 0x0A

def carriageReturn : RangeSet := .single 0x0D

def joiner : RangeSet := .single 0x200D

namespace GraphemeBreak

def prependSet (_ : Unit) : RangeSet :=
  Property.prependedConcatenationMark.ranges.union
    (.ofText "d4e 111c2-111c3 113d1 1193f 11941 11a3a 11a84-11a89 11d46 11f02")

def extendSet (_ : Unit) : RangeSet :=
  (DerivedProperty.graphemeExtend.ranges).union Property.emojiModifier.ranges

def controlSet (_ : Unit) : RangeSet :=
  (RangeSet.unionAll
    [rangesOf [.control, .format, .lineSeparator, .paragraphSeparator],
      DerivedProperty.defaultIgnorableCodePoint.ranges.inter (GeneralCategory.unassigned ())]).diff
    (.unionAll [lineFeed, carriageReturn, joiner, prependSet (), extendSet ()])

/-- Marks that stand apart from their letter in scripts written with spaces between syllables. -/
def detachedMarks : RangeSet :=
  .ofText "102b-102c 1038 1062-1064 1067-106d 1083 1087-108c 108f 109a-109c 1a61 1a63-1a64 aa7b aa7d
    11720-11721"

def spacingMarkSet (_ : Unit) : RangeSet :=
  ((rangesOf [.spacingMark]).union (.ofText "e33 eb3")).diff ((extendSet ()).union detachedMarks)

def openSyllables (_ : Unit) : RangeSet :=
  ⟨(List.range 399).map fun i => (0xAC00 + 28 * i, 0xAC00 + 28 * i)⟩

def named? (name : String) : Option RangeSet :=
  match name with
  | "cn" | "control" => some (controlSet ())
  | "cr" => some carriageReturn
  | "lf" => some lineFeed
  | "ex" | "extend" => some (extendSet ())
  | "l" => some (.ofText "1100-115f a960-a97c")
  | "v" => some (.ofText "1160-11a7 d7b0-d7c6 16d63 16d67-16d6a")
  | "t" => some (.ofText "11a8-11ff d7cb-d7fb")
  | "lv" => some (openSyllables ())
  | "lvt" => some ((RangeSet.ofText "ac00-d7a3").diff (openSyllables ()))
  | "pp" | "prepend" => some (prependSet ())
  | "ri" | "regionalindicator" => some Property.regionalIndicator.ranges
  | "sm" | "spacingmark" => some (spacingMarkSet ())
  | "zwj" => some joiner
  | _ => none

end GraphemeBreak

namespace WordBreak

def midLetterSet : RangeSet :=
  .ofText "3a b7 387 55f 5f4 2027 fe13 fe55 ff1a"

def midNumLetSet : RangeSet :=
  .ofText "2e 2018-2019 2024 fe52 ff07 ff0e"

def singleQuoteSet : RangeSet := .single 0x27

def extendSet (_ : Unit) : RangeSet :=
  (GraphemeBreak.extendSet ()).union (rangesOf [.spacingMark])

def abbreviationMark : RangeSet := .single 0x70F

def numericSet (_ : Unit) : RangeSet :=
  .unionAll [rangesOf [.decimalNumber], .ofText "66b 19da",
    Property.prependedConcatenationMark.ranges.diff abbreviationMark]

def katakanaSet (_ : Unit) : RangeSet :=
  ((Script.named? "kana").getD {}).union (.ofText "3031-3035 309b-309c 30a0 30fc ff70")

def hebrewLetterSet (_ : Unit) : RangeSet :=
  ((Script.named? "hebr").getD {}).inter (rangesOf [.otherLetter])

def unspacedScripts : List String :=
  ["thai", "laoo", "mymr", "khmr", "tale", "talu", "lana", "tavt", "ahom"]

/-- Letters of words, with signs that count as letters. -/
def letterSet (_ : Unit) : RangeSet :=
  (DerivedProperty.alphabetic.ranges.diff
    (.unionAll
      ([Property.ideographic.ranges, (Script.named? "hira").getD {}, katakanaSet (), extendSet (),
        hebrewLetterSet (), numericSet ()] ++ unspacedScripts.filterMap Script.named?))).union
    (.unionAll [abbreviationMark,
      .ofText "2c2-2c5 2d2-2d7 2de-2df 2e5-2eb 2ed 2ef-2ff 55a-55c 55e 58a 5f3 a708-a716 a720-a721
        a789-a78a ab5b"])

def formatSet (_ : Unit) : RangeSet :=
  (rangesOf [.format]).diff
    (.unionAll [Property.prependedConcatenationMark.ranges, extendSet (), joiner, .single 0x200B])

def named? (name : String) : Option RangeSet :=
  match name with
  | "le" | "aletter" => some (letterSet ())
  | "cr" => some carriageReturn
  | "lf" => some lineFeed
  | "dq" | "doublequote" => some (.single 0x22)
  | "extend" => some (extendSet ())
  | "ex" | "extendnumlet" => some (.ofText "5f 202f 203f-2040 2054 fe33-fe34 fe4d-fe4f ff3f")
  | "fo" | "format" => some (formatSet ())
  | "hl" | "hebrewletter" => some (hebrewLetterSet ())
  | "ka" | "katakana" => some (katakanaSet ())
  | "ml" | "midletter" => some midLetterSet
  | "mn" | "midnum" =>
    some (.ofText "2c 3b 37e 589 60c-60d 66c 7f8 2044 fe50 fe54 ff0c ff1b")
  | "mb" | "midnumlet" => some midNumLetSet
  | "nl" | "newline" => some (.ofText "b-c 85 2028-2029")
  | "nu" | "numeric" => some (numericSet ())
  | "ri" | "regionalindicator" => some Property.regionalIndicator.ranges
  | "sq" | "singlequote" => some singleQuoteSet
  | "wsegspace" => some (.ofText "20 1680 2000-2006 2008-200a 205f 3000")
  | "zwj" => some joiner
  | _ => none

end WordBreak

namespace SentenceBreak

def ambiguousStops : RangeSet :=
  .ofText "2e 2024 fe52 ff0e"

def breaks : RangeSet :=
  .ofText "85 2028-2029"

def extendSet (_ : Unit) : RangeSet :=
  .unionAll [DerivedProperty.graphemeExtend.ranges, rangesOf [.spacingMark], joiner]

/-- Lower case, without the letters that a heading in capitals does not change. -/
def lowerSet (_ : Unit) : RangeSet :=
  DerivedProperty.lowercase.ranges.diff
    (.union DerivedProperty.graphemeExtend.ranges (.ofText "10d0-10fa 10fd-10ff"))

def upperSet (_ : Unit) : RangeSet :=
  (DerivedProperty.uppercase.ranges.union (rangesOf [.titlecaseLetter])).diff
    (.ofText "1c90-1cba 1cbd-1cbf")

def otherLetterSet (_ : Unit) : RangeSet :=
  (DerivedProperty.alphabetic.ranges.union (.single 0x5F3)).diff
    (.unionAll [lowerSet (), upperSet (), extendSet ()])

def stopSet (_ : Unit) : RangeSet :=
  Property.sentenceTerminal.ranges.diff ambiguousStops

def closeSet (_ : Unit) : RangeSet :=
  (RangeSet.unionAll
    [rangesOf GeneralCategory.quotations, Property.quotationMark.ranges,
      .ofText "275b-2760 2e00-2e01 2e06-2e08 2e0b 1f676-1f678"]).diff (.ofText "ff02 ff07")

def formatSet (_ : Unit) : RangeSet :=
  (rangesOf [.format]).diff
    (.union (extendSet ())
      (Property.prependedConcatenationMark.ranges.diff WordBreak.abbreviationMark))

def named? (name : String) : Option RangeSet :=
  match name with
  | "at" | "aterm" => some ambiguousStops
  | "cl" | "close" => some (closeSet ())
  | "cr" => some carriageReturn
  | "lf" => some lineFeed
  | "ex" | "extend" => some (extendSet ())
  | "fo" | "format" => some (formatSet ())
  | "le" | "oletter" => some (otherLetterSet ())
  | "lo" | "lower" => some (lowerSet ())
  | "nu" | "numeric" => some ((WordBreak.numericSet ()).union (.single 0x66C))
  | "sc" | "scontinue" =>
    some (.ofText "2c-2d 3a-3b 37e 55d 60c-60d 7f8 1802 1808 2013-2014 3001 fe10-fe11 fe13-fe14
      fe31-fe32 fe50-fe51 fe54-fe55 fe58 fe63 ff0c-ff0d ff1a-ff1b ff64")
  | "se" | "sep" => some breaks
  | "sp" =>
    some (Property.whiteSpace.ranges.diff (.unionAll [breaks, lineFeed, carriageReturn]))
  | "st" | "sterm" => some (stopSet ())
  | "up" | "upper" => some (upperSet ())
  | _ => none

end SentenceBreak

end Runbook.Unicode
