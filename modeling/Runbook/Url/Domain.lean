import Runbook.Unicode.Composition
import Runbook.Unicode.Direction
import Runbook.Unicode.HostMapping
import Runbook.Unicode.Joining
import Runbook.Url.Punycode

/-! Names of hosts in any script, and how they are written in ASCII (UTS 46, with the checks of joiners and of
directions).
-/

set_option autoImplicit false

namespace Runbook.Url.Domain

open Unicode

def splitOn (mark : Char) : List Char → List (List Char)
  | [] => [[]]
  | c :: rest =>
    match splitOn mark rest with
    | [] => []
    | first :: others => if c = mark then [] :: first :: others else (c :: first) :: others

def isAscii (cs : List Char) : Bool :=
  cs.all fun c => c.toNat < 128

/-- Whether letters are held together across marks, on the side that the first of them is. -/
def holds (side : Joining) : List Char → Bool
  | [] => false
  | c :: rest =>
    match Joining.ofChar c with
    | .transparent => holds side rest
    | joining => joining == .both || joining == side

/-- The mark that takes the vowel from a letter of an Indian script. -/
def isVowelKiller (c : Char) : Bool :=
  Composition.classOf c == 9

/-- Whether joiners stand only where they make a difference; first comes what is before, backwards. -/
def joinersFit (before : List Char) : List Char → Bool
  | [] => true
  | c :: rest =>
    let fits := match before with
      | [] => false
      | last :: _ =>
        isVowelKiller last ||
          (c == '\u200c' && holds .behind before && holds .before rest)
    (fits || (c != '\u200c' && c != '\u200d')) && joinersFit (c :: before) rest

def startsWithMark : List Char → Bool
  | [] => false
  | c :: _ => marks.contains c.toNat

/-- Labels beyond this are refused if they are not in ASCII; what stands for one in ASCII may be twice as
long. -/
def longest : Nat :=
  1000

/-- Whether a label of a name may have the characters that it has, in this order. -/
def isLabel (cs : List Char) : Bool :=
  !startsWithMark cs && joinersFit [] cs && cs.length ≤ longest

/-- Whether characters stand for themselves. -/
def isMapped (cs : List Char) : Bool :=
  cs.all (fun c => hostMapping? c == some [c]) && composed cs == cs

structure Label where
  text : List Char
  ascii : List Char
  deriving DecidableEq, Repr

def asciiStart : List Char :=
  ['x', 'n', '-', '-']

def Label.ofAscii? (digits : List Char) : Option Label :=
  if digits.length ≤ 2 * longest && digits.getLast? != some '-' && !digits.isEmpty then
    match Punycode.decode? digits with
    | some text => if isMapped text && isLabel text then some ⟨text, asciiStart ++ digits⟩ else none
    | none => none
  else none

def Label.ofText? (cs : List Char) : Option Label :=
  if asciiStart.isPrefixOf cs then Label.ofAscii? (cs.drop asciiStart.length)
  else if isAscii cs then some ⟨cs, cs⟩
  else if isLabel cs then some ⟨cs, asciiStart ++ Punycode.encode cs⟩
  else none

def isFromRight (direction : Direction) : Bool :=
  direction == .rightToLeft || direction == .arabicNumber

/-- Whether the characters of a label, all but the marks at its end, keep to the direction of the first. -/
def directionsFit : List Direction → Bool
  | [] => true
  | first :: rest =>
    let all := first :: rest
    let last := all.reverse.find? (· != .mark)
    match first with
    | .leftToRight =>
      !all.any isFromRight && (last == some .leftToRight || last == some .europeanNumber)
    | .rightToLeft =>
      !all.contains .leftToRight && last != some .neutral &&
        !(all.contains .europeanNumber && all.contains .arabicNumber)
    | _ => false

def labelsFit (labels : List Label) : Bool :=
  let directions := labels.map fun label => label.text.map Direction.ofChar
  !directions.any (·.any isFromRight) || directions.all directionsFit

def isForbidden (c : Char) : Bool :=
  c.toNat ≤ 0x20 || c.toNat == 0x7F ||
    ['#', '/', ':', '<', '>', '?', '@', '[', '\\', ']', '^', '|', '%'].contains c

def toAscii? (cs : List Char) : Option (List Char) := do
  let mapped ← cs.mapM hostMapping?
  let labels ← (splitOn '.' (composed mapped.flatten)).mapM Label.ofText?
  let name := List.intercalate ['.'] (labels.map Label.ascii)
  if labelsFit labels && !name.any isForbidden then some name else none

end Runbook.Url.Domain
