/-! The grammar of parameter and variable names: an ASCII letter or underscore, then letters,
digits and underscores.
-/

set_option autoImplicit false

namespace Runbook.Name

def isStart (c : Char) : Bool :=
  c.isAlpha || c == '_'

def isPart (c : Char) : Bool :=
  c.isAlphanum || c == '_'

def isNameChars : List Char → Bool
  | [] => false
  | c :: rest => isStart c && rest.all isPart

def isName (s : String) : Bool :=
  isNameChars s.toList

/-- The longest name at the front, empty where none starts. -/
def leading : List Char → List Char
  | [] => []
  | c :: rest => if isStart c then c :: rest.takeWhile isPart else []

theorem isNameChars_leading {cs : List Char} (found : leading cs ≠ []) :
    isNameChars (leading cs) = true := by
  cases cs with
  | nil => simp [leading] at found
  | cons c rest =>
    by_cases start : isStart c = true
    · simp [leading, start, isNameChars]
    · simp [leading, start] at found

end Runbook.Name
