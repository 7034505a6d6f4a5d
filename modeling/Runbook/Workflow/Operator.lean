import Runbook.Pattern.Compiled
import Runbook.Text.Blank
import Runbook.Text.Search

/-! Comparing a text with a pattern: as a piece of text, as a whole, or as a regular expression.
-/

set_option autoImplicit false

namespace Runbook

inductive Operator where
  | contains
  | notContains
  | equals
  | notEqual
  | startsWith
  | endsWith
  | matches
  deriving DecidableEq, Repr

structure InvalidPattern where
  pattern : String
  fault : Pattern.Fault
  deriving DecidableEq, Repr

namespace InvalidPattern

def message (invalid : InvalidPattern) : String :=
  s!"Invalid pattern '{invalid.pattern}': {invalid.fault.message}"

end InvalidPattern

namespace Pattern

def ofText (text : String) : Except InvalidPattern Pattern :=
  match compile text with
  | .ok pattern => .ok pattern
  | .error fault => .error ⟨text, fault⟩

end Pattern

namespace Operator

def all : List Operator :=
  [.contains, .notContains, .equals, .notEqual, .startsWith, .endsWith, .matches]

def name : Operator → String
  | .contains => "contains"
  | .notContains => "not_contains"
  | .equals => "equals"
  | .notEqual => "not_equal"
  | .startsWith => "starts_with"
  | .endsWith => "ends_with"
  | .matches => "matches"

/-- `equal` is another name of `equals`. -/
def ofName? (text : String) : Option Operator :=
  if text = "equal" then some .equals else all.find? fun operator => operator.name == text

/-- The names that can be read, in the order in which a fault lists them. -/
def knownNames : List String :=
  ["contains", "not_contains", "equal", "equals", "not_equal", "starts_with", "ends_with",
    "matches"]

def isRegex (operator : Operator) : Bool :=
  operator == .matches

instance : ToString Operator := ⟨name⟩

/-- White space at the ends does not count where whole texts are compared. -/
def evaluate (operator : Operator) (subject pattern : String) : Except InvalidPattern Bool :=
  match operator with
  | .contains => .ok (Text.contains subject pattern)
  | .notContains => .ok (!Text.contains subject pattern)
  | .equals => .ok (Text.trim subject == Text.trim pattern)
  | .notEqual => .ok (Text.trim subject != Text.trim pattern)
  | .startsWith => .ok (Text.startsWith subject pattern)
  | .endsWith => .ok (Text.endsWith subject pattern)
  | .matches => (Pattern.ofText pattern).map fun compiled => compiled.isMatch subject.toList

end Operator

end Runbook
