import Runbook.Pattern.Parser
import Runbook.Pattern.Size
import Runbook.Pattern.Search

/-! Patterns ready for use: compiling a text, and finding a match with what its groups took part in.
-/

set_option autoImplicit false

namespace Runbook

inductive Pattern.Fault where
  | malformed
  | tooLarge
  deriving DecidableEq, Repr

namespace Pattern.Fault

def message : Pattern.Fault → String
  | .malformed => "regex parse error"
  | .tooLarge => s!"Compiled regex exceeds size limit of {sizeLimit} bytes."

end Pattern.Fault

structure Pattern where
  program : Pattern.Program
  start : Nat
  /-- The names of the groups from the first on. -/
  names : List (Option String)

namespace Pattern

/-- The groups that are left in the expression, up to the one with the greatest index; a group that
a repetition of no times took away has no name. -/
def groupNames (parsed : Parsed) : List (Option String) :=
  let indices := parsed.expression.groups
  let count := indices.foldl max 0
  (List.range count).map fun i =>
    if indices.contains (i + 1) then (parsed.names[i]?).join else none

def compile (text : String) : Except Fault Pattern :=
  match parse? text with
  | none => .error .malformed
  | some parsed =>
    if parsed.expression.isTooLarge then .error .tooLarge
    else
      let fragment := Program.ofExpression parsed.expression
      .ok { program := fragment.code, start := fragment.start, names := groupNames parsed }

/-- A piece of a text, from one place to a later one. -/
structure Span where
  first : Nat
  last : Nat
  deriving DecidableEq, Repr

namespace Span

def slice (span : Span) (text : List Char) : List Char :=
  (text.drop span.first).take (span.last - span.first)

end Span

/-- Of a match, the whole and every group; a group that took no part has no span. -/
structure Captures where
  whole : Span
  groups : List (Option Span)
  deriving DecidableEq, Repr

def spanOf? (slots : Slots) (index : Nat) : Option Span := do
  let first ← (slots[2 * index]?).join
  let last ← (slots[2 * index + 1]?).join
  return ⟨first, last⟩

def find? (pattern : Pattern) (text : List Char) : Option Captures := do
  let count := pattern.names.length
  let empty : Slots := Array.replicate (2 * (count + 1)) none
  let marks := Array.replicate pattern.program.size 0
  let slots ← search pattern.program pattern.start empty none 0 none ⟨[], marks⟩ text
  let whole ← spanOf? slots 0
  return ⟨whole, (List.range count).map fun i => spanOf? slots (i + 1)⟩

def isMatch (pattern : Pattern) (text : List Char) : Bool :=
  (pattern.find? text).isSome

end Pattern

end Runbook
