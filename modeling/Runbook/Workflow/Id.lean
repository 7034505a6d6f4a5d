/-! Identifiers of workflows: 1 to 64 bytes of ASCII letters, digits, hyphens and underscores, with a
letter or digit at both ends.
-/

set_option autoImplicit false

namespace Runbook

namespace WorkflowId

def maxBytes : Nat := 64

def isIdChar (c : Char) : Bool :=
  c.isAlphanum || c == '-' || c == '_'

/-- Only characters of identifiers, and a letter or digit at both ends. -/
def isShaped (cs : List Char) : Bool :=
  cs.all isIdChar && (cs.head?.map Char.isAlphanum).getD false &&
    (cs.getLast?.map Char.isAlphanum).getD false

def isWellFormed (text : String) : Bool :=
  text.utf8ByteSize ≤ maxBytes && isShaped text.toList

end WorkflowId

structure WorkflowId where
  text : String
  wellFormed : WorkflowId.isWellFormed text = true
  deriving DecidableEq, Repr

namespace WorkflowId

inductive Fault where
  | empty
  | tooLong
  | malformed (text : String)
  deriving DecidableEq, Repr

namespace Fault

def message : Fault → String
  | .empty => "Workflow ID cannot be empty"
  | .tooLong => s!"Workflow ID exceeds maximum length of {maxBytes} characters"
  | .malformed text =>
    s!"Invalid workflow ID '{text}': must be alphanumeric with hyphens or underscores, " ++
      "start and end with alphanumeric"

end Fault

/-- Emptiness and length are looked at before the characters. -/
def parse (text : String) : Except Fault WorkflowId :=
  if text.isEmpty then .error .empty
  else if maxBytes < text.utf8ByteSize then .error .tooLong
  else if h : isWellFormed text = true then .ok ⟨text, h⟩
  else .error (.malformed text)

instance : ToString WorkflowId := ⟨text⟩

end WorkflowId

end Runbook
