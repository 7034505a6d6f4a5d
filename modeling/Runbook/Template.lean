import Runbook.Bindings
import Runbook.Name

/-! Command templates: text with `{{parameter}}` and `{variable}` tokens.

A template is read once from left to right into single characters and tokens; at each place the
double-brace form is tried first. Substituted values are never read again. The two namespaces are
apart: a parameter never fills a variable token, nor a variable a parameter token.
-/

set_option autoImplicit false

namespace Runbook

namespace Template

inductive Token where
  | parameter (name : String)
  | variable (name : String)
  deriving DecidableEq, Repr

namespace Token

def name : Token → String
  | .parameter name | .variable name => name

def source : Token → List Char
  | .parameter name => '{' :: '{' :: (name.toList ++ ['}', '}'])
  | .variable name => '{' :: (name.toList ++ ['}'])

end Token

inductive Segment where
  | char (c : Char)
  | token (token : Token)
  deriving DecidableEq, Repr

/-- A name directly followed by `closing`. -/
def delimitedName? (closing cs : List Char) : Option (List Char) :=
  let name := Name.leading cs
  if name.isEmpty then none
  else if closing.isPrefixOf (cs.drop name.length) then some name
  else none

def tokenAt? : List Char → Option Token
  | '{' :: '{' :: rest =>
    (delimitedName? ['}', '}'] rest).map fun name => .parameter (String.ofList name)
  | '{' :: rest =>
    (delimitedName? ['}'] rest).map fun name => .variable (String.ofList name)
  | _ => none

/-- `skip` characters belong to the token read last. -/
def scan (skip : Nat) : List Char → List Segment
  | [] => []
  | c :: rest =>
    match skip with
    | left + 1 => scan left rest
    | 0 =>
      match tokenAt? (c :: rest) with
      | some token => .token token :: scan (token.source.length - 1) rest
      | none => .char c :: scan 0 rest

def segments (template : String) : List Segment :=
  scan 0 template.toList

def tokens (template : String) : List Token :=
  (segments template).filterMap fun
    | .token token => some token
    | .char _ => none

def hasTokens (template : String) : Bool :=
  !(tokens template).isEmpty

def parameters (template : String) : List String :=
  (tokens template).filterMap fun
    | .parameter name => some name
    | .variable _ => none

inductive Fault where
  | missingParameter (name : String)
  | unboundVariable (name : String)
  deriving DecidableEq, Repr

namespace Fault

def message : Fault → String
  | .missingParameter name => s!"Dynamic parameter '{name}' was not supplied"
  | .unboundVariable name => s!"Variable '{name}' is not bound"

end Fault

/-- Parameters are fixed for a run; the variables bound grow while it goes on. -/
structure Context where
  parameters : Bindings
  bound : Bindings := .empty
  deriving DecidableEq, Repr

namespace Context

def bind (context : Context) (name value : String) : Context :=
  { context with bound := context.bound.insert name value }

def value (context : Context) : Token → Except Fault String
  | .parameter name =>
    match context.parameters.get? name with
    | some value => .ok value
    | none => .error (.missingParameter name)
  | .variable name =>
    match context.bound.get? name with
    | some value => .ok value
    | none => .error (.unboundVariable name)

def render (context : Context) : List Segment → Except Fault (List Char)
  | [] => .ok []
  | .char c :: rest => do return c :: (← context.render rest)
  | .token token :: rest => do
    let text ← context.value token
    return text.toList ++ (← context.render rest)

/-- Every token replaced by its value; the first token without one is the fault. -/
def resolve (context : Context) (template : String) : Except Fault String := do
  return String.ofList (← context.render (segments template))

end Context

/-- The template as far as the parameters alone decide it: missing parameters and all variables
become empty. -/
def preview (parameters : Bindings) (template : String) : String :=
  String.ofList <| (segments template).flatMap fun
    | .char c => [c]
    | .token (.parameter name) => ((parameters.get? name).getD "").toList
    | .token (.variable _) => []

end Template

end Runbook
