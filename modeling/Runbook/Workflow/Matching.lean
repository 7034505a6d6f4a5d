import Runbook.Workflow.Command

/-! The verdict on the output of a command, and what is extracted from it.
-/

set_option autoImplicit false

namespace Runbook

namespace MatchRule

/-- Whether the rule holds, and what it extracts where that is asked for. Only a regular expression
extracts: its first group, empty where that took no part, or the whole match if it has no group. -/
def apply (rule : MatchRule) (output : String) (extract : Bool) :
    Except InvalidPattern (Bool × Option String) :=
  if rule.operator.isRegex then do
    let pattern ← Pattern.ofText rule.pattern
    let text := output.toList
    match pattern.find? text with
    | none => return (false, none)
    | some captures =>
      if !extract then return (true, none)
      else
        let span? :=
          match captures.groups with
          | [] => some captures.whole
          | first :: _ => first
        let value := (span?.map fun span => span.slice text).getD []
        return (true, some (String.ofList value))
  else do
    return (← rule.operator.evaluate output rule.pattern, none)

end MatchRule

namespace Matching

inductive Rejection where
  | patternNotSatisfied (operator : Operator) (pattern : String)
  | exitCodeMismatch (expected : Int32) (actual : Option Int32)
  deriving DecidableEq, Repr

namespace Rejection

def message : Rejection → String
  | .patternNotSatisfied operator pattern => s!"output did not satisfy {operator} '{pattern}'"
  | .exitCodeMismatch expected (some actual) => s!"expected exit code {expected}, got {actual}"
  | .exitCodeMismatch expected none => s!"expected exit code {expected}, device reported none"

end Rejection

structure Verdict where
  /-- Whether the rule holds; without a rule always. -/
  matched : Bool
  extracted : Option String := none
  rejection : Option Rejection := none
  deriving DecidableEq, Repr

namespace Verdict

def isSuccess (verdict : Verdict) : Bool :=
  verdict.rejection.isNone

end Verdict

/-- The rule is looked at first, then the exit code; a rejected output gives no value. -/
def evaluate (output : String) (exitCode : Option Int32) (rule : Option MatchRule)
    (expected : Option Int32) (extract : Bool) : Except InvalidPattern Verdict := do
  let (matched, extracted) ←
    match rule with
    | none => .ok (true, none)
    | some rule => rule.apply output extract
  match rule, matched, expected with
  | some rule, false, _ =>
    return { matched, rejection := some (.patternNotSatisfied rule.operator rule.pattern) }
  | _, _, some code =>
    if exitCode = some code then return { matched, extracted }
    else return { matched, rejection := some (.exitCodeMismatch code exitCode) }
  | _, _, none => return { matched, extracted }

end Matching

end Runbook
