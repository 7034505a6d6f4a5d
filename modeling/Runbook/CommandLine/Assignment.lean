import Runbook.Text.Blank

/-! Parameters on the command line: `key=value`, split at the first equals sign.
-/

set_option autoImplicit false

namespace Runbook.CommandLine.Assignment

inductive Fault where
  | noEqualsSign (text : String)
  | emptyKey (text : String)
  deriving DecidableEq, Repr

namespace Fault

def message : Fault → String
  | .noEqualsSign text => s!"invalid key=value: no '=' found in '{text}'"
  | .emptyKey text => s!"invalid key=value: empty key in '{text}'"

end Fault

/-- White space around the key does not belong to it. -/
def parse (text : String) : Except Fault (String × String) :=
  let key := text.toList.takeWhile (· != '=')
  match text.toList.drop key.length with
  | [] => .error (.noEqualsSign text)
  | _ :: value =>
    let key := Text.trimChars key
    if key.isEmpty then .error (.emptyKey text)
    else .ok (String.ofList key, String.ofList value)

def isAssignment (text : String) : Bool :=
  (parse text).isOk

end Runbook.CommandLine.Assignment
