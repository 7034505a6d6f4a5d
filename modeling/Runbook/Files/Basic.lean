/-! Files as a program sees them: a path leads to a text or to a reason why there is none.
-/

set_option autoImplicit false

namespace Runbook.Files

inductive Fault where
  | missing
  | notADirectory
  | isADirectory
  | nameTooLong
  | nulCharacter
  | other (message : String)
  deriving DecidableEq, Repr

namespace Fault

def message : Fault → String
  | .missing => "No such file or directory (os error 2)"
  | .notADirectory => "Not a directory (os error 20)"
  | .isADirectory => "Is a directory (os error 21)"
  | .nameTooLong => "File name too long (os error 36)"
  | .nulCharacter => "file name contained an unexpected NUL byte"
  | .other message => message

end Fault

abbrev Reader := String → Except Fault String

end Runbook.Files
