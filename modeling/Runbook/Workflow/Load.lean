import Runbook.Files.Basic
import Runbook.Workflow.Source

/-! Workflow definitions in files.
-/

set_option autoImplicit false

namespace Runbook.Workflow

def load (read : Files.Reader) (path : String) : Except Error Workflow :=
  match read path with
  | .error fault => .error (.validation s!"Cannot read '{path}': {fault.message}")
  | .ok content => parse content (Source.detect (some path) content)

end Runbook.Workflow
