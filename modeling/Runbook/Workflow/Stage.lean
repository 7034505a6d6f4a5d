/-! The four command lists of a workflow: three that run forward, and the one that undoes them.
-/

set_option autoImplicit false

namespace Runbook

inductive Stage where
  | preCheck
  | implementation
  | postCheck
  | rollback
  deriving DecidableEq, Repr

namespace Stage

def all : List Stage :=
  [.preCheck, .implementation, .postCheck, .rollback]

def forward : List Stage :=
  [.preCheck, .implementation, .postCheck]

def name : Stage → String
  | .preCheck => "pre_check"
  | .implementation => "implementation"
  | .postCheck => "post_check"
  | .rollback => "rollback"

def isForward (stage : Stage) : Bool :=
  forward.contains stage

def rank : Stage → Nat
  | .preCheck => 0
  | .implementation => 1
  | .postCheck => 2
  | .rollback => 3

def ofName? (text : String) : Option Stage :=
  all.find? fun stage => stage.name == text

instance : ToString Stage := ⟨name⟩

end Stage

end Runbook
