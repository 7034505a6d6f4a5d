/-! Where a run stands, and where it may go from there.
-/

set_option autoImplicit false

namespace Runbook.Run

inductive Status where
  | pending
  | running
  | completed
  | failed
  | cancelled
  | rollingBack
  | rolledBack
  deriving DecidableEq, Repr

namespace Status

def all : List Status :=
  [.pending, .running, .completed, .failed, .cancelled, .rollingBack, .rolledBack]

def name : Status → String
  | .pending => "pending"
  | .running => "running"
  | .completed => "completed"
  | .failed => "failed"
  | .cancelled => "cancelled"
  | .rollingBack => "rolling_back"
  | .rolledBack => "rolled_back"

def ofName? (text : String) : Option Status :=
  all.find? fun status => status.name == text

def isTerminal : Status → Bool
  | .completed | .failed | .cancelled | .rolledBack => true
  | .pending | .running | .rollingBack => false

/-- A run that is rolling back is never cancelled and never rolls back again. -/
def canBecome : Status → Status → Bool
  | .pending, .running | .pending, .cancelled => true
  | .running, .completed | .running, .rollingBack | .running, .cancelled => true
  | .rollingBack, .rolledBack | .rollingBack, .failed => true
  | _, _ => false

instance : ToString Status := ⟨name⟩

end Status

end Runbook.Run
