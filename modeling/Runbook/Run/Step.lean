import Runbook.Time.Instant
import Runbook.Workflow.Command
import Runbook.Workflow.Stage

/-! The record of one command of a run, and the failure that a run ends its forward stages with.
-/

set_option autoImplicit false

namespace Runbook

inductive FailureKind where
  | variableResolution
  | commandExecution
  | timeout
  | matchFailure
  | exitCodeMismatch
  | invalidPattern
  deriving DecidableEq, Repr

namespace FailureKind

def all : List FailureKind :=
  [.variableResolution, .commandExecution, .timeout, .matchFailure, .exitCodeMismatch,
    .invalidPattern]

def name : FailureKind → String
  | .variableResolution => "variable_resolution"
  | .commandExecution => "command_execution"
  | .timeout => "timeout"
  | .matchFailure => "match_failure"
  | .exitCodeMismatch => "exit_code_mismatch"
  | .invalidPattern => "invalid_pattern"

def ofName? (text : String) : Option FailureKind :=
  all.find? fun kind => kind.name == text

instance : ToString FailureKind := ⟨name⟩

end FailureKind

namespace Step

structure Error where
  kind : FailureKind
  message : String
  deriving DecidableEq, Repr

namespace Error

def text (error : Error) : String :=
  s!"{error.kind}: {error.message}"

end Error

/-- The place of a branch command under the command whose condition chose it. -/
structure Branch where
  parentIndex : Nat
  arm : Arm
  index : Nat
  deriving DecidableEq, Repr

end Step

structure Step where
  stage : Stage
  /-- The position of the command in its stage, of branch commands that of their parent. -/
  commandIndex : Nat
  branch : Option Step.Branch := none
  description : Option String := none
  template : String
  /-- What the device was sent; empty where the template had no value. -/
  commandSent : String := ""
  rawOutput : String := ""
  matched : Bool := false
  extractedValue : Option String := none
  exitCode : Option Int32 := none
  error : Option Step.Error := none
  startedAt : Time.Instant
  durationMillis : UInt64 := 0
  deriving DecidableEq, Repr

namespace Step

def isSuccess (step : Step) : Bool :=
  step.error.isNone

def isBranch (step : Step) : Bool :=
  step.branch.isSome

def fail (step : Step) (kind : FailureKind) (message : String) : Step :=
  { step with error := some ⟨kind, message⟩ }

def finish (step : Step) (now : Time.Instant) : Step :=
  { step with
    durationMillis := UInt64.ofNat (Time.Instant.millisBetween step.startedAt now).toNat }

end Step

/-- Why a run left the forward stages, or why its rollback ended early. -/
structure Failure where
  stage : Stage
  commandIndex : Nat
  kind : FailureKind
  message : String
  deriving DecidableEq, Repr

namespace Failure

def text (failure : Failure) : String :=
  s!"{failure.stage} command {failure.commandIndex} failed ({failure.kind}): {failure.message}"

end Failure

end Runbook
