/-! The configuration of the program, with what holds where nothing is configured.
-/

set_option autoImplicit false

namespace Runbook

namespace Configuration

inductive LogFormat where
  | pretty
  | json
  deriving DecidableEq, Repr

namespace LogFormat

def all : List LogFormat := [.pretty, .json]

def name : LogFormat → String
  | .pretty => "pretty"
  | .json => "json"

end LogFormat

structure Logging where
  level : String := "info"
  format : LogFormat := .pretty
  deriving DecidableEq, Repr

structure Executor where
  /-- For commands that do not set one. -/
  defaultTimeoutMillis : UInt64 := 30000
  deriving DecidableEq, Repr

/-- Where events go; without an address they are only logged. -/
structure Notifications where
  webhookUrl : Option String := none
  webhookSecret : Option String := none
  timeoutSeconds : UInt64 := 10
  deriving DecidableEq, Repr

structure Retention where
  /-- Runs that ended are kept for so long. -/
  days : UInt32 := 30
  deriving DecidableEq, Repr

end Configuration

structure Configuration where
  logging : Configuration.Logging := {}
  executor : Configuration.Executor := {}
  notifications : Configuration.Notifications := {}
  retention : Configuration.Retention := {}
  deriving DecidableEq, Repr

end Runbook
