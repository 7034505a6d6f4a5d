import Runbook.CommandLine.Program
import Std.Time.DateTime.Timestamp

/-! The program: it reads what its arguments need, and prints what comes of it.
-/

set_option autoImplicit false

namespace Runbook.CommandLine

/-- The environment variables that are asked for. There is no listing of them all, so the other spellings of
these names, which count as well, are not found. -/
def variableNames : List String :=
  ["LOGGING__LEVEL", "LOGGING__FORMAT", "EXECUTOR__DEFAULT_COMMAND_TIMEOUT_MS",
    "NOTIFICATIONS__WEBHOOK_URL", "NOTIFICATIONS__WEBHOOK_SECRET", "NOTIFICATIONS__TIMEOUT_SECS",
    "RETENTION__DAYS"].map ("NETOPS__" ++ ·)

def readEnvironment : IO Bindings := do
  let entries ← variableNames.filterMapM fun name => do
    return (← IO.getEnv name).map fun value => (name, value)
  return Bindings.ofList entries

def faultOf : IO.Error → Files.Fault
  | .noFileOrDirectory _ _ _ => .missing
  | .inappropriateType _ _ _ => .notADirectory
  | error => .other (toString error)

def readFile (path : String) : IO (Except Files.Fault String) := do
  try
    return .ok (← IO.FS.readFile path)
  catch error =>
    return .error (faultOf error)

def readFiles (invocation : Invocation) : IO Files.Reader := do
  let found ← invocation.paths.mapM fun path => do
    return (path, ← readFile path)
  return fun path => (found.lookup path).getD (.error .missing)

def readClock : IO Time.Instant := do
  let now ← Std.Time.Timestamp.now
  let nanos := now.toNanosecondsSinceUnixEpoch.toInt
  return ⟨Int.fdiv nanos 1000000000, (Int.fmod nanos 1000000000).toNat⟩

def complainOn (stream : IO.FS.Stream) (complaint : Complaint) : IO Unit := do
  stream.putStrLn s!"Error: {complaint.message}"
  match complaint.cause with
  | some cause => stream.putStrLn s!"\nCaused by:\n    {cause}"
  | none => pure ()

def perform (invocation : Invocation) : IO UInt32 := do
  let outcome := invocation.perform
    { read := ← readFiles invocation, environment := ← readEnvironment, now := ← readClock }
  (← IO.getStdout).putStr outcome.printed.toText
  match outcome.complaint with
  | some complaint => complainOn (← IO.getStderr) complaint
  | none => pure ()
  return outcome.exitCode

end Runbook.CommandLine

def main (arguments : List String) : IO UInt32 := do
  match Runbook.CommandLine.Invocation.parse arguments with
  | some invocation => Runbook.CommandLine.perform invocation
  | none =>
    (← IO.getStderr).putStr Runbook.CommandLine.helpText
    return 2
