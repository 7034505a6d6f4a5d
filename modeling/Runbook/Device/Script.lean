import Runbook.Device.Session
import Runbook.Document.Reading
import Runbook.Table

/-! Scripts of recorded responses, by the exact text of the command.

Where a command has several responses they come in order, and the last one repeats. A command without
an entry gets the default response; an entry without responses gets none, not even the default.
-/

set_option autoImplicit false

namespace Runbook.Device

open Document

structure Response where
  output : String := ""
  exitCode : Option Int32 := none
  /-- Fails on the way instead of giving the output. -/
  error : Option String := none
  delayMillis : Option UInt64 := none
  deriving DecidableEq, Repr

namespace Response

def reply (response : Response) : Reply :=
  match response.error with
  | some message => .error (.transport message)
  | none => .ok ⟨response.output, response.exitCode⟩

def layout : Record Response :=
  Response.mk <$> Record.optional "output" Decoder.string ""
    <*> Record.optional "exit_code" (Decoder.nullable Decoder.int32) none
    <*> Record.optional "error" (Decoder.nullable Decoder.string) none
    <*> Record.optional "delay_ms" (Decoder.nullable Decoder.uint64) none

def decode : Decoder Response :=
  layout.decode "ReplayResponse" false

/-- A list of responses or a single one; an array counts as a list if it can. -/
def decodeEntry : Decoder (List Response) := fun format value =>
  if value.isBroken then .error .unreadable
  else
    match Decoder.list decode format value, decode format value with
    | .ok all, _ => .ok all
    | .error _, .ok only => .ok [only]
    | .error _, .error _ =>
      .error (.rejected "data did not match any variant of untagged enum ReplayEntry")

end Response

structure Script where
  queues : Table String (List Response) := .empty
  fallback : Option Response := none
  deriving DecidableEq, Repr

namespace Script

def empty : Script := {}

def on (script : Script) (command : String) (response : Response) : Script :=
  let queue := (script.queues.get? command).getD []
  { script with queues := script.queues.insert command (queue ++ [response]) }

def withFallback (script : Script) (response : Response) : Script :=
  { script with fallback := some response }

/-- The response to a command, and the script with that response used up if others follow it. -/
def next (script : Script) (command : String) : Option Response × Script :=
  match script.queues.get? command with
  | none => (script.fallback, script)
  | some [] => (none, script)
  | some [only] => (some only, script)
  | some (first :: rest) =>
    (some first, { script with queues := script.queues.insert command rest })

def decodeQueues : Decoder (Table String (List Response)) := fun format value =>
  match value with
  | .object members => do
    let entries ← members.mapM fun member => do
      return (member.1, ← Response.decodeEntry format member.2)
    return Table.ofList entries
  | _ => Decoder.wanted "a map" format value

def layout : Record Script :=
  (fun fallback queues => ⟨queues, fallback⟩)
    <$> Record.optional "default" (Decoder.nullable Response.decode) none
    <*> Record.optional "responses" decodeQueues .empty

def decode : Decoder Script :=
  layout.decode "ReplayScriptFile" false

def parse (text : String) : Except ReadFault Script :=
  readWith decode .json text

end Script

end Runbook.Device
