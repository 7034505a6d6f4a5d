import Runbook.Configuration.Basic
import Runbook.Document.Value
import Runbook.Number.Numeral

/-! Reading the values of a configuration: a value of one kind is taken for another where it makes sense.

Texts become numbers and the other way round, truth values count as 1 and 0, and fractions are rounded.
-/

set_option autoImplicit false

namespace Runbook.Configuration

open Document

namespace Conversion

inductive Fault where
  | textWanted
  | numberWanted
  | formatWanted
  | tableWanted
  deriving DecidableEq, Repr

/-- Integers beyond 64 bits count as fractions, moments as texts. -/
def plain : Value → Value
  | .integer n =>
    if Number.Interval.int64.contains n then .integer n
    else
      match Number.Binary64.ofRatio (n < 0) n.natAbs 1 with
      | some x => .float (.finite x)
      | none => .float (.infinite (n < 0))
  | .moment text => .string text
  | value => value

def text (value : Value) : Except Fault String :=
  match plain value with
  | .string text => .ok text
  | .boolean b => .ok (toString b)
  | .integer n => .ok (toString n)
  | .float x => .ok x.plainText
  | _ => .error .textWanted

def nullable {α : Type} (read : Value → Except Fault α) : Value → Except Fault (Option α)
  | .null => .ok none
  | value => (read value).map some

def largest : Nat :=
  Number.Interval.uint64.high.toNat

/-- The nearest natural number, halves upward, within 64 bits. -/
def rounded : Number.Real → Nat
  | .finite x =>
    if x.negative then 0
    else
      let (num, den) := x.ratio
      min ((2 * num + den) / (2 * den)) largest
  | .infinite negative => if negative then 0 else largest
  | .notANumber => 0

def natural (value : Value) : Except Fault Nat :=
  match plain value with
  | .integer n => if 0 ≤ n then .ok n.toNat else .error .numberWanted
  | .float x => .ok (rounded x)
  | .boolean b => .ok (if b then 1 else 0)
  | .string text =>
    match text.toLower with
    | "true" | "on" | "yes" => .ok 1
    | "false" | "off" | "no" => .ok 0
    | _ =>
      match Number.Numeral.unsigned? largest text with
      | some n => .ok n
      | none => .error .numberWanted
  | _ => .error .numberWanted

def uint64 (value : Value) : Except Fault UInt64 :=
  (natural value).map UInt64.ofNat

def uint32 (value : Value) : Except Fault UInt32 := do
  let n ← natural value
  if Number.Interval.uint32.contains n then return UInt32.ofNat n else throw .numberWanted

/-- A format by its name, alone or as the only name of a table. -/
def format : Value → Except Fault LogFormat
  | .string name => named name
  | .object [(name, _)] => named name
  | _ => .error .formatWanted
where
  named (name : String) : Except Fault LogFormat :=
    match LogFormat.all.find? fun format => format.name == name.toLower with
    | some format => .ok format
    | none => .error .formatWanted

/-- A field by its name in a table, or by its position in an array. -/
def field {α : Type} (name : String) (position : Nat) (read : Value → Except Fault α)
    (default : α) : Value → Except Fault α
  | .object members =>
    match members.lookup name with
    | some value => read value
    | none => .ok default
  | .array items =>
    match items[position]? with
    | some value => read value
    | none => .ok default
  | _ => .error .tableWanted

def logging (value : Value) : Except Fault Logging := do
  return { level := ← field "level" 0 text ({} : Logging).level value,
           format := ← field "format" 1 format ({} : Logging).format value }

def executor (value : Value) : Except Fault Executor := do
  let millis ← field "default_command_timeout_ms" 0 uint64 ({} : Executor).defaultTimeoutMillis
    value
  return ⟨millis⟩

def notifications (value : Value) : Except Fault Notifications := do
  return { webhookUrl := ← field "webhook_url" 0 (nullable text) none value,
           webhookSecret := ← field "webhook_secret" 1 (nullable text) none value,
           timeoutSeconds := ← field "timeout_secs" 2 uint64 ({} : Notifications).timeoutSeconds
             value }

def retention (value : Value) : Except Fault Retention := do
  return ⟨← field "days" 0 uint32 ({} : Retention).days value⟩

def configuration (value : Value) : Except Fault Configuration := do
  return { logging := ← field "logging" 0 logging {} value,
           executor := ← field "executor" 1 executor {} value,
           notifications := ← field "notifications" 2 notifications {} value,
           retention := ← field "retention" 3 retention {} value }

end Conversion

end Runbook.Configuration
