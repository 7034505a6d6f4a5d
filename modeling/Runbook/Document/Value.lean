import Runbook.Number.Interval
import Runbook.Number.Real
import Runbook.Table

/-! Structured documents, whichever notation they were written in.

A document keeps the order of its members and repeated names; what a repetition means is up to whoever
reads it. `broken` stands where the text has a value of the right form that no program can hold; it
is harmless as long as nobody reads that place.
-/

set_option autoImplicit false

namespace Runbook.Document

inductive Value where
  | null
  | boolean (value : Bool)
  | integer (value : Int)
  | float (value : Number.Real)
  | string (value : String)
  | array (items : List Value)
  | object (members : List (String × Value))
  /-- A date, a time or both, as written. -/
  | moment (text : String)
  | broken
  deriving Repr

abbrev Member := String × Value

instance : Inhabited Value := ⟨.null⟩

namespace Value

mutual

def anyWithin (test : Value → Bool) : Value → Bool
  | .array items => test (.array items) || anyItemWithin test items
  | .object members => test (.object members) || anyMemberWithin test members
  | value => test value

def anyItemWithin (test : Value → Bool) : List Value → Bool
  | [] => false
  | item :: rest => item.anyWithin test || anyItemWithin test rest

def anyMemberWithin (test : Value → Bool) : List (String × Value) → Bool
  | [] => false
  | (_, item) :: rest => item.anyWithin test || anyMemberWithin test rest

end

/-- Whether an integer of no more than 64 bits, with a sign or without, is too little for one in it. -/
def hasWideInteger (value : Value) : Bool :=
  value.anyWithin fun
    | .integer n => !(Number.Interval.int64.contains n || Number.Interval.uint64.contains n)
    | _ => false

/-- Whether an integer in it takes more than 64 bits with a sign. -/
def hasUnsignedInteger (value : Value) : Bool :=
  value.anyWithin fun
    | .integer n => !Number.Interval.int64.contains n
    | _ => false

/-- Whether a value that cannot be held is anywhere in it. -/
def isBroken (value : Value) : Bool :=
  value.anyWithin fun
    | .broken => true
    | _ => false

mutual

/-- The value with the last of several members of one name, in the place of the first. -/
def withLastMembers : Value → Value
  | .array items => .array (lastOfItems items)
  | .object members => .object (lastOfMembers [] members)
  | value => value

def lastOfItems : List Value → List Value
  | [] => []
  | item :: rest => item.withLastMembers :: lastOfItems rest

def lastOfMembers (done : List (String × Value)) : List (String × Value) → List (String × Value)
  | [] => done
  | (name, item) :: rest => lastOfMembers (Table.put name item.withLastMembers done) rest

end

end Value

end Runbook.Document
