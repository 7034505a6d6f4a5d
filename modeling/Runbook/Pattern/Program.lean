import Runbook.Pattern.Expression

/-! Regular expressions as programs for a machine that follows many threads at once.

An expression is written backwards: its code gets the address where it goes on. A repetition whose body
may match nothing is an optional repetition of at least one time, which keeps the order in which the
alternatives are preferred.
-/

set_option autoImplicit false

namespace Runbook.Pattern

open Unicode (RangeSet)

inductive Instruction where
  | chars (set : RangeSet) (next : Nat)
  | look (look : Look) (next : Nat)
  /-- Notes the place under a slot. -/
  | save (slot : Nat) (next : Nat)
  /-- Goes on at both addresses and prefers the first. -/
  | split (first second : Nat)
  | accept
  deriving DecidableEq, Repr

abbrev Program := Array Instruction

namespace Program

structure Fragment where
  code : Program
  start : Nat

def emit (code : Program) (instruction : Instruction) : Fragment :=
  let start := code.size
  ⟨code.push instruction, start⟩

/-- Prefers the body where repetition is greedy, the way on where it is lazy. -/
def branch (greedy : Bool) (body next : Nat) : Instruction :=
  if greedy then .split body next else .split next body

/-- A body one time or more; the fork behind it is filled in when its start is known. -/
def plus (write : Program → Nat → Fragment) (greedy : Bool) (code : Program) (next : Nat) :
    Fragment :=
  let fork := code.size
  let body := write (code.push .accept) fork
  ⟨body.code.set! fork (branch greedy body.start next), body.start⟩

/-- A body any number of times that never matches nothing. -/
def star (write : Program → Nat → Fragment) (greedy : Bool) (code : Program) (next : Nat) :
    Fragment :=
  let fork := code.size
  let body := write (code.push .accept) fork
  ⟨body.code.set! fork (branch greedy body.start next), fork⟩

/-- A body `count` times. -/
def exactly (write : Program → Nat → Fragment) : Nat → Program → Nat → Fragment
  | 0, code, next => ⟨code, next⟩
  | count + 1, code, next =>
    let behind := exactly write count code next
    write behind.code behind.start

/-- A body up to `count` times, each time inside the choice for the time before. -/
def upTo (write : Program → Nat → Fragment) (greedy : Bool) (next : Nat) :
    Nat → Program → Nat → Fragment
  | 0, code, after => ⟨code, after⟩
  | count + 1, code, after =>
    let inner := upTo write greedy next count code after
    let body := write inner.code inner.start
    emit body.code (branch greedy body.start next)

def write : Expression → Program → Nat → Fragment
  | .empty, code, next => ⟨code, next⟩
  | .chars set, code, next => emit code (.chars set next)
  | .look place, code, next => emit code (.look place next)
  | .group index body, code, next =>
    let finish := emit code (.save (2 * index + 1) next)
    let body := write body finish.code finish.start
    emit body.code (.save (2 * index) body.start)
  | .seq first second, code, next =>
    let behind := write second code next
    write first behind.code behind.start
  | .alt first second, code, next =>
    let one := write first code next
    let other := write second one.code next
    emit other.code (.split one.start other.start)
  | .repeat body least (some most) greedy, code, next =>
    let optional := upTo (write body) greedy next (most - least) code next
    exactly (write body) least optional.code optional.start
  | .repeat body 0 none greedy, code, next =>
    if body.isNeverEmpty then star (write body) greedy code next
    else
      -- A body that may be empty is passed over as a whole or gone through once at least.
      let loop := plus (write body) greedy code next
      emit loop.code (branch greedy loop.start next)
  | .repeat body (least + 1) none greedy, code, next =>
    let loop := plus (write body) greedy code next
    exactly (write body) least loop.code loop.start

def ofExpression (expression : Expression) : Fragment :=
  let final := emit #[] .accept
  write (.group 0 expression) final.code final.start

end Program

end Runbook.Pattern
