import Runbook.Pattern.Program
import Runbook.Unicode.CharClass

/-! The leftmost match of a program, and of those the one that its choices prefer.

All threads read the text together, the preferred ones first, and no two of them are ever at one
address: the second would only repeat the first. So the time is bounded by text times program.
-/

set_option autoImplicit false

namespace Runbook.Pattern

/-- Where a search is: the character before, the number of characters before, the text behind. -/
structure Place where
  before : Option Char
  index : Nat
  behind : List Char

namespace Place

def isWord (unicode : Bool) : Option Char → Bool
  | none => false
  | some c => if unicode then Unicode.isWordChar c else c.isAlphanum || c == '_'

def satisfies (place : Place) (look : Look) : Bool :=
  let before := place.before
  let after := place.behind.head?
  match look with
  | .textStart => before.isNone
  | .textEnd => after.isNone
  | .lineStart false => before.isNone || before == some '\n'
  | .lineStart true =>
    before.isNone || before == some '\n' || (before == some '\r' && after != some '\n')
  | .lineEnd false => after.isNone || after == some '\n'
  | .lineEnd true =>
    after.isNone || after == some '\r' || (after == some '\n' && before != some '\r')
  | .wordBoundary unicode => isWord unicode before != isWord unicode after
  | .notWordBoundary unicode => isWord unicode before == isWord unicode after
  | .wordStart unicode => !isWord unicode before && isWord unicode after
  | .wordEnd unicode => isWord unicode before && !isWord unicode after
  | .wordStartHalf unicode => !isWord unicode before
  | .wordEndHalf unicode => !isWord unicode after

end Place

abbrev Slots := Array (Option Nat)

/-- A thread that waits for a character, or has matched. -/
structure Thread where
  address : Nat
  slots : Slots

/-- Threads of one place, the least preferred first, and the marks of the addresses that have been
visited there: a mark is the number of the place plus one. -/
structure Threads where
  waiting : List Thread
  visited : Array Nat

namespace Threads

/-- Follows the threads of `pending` to where they wait. Each address is visited once for a place
and leaves at most two threads, which bounds `fuel`. -/
def follow (program : Program) (place : Place) (fuel : Nat) (pending : List Thread)
    (threads : Threads) : Threads :=
  match fuel, pending with
  | 0, _ | _, [] => threads
  | left + 1, thread :: pending =>
    if threads.visited.getD thread.address 0 == place.index + 1 then
      follow program place left pending threads
    else
      let visited := threads.visited.setIfInBounds thread.address (place.index + 1)
      match program[thread.address]? with
      | none => follow program place left pending ⟨threads.waiting, visited⟩
      | some (.chars _ _) | some .accept =>
        follow program place left pending ⟨thread :: threads.waiting, visited⟩
      | some (.look look next) =>
        if place.satisfies look then
          follow program place left (⟨next, thread.slots⟩ :: pending) ⟨threads.waiting, visited⟩
        else follow program place left pending ⟨threads.waiting, visited⟩
      | some (.save slot next) =>
        let slots := thread.slots.setIfInBounds slot (some place.index)
        follow program place left (⟨next, slots⟩ :: pending) ⟨threads.waiting, visited⟩
      | some (.split first second) =>
        follow program place left (⟨first, thread.slots⟩ :: ⟨second, thread.slots⟩ :: pending)
          ⟨threads.waiting, visited⟩

def enter (program : Program) (place : Place) (thread : Thread) (threads : Threads) : Threads :=
  follow program place (2 * program.size + 2) [thread] threads

/-- Moves the threads, the preferred first, over a character to the next place. The first that has
matched ends the list and is the match. -/
def advance (program : Program) (c : Char) (next : Place) :
    List Thread → Threads → Threads × Option Slots
  | [], threads => (threads, none)
  | thread :: rest, threads =>
    match program[thread.address]? with
    | some .accept => (threads, some thread.slots)
    | some (.chars set address) =>
      if set.contains c.toNat then
        advance program c next rest (threads.enter program next ⟨address, thread.slots⟩)
      else advance program c next rest threads
    | _ => advance program c next rest threads

def final? (program : Program) (threads : List Thread) : Option Slots :=
  (threads.find? fun thread => program[thread.address]? == some .accept).map Thread.slots

end Threads

/-- The slots of the match. New threads start, less preferred than all others, until one has
matched. -/
def search (program : Program) (start : Nat) (empty : Slots) (before : Option Char) (index : Nat)
    (found : Option Slots) (threads : Threads) : List Char → Option Slots
  | [] =>
    let place : Place := ⟨before, index, []⟩
    let threads := if found.isNone then threads.enter program place ⟨start, empty⟩ else threads
    (Threads.final? program threads.waiting.reverse).or found
  | c :: rest =>
    let place : Place := ⟨before, index, c :: rest⟩
    let threads := if found.isNone then threads.enter program place ⟨start, empty⟩ else threads
    let next : Place := ⟨some c, index + 1, rest⟩
    let (moved, matched) :=
      Threads.advance program c next threads.waiting.reverse ⟨[], threads.visited⟩
    let found := matched.or found
    if found.isSome && moved.waiting.isEmpty then found
    else search program start empty (some c) (index + 1) found moved rest

end Runbook.Pattern
