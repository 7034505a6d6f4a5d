import Mathlib.Data.List.Basic
import Runbook.Proofs.Pattern.Machine

/-! Threads that are followed to where they wait accept just what they accepted before.

A thread is dropped only where another has been at its address. The other is alive where the dropped one was,
so no life is lost: unless a waiting thread is alive, whatever is accepted from an address that has been
visited is accepted sooner from one that is still to be followed.
-/

set_option autoImplicit false

namespace Runbook.Pattern

open Program (Accepts)

theorem Instruction.Step.reslot {instruction : Instruction} {next : Nat} {place : Place}
    {slots : Slots} {q : Point} (step : instruction.Step ⟨place, slots⟩ next q) (other : Slots) :
    ∃ later, instruction.Step ⟨place, other⟩ next ⟨q.place, later⟩ := by
  cases step with
  | across head within => exact ⟨_, .across head within⟩
  | look satisfied => exact ⟨_, .look satisfied⟩
  | note => exact ⟨_, .note⟩
  | first => exact ⟨_, .first⟩
  | second => exact ⟨_, .second⟩

theorem Program.Accepts.reslot {program : Program} {n address : Nat} {place : Place}
    {slots : Slots} {q : Point} (accepts : Accepts program n address ⟨place, slots⟩ q)
    (other : Slots) :
    ∃ r, Accepts program n address ⟨place, other⟩ r := by
  induction n generalizing address place slots other with
  | zero =>
    cases accepts with
    | here found => exact ⟨_, .here found⟩
  | succ n ih =>
    cases accepts with
    | step found step accepts =>
      obtain ⟨later, same⟩ := step.reslot other
      obtain ⟨r, accepts⟩ := ih accepts later
      exact ⟨r, .step found same accepts⟩

namespace Thread

/-- A thread at a place can accept at a point. -/
def Yields (program : Program) (place : Place) (thread : Thread) (q : Point) : Prop :=
  ∃ n, Accepts program n thread.address ⟨place, thread.slots⟩ q

/-- A thread can still accept. -/
def Lives (program : Program) (place : Place) (thread : Thread) : Prop :=
  ∃ q, thread.Yields program place q

def waits (program : Program) (thread : Thread) : Bool :=
  match program[thread.address]? with
  | some (.chars _ _) | some .accept => true
  | _ => false

def onward (program : Program) (place : Place) (thread : Thread) : List Thread :=
  match program[thread.address]? with
  | some (.look look next) => if place.satisfies look then [⟨next, thread.slots⟩] else []
  | some (.save slot next) => [⟨next, thread.slots.setIfInBounds slot (some place.index)⟩]
  | some (.split first second) => [⟨first, thread.slots⟩, ⟨second, thread.slots⟩]
  | _ => []

variable {program : Program} {place : Place} {thread later : Thread} {n : Nat} {q : Point}

theorem length_onward_le (program : Program) (place : Place) (thread : Thread) :
    (thread.onward program place).length ≤ 2 := by
  unfold onward
  split <;> try split
  all_goals simp

theorem accepts_of_onward (goesOn : later ∈ thread.onward program place)
    (accepts : Accepts program n later.address ⟨place, later.slots⟩ q) :
    Accepts program (n + 1) thread.address ⟨place, thread.slots⟩ q := by
  unfold onward at goesOn
  split at goesOn
  case h_1 look next found =>
    split at goesOn
    · rename_i satisfied
      obtain rfl := List.mem_singleton.1 goesOn
      exact .step found (.look satisfied) accepts
    · cases goesOn
  case h_2 slot next found =>
    obtain rfl := List.mem_singleton.1 goesOn
    exact .step found .note accepts
  case h_3 first second found =>
    rcases List.mem_pair.1 goesOn with rfl | rfl
    · exact .step found .first accepts
    · exact .step found .second accepts
  case h_4 => cases goesOn

theorem yields_of_onward (goesOn : later ∈ thread.onward program place)
    (yields : later.Yields program place q) : thread.Yields program place q := by
  obtain ⟨n, accepts⟩ := yields
  exact ⟨n + 1, accepts_of_onward goesOn accepts⟩

/-- A thread that can accept waits or goes on at the place to where it can. -/
theorem waits_or_onward (accepts : Accepts program n thread.address ⟨place, thread.slots⟩ q) :
    thread.waits program = true ∨ ∃ later ∈ thread.onward program place, ∃ m < n,
      Accepts program m later.address ⟨place, later.slots⟩ q := by
  cases accepts with
  | here found => exact .inl (by simp [waits, found])
  | @step n _ next _ r _ instruction found step accepts =>
    cases step with
    | across head within => exact .inl (by simp [waits, found])
    | look satisfied =>
      refine .inr ⟨⟨next, thread.slots⟩, ?_, n, Nat.lt_succ_self n, accepts⟩
      simp [onward, found, satisfied]
    | note =>
      refine .inr ⟨⟨next, thread.slots.setIfInBounds _ (some place.index)⟩, ?_, n,
        Nat.lt_succ_self n, accepts⟩
      simp [onward, found]
    | first =>
      refine .inr ⟨⟨next, thread.slots⟩, ?_, n, Nat.lt_succ_self n, accepts⟩
      simp [onward, found]
    | second =>
      refine .inr ⟨⟨next, thread.slots⟩, ?_, n, Nat.lt_succ_self n, accepts⟩
      simp [onward, found]

end Thread

/-- None of the threads is alive. -/
def Dead (program : Program) (place : Place) (threads : List Thread) : Prop :=
  ∀ thread ∈ threads, ¬thread.Lives program place

namespace Threads

variable {program : Program} {place : Place} {thread : Thread} {threads : Threads}
  {pending : List Thread} {fuel n address : Nat} {slots : Slots} {q : Point}

def IsMarked (place : Place) (threads : Threads) (address : Nat) : Prop :=
  threads.visited.getD address 0 = place.index + 1

instance : Decidable (IsMarked place threads address) :=
  inferInstanceAs (Decidable (_ = _))

def visit (program : Program) (place : Place) (thread : Thread) (threads : Threads) : Threads where
  waiting := if thread.waits program then thread :: threads.waiting else threads.waiting
  visited := threads.visited.setIfInBounds thread.address (place.index + 1)

theorem follow_nil : follow program place fuel [] threads = threads := by
  cases fuel <;> simp [follow]

theorem follow_cons : follow program place (fuel + 1) (thread :: pending) threads =
    if threads.IsMarked place thread.address then follow program place fuel pending threads
    else follow program place fuel (thread.onward program place ++ pending)
      (threads.visit program place thread) := by
  rw [follow]
  simp only [beq_iff_eq]
  refine if_congr Iff.rfl rfl ?_
  unfold visit Thread.waits Thread.onward
  cases program[thread.address]? with
  | none => rfl
  | some instruction =>
    cases instruction with
    | look condition next =>
      simp only
      split <;> rfl
    | _ => rfl

theorem getD_visit (other : Nat) :
    (threads.visit program place thread).visited.getD other 0 =
      if thread.address = other ∧ other < threads.visited.size then place.index + 1
      else threads.visited.getD other 0 := by
  simp only [visit, Array.getD_eq_getD_getElem?, Array.getElem?_setIfInBounds]
  by_cases same : thread.address = other
  · subst same
    by_cases inside : thread.address < threads.visited.size
    · simp [inside]
    · simp [inside]
  · simp [same]

theorem isMarked_visit {other : Nat}
    (marked : (threads.visit program place thread).IsMarked place other) :
    thread.address = other ∨ threads.IsMarked place other := by
  rw [IsMarked, getD_visit] at marked
  split at marked
  · rename_i same
    exact .inl same.1
  · exact .inr marked

theorem mem_visit {other : Thread} : other ∈ (threads.visit program place thread).waiting ↔
    (thread.waits program = true ∧ other = thread) ∨ other ∈ threads.waiting := by
  rw [visit]
  split <;> simp [*]

/-! ### Whence the waiting threads stem -/

/-- Whatever a thread accepts, one of the others accepts as well. -/
def Stems (program : Program) (place : Place) (sources : List Thread) (thread : Thread) : Prop :=
  ∃ source ∈ sources, ∀ q, thread.Yields program place q → source.Yields program place q

theorem Stems.mono {sources more : List Thread} (stems : Stems program place sources thread)
    (among : ∀ source ∈ sources, Stems program place more source) : Stems program place more thread := by
  obtain ⟨source, member, yields⟩ := stems
  obtain ⟨first, found, also⟩ := among source member
  exact ⟨first, found, fun q ends => also q (yields q ends)⟩

theorem Stems.of_mem {sources : List Thread} (member : thread ∈ sources) :
    Stems program place sources thread :=
  ⟨thread, member, fun _ => id⟩

theorem Stems.onward {first : Thread}
    (member : thread ∈ first.onward program place ++ pending) :
    Stems program place (first :: pending) thread := by
  rcases List.mem_append.1 member with goesOn | behind
  · exact ⟨first, List.mem_cons_self, fun q => Thread.yields_of_onward goesOn⟩
  · exact .of_mem (List.mem_cons_of_mem _ behind)

theorem waiting_follow (pending : List Thread) (threads : Threads) :
    ∃ added, (follow program place fuel pending threads).waiting = added ++ threads.waiting ∧
      ∀ later ∈ added, Stems program place pending later := by
  induction fuel generalizing pending threads with
  | zero => exact ⟨[], by simp [follow]⟩
  | succ left ih =>
    cases pending with
    | nil => exact ⟨[], by simp [follow]⟩
    | cons first pending =>
      rw [follow_cons]
      split
      · obtain ⟨added, same, stems⟩ := ih pending threads
        exact ⟨added, same, fun later member => (stems later member).mono fun source among =>
          .of_mem (List.mem_cons_of_mem _ among)⟩
      · obtain ⟨added, same, stems⟩ := ih (first.onward program place ++ pending)
          (threads.visit program place first)
        refine ⟨added ++ (if first.waits program then [first] else []), ?_, fun later member => ?_⟩
        · rw [same, visit]
          split <;> simp
        · rcases List.mem_append.1 member with among | last
          · exact (stems later among).mono fun source => .onward
          · split at last
            · obtain rfl := List.mem_singleton.1 last
              exact .of_mem List.mem_cons_self
            · cases last

/-! ### Marks -/

def unmarked (place : Place) (threads : Threads) : Nat :=
  threads.visited.countP (· != place.index + 1)

/-- What holds of threads while others are still pending. -/
structure Follows (program : Program) (place : Place) (threads : Threads) (pending : List Thread) :
    Prop where
  size : threads.visited.size = program.size
  marks (address : Nat) : threads.visited.getD address 0 ≤ place.index + 1
  waits : ∀ thread ∈ threads.waiting, thread.waits program = true
  /-- Unless a waiting thread is alive, a pending one accepts sooner than a thread at a marked address. -/
  covered : Dead program place threads.waiting →
    ∀ address n slots q, threads.IsMarked place address → Accepts program n address ⟨place, slots⟩ q →
      ∃ thread ∈ pending, ∃ m < n, ∃ r, Accepts program m thread.address ⟨place, thread.slots⟩ r

def Awake (program : Program) (place : Place) (threads : Threads) (pending : List Thread) : Prop :=
  (∃ thread ∈ threads.waiting, thread.Lives program place) ∨
    ∃ thread ∈ pending, thread.Lives program place

namespace Follows

/-- A thread at a marked address has nothing to add. -/
theorem drop (follows : Follows program place threads (thread :: pending))
    (marked : threads.IsMarked place thread.address) : Follows program place threads pending where
  size := follows.size
  marks := follows.marks
  waits := follows.waits
  covered dead address n slots q isMarked accepts := by
    -- Where the dropped thread was the sooner one, there is one still sooner.
    induction n using Nat.strongRecOn generalizing address slots q with
    | ind n ih =>
      obtain ⟨sooner, member, m, less, r, accepts⟩ :=
        follows.covered dead address n slots q isMarked accepts
      rcases List.mem_cons.1 member with rfl | among
      · obtain ⟨other, among, k, less', found⟩ := ih m less _ _ _ marked accepts
        exact ⟨other, among, k, Nat.lt_trans less' less, found⟩
      · exact ⟨sooner, among, m, less, r, accepts⟩

theorem awake_drop (follows : Follows program place threads (thread :: pending))
    (marked : threads.IsMarked place thread.address)
    (awake : Awake program place threads (thread :: pending)) : Awake program place threads pending := by
  by_cases dead : Dead program place threads.waiting
  · rcases awake with ⟨waiting, among, lives⟩ | ⟨other, member, q, n, accepts⟩
    · exact absurd lives (dead waiting among)
    · rcases List.mem_cons.1 member with rfl | among
      · obtain ⟨sooner, among, m, -, r, accepts⟩ :=
          (follows.drop marked).covered dead _ n _ q marked accepts
        exact .inr ⟨sooner, among, r, m, accepts⟩
      · exact .inr ⟨other, among, q, n, accepts⟩
  · simp only [Dead, not_forall, not_not] at dead
    obtain ⟨waiting, among, lives⟩ := dead
    exact .inl ⟨waiting, among, lives⟩

theorem visit (follows : Follows program place threads (thread :: pending)) :
    Follows program place (threads.visit program place thread)
      (thread.onward program place ++ pending) where
  size := by simp [Threads.visit, follows.size]
  marks address := by
    rw [getD_visit]
    split
    · exact Nat.le_refl _
    · exact follows.marks address
  waits later member := by
    rcases mem_visit.1 member with ⟨waits, rfl⟩ | among
    · exact waits
    · exact follows.waits later among
  covered dead address n slots q isMarked accepts := by
    have others : Dead program place threads.waiting :=
      fun other among => dead other (mem_visit.2 (.inr among))
    -- Were the visited thread waiting, it would be one of the dead.
    have goesOn {m : Nat} {r : Point}
        (accepts : Accepts program m thread.address ⟨place, thread.slots⟩ r) :
        ∃ later ∈ thread.onward program place, ∃ k < m,
          Accepts program k later.address ⟨place, later.slots⟩ r := by
      refine (Thread.waits_or_onward accepts).resolve_left fun waits => ?_
      exact dead thread (mem_visit.2 (.inl ⟨waits, rfl⟩)) ⟨r, m, accepts⟩
    rcases isMarked_visit isMarked with rfl | before
    · obtain ⟨r, accepts⟩ := accepts.reslot thread.slots
      obtain ⟨later, among, k, less, accepts⟩ := goesOn accepts
      exact ⟨later, List.mem_append_left _ among, k, less, r, accepts⟩
    · obtain ⟨sooner, member, m, less, r, accepts⟩ :=
        follows.covered others address n slots q before accepts
      rcases List.mem_cons.1 member with rfl | among
      · obtain ⟨later, among, k, less', accepts⟩ := goesOn accepts
        exact ⟨later, List.mem_append_left _ among, k, Nat.lt_trans less' less, r, accepts⟩
      · exact ⟨sooner, List.mem_append_right _ among, m, less, r, accepts⟩

end Follows

theorem awake_visit (awake : Awake program place threads (thread :: pending)) :
    Awake program place (threads.visit program place thread)
      (thread.onward program place ++ pending) := by
  rcases awake with ⟨waiting, among, lives⟩ | ⟨other, member, q, n, accepts⟩
  · exact .inl ⟨waiting, mem_visit.2 (.inr among), lives⟩
  · rcases List.mem_cons.1 member with rfl | among
    · rcases Thread.waits_or_onward accepts with waits | ⟨later, goesOn, m, -, accepts⟩
      · exact .inl ⟨other, mem_visit.2 (.inl ⟨waits, rfl⟩), q, n, accepts⟩
      · exact .inr ⟨later, List.mem_append_left _ goesOn, q, m, accepts⟩
    · exact .inr ⟨other, List.mem_append_right _ among, q, n, accepts⟩

/-- A visit leaves at most two threads for the address that it marks. -/
theorem unmarked_visit (pending : List Thread) (size : threads.visited.size = program.size)
    (isNew : ¬threads.IsMarked place thread.address) :
    2 * (threads.visit program place thread).unmarked place +
        (thread.onward program place ++ pending).length <
      2 * threads.unmarked place + (thread :: pending).length := by
  rw [List.length_append, List.length_cons]
  by_cases inside : thread.address < threads.visited.size
  · have few := Thread.length_onward_le program place thread
    have other : (threads.visited[thread.address] != place.index + 1) = true := by
      simpa [IsMarked, Array.getD_eq_getD_getElem?, inside] using isNew
    have some := Array.boole_getElem_le_countP (p := (· != place.index + 1)) inside
    have less : (threads.visit program place thread).unmarked place + 1 = threads.unmarked place := by
      rw [unmarked, unmarked, visit, Array.setIfInBounds_def, dif_pos inside, Array.countP_set]
      simp only [other, if_true, bne_self_eq_false, Bool.false_eq_true, if_false] at some ⊢
      omega
    omega
  · have none : program[thread.address]? = none := by
      rw [Array.getElem?_eq_none_iff, ← size]
      exact Nat.le_of_not_lt inside
    have same : (threads.visit program place thread).unmarked place = threads.unmarked place := by
      simp [unmarked, visit, Array.setIfInBounds_def, inside]
    have ends : thread.onward program place = [] := by simp [Thread.onward, none]
    rw [ends, same, List.length_nil]
    omega

/-- Following comes to an end within the bound, and leaves a thread alive where one was. -/
theorem follows_follow (fuel : Nat) (follows : Follows program place threads pending)
    (enough : 2 * threads.unmarked place + pending.length ≤ fuel) :
    Follows program place (follow program place fuel pending threads) [] ∧
      (Awake program place threads pending →
        Awake program place (follow program place fuel pending threads) []) := by
  induction fuel generalizing pending threads with
  | zero =>
    obtain rfl : pending = [] := List.length_eq_zero_iff.1 (by omega)
    rw [follow]
    exact ⟨follows, id⟩
  | succ left ih =>
    cases pending with
    | nil =>
      rw [follow_nil]
      exact ⟨follows, id⟩
    | cons first pending =>
      rw [follow_cons]
      split
      · rename_i marked
        rw [List.length_cons] at enough
        obtain ⟨done, stays⟩ := ih (follows.drop marked) (by omega)
        exact ⟨done, fun awake => stays (follows.awake_drop marked awake)⟩
      · rename_i isNew
        have less := unmarked_visit pending follows.size isNew
        obtain ⟨done, stays⟩ := ih follows.visit (by omega)
        exact ⟨done, fun awake => stays (awake_visit awake)⟩

/-- A thread that enters a place adds threads that accept nothing else, and one that is alive if it is. -/
theorem enter_spec (sound : Follows program place threads []) (thread : Thread) :
    Follows program place (threads.enter program place thread) [] ∧
    (∃ added, (threads.enter program place thread).waiting = added ++ threads.waiting ∧
      ∀ later ∈ added, ∀ q, later.Yields program place q → thread.Yields program place q) ∧
    (thread.Lives program place → Awake program place (threads.enter program place thread) []) := by
  have opened : Follows program place threads [thread] := by
    refine ⟨sound.size, sound.marks, sound.waits, fun dead address n slots q marked accepts => ?_⟩
    obtain ⟨_, none, -⟩ := sound.covered dead address n slots q marked accepts
    cases none
  have few : threads.unmarked place ≤ program.size := by
    rw [unmarked, ← sound.size]
    exact Array.countP_le_size
  obtain ⟨done, stays⟩ := follows_follow (2 * program.size + 2) opened
    (by rw [List.length_singleton]; omega)
  refine ⟨done, ?_, fun lives => stays (.inr ⟨thread, List.mem_singleton.2 rfl, lives⟩)⟩
  obtain ⟨added, same, stems⟩ := waiting_follow [thread] threads
  refine ⟨added, same, fun later among => ?_⟩
  obtain ⟨source, member, yields⟩ := stems later among
  obtain rfl := List.mem_singleton.1 member
  exact yields

end Threads

end Runbook.Pattern
