import Runbook.Pattern.Compiled
import Runbook.Proofs.Pattern.Threads

/-! A search finds a match where there is one, and the leftmost.

Of the threads that wait at a place, the first that is alive decides: what it accepts is the match, whatever
the threads behind it do. It stems from the first place where a match starts, as all threads from earlier
places are dead.
-/

set_option autoImplicit false

namespace Runbook.Pattern

/-! ### Which thread decides -/

/-- The first of the threads that is alive accepts nothing but what is wanted. -/
inductive Led (program : Program) (place : Place) (Wanted : Point → Prop) : List Thread → Prop
  | here {thread : Thread} {rest : List Thread} : thread.Lives program place →
      (∀ q, thread.Yields program place q → Wanted q) → Led program place Wanted (thread :: rest)
  | later {thread : Thread} {rest : List Thread} : ¬thread.Lives program place →
      Led program place Wanted rest → Led program place Wanted (thread :: rest)

variable {program : Program} {place : Place} {Wanted : Point → Prop} {threads more : List Thread}

theorem Led.append (led : Led program place Wanted threads) :
    Led program place Wanted (threads ++ more) := by
  induction led with
  | here lives wanted => exact .here lives wanted
  | later dead _ ih => exact .later dead ih

theorem Led.behind (dead : Dead program place threads) (led : Led program place Wanted more) :
    Led program place Wanted (threads ++ more) := by
  induction threads with
  | nil => exact led
  | cons thread rest ih =>
    exact .later (dead thread List.mem_cons_self)
      (ih fun other among => dead other (List.mem_cons_of_mem _ among))

theorem Led.of_lives {thread : Thread} (among : thread ∈ threads) (lives : thread.Lives program place)
    (wanted : ∀ thread ∈ threads, ∀ q, thread.Yields program place q → Wanted q) :
    Led program place Wanted threads := by
  induction threads with
  | nil => cases among
  | cons first rest ih =>
    by_cases alive : first.Lives program place
    · exact .here alive (wanted first List.mem_cons_self)
    · rcases List.mem_cons.1 among with rfl | behind
      · exact absurd lives alive
      · exact .later alive (ih behind fun other member => wanted other (List.mem_cons_of_mem _ member))

/-! ### Over a character -/

namespace Thread

variable {thread later : Thread} {c : Char} {q : Point}

/-- Where a thread goes on behind a character that it takes. -/
def cross (program : Program) (c : Char) (thread : Thread) : Option Thread :=
  match program[thread.address]? with
  | some (.chars set address) => if set.contains c.toNat then some ⟨address, thread.slots⟩ else none
  | _ => none

theorem yields_here (matched : program[thread.address]? = some .accept) :
    thread.Yields program place ⟨place, thread.slots⟩ :=
  ⟨0, .here matched⟩

theorem yields_of_cross (crossed : thread.cross program c = some later)
    (ahead : place.behind.head? = some c) (yields : later.Yields program (place.across c) q) :
    thread.Yields program place q := by
  unfold cross at crossed
  split at crossed
  · rename_i set address found
    split at crossed
    · rename_i within
      cases crossed
      obtain ⟨n, accepts⟩ := yields
      exact ⟨n + 1, .step found (.across ahead within) accepts⟩
    · cases crossed
  · cases crossed

theorem yields_cases (waits : thread.waits program = true) (yields : thread.Yields program place q) :
    (program[thread.address]? = some .accept ∧ q = ⟨place, thread.slots⟩) ∨
      ∃ c later, place.behind.head? = some c ∧ thread.cross program c = some later ∧
        later.Yields program (place.across c) q := by
  obtain ⟨n, accepts⟩ := yields
  cases accepts with
  | here found => exact .inl ⟨found, rfl⟩
  | step found step accepts =>
    cases step with
    | across ahead within =>
      exact .inr ⟨_, _, ahead, by simp [cross, found, within]; rfl, _, accepts⟩
    | _ => simp [Thread.waits, found] at waits

theorem exists_cross (waits : thread.waits program = true)
    (unmatched : program[thread.address]? ≠ some .accept) (ahead : place.behind.head? = some c)
    (lives : thread.Lives program place) :
    ∃ later, thread.cross program c = some later ∧ later.Lives program (place.across c) := by
  obtain ⟨q, yields⟩ := lives
  rcases yields_cases waits yields with ⟨matched, -⟩ | ⟨other, later, found, crossed, yields⟩
  · exact absurd matched unmatched
  · rw [ahead] at found
    cases found
    exact ⟨later, crossed, q, yields⟩

theorem unmatched_of_dead (stopped : ¬thread.Lives program place) :
    program[thread.address]? ≠ some .accept :=
  fun matched => stopped ⟨_, yields_here matched⟩

end Thread

theorem Dead.reverse (dead : Dead program place threads) : Dead program place threads.reverse :=
  fun thread among => dead thread (List.mem_reverse.1 among)

namespace Threads

variable {thread : Thread} {rest : List Thread} {threads : Threads} {c : Char} {next : Place}

theorem advance_matched (matched : program[thread.address]? = some .accept) :
    advance program c next (thread :: rest) threads = (threads, some thread.slots) := by
  rw [advance, matched]

theorem advance_cons (unmatched : program[thread.address]? ≠ some .accept) :
    advance program c next (thread :: rest) threads =
      advance program c next rest
        ((thread.cross program c).elim threads fun later => threads.enter program next later) := by
  rw [advance, Thread.cross]
  revert unmatched
  cases program[thread.address]? with
  | none => exact fun _ => rfl
  | some instruction =>
    intro unmatched
    cases instruction with
    | accept => exact absurd rfl unmatched
    | chars set address =>
      simp only
      split <;> rfl
    | _ => rfl

theorem cross_spec (rest : List Thread) (ahead : place.behind.head? = some c)
    (sound : Follows program (place.across c) threads []) (waits : thread.waits program = true)
    (unmatched : program[thread.address]? ≠ some .accept) :
    ∃ entered : Threads,
      advance program c (place.across c) (thread :: rest) threads =
        advance program c (place.across c) rest entered ∧
      Follows program (place.across c) entered [] ∧
      (∃ added, entered.waiting = added ++ threads.waiting ∧ ∀ later ∈ added, ∀ q,
        later.Yields program (place.across c) q → thread.Yields program place q) ∧
      (thread.Lives program place → Awake program (place.across c) entered []) := by
  refine ⟨_, advance_cons unmatched, ?_⟩
  cases crossed : thread.cross program c with
  | none =>
    refine ⟨sound, ⟨[], rfl, by simp⟩, fun lives => ?_⟩
    obtain ⟨later, crossed', -⟩ := Thread.exists_cross waits unmatched ahead lives
    rw [crossed] at crossed'
    cases crossed'
  | some later =>
    obtain ⟨done, ⟨added, same, stems⟩, stays⟩ := enter_spec sound later
    refine ⟨done, ⟨added, same, fun other among q yields => ?_⟩, fun lives => ?_⟩
    · exact Thread.yields_of_cross crossed ahead (stems other among q yields)
    · obtain ⟨found, crossed', lives⟩ := Thread.exists_cross waits unmatched ahead lives
      rw [crossed] at crossed'
      cases crossed'
      exact stays lives

theorem dead_of_dead {entered : Threads} {added : List Thread}
    (waiting : entered.waiting = added ++ threads.waiting)
    (stems : ∀ later ∈ added, ∀ q, later.Yields program next q → thread.Yields program place q)
    (stopped : ¬thread.Lives program place) (dead : Dead program next threads.waiting) :
    Dead program next entered.waiting := by
  rw [waiting]
  intro later among
  rcases List.mem_append.1 among with new | before
  · rintro ⟨q, yields⟩
    exact stopped ⟨q, stems later new q yields⟩
  · exact dead later before

theorem led_of_awake {entered : Threads} {added : List Thread}
    (waiting : entered.waiting = added ++ threads.waiting)
    (wanted : ∀ later ∈ added, ∀ q, later.Yields program next q → Wanted q)
    (dead : Dead program next threads.waiting) (awake : Awake program next entered []) :
    Led program next Wanted entered.waiting.reverse := by
  rcases awake with ⟨alive, among, lives⟩ | ⟨_, nothing, -⟩
  · rw [waiting] at among ⊢
    rw [List.reverse_append]
    refine Led.behind dead.reverse ?_
    rcases List.mem_append.1 among with new | before
    · exact .of_lives (List.mem_reverse.2 new) lives fun other member =>
        wanted other (List.mem_reverse.1 member)
    · exact absurd lives (dead alive before)
  · cases nothing

variable {moving : List Thread}

theorem advance_sound (ahead : place.behind.head? = some c)
    (sound : Follows program (place.across c) threads [])
    (waits : ∀ thread ∈ moving, thread.waits program = true) :
    Follows program (place.across c) (advance program c (place.across c) moving threads).1 [] ∧
      ∃ added, (advance program c (place.across c) moving threads).1.waiting =
        added ++ threads.waiting := by
  induction moving generalizing threads with
  | nil => exact ⟨sound, [], rfl⟩
  | cons thread rest ih =>
    obtain ⟨first, others⟩ := List.forall_mem_cons.1 waits
    by_cases matched : program[thread.address]? = some .accept
    · rw [advance_matched matched]
      exact ⟨sound, [], rfl⟩
    · obtain ⟨entered, same, done, ⟨added, waiting, -⟩, -⟩ :=
        cross_spec rest ahead sound first matched
      rw [same]
      obtain ⟨done, more, later⟩ := ih done others
      exact ⟨done, more ++ added, by rw [later, waiting, List.append_assoc]⟩

theorem advance_dead (ahead : place.behind.head? = some c)
    (sound : Follows program (place.across c) threads [])
    (waits : ∀ thread ∈ moving, thread.waits program = true)
    (idle : Dead program (place.across c) threads.waiting) (dead : Dead program place moving) :
    (advance program c (place.across c) moving threads).2 = none ∧
      Dead program (place.across c) (advance program c (place.across c) moving threads).1.waiting := by
  induction moving generalizing threads with
  | nil => exact ⟨rfl, idle⟩
  | cons thread rest ih =>
    obtain ⟨first, others⟩ := List.forall_mem_cons.1 waits
    obtain ⟨stopped, stay⟩ := List.forall_mem_cons.1 dead
    obtain ⟨entered, same, done, ⟨added, waiting, stems⟩, -⟩ :=
      cross_spec rest ahead sound first (Thread.unmatched_of_dead stopped)
    rw [same]
    exact ih done others (dead_of_dead waiting stems stopped idle) stay

/-- The thread that decides has matched, or one that stems from it decides at the next place. -/
theorem advance_led (ahead : place.behind.head? = some c)
    (sound : Follows program (place.across c) threads [])
    (waits : ∀ thread ∈ moving, thread.waits program = true)
    (idle : Dead program (place.across c) threads.waiting) (led : Led program place Wanted moving) :
    Led program (place.across c) Wanted
        (advance program c (place.across c) moving threads).1.waiting.reverse ∨
      Dead program (place.across c) (advance program c (place.across c) moving threads).1.waiting ∧
        ∃ q, Wanted q ∧ (advance program c (place.across c) moving threads).2 = some q.slots := by
  induction led generalizing threads with
  | @here thread rest lives wanted =>
    obtain ⟨first, others⟩ := List.forall_mem_cons.1 waits
    by_cases matched : program[thread.address]? = some .accept
    · rw [advance_matched matched]
      exact .inr ⟨idle, ⟨place, thread.slots⟩, wanted _ (Thread.yields_here matched), rfl⟩
    · obtain ⟨entered, same, done, ⟨added, waiting, stems⟩, stays⟩ :=
        cross_spec rest ahead sound first matched
      rw [same]
      -- The threads behind the one that decides only add to what it has added.
      obtain ⟨-, more, later⟩ := advance_sound ahead done others
      rw [later, List.reverse_append]
      exact .inl (led_of_awake waiting (fun other among q yields => wanted q (stems other among q yields))
        idle (stays lives)).append
  | @later thread rest stopped led ih =>
    obtain ⟨first, others⟩ := List.forall_mem_cons.1 waits
    obtain ⟨entered, same, done, ⟨added, waiting, stems⟩, -⟩ :=
      cross_spec rest ahead sound first (Thread.unmatched_of_dead stopped)
    rw [same]
    exact ih done others (dead_of_dead waiting stems stopped idle)

theorem Follows.waits_reverse (sound : Follows program place threads []) :
    ∀ thread ∈ threads.waiting.reverse, thread.waits program = true :=
  fun thread among => sound.waits thread (List.mem_reverse.1 among)

theorem dead_nil : Dead program place [] :=
  fun _ nothing => by cases nothing

theorem follows_across {c : Char} (sound : Follows program place threads []) :
    Follows program (place.across c) ⟨[], threads.visited⟩ [] where
  size := sound.size
  marks address := Nat.le_succ_of_le (sound.marks address)
  waits := by simp
  covered _ address _ _ _ marked _ := by
    -- A mark is the number of its place, and those that were made are smaller.
    have bounded := sound.marks address
    have marked : threads.visited.getD address 0 = place.index + 1 + 1 := marked
    omega

end Threads

/-! ### Through a text -/

variable {start index : Nat} {empty : Slots} {before : Option Char} {found : Option Slots} {cs : List Char}

/-- What is wanted has been found and cannot be replaced any more, or the first living thread finds it. -/
def Decided (program : Program) (place : Place) (Wanted : Point → Prop) (threads : Threads)
    (found : Option Slots) : Prop :=
  Led program place Wanted threads.waiting.reverse ∨
    Dead program place threads.waiting ∧ ∃ q, Wanted q ∧ found = some q.slots

/-- The threads of a place after a new one has started there, as long as nothing has been found. -/
def opened (program : Program) (start : Nat) (empty : Slots) (place : Place) (found : Option Slots)
    (threads : Threads) : Threads :=
  if found.isNone then threads.enter program place ⟨start, empty⟩ else threads

variable {threads : Threads}

theorem follows_opened (start : Nat) (empty : Slots) (found : Option Slots)
    (sound : Threads.Follows program place threads []) :
    Threads.Follows program place (opened program start empty place found threads) [] := by
  unfold opened
  split
  · exact (Threads.enter_spec sound _).1
  · exact sound

theorem Decided.opened (decided : Decided program place Wanted threads found)
    (sound : Threads.Follows program place threads []) :
    Decided program place Wanted (opened program start empty place found threads) found := by
  unfold Pattern.opened
  split
  · rename_i nothing
    rcases decided with led | ⟨-, q, -, rfl⟩
    · obtain ⟨-, ⟨added, waiting, -⟩, -⟩ := Threads.enter_spec sound ⟨start, empty⟩
      rw [Decided, waiting, List.reverse_append]
      exact .inl led.append
    · cases nothing
  · exact decided

theorem final?_led {moving : List Thread} (ends : place.behind = [])
    (waits : ∀ thread ∈ moving, thread.waits program = true) (led : Led program place Wanted moving) :
    ∃ q, Wanted q ∧ Threads.final? program moving = some q.slots := by
  induction led with
  | @here thread rest lives wanted =>
    obtain ⟨q, yields⟩ := lives
    obtain ⟨first, -⟩ := List.forall_mem_cons.1 waits
    rcases Thread.yields_cases first yields with ⟨matched, rfl⟩ | ⟨c, later, ahead, -⟩
    · exact ⟨_, wanted _ yields, by simp [Threads.final?, matched]⟩
    · rw [ends] at ahead
      cases ahead
  | @later thread rest stopped led ih =>
    obtain ⟨-, others⟩ := List.forall_mem_cons.1 waits
    obtain ⟨q, wanted, same⟩ := ih others
    exact ⟨q, wanted, by simpa [Threads.final?, Thread.unmatched_of_dead stopped] using same⟩

theorem final?_dead {moving : List Thread} (dead : Dead program place moving) :
    Threads.final? program moving = none := by
  rw [Threads.final?, Option.map_eq_none_iff, List.find?_eq_none]
  intro thread among matched
  exact dead thread among ⟨_, Thread.yields_here (eq_of_beq matched)⟩

/-- The threads of a place moved over the character behind it. -/
def moved (program : Program) (place : Place) (c : Char) (threads : Threads) :
    Threads × Option Slots :=
  Threads.advance program c (place.across c) threads.waiting.reverse ⟨[], threads.visited⟩

theorem follows_moved {c : Char} (sound : Threads.Follows program place threads [])
    (ahead : place.behind.head? = some c) :
    Threads.Follows program (place.across c) (moved program place c threads).1 [] :=
  (Threads.advance_sound ahead (Threads.follows_across sound) sound.waits_reverse).1

theorem dead_moved {c : Char} (sound : Threads.Follows program place threads [])
    (ahead : place.behind.head? = some c) (dead : Dead program place threads.waiting) :
    (moved program place c threads).2 = none ∧
      Dead program (place.across c) (moved program place c threads).1.waiting :=
  Threads.advance_dead ahead (Threads.follows_across sound) sound.waits_reverse Threads.dead_nil
    dead.reverse

theorem Decided.moved {c : Char} (decided : Decided program place Wanted threads found)
    (sound : Threads.Follows program place threads []) (ahead : place.behind.head? = some c) :
    Decided program (place.across c) Wanted (moved program place c threads).1
      ((moved program place c threads).2.or found) := by
  rcases decided with led | ⟨dead, q, wanted, rfl⟩
  · rcases Threads.advance_led ahead (Threads.follows_across sound)
        sound.waits_reverse Threads.dead_nil led with led | ⟨dead, q, wanted, same⟩
    · exact .inl led
    · exact .inr ⟨dead, q, wanted, by rw [Pattern.moved, same]; rfl⟩
  · obtain ⟨same, dead⟩ := dead_moved sound ahead dead
    exact .inr ⟨dead, q, wanted, by rw [same]; rfl⟩

theorem search_nil : search program start empty before index found threads [] =
    (Threads.final? program
      (opened program start empty ⟨before, index, []⟩ found threads).waiting.reverse).or found :=
  rfl

theorem search_cons {c : Char} : search program start empty before index found threads (c :: cs) =
    let place : Place := ⟨before, index, c :: cs⟩
    let next := moved program place c (opened program start empty place found threads)
    if (next.2.or found).isSome && next.1.waiting.isEmpty then next.2.or found
    else search program start empty (some c) (index + 1) (next.2.or found) next.1 cs :=
  rfl

theorem search_of_decided (sound : Threads.Follows program ⟨before, index, cs⟩ threads [])
    (decided : Decided program ⟨before, index, cs⟩ Wanted
      (opened program start empty ⟨before, index, cs⟩ found threads) found) :
    ∃ q, Wanted q ∧ search program start empty before index found threads cs = some q.slots := by
  induction cs generalizing before index threads found with
  | nil =>
    have entered := follows_opened start empty found sound
    rw [search_nil]
    rcases decided with led | ⟨dead, q, wanted, rfl⟩
    · obtain ⟨q, wanted, same⟩ := final?_led rfl entered.waits_reverse led
      exact ⟨q, wanted, by rw [same]; rfl⟩
    · refine ⟨q, wanted, ?_⟩
      rw [final?_dead dead.reverse]
      rfl
  | cons c rest ih =>
    have entered := follows_opened start empty found sound
    have later := decided.moved entered rfl
    have next := follows_moved entered rfl
    rw [search_cons]
    simp only
    split
    · -- The search ends early where no thread is left, so none can decide any more.
      rename_i ended
      obtain ⟨-, nobody⟩ := Bool.and_eq_true_iff.1 ended
      rw [Decided, List.isEmpty_iff.1 nobody] at later
      rcases later with led | ⟨-, q, wanted, same⟩
      · cases led
      · exact ⟨q, wanted, same⟩
    · exact ih next (later.opened next)

theorem dead_opened (sound : Threads.Follows program place threads [])
    (dead : Dead program place threads.waiting)
    (stopped : ¬(⟨start, empty⟩ : Thread).Lives program place) :
    Dead program place (opened program start empty place none threads).waiting := by
  obtain ⟨-, ⟨added, waiting, stems⟩, -⟩ := Threads.enter_spec sound ⟨start, empty⟩
  exact Threads.dead_of_dead waiting stems stopped dead

/-- Where no thread is alive, a search goes on without any. -/
theorem search_across {c : Char} (sound : Threads.Follows program ⟨before, index, c :: cs⟩ threads [])
    (dead : Dead program ⟨before, index, c :: cs⟩ threads.waiting)
    (stopped : ¬(⟨start, empty⟩ : Thread).Lives program ⟨before, index, c :: cs⟩) :
    ∃ next, Threads.Follows program ⟨some c, index + 1, cs⟩ next [] ∧
      Dead program ⟨some c, index + 1, cs⟩ next.waiting ∧
      search program start empty before index none threads (c :: cs) =
        search program start empty (some c) (index + 1) none next cs := by
  have entered := follows_opened start empty none sound
  obtain ⟨nothing, later⟩ := dead_moved entered rfl (dead_opened sound dead stopped)
  refine ⟨_, follows_moved entered rfl, later, ?_⟩
  rw [search_cons]
  simp [nothing]

theorem search_eq_none (sound : Threads.Follows program ⟨before, index, cs⟩ threads [])
    (dead : Dead program ⟨before, index, cs⟩ threads.waiting)
    (nowhere : ∀ place ∈ placesFrom before index cs,
      ¬(⟨start, empty⟩ : Thread).Lives program place) :
    search program start empty before index none threads cs = none := by
  induction cs generalizing before index threads with
  | nil =>
    have dead := dead_opened sound dead (nowhere _ List.mem_cons_self)
    rw [search_nil, final?_dead dead.reverse]
    rfl
  | cons c rest ih =>
    obtain ⟨here, behind⟩ := List.forall_mem_cons.1 nowhere
    obtain ⟨next, sound, dead, same⟩ := search_across sound dead here
    rw [same]
    exact ih sound dead behind

/-- A search finds what a thread accepts from the first place where one can. -/
theorem search_leftmost (sound : Threads.Follows program ⟨before, index, cs⟩ threads [])
    (dead : Dead program ⟨before, index, cs⟩ threads.waiting) {earlier later : List Place}
    (around : placesFrom before index cs = earlier ++ place :: later)
    (nowhere : ∀ place ∈ earlier, ¬(⟨start, empty⟩ : Thread).Lives program place)
    (lives : (⟨start, empty⟩ : Thread).Lives program place) :
    ∃ q, (⟨start, empty⟩ : Thread).Yields program place q ∧
      search program start empty before index none threads cs = some q.slots := by
  induction earlier generalizing before index threads cs with
  | nil =>
    obtain ⟨_, same, -⟩ := placesFrom_eq_cons before index cs
    obtain ⟨rfl, -⟩ := List.cons.inj (same.symm.trans around)
    -- All threads from before are dead, so one that has just entered decides.
    obtain ⟨-, ⟨added, waiting, stems⟩, stays⟩ := Threads.enter_spec sound ⟨start, empty⟩
    exact search_of_decided sound (.inl (Threads.led_of_awake waiting stems dead (stays lives)))
  | cons first earlier ih =>
    obtain ⟨here, behind⟩ := List.forall_mem_cons.1 nowhere
    cases cs with
    | nil => simp [placesFrom] at around
    | cons c rest =>
      obtain ⟨rfl, later⟩ := List.cons.inj around
      obtain ⟨next, sound, dead, same⟩ := search_across sound dead here
      rw [same]
      exact ih sound dead later behind

/-! ### Patterns -/

namespace Expression

def groupCount (expression : Expression) : Nat :=
  expression.groups.foldl max 0

/-- Where a match starts: the slots have room for all groups, and the place is noted for the whole. -/
def opening (expression : Expression) (place : Place) : Point :=
  Point.note ⟨place, Array.replicate (2 * (expression.groupCount + 1)) none⟩ 0

/-- A match starts at a place. -/
def Starts (expression : Expression) (place : Place) : Prop :=
  ∃ q, expression.Spans (expression.opening place) q

end Expression

def capturesOf (count : Nat) (slots : Slots) : Option Captures := do
  let whole ← spanOf? slots 0
  return ⟨whole, (List.range count).map fun i => spanOf? slots (i + 1)⟩

structure Realizes (pattern : Pattern) (expression : Expression) : Prop where
  program : pattern.program = (Program.ofExpression expression).code
  start : pattern.start = (Program.ofExpression expression).start
  names : pattern.names.length = expression.groupCount

/-- A text that is read as an expression of admissible size compiles. -/
theorem exists_realizes {text : String} {expression : Expression}
    (read : (parse? text).map Parsed.expression = some expression)
    (small : expression.isTooLarge = false) :
    ∃ pattern, compile text = .ok pattern ∧ Realizes pattern expression := by
  obtain ⟨parsed, found, rfl⟩ := Option.map_eq_some_iff.1 read
  simp only [compile, found, small, Bool.false_eq_true, if_false]
  exact ⟨_, rfl, rfl, rfl, by simp [groupNames, Expression.groupCount]⟩

namespace Realizes

variable {pattern : Pattern} {expression : Expression} {text : List Char}

theorem find?_eq (realizes : Realizes pattern expression) (text : List Char) : pattern.find? text =
    (search pattern.program pattern.start (Array.replicate (2 * (expression.groupCount + 1)) none) none 0
      none ⟨[], Array.replicate pattern.program.size 0⟩ text).bind (capturesOf expression.groupCount) := by
  rw [← realizes.names]
  rfl

theorem yields_iff (realizes : Realizes pattern expression) {q : Point} :
    (⟨pattern.start, Array.replicate (2 * (expression.groupCount + 1)) none⟩ : Thread).Yields
        pattern.program place q ↔
      ∃ r, expression.Spans (expression.opening place) r ∧ r.note 1 = q := by
  rw [realizes.program, realizes.start]
  exact Program.accepts_ofExpression

theorem lives_iff (realizes : Realizes pattern expression) :
    (⟨pattern.start, Array.replicate (2 * (expression.groupCount + 1)) none⟩ : Thread).Lives
        pattern.program place ↔ expression.Starts place := by
  simp only [Thread.Lives, realizes.yields_iff]
  constructor
  · rintro ⟨-, r, spans, -⟩
    exact ⟨r, spans⟩
  · rintro ⟨r, spans⟩
    exact ⟨_, r, spans, rfl⟩

theorem follows_nothing (program : Program) (place : Place) :
    Threads.Follows program place ⟨[], Array.replicate program.size 0⟩ [] where
  size := by simp
  marks address := by
    rw [Array.getD_eq_getD_getElem?, Array.getElem?_replicate]
    split <;> simp
  waits := by simp
  covered _ address _ _ _ marked _ := by
    rw [Threads.IsMarked, Array.getD_eq_getD_getElem?, Array.getElem?_replicate] at marked
    split at marked <;> simp at marked

theorem noted_of_spans {p q : Point} (spans : expression.Spans p q) {slot index : Nat}
    (noted : p.slots[slot]? = some (some index)) : ∃ last, q.slots[slot]? = some (some last) := by
  refine spans.invariant (fun p q => ∀ index, p.slots[slot]? = some (some index) →
    ∃ last, q.slots[slot]? = some (some last)) ?_ ?_ ?_ ?_ index noted
  · exact fun p index noted => ⟨index, noted⟩
  · intro p q r first second index noted
    obtain ⟨last, noted⟩ := first index noted
    exact second last noted
  · exact fun p c index noted => ⟨index, noted⟩
  · intro p other index noted
    rw [Point.note, Array.getElem?_setIfInBounds]
    split
    · rename_i same
      subst same
      rw [if_pos (Array.getElem?_eq_some_iff.1 noted).1]
      exact ⟨_, rfl⟩
    · exact ⟨index, noted⟩

theorem size_of_spans {p q : Point} (spans : expression.Spans p q) : q.slots.size = p.slots.size := by
  refine spans.invariant (fun p q => q.slots.size = p.slots.size) ?_ ?_ ?_ ?_
  · exact fun _ => rfl
  · exact fun p q r first second => second.trans first
  · exact fun _ _ => rfl
  · exact fun p slot => by simp [Point.note]

theorem exists_whole {q : Point} (spans : expression.Spans (expression.opening place) q) :
    ∃ first, spanOf? (q.note 1).slots 0 = some ⟨first, q.place.index⟩ := by
  have room : (expression.opening place).slots.size = 2 * (expression.groupCount + 1) := by
    simp [Expression.opening, Point.note]
  have opened : (expression.opening place).slots[0]? = some (some place.index) := by
    simp [Expression.opening, Point.note]
  obtain ⟨first, noted⟩ := noted_of_spans spans opened
  have inside : 1 < q.slots.size := by
    rw [size_of_spans spans, room]
    omega
  refine ⟨first, ?_⟩
  simp [spanOf?, Point.note, noted, inside]

theorem find?_eq_none (realizes : Realizes pattern expression)
    (nowhere : ∀ place ∈ placesFrom none 0 text, ¬expression.Starts place) :
    pattern.find? text = none := by
  rw [realizes.find?_eq, search_eq_none (follows_nothing _ _) Threads.dead_nil
    fun place among => mt realizes.lives_iff.1 (nowhere place among)]
  rfl

theorem find?_leftmost (realizes : Realizes pattern expression) {earlier later : List Place}
    (around : placesFrom none 0 text = earlier ++ place :: later)
    (nowhere : ∀ place ∈ earlier, ¬expression.Starts place) (starts : expression.Starts place) :
    ∃ q, expression.Spans (expression.opening place) q ∧
      pattern.find? text = capturesOf expression.groupCount (q.note 1).slots := by
  obtain ⟨q, yields, same⟩ := search_leftmost (follows_nothing _ _) Threads.dead_nil
    around (fun place among => mt realizes.lives_iff.1 (nowhere place among)) (realizes.lives_iff.2 starts)
  obtain ⟨r, spans, rfl⟩ := realizes.yields_iff.1 yields
  refine ⟨r, spans, ?_⟩
  rw [realizes.find?_eq, same]
  rfl

theorem find?_cases (realizes : Realizes pattern expression) (text : List Char) :
    (pattern.find? text = none ∧ ∀ place ∈ placesFrom none 0 text, ¬expression.Starts place) ∨
    ∃ earlier place later q, placesFrom none 0 text = earlier ++ place :: later ∧
      (∀ place ∈ earlier, ¬expression.Starts place) ∧
      expression.Spans (expression.opening place) q ∧
      pattern.find? text = capturesOf expression.groupCount (q.note 1).slots := by
  classical
  cases first : (placesFrom none 0 text).find? fun place => decide (expression.Starts place) with
  | none =>
    have nowhere : ∀ place ∈ placesFrom none 0 text, ¬expression.Starts place := by
      simpa [List.find?_eq_none] using first
    exact .inl ⟨realizes.find?_eq_none nowhere, nowhere⟩
  | some place =>
    obtain ⟨starts, earlier, later, around, nowhere⟩ := List.find?_eq_some_iff_append.1 first
    have nowhere : ∀ place ∈ earlier, ¬expression.Starts place := by simpa using nowhere
    obtain ⟨q, spans, same⟩ := realizes.find?_leftmost around nowhere (of_decide_eq_true starts)
    exact .inr ⟨earlier, place, later, q, around, nowhere, spans, same⟩

theorem isMatch_iff (realizes : Realizes pattern expression) :
    pattern.isMatch text = true ↔ ∃ place ∈ placesFrom none 0 text, expression.Starts place := by
  rw [isMatch]
  rcases realizes.find?_cases text with
    ⟨same, nowhere⟩ | ⟨earlier, place, later, q, around, -, spans, same⟩
  · rw [same]
    simpa using nowhere
  · obtain ⟨start, whole⟩ := exists_whole spans
    rw [same, capturesOf, whole]
    exact ⟨fun _ => ⟨place, by simp [around], q, spans⟩, fun _ => rfl⟩

/-- A pattern that is anchored at the start matches the texts of the language that ends there. -/
theorem isMatch_anchored {Language : List Char → Prop}
    (realizes : Realizes pattern (.seq (.look .textStart) expression))
    (ends : expression.Ends Language) : pattern.isMatch text = true ↔ Language text := by
  have starts (place : Place) : (Expression.seq (.look .textStart) expression).Starts place ↔
      place.before = none ∧ Language place.behind := by
    have behind : (∃ q, expression.Spans (Expression.opening _ place) q) ↔ Language place.behind :=
      ends (Expression.opening (.seq (.look .textStart) expression) place)
    rw [← behind]
    constructor
    · rintro ⟨q, r, ⟨first, rfl⟩, spans⟩
      exact ⟨Option.isNone_iff_eq_none.1 first, q, spans⟩
    · rintro ⟨first, q, spans⟩
      exact ⟨q, _, ⟨Option.isNone_iff_eq_none.2 first, rfl⟩, spans⟩
  obtain ⟨later, same, others⟩ := placesFrom_eq_cons none 0 text
  simp only [realizes.isMatch_iff, starts, same]
  constructor
  · rintro ⟨place, among, first, taken⟩
    rcases List.mem_cons.1 among with rfl | behind
    · exact taken
    · exact absurd first (others place behind)
  · exact fun taken => ⟨_, List.mem_cons_self, rfl, taken⟩

end Realizes

/-- A text is the pattern of a language: it compiles, and matches the texts of the language and no others. -/
def Describes (text : String) (Language : String → Prop) : Prop :=
  ∃ pattern, compile text = .ok pattern ∧
    ∀ subject : String, pattern.isMatch subject.toList = true ↔ Language subject

theorem describes_anchored {text : String} {expression : Expression} {Language : List Char → Prop}
    (read : (parse? text).map Parsed.expression = some (.seq (.look .textStart) expression))
    (small : (Expression.seq (.look .textStart) expression).isTooLarge = false)
    (ends : expression.Ends Language) : Describes text fun subject => Language subject.toList := by
  obtain ⟨pattern, compiled, realizes⟩ := exists_realizes read small
  exact ⟨pattern, compiled, fun _ => realizes.isMatch_anchored ends⟩

end Runbook.Pattern
