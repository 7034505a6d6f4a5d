import Mathlib.Data.List.Induction
import Mathlib.Data.List.Nodup
import Runbook.Proofs.Device.Occupation

/-! Any number of sessions that one provider and its clones have handed out, used in any order.

A session holds its device until it is closed or dropped. The devices that are open are those that a
session holds, and no two sessions hold the same one.
-/

set_option autoImplicit false

namespace Runbook.Device.Replay

/-- What a provider and its clones have in common, and the sessions in the order of opening. A session
that was dropped leaves its place empty. -/
structure Pool where
  openDevices : List DeviceId := []
  transcript : List Sent := []
  sessions : List (Option Session) := []
  deriving DecidableEq, Repr

namespace Pool

def clone (pool : Pool) (setup : Provider) : Provider :=
  { setup with openDevices := pool.openDevices, transcript := pool.transcript }

def session? (pool : Pool) (place : Nat) : Option Session :=
  pool.sessions[place]?.join

def open_ (pool : Pool) (setup : Provider) (device : DeviceId) : Except Error Unit × Pool :=
  match (pool.clone setup).open_ device with
  | .error error => (.error error, pool)
  | .ok (session, after) =>
    (.ok (), ⟨after.openDevices, after.transcript, pool.sessions ++ [some session]⟩)

def run (pool : Pool) (place : Nat) (command : String) : Option Answer × Pool :=
  match pool.session? place with
  | none => (none, pool)
  | some session =>
    let (answer, heard, after) := (pool.clone {}).send session command
    (some answer, ⟨after.openDevices, after.transcript, pool.sessions.set place (some heard)⟩)

def release (pool : Pool) (place : Nat) (left : Session → Option Session) : Pool :=
  match pool.session? place with
  | none => pool
  | some session =>
    let (closed, after) := (pool.clone {}).release session
    ⟨after.openDevices, after.transcript, pool.sessions.set place (left closed)⟩

def close (pool : Pool) (place : Nat) : Pool :=
  pool.release place some

def drop (pool : Pool) (place : Nat) : Pool :=
  pool.release place fun _ => none

inductive Operation where
  | open_ (setup : Provider) (device : DeviceId)
  | run (place : Nat) (command : String)
  | close (place : Nat)
  | drop (place : Nat)

namespace Operation

def apply (pool : Pool) : Operation → Pool
  | .open_ setup device => (pool.open_ setup device).2
  | .run place command => (pool.run place command).2
  | .close place => pool.close place
  | .drop place => pool.drop place

end Operation

def after (operations : List Operation) : Pool :=
  operations.foldl Operation.apply {}

def Holds (pool : Pool) (place : Nat) (device : DeviceId) : Prop :=
  ∃ session, pool.session? place = some session ∧ session.closed = false ∧ session.device = device

def holding? (session : Option Session) : Option DeviceId :=
  session.bind fun session => if session.closed then none else some session.device

def held (pool : Pool) : List DeviceId :=
  pool.sessions.filterMap holding?

/-- The open devices are those that are held, each by one session. -/
structure Exclusive (pool : Pool) : Prop where
  openDevices : pool.openDevices = pool.held
  distinct : pool.held.Nodup

section
variable {pool : Pool} {place : Nat} {session : Session} {device : DeviceId}

theorem holding?_eq_some_iff {session : Option Session} :
    holding? session = some device ↔
      ∃ own, session = some own ∧ own.closed = false ∧ own.device = device := by
  cases session with
  | none => simp [holding?]
  | some own => cases closed : own.closed <;> simp [holding?, closed]

theorem holds_iff : pool.Holds place device ↔
    ∃ session, pool.sessions[place]? = some session ∧ holding? session = some device := by
  simp only [Holds, session?, Option.join_eq_some_iff, holding?_eq_some_iff]
  constructor
  · rintro ⟨own, present, state⟩
    exact ⟨some own, present, own, rfl, state⟩
  · rintro ⟨_, present, own, rfl, state⟩
    exact ⟨own, present, state⟩

theorem mem_held_iff : device ∈ pool.held ↔ ∃ place, pool.Holds place device := by
  simp only [held, List.mem_filterMap, holds_iff]
  constructor
  · rintro ⟨session, member, holds⟩
    obtain ⟨place, present⟩ := List.mem_iff_getElem?.1 member
    exact ⟨place, session, present, holds⟩
  · rintro ⟨place, session, present, holds⟩
    exact ⟨session, List.mem_of_getElem? present, holds⟩

theorem Exclusive.unique (exclusive : pool.Exclusive) {first second : Nat}
    (one : pool.Holds first device) (other : pool.Holds second device) : first = second := by
  obtain ⟨session, present, holds⟩ := holds_iff.1 one
  obtain ⟨later, alsoPresent, alsoHolds⟩ := holds_iff.1 other
  have apart : pool.sessions.Pairwise fun session later =>
      ∀ device ∈ holding? session, ∀ other ∈ holding? later, device ≠ other :=
    List.pairwise_filterMap.1 exclusive.distinct
  obtain ⟨low, rfl⟩ := List.getElem?_eq_some_iff.1 present
  obtain ⟨high, rfl⟩ := List.getElem?_eq_some_iff.1 alsoPresent
  rcases Nat.lt_trichotomy first second with before | same | behind
  · exact absurd rfl (List.pairwise_iff_getElem.1 apart _ _ low high before _ holds _ alsoHolds)
  · exact same
  · exact absurd rfl (List.pairwise_iff_getElem.1 apart _ _ high low behind _ alsoHolds _ holds)

/-! ### What each operation does -/

theorem open_eq_ok_iff (pool : Pool) (setup : Provider) (device : DeviceId) :
    (pool.open_ setup device).1 = .ok () ↔
      device ∉ setup.unreachable ∧ device ∉ pool.openDevices := by
  unfold open_
  cases opened : (pool.clone setup).open_ device with
  | error error =>
    refine ⟨nofun, fun free => ?_⟩
    have succeeds : (pool.clone setup).open_ device = .ok _ :=
      Provider.open_eq_ok_iff.2 ⟨free.1, free.2, rfl, rfl⟩
    cases opened.symm.trans succeeds
  | ok result =>
    obtain ⟨reachable, closed, -, -⟩ := Provider.open_eq_ok_iff.1 opened
    exact ⟨fun _ => ⟨reachable, closed⟩, fun _ => rfl⟩

theorem open_of_error {setup : Provider} {error : Error}
    (failed : (pool.open_ setup device).1 = .error error) : (pool.open_ setup device).2 = pool := by
  unfold open_ at failed ⊢
  cases opened : (pool.clone setup).open_ device with
  | error error => rfl
  | ok result =>
    rw [opened] at failed
    cases failed

theorem open_eq {setup : Provider} (opened : (pool.open_ setup device).1 = .ok ()) :
    (pool.open_ setup device).2 =
      ⟨pool.openDevices ++ [device], pool.transcript, pool.sessions ++ [some (setup.fresh device)]⟩ := by
  obtain ⟨reachable, closed⟩ := (open_eq_ok_iff pool setup device).1 opened
  have succeeds : (pool.clone setup).open_ device = .ok _ :=
    Provider.open_eq_ok_iff.2 ⟨reachable, closed, rfl, rfl⟩
  rw [open_, succeeds]
  rfl

theorem run_of_none (absent : pool.session? place = none) (command : String) :
    pool.run place command = (none, pool) := by
  rw [run, absent]

theorem release_of_none (absent : pool.session? place = none) (left : Session → Option Session) :
    pool.release place left = pool := by
  rw [release, absent]

theorem run_eq (present : pool.session? place = some session) (command : String) :
    pool.run place command = (some (session.hear command).1,
      ⟨pool.openDevices,
        if session.closed then pool.transcript else pool.transcript ++ [⟨session.device, command⟩],
        pool.sessions.set place (some (session.hear command).2)⟩) := by
  simp only [run, present, Provider.send_eq]
  cases session.closed <;> rfl

theorem release_eq (present : pool.session? place = some session) (left : Session → Option Session) :
    pool.release place left =
      ⟨if session.closed then pool.openDevices else pool.openDevices.filter (· != session.device),
        pool.transcript, pool.sessions.set place (left { session with closed := true })⟩ := by
  simp only [release, present, Provider.release]
  cases closed : session.closed with
  | false => rfl
  | true =>
    have same : { session with closed := true } = session := by rw [← closed]
    rw [if_pos rfl, if_pos rfl, same]
    rfl

theorem held_set (present : pool.session? place = some session) :
    ∃ before behind, pool.held = before ++ (holding? (some session)).toList ++ behind ∧
      ∀ left, (pool.sessions.set place left).filterMap holding? =
        before ++ (holding? left).toList ++ behind := by
  have there : pool.sessions[place]? = some (some session) := Option.join_eq_some_iff.1 present
  obtain ⟨inside, same⟩ := List.getElem?_eq_some_iff.1 there
  have put (left : Option Session) : (pool.sessions.set place left).filterMap holding? =
      (pool.sessions.take place).filterMap holding? ++ (holding? left).toList ++
        (pool.sessions.drop (place + 1)).filterMap holding? := by
    rw [List.set_eq_take_append_cons_drop, if_pos inside, List.filterMap_append, List.append_assoc]
    refine congrArg _ ?_
    rw [List.filterMap_cons]
    cases holding? left <;> rfl
  refine ⟨_, _, ?_, put⟩
  rw [← put, ← same, List.set_getElem_self]
  rfl

theorem Exclusive.open_ (exclusive : pool.Exclusive) (setup : Provider) (device : DeviceId) :
    (pool.open_ setup device).2.Exclusive := by
  cases opened : (pool.open_ setup device).1 with
  | error error =>
    rw [open_of_error opened]
    exact exclusive
  | ok =>
    have free : device ∉ pool.held :=
      exclusive.openDevices ▸ ((open_eq_ok_iff pool setup device).1 opened).2
    have joined : (pool.sessions ++ [some (setup.fresh device)]).filterMap holding? =
        pool.held ++ [device] := List.filterMap_append
    rw [open_eq opened]
    constructor
    case openDevices => exact (congrArg (· ++ [device]) exclusive.openDevices).trans joined.symm
    case distinct =>
      rw [held, joined, ← List.concat_eq_append]
      exact exclusive.distinct.concat free

theorem Exclusive.run (exclusive : pool.Exclusive) (place : Nat) (command : String) :
    (pool.run place command).2.Exclusive := by
  cases present : pool.session? place with
  | none =>
    rw [run_of_none present]
    exact exclusive
  | some session =>
    obtain ⟨before, behind, split, put⟩ := held_set present
    -- What a session hears changes neither its device nor whether it is closed.
    have same : holding? (some (session.hear command).2) = holding? (some session) := by
      simp [holding?]
    have kept : (pool.sessions.set place (some (session.hear command).2)).filterMap holding? =
        pool.held := by
      rw [put, same, split]
    rw [run_eq present]
    constructor
    case openDevices => exact exclusive.openDevices.trans kept.symm
    case distinct =>
      rw [held, kept]
      exact exclusive.distinct

theorem Exclusive.release (exclusive : pool.Exclusive) (place : Nat) (left : Session → Option Session)
    (frees : ∀ session : Session, holding? (left { session with closed := true }) = none) :
    (pool.release place left).Exclusive := by
  cases present : pool.session? place with
  | none =>
    rw [release_of_none present]
    exact exclusive
  | some session =>
    obtain ⟨before, behind, split, put⟩ := held_set present
    have rest : (pool.sessions.set place (left { session with closed := true })).filterMap holding? =
        before ++ behind := by
      rw [put, frees]
      simp
    rw [release_eq present]
    cases closed : session.closed with
    | true =>
      have kept : pool.held = before ++ behind := by
        rw [split]
        simp [holding?, closed]
      constructor
      case openDevices => exact exclusive.openDevices.trans (kept.trans rest.symm)
      case distinct =>
        rw [held, rest, ← kept]
        exact exclusive.distinct
    | false =>
      have kept : pool.held = before ++ session.device :: behind := by
        rw [split]
        simp [holding?, closed]
      have distinct := exclusive.distinct
      rw [kept] at distinct
      -- Held by this session alone, its device is the one that goes.
      have absent : session.device ∉ before := by
        intro member
        exact (List.nodup_append.1 distinct).2.2 _ member _ List.mem_cons_self rfl
      have freed : pool.openDevices.filter (· != session.device) = before ++ behind := by
        rw [exclusive.openDevices, kept, ← distinct.erase_eq_filter,
          List.erase_append_right _ absent, List.erase_cons_head]
      constructor
      case openDevices => exact freed.trans rest.symm
      case distinct =>
        rw [held, rest, ← freed, exclusive.openDevices]
        exact exclusive.distinct.filter _

theorem Exclusive.apply (exclusive : pool.Exclusive) (operation : Operation) :
    (operation.apply pool).Exclusive := by
  cases operation with
  | open_ setup device => exact exclusive.open_ setup device
  | run place command => exact exclusive.run place command
  | close place => exact exclusive.release place some fun session => by simp [holding?]
  | drop place => exact exclusive.release place (fun _ => none) fun _ => rfl

theorem transcript_open (pool : Pool) (setup : Provider) (device : DeviceId) :
    (pool.open_ setup device).2.transcript = pool.transcript := by
  cases opened : (pool.open_ setup device).1 with
  | error error => rw [open_of_error opened]
  | ok => rw [open_eq opened]

theorem transcript_release (pool : Pool) (place : Nat) (left : Session → Option Session) :
    (pool.release place left).transcript = pool.transcript := by
  cases present : pool.session? place with
  | none => rw [release_of_none present]
  | some session => rw [release_eq present]

theorem run_of_closed (present : pool.session? place = some session) (closed : session.closed = true)
    (command : String) : pool.run place command = (some ⟨.error .closed, 0⟩, pool) := by
  have deaf : session.hear command = (⟨.error .closed, 0⟩, session) := by
    rw [Session.hear, Provider.send, if_pos closed]
  have there : pool.sessions[place]? = some (some session) := Option.join_eq_some_iff.1 present
  obtain ⟨inside, same⟩ := List.getElem?_eq_some_iff.1 there
  rw [run_eq present, deaf, if_pos closed, ← same, List.set_getElem_self]

end

theorem exclusive_after (operations : List Operation) : (after operations).Exclusive := by
  have kept (pool : Pool) (exclusive : pool.Exclusive) :
      (operations.foldl Operation.apply pool).Exclusive := by
    induction operations generalizing pool with
    | nil => exact exclusive
    | cons operation rest ih => exact ih _ (exclusive.apply operation)
  exact kept {} ⟨rfl, List.nodup_nil⟩

/-! ### What the operations say of a session -/

/-- The session in this place was opened to a device, and these operations followed. -/
def Since (operations : List Operation) (place : Nat) (device : DeviceId)
    (later : List Operation) : Prop :=
  ∃ earlier setup, operations = earlier ++ .open_ setup device :: later ∧
    ((after earlier).open_ setup device).1 = .ok () ∧ place = (after earlier).sessions.length

/-- A session was opened to a device, and has been neither closed nor dropped since. -/
def LeftOpen (operations : List Operation) (place : Nat) (device : DeviceId) : Prop :=
  ∃ later, Since operations place device later ∧ .close place ∉ later ∧ .drop place ∉ later

/-- A session was opened and has been closed since, but not dropped. -/
def LeftClosed (operations : List Operation) (place : Nat) : Prop :=
  ∃ device later, Since operations place device later ∧ .close place ∈ later ∧ .drop place ∉ later

/-- The device of the session in a place, and whether it is closed. -/
def standing? (pool : Pool) (place : Nat) : Option (DeviceId × Bool) :=
  (pool.session? place).map fun session => (session.device, session.closed)

section
variable {pool : Pool} {place other : Nat} {device : DeviceId} {operations : List Operation}
  {operation : Operation}

theorem session?_set (pool : Pool) {place : Nat} (inside : place < pool.sessions.length)
    (left : Option Session) (other : Nat) :
    ((pool.sessions.set place left)[other]?).join =
      if other = place then left else pool.session? other := by
  by_cases same : other = place
  · subst same
    rw [List.getElem?_set_self inside, if_pos rfl]
    rfl
  · rw [List.getElem?_set_ne (Ne.symm same), if_neg same]
    rfl

theorem inside_of_session {session : Session} (present : pool.session? place = some session) :
    place < pool.sessions.length := by
  obtain ⟨inside, -⟩ := List.getElem?_eq_some_iff.1 (Option.join_eq_some_iff.1 present)
  exact inside

theorem session?_open {setup : Provider} (opened : (pool.open_ setup device).1 = .ok ()) (other : Nat) :
    (pool.open_ setup device).2.session? other =
      if other = pool.sessions.length then some (setup.fresh device) else pool.session? other := by
  rw [open_eq opened]
  simp only [session?]
  rcases Nat.lt_trichotomy other pool.sessions.length with before | rfl | behind
  · rw [List.getElem?_append_left before, if_neg (Nat.ne_of_lt before)]
  · rw [List.getElem?_concat_length, if_pos rfl]
    rfl
  · rw [if_neg (Nat.ne_of_gt behind), List.getElem?_eq_none (by simpa using Nat.succ_le_of_lt behind),
      List.getElem?_eq_none (Nat.le_of_lt behind)]

theorem session?_run (pool : Pool) (place : Nat) (command : String) (other : Nat) :
    (pool.run place command).2.session? other =
      if other = place then (pool.session? place).map fun session => (session.hear command).2
      else pool.session? other := by
  cases present : pool.session? place with
  | none =>
    rw [run_of_none present]
    split
    · rename_i same
      exact same ▸ present
    · rfl
  | some session =>
    rw [run_eq present]
    exact session?_set pool (inside_of_session present) _ other

theorem session?_release (pool : Pool) (place : Nat) (left : Session → Option Session) (other : Nat) :
    (pool.release place left).session? other =
      if other = place then (pool.session? place).bind fun session => left { session with closed := true }
      else pool.session? other := by
  cases present : pool.session? place with
  | none =>
    rw [release_of_none present]
    split
    · rename_i same
      exact same ▸ present
    · rfl
  | some session =>
    rw [release_eq present]
    exact session?_set pool (inside_of_session present) _ other

theorem standing?_open {setup : Provider} (opened : (pool.open_ setup device).1 = .ok ()) (other : Nat) :
    (pool.open_ setup device).2.standing? other =
      if other = pool.sessions.length then some (device, false) else pool.standing? other := by
  rw [standing?, session?_open opened]
  split <;> rfl

theorem standing?_run (pool : Pool) (place : Nat) (command : String) (other : Nat) :
    (pool.run place command).2.standing? other = pool.standing? other := by
  rw [standing?, session?_run]
  split
  · rename_i same
    subst same
    simp [standing?, Function.comp_def]
  · rfl

theorem standing?_close (pool : Pool) (place other : Nat) :
    (pool.close place).standing? other =
      if other = place then (pool.standing? place).map fun standing => (standing.1, true)
      else pool.standing? other := by
  rw [standing?, close, session?_release]
  split
  · cases present : pool.session? place <;> simp [standing?, present]
  · rfl

theorem standing?_drop (pool : Pool) (place other : Nat) :
    (pool.drop place).standing? other = if other = place then none else pool.standing? other := by
  rw [standing?, drop, session?_release]
  split
  · rw [Option.bind_fun_none]
    rfl
  · rfl

theorem holds_iff_standing : pool.Holds place device ↔ pool.standing? place = some (device, false) := by
  simp only [Holds, standing?, Option.map_eq_some_iff, Prod.mk.injEq]
  exact exists_congr fun session => and_congr_right fun _ => and_comm

theorem length_release (pool : Pool) (place : Nat) (left : Session → Option Session) :
    (pool.release place left).sessions.length = pool.sessions.length := by
  cases present : pool.session? place with
  | none => rw [release_of_none present]
  | some session => rw [release_eq present, List.length_set]

theorem length_le_apply (pool : Pool) (operation : Operation) :
    pool.sessions.length ≤ (operation.apply pool).sessions.length := by
  cases operation with
  | open_ setup device =>
    cases opened : (pool.open_ setup device).1 with
    | error error => simp [Operation.apply, open_of_error opened]
    | ok => simp [Operation.apply, open_eq opened]
  | run place command =>
    cases present : pool.session? place with
    | none => simp [Operation.apply, run_of_none present]
    | some session => simp [Operation.apply, run_eq present]
  | close place => exact Nat.le_of_eq (length_release pool place some).symm
  | drop place => exact Nat.le_of_eq (length_release pool place fun _ => none).symm

theorem after_concat (operations : List Operation) (operation : Operation) :
    after (operations ++ [operation]) = operation.apply (after operations) :=
  List.foldl_concat ..

theorem since_concat_iff {later : List Operation} :
    Since (operations ++ [operation]) place device later ↔
      (later = [] ∧ ∃ setup, operation = .open_ setup device ∧
        ((after operations).open_ setup device).1 = .ok () ∧ place = (after operations).sessions.length) ∨
      ∃ before, later = before ++ [operation] ∧ Since operations place device before := by
  constructor
  · rintro ⟨earlier, setup, split, opened, number⟩
    -- Where nothing followed the opening, it is itself the last operation.
    rcases List.eq_nil_or_concat later with rfl | ⟨before, last, rfl⟩
    · obtain ⟨rfl, same⟩ := List.append_inj' split rfl
      exact .inl ⟨rfl, setup, List.head_eq_of_cons_eq same, opened, number⟩
    · rw [List.concat_eq_append, ← List.cons_append, ← List.append_assoc] at split
      obtain ⟨rfl, same⟩ := List.append_inj' split rfl
      cases same
      exact .inr ⟨before, List.concat_eq_append, earlier, setup, rfl, opened, number⟩
  · rintro (⟨rfl, setup, rfl, opened, number⟩ | ⟨before, rfl, earlier, setup, rfl, opened, number⟩)
    · exact ⟨operations, setup, rfl, opened, number⟩
    · exact ⟨earlier, setup, by simp, opened, number⟩

theorem Since.inside {later : List Operation} (since : Since operations place device later) :
    place < (after operations).sessions.length := by
  induction operations using List.reverseRecOn generalizing later with
  | nil =>
    obtain ⟨earlier, setup, split, -⟩ := since
    simp at split
  | append_singleton operations operation ih =>
    rw [after_concat]
    rcases since_concat_iff.1 since with ⟨-, setup, rfl, opened, rfl⟩ | ⟨before, -, since⟩
    · have fresh := session?_open opened (after operations).sessions.length
      rw [if_pos rfl] at fresh
      exact inside_of_session fresh
    · exact Nat.lt_of_lt_of_le (ih since) (length_le_apply ..)

/-- A session was opened and has not been dropped since; it is closed if it was closed since. -/
def Stands (operations : List Operation) (place : Nat) (device : DeviceId) (closed : Bool) : Prop :=
  ∃ later, Since operations place device later ∧ .drop place ∉ later ∧
    (closed = true ↔ .close place ∈ later)

theorem stands_opened_iff {setup : Provider} {opening : DeviceId} {closed : Bool}
    (opened : ((after operations).open_ setup opening).1 = .ok ()) :
    Stands (operations ++ [.open_ setup opening]) (after operations).sessions.length device closed ↔
      opening = device ∧ false = closed := by
  constructor
  · rintro ⟨later, since, -, status⟩
    rcases since_concat_iff.1 since with ⟨rfl, _, same, -⟩ | ⟨before, -, earlier⟩
    · cases same
      exact ⟨rfl, by simpa using status.symm⟩
    · -- The place is a new one, so no session was opened there before.
      exact absurd earlier.inside (Nat.lt_irrefl _)
  · rintro ⟨rfl, rfl⟩
    exact ⟨[], since_concat_iff.2 (.inl ⟨rfl, setup, rfl, opened, rfl⟩), by simp, by simp⟩

theorem stands_followed_iff {closed : Bool}
    (other : ∀ setup, operation = .open_ setup device →
      ((after operations).open_ setup device).1 = .ok () → place ≠ (after operations).sessions.length) :
    Stands (operations ++ [operation]) place device closed ↔ operation ≠ .drop place ∧
      ∃ before, Stands operations place device before ∧
        (closed = true ↔ before = true ∨ operation = .close place) := by
  classical
  constructor
  · rintro ⟨later, since, kept, status⟩
    rcases since_concat_iff.1 since with ⟨-, setup, same, opened, number⟩ | ⟨before, rfl, earlier⟩
    · exact absurd number (other setup same opened)
    · simp only [List.mem_append, List.mem_singleton, not_or] at kept status
      refine ⟨Ne.symm kept.2, decide (.close place ∈ before), ⟨before, earlier, kept.1, by simp⟩, ?_⟩
      rw [status, decide_eq_true_iff, eq_comm (a := operation)]
  · rintro ⟨last, closedBefore, ⟨before, earlier, kept, was⟩, status⟩
    refine ⟨before ++ [operation], since_concat_iff.2 (.inr ⟨before, rfl, earlier⟩), ?_, ?_⟩
    · simpa [not_or] using ⟨kept, Ne.symm last⟩
    · rw [status, was, List.mem_append, List.mem_singleton, eq_comm (a := operation)]

theorem standing?_after_iff {closed : Bool} :
    (after operations).standing? place = some (device, closed) ↔ Stands operations place device closed := by
  -- On the operations from the last one, for this is how they are carried out.
  induction operations using List.reverseRecOn generalizing place device closed with
  | nil =>
    refine ⟨nofun, ?_⟩
    rintro ⟨_, ⟨earlier, setup, split, -⟩, -⟩
    simp at split
  | append_singleton operations operation ih =>
    rw [after_concat]
    cases operation with
    | open_ setup opening =>
      rw [Operation.apply]
      cases opened : ((after operations).open_ setup opening).1 with
      | error error =>
        rw [open_of_error opened, ih, stands_followed_iff]
        · simp
        · rintro _ same succeeds
          cases same
          cases opened.symm.trans succeeds
      | ok =>
        rw [standing?_open opened]
        by_cases new : place = (after operations).sessions.length
        · rw [new, if_pos rfl, stands_opened_iff opened]
          simp
        · rw [if_neg new, ih, stands_followed_iff fun _ _ _ => new]
          simp
    | run other command =>
      rw [Operation.apply, standing?_run, ih, stands_followed_iff (by rintro _ ⟨⟩)]
      simp
    | close other =>
      rw [Operation.apply, standing?_close, stands_followed_iff (by rintro _ ⟨⟩)]
      by_cases same : place = other
      · subst same
        simp [ih, Option.map_eq_some_iff]
      · simp [if_neg same, ih, Ne.symm same]
    | drop other =>
      rw [Operation.apply, standing?_drop, stands_followed_iff (by rintro _ ⟨⟩)]
      by_cases same : place = other
      · simp [same]
      · simp [if_neg same, ih, Ne.symm same]

theorem leftOpen_iff_stands : LeftOpen operations place device ↔ Stands operations place device false := by
  simp [LeftOpen, Stands, and_comm]

theorem leftOpen_iff : LeftOpen operations place device ↔ (after operations).Holds place device := by
  rw [leftOpen_iff_stands, holds_iff_standing, standing?_after_iff]

theorem leftClosed_iff : LeftClosed operations place ↔
    ∃ session, (after operations).session? place = some session ∧ session.closed = true := by
  have stands : LeftClosed operations place ↔ ∃ device, Stands operations place device true := by
    simp [LeftClosed, Stands, and_comm]
  simp only [stands, ← standing?_after_iff, standing?, Option.map_eq_some_iff, Prod.mk.injEq]
  constructor
  · rintro ⟨-, session, present, -, closed⟩
    exact ⟨session, present, closed⟩
  · rintro ⟨session, present, closed⟩
    exact ⟨session.device, session, present, rfl, closed⟩

theorem leftOpen_ended_iff (ends : operation = .close place ∨ operation = .drop place) :
    LeftOpen (operations ++ [operation]) other device ↔
      other ≠ place ∧ LeftOpen operations other device := by
  rw [leftOpen_iff_stands, leftOpen_iff_stands]
  rcases ends with rfl | rfl
  · rw [stands_followed_iff (by rintro _ ⟨⟩)]
    simp [and_comm, eq_comm]
  · rw [stands_followed_iff (by rintro _ ⟨⟩)]
    simp [eq_comm]

theorem mem_openDevices_iff :
    device ∈ (after operations).openDevices ↔ ∃ place, LeftOpen operations place device := by
  rw [(exclusive_after operations).openDevices, mem_held_iff]
  exact exists_congr fun place => leftOpen_iff.symm

theorem mem_openDevices_ended_iff (ends : operation = .close place ∨ operation = .drop place) :
    device ∈ (operation.apply (after operations)).openDevices ↔
      ∃ other, other ≠ place ∧ LeftOpen operations other device := by
  rw [← after_concat, mem_openDevices_iff]
  exact exists_congr fun other => leftOpen_ended_iff ends

theorem absent_of_ended (notOpen : ∀ device, ¬LeftOpen operations place device)
    (notClosed : ¬LeftClosed operations place) : (after operations).session? place = none := by
  cases present : (after operations).session? place with
  | none => rfl
  | some session =>
    cases closed : session.closed with
    | true => exact absurd (leftClosed_iff.2 ⟨session, present, closed⟩) notClosed
    | false => exact absurd (leftOpen_iff.2 ⟨session, present, closed, rfl⟩) (notOpen session.device)

end

/-- However sessions were opened, used, closed and dropped: the open devices are those of the sessions that
were opened and have been neither closed nor dropped since, each the device of one of them alone. A device
is opened just where it can be reached and is not open, and otherwise nothing happens. To close or drop a
session, again or for the first time, frees the device of this one if it was still open, and of no other. A
closed session sends nothing, one that is open sends the command, and nothing else sends any. -/
theorem sessions_exclusive (operations : List Operation) :
    let pool := after operations
    (∀ device, device ∈ pool.openDevices ↔ ∃ place, LeftOpen operations place device) ∧
    (∀ device first second,
      LeftOpen operations first device → LeftOpen operations second device → first = second) ∧
    (∀ setup device, (pool.open_ setup device).1 = .ok () ↔
      device ∉ setup.unreachable ∧ ¬∃ place, LeftOpen operations place device) ∧
    (∀ setup device error, (pool.open_ setup device).1 = .error error →
      (pool.open_ setup device).2 = pool) ∧
    (∀ place device,
      (device ∈ (pool.close place).openDevices ↔
        ∃ other, other ≠ place ∧ LeftOpen operations other device) ∧
      (device ∈ (pool.drop place).openDevices ↔
        ∃ other, other ≠ place ∧ LeftOpen operations other device)) ∧
    (∀ place command, LeftClosed operations place →
      pool.run place command = (some ⟨.error .closed, 0⟩, pool)) ∧
    (∀ place device command, LeftOpen operations place device →
      (pool.run place command).1.isSome = true ∧
        (pool.run place command).2.transcript = pool.transcript ++ [⟨device, command⟩]) ∧
    (∀ place command, (∀ device, ¬LeftOpen operations place device) → ¬LeftClosed operations place →
      pool.run place command = (none, pool)) ∧
    ∀ setup device place,
      (pool.open_ setup device).2.transcript = pool.transcript ∧
        (pool.close place).transcript = pool.transcript ∧ (pool.drop place).transcript = pool.transcript := by
  intro pool
  refine ⟨fun device => mem_openDevices_iff, ?_, ?_, fun setup device error => open_of_error, ?_, ?_, ?_, ?_, ?_⟩
  · intro device first second one other
    exact (exclusive_after operations).unique (leftOpen_iff.1 one) (leftOpen_iff.1 other)
  · intro setup device
    rw [open_eq_ok_iff, mem_openDevices_iff]
  · intro place device
    exact ⟨mem_openDevices_ended_iff (.inl rfl), mem_openDevices_ended_iff (.inr rfl)⟩
  · intro place command closed
    obtain ⟨session, present, closed⟩ := leftClosed_iff.1 closed
    exact run_of_closed present closed command
  · intro place device command held
    obtain ⟨session, present, isOpen, rfl⟩ := leftOpen_iff.1 held
    rw [run_eq present, isOpen]
    exact ⟨rfl, rfl⟩
  · intro place command notOpen notClosed
    exact run_of_none (absent_of_ended notOpen notClosed) command
  · intro setup device place
    exact ⟨transcript_open .., transcript_release .., transcript_release ..⟩

/-- Closed and opened again, a device outlasts the drop of its first session, and not that of its second. -/
theorem sessions_exclusive_reopened :
    let operations : List Operation := [.open_ {} ⟨"core"⟩, .close 0, .open_ {} ⟨"core"⟩]
    let pool := after operations
    LeftClosed operations 0 ∧ LeftOpen operations 1 ⟨"core"⟩ ∧
      pool.run 0 "show" = (some ⟨.error .closed, 0⟩, pool) ∧
      (pool.run 1 "show").2.transcript = [⟨⟨"core"⟩, "show"⟩] ∧
      ¬(pool.open_ {} ⟨"core"⟩).1 = .ok () ∧
      ⟨"core"⟩ ∈ (pool.drop 0).openDevices ∧ ⟨"core"⟩ ∉ (pool.drop 1).openDevices := by
  intro operations pool
  have closed : LeftClosed operations 0 :=
    ⟨⟨"core"⟩, [.close 0, .open_ {} ⟨"core"⟩], ⟨[], {}, rfl, rfl, rfl⟩, by simp, by simp⟩
  have reopened : LeftOpen operations 1 ⟨"core"⟩ :=
    ⟨[], ⟨[.open_ {} ⟨"core"⟩, .close 0], {}, rfl, rfl, rfl⟩, by simp, by simp⟩
  obtain ⟨-, alone, opens, -, ended, deaf, sends, -⟩ := sessions_exclusive operations
  refine ⟨closed, reopened, deaf 0 "show" closed, (sends 1 _ "show" reopened).2, ?_, ?_, ?_⟩
  · exact fun succeeds => ((opens {} _).1 succeeds).2 ⟨1, reopened⟩
  · exact (ended 0 _).2.2 ⟨1, Nat.one_ne_zero, reopened⟩
  · -- No other session than the second one has the device, so none is left to hold it.
    intro still
    obtain ⟨other, differs, held⟩ := (ended 1 _).2.1 still
    exact differs (alone _ _ _ held reopened)

end Pool

end Runbook.Device.Replay
