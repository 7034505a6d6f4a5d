import Runbook.Proofs.Device.Pool

/-! In which order the responses of a script come.

A script gives up the front of a queue with each sending, but never its last response. So what is left
of a queue tells how often its command was sent, and the response to the next sending follows from that
number alone, whatever else was sent in between, through this session or another.
-/

set_option autoImplicit false

namespace Runbook.Device

namespace Script

/-- The response to a command that is sent for the time of this number, counted from 1: the last of its
responses repeats. -/
def response? (script : Script) (command : String) (number : Nat) : Option Response :=
  match script.queues.get? command with
  | none => script.fallback
  | some responses => responses[min number responses.length - 1]?

def after (script : Script) (commands : List String) : Script :=
  commands.foldl (fun script command => (script.next command).2) script

def unspent (count : Nat) (queue : List Response) : List Response :=
  queue.drop (min count (queue.length - 1))

@[simp] theorem unspent_zero (queue : List Response) : unspent 0 queue = queue := by
  rw [unspent, Nat.zero_min, List.drop_zero]

theorem unspent_unspent (count more : Nat) (queue : List Response) :
    unspent more (unspent count queue) = unspent (count + more) queue := by
  have bound : min count (queue.length - 1) + min more (queue.length - min count (queue.length - 1) - 1) =
      min (count + more) (queue.length - 1) := by
    omega
  rw [unspent, unspent, List.length_drop, List.drop_drop, bound, unspent]

theorem head?_unspent (count : Nat) (queue : List Response) :
    (unspent count queue).head? = queue[min (count + 1) queue.length - 1]? := by
  have place : min count (queue.length - 1) = min (count + 1) queue.length - 1 := by omega
  rw [unspent, List.head?_drop, place]

section
variable (script : Script) (command : String)

theorem next_response :
    (script.next command).1 =
      match script.queues.get? command with
      | none => script.fallback
      | some queue => queue.head? := by
  unfold next
  split <;> rename_i found <;> rw [found] <;> rfl

@[simp] theorem next_fallback : (script.next command).2.fallback = script.fallback := by
  unfold next
  split <;> rfl

theorem get?_next (other : String) :
    (script.next command).2.queues.get? other =
      (script.queues.get? other).map (unspent (if other = command then 1 else 0)) := by
  by_cases same : other = command
  · subst same
    rw [if_pos rfl]
    cases found : script.queues.get? other with
    | none => simp only [next, found, Option.map_none]
    | some queue =>
      cases queue with
      | nil => simp only [next, found, Option.map_some, unspent, List.drop_nil]
      | cons first rest =>
        cases rest with
        | nil => simp only [next, found, Option.map_some]; rfl
        | cons second rest =>
          simp only [next, found, Option.map_some, Table.get?_insert, if_true]
          rfl
  · have kept : (script.next command).2.queues.get? other = script.queues.get? other := by
      unfold next
      split
      · rfl
      · rfl
      · rfl
      · rw [Table.get?_insert, if_neg same]
    rw [kept, if_neg same]
    cases script.queues.get? other with
    | none => rfl
    | some queue => rw [Option.map_some, unspent_zero]

end

theorem after_fallback (script : Script) (commands : List String) :
    (script.after commands).fallback = script.fallback := by
  induction commands generalizing script with
  | nil => rfl
  | cons command rest ih => exact (ih _).trans (script.next_fallback command)

/-- What is left of a queue depends on how often its own command was sent, and on nothing else. -/
theorem get?_after (script : Script) (commands : List String) (command : String) :
    (script.after commands).queues.get? command =
      (script.queues.get? command).map (unspent (commands.count command)) := by
  induction commands generalizing script with
  | nil =>
    cases found : script.queues.get? command with
    | none => exact found
    | some queue => exact found.trans (congrArg some (unspent_zero queue).symm)
  | cons other rest ih =>
    -- The first command takes its response, the others take theirs from what that leaves.
    refine (ih _).trans ?_
    rw [get?_next, Option.map_map, List.count_cons]
    cases script.queues.get? command with
    | none => rfl
    | some queue =>
      refine congrArg some ((unspent_unspent _ _ queue).trans (congrArg (unspent · queue) ?_))
      by_cases same : command = other
      · subst same
        rw [if_pos rfl, beq_self_eq_true, if_pos rfl, Nat.add_comm]
      · have differ : ¬(other == command) = true := fun equal => same (eq_of_beq equal).symm
        rw [if_neg same, if_neg differ, Nat.zero_add, Nat.add_zero]

theorem next_after (script : Script) (commands : List String) (command : String) :
    ((script.after commands).next command).1 =
      script.response? command (commands.count command + 1) := by
  rw [next_response, get?_after, after_fallback, response?]
  cases script.queues.get? command with
  | none => rfl
  | some queue => exact head?_unspent (commands.count command) queue

end Script

namespace Replay

def Answer.of (response : Response) : Answer :=
  ⟨response.reply, response.delayMillis.getD 0⟩

def Answer.to (command : String) : Option Response → Answer
  | none => ⟨.error (.transport s!"no recorded response for '{command}'"), 0⟩
  | some response => .of response

namespace Session

variable {session : Session}

theorem hear_of_open (isOpen : session.closed = false) (command : String) :
    session.hear command = (.to command (session.script.next command).1,
      { session with script := (session.script.next command).2 }) := by
  simp only [hear, Provider.send, isOpen, Bool.false_eq_true, if_false]
  cases response : session.script.next command with
  | mk found script => cases found <;> rfl

def after (session : Session) (commands : List String) : Session :=
  commands.foldl (fun session command => (session.hear command).2) session

theorem after_concat (session : Session) (commands : List String) (command : String) :
    session.after (commands ++ [command]) = ((session.after commands).hear command).2 :=
  List.foldl_concat _ _ _ _

theorem after_of_open (isOpen : session.closed = false) (commands : List String) :
    session.after commands = { session with script := session.script.after commands } := by
  induction commands generalizing session with
  | nil => rfl
  | cons command rest ih =>
    have heard : (session.hear command).2 =
        { session with script := (session.script.next command).2 } := by
      rw [hear_of_open isOpen]
    show (session.hear command).2.after rest = _
    rw [ih (by rw [hear_closed, isOpen]), heard]
    rfl

theorem answer_after (isOpen : session.closed = false) (commands : List String) (command : String) :
    ((session.after commands).hear command).1 =
      .to command (session.script.response? command (commands.count command + 1)) := by
  obtain ⟨left, same⟩ : ∃ left : Session,
      left = { session with script := session.script.after commands } := ⟨_, rfl⟩
  have leftOpen : left.closed = false := same ▸ isOpen
  rw [after_of_open isOpen, ← same, hear_of_open leftOpen, same, Script.next_after]

end Session

namespace Pool

def Operation.sentThrough? (place : Nat) : Operation → Option String
  | .run other command => if other = place then some command else none
  | _ => none

def sentThrough (place : Nat) (operations : List Operation) : List String :=
  operations.filterMap (Operation.sentThrough? place)

/-- A session is in its place, or has left it empty. As long as it is open, it is as it was but for the
commands that it was sent. -/
structure Follows (pool : Pool) (place : Nat) (session : Session) (sent : List String) : Prop where
  inside : place < pool.sessions.length
  isOpen (now : Session) : pool.session? place = some now → now.closed = false →
    session.closed = false ∧ now = session.after sent

section
variable {pool : Pool} {place : Nat} {session : Session} {sent : List String}

theorem Follows.open_ (follows : pool.Follows place session sent) (setup : Provider)
    (device : DeviceId) : (pool.open_ setup device).2.Follows place session sent := by
  cases opened : (pool.open_ setup device).1 with
  | error error =>
    rw [open_of_error opened]
    exact follows
  | ok =>
    refine ⟨Nat.lt_of_lt_of_le follows.inside (length_le_apply pool (.open_ setup device)), ?_⟩
    intro now present
    rw [session?_open opened, if_neg (Nat.ne_of_lt follows.inside)] at present
    exact follows.isOpen now present

theorem Follows.run (follows : pool.Follows place session sent) (other : Nat) (command : String) :
    (pool.run other command).2.Follows place session
      (sent ++ (Operation.sentThrough? place (.run other command)).toList) := by
  refine ⟨Nat.lt_of_lt_of_le follows.inside (length_le_apply pool (.run other command)), ?_⟩
  intro now found isOpen
  rw [session?_run] at found
  by_cases same : place = other
  · subst same
    rw [if_pos rfl, Option.map_eq_some_iff] at found
    obtain ⟨own, present, rfl⟩ := found
    rw [Session.hear_closed] at isOpen
    obtain ⟨began, rfl⟩ := follows.isOpen own present isOpen
    refine ⟨began, ?_⟩
    rw [Operation.sentThrough?, if_pos rfl, Option.toList_some, Session.after_concat]
  · rw [if_neg same] at found
    have silent : Operation.sentThrough? place (.run other command) = none := if_neg (Ne.symm same)
    rw [silent, Option.toList_none, List.append_nil]
    exact follows.isOpen now found isOpen

theorem Follows.release (follows : pool.Follows place session sent) (other : Nat)
    (left : Session → Option Session)
    (ends : ∀ session : Session, ∀ after ∈ left { session with closed := true }, after.closed = true) :
    (pool.release other left).Follows place session sent := by
  refine ⟨(length_release pool other left).symm ▸ follows.inside, fun now found isOpen => ?_⟩
  rw [session?_release] at found
  by_cases same : place = other
  · rw [if_pos same, Option.bind_eq_some_iff] at found
    obtain ⟨own, -, remains⟩ := found
    cases isOpen.symm.trans (ends own now remains)
  · rw [if_neg same] at found
    exact follows.isOpen now found isOpen

theorem Follows.apply (follows : pool.Follows place session sent) (operation : Operation) :
    (operation.apply pool).Follows place session
      (sent ++ (operation.sentThrough? place).toList) := by
  cases operation with
  | open_ setup device =>
    have kept := follows.open_ setup device
    rwa [← List.append_nil sent] at kept
  | run other command => exact follows.run other command
  | close other =>
    have kept := follows.release other some fun session after same => by cases same; rfl
    rwa [← List.append_nil sent] at kept
  | drop other =>
    have kept := follows.release other (fun _ => none) fun session after same => by cases same
    rwa [← List.append_nil sent] at kept

theorem Follows.applyAll (follows : pool.Follows place session sent) (operations : List Operation) :
    (operations.foldl Operation.apply pool).Follows place session
      (sent ++ sentThrough place operations) := by
  induction operations generalizing pool sent with
  | nil => rwa [sentThrough, List.filterMap_nil, List.append_nil]
  | cons operation rest ih =>
    have later := ih (follows.apply operation)
    rw [List.append_assoc] at later
    have split : (operation.sentThrough? place).toList ++ sentThrough place rest =
        sentThrough place (operation :: rest) := by
      rw [sentThrough, sentThrough, List.filterMap_cons]
      cases operation.sentThrough? place <;> rfl
    rwa [split] at later

theorem follows_open {setup : Provider} {device : DeviceId}
    (opened : (pool.open_ setup device).1 = .ok ()) :
    (pool.open_ setup device).2.Follows pool.sessions.length (setup.fresh device) [] := by
  have fresh := session?_open opened pool.sessions.length
  rw [if_pos rfl] at fresh
  refine ⟨inside_of_session fresh, fun now present _ => ?_⟩
  cases fresh.symm.trans present
  exact ⟨rfl, rfl⟩

theorem Follows.answer {command : String} (follows : pool.Follows place session sent)
    {device : DeviceId} (holds : pool.Holds place device) :
    (pool.run place command).1 =
      some (.to command (session.script.response? command (sent.count command + 1))) := by
  obtain ⟨now, present, isOpen, -⟩ := holds
  obtain ⟨began, rfl⟩ := follows.isOpen now present isOpen
  rw [run_eq present, ← Session.answer_after began]

end

/-- Whatever else was done with sessions since one was opened: as long as it is open, a command is
answered from the response whose number is that of its sendings through this session, from the last one
when there are no more, and from the default when the script has no entry for it. Who stops waiting for
an answer has used up its response all the same, for that is taken when the command is sent. -/
theorem responses_in_order (earlier operations : List Operation) (setup : Provider) (device : DeviceId)
    (opened : ((after earlier).open_ setup device).1 = .ok ()) :
    let place := (after earlier).sessions.length
    let pool := after (earlier ++ .open_ setup device :: operations)
    let script := setup.scriptFor device
    pool.Holds place device → ∀ (command : String) (patience : UInt64),
      let number := (sentThrough place operations).count command + 1
      let heard := (pool.run place command).1.map (·.within patience)
      (∀ responses, script.queues.get? command = some responses → responses ≠ [] →
        ∃ response, responses[min number responses.length - 1]? = some response ∧
          heard = some ((Answer.of response).within patience)) ∧
      (script.queues.get? command = none → ∀ response, script.fallback = some response →
        heard = some ((Answer.of response).within patience)) ∧
      (script.queues.get? command = none → script.fallback = none →
        heard = some ⟨.error (.transport s!"no recorded response for '{command}'"), 0⟩) := by
  intro place pool script holds command patience number heard
  have follows : pool.Follows place (setup.fresh device) (sentThrough place operations) := by
    have joined : pool =
        operations.foldl Operation.apply ((after earlier).open_ setup device).2 :=
      List.foldl_append
    rw [joined]
    exact (follows_open opened).applyAll operations
  have answered : heard =
      some ((Answer.to command (script.response? command number)).within patience) :=
    congrArg (Option.map (·.within patience)) (follows.answer holds)
  refine ⟨fun responses listed some => ?_, fun absent response default => ?_, fun absent none => ?_⟩
  · have bound : min number responses.length - 1 < responses.length := by
      have := List.length_pos_iff.2 some
      omega
    refine ⟨responses[min number responses.length - 1], List.getElem?_eq_getElem bound, ?_⟩
    simp only [answered, Script.response?, listed, List.getElem?_eq_getElem bound, Answer.to]
  · rw [answered, Script.response?, absent, default]
    rfl
  · rw [answered, Script.response?, absent, none]
    exact congrArg Option.some (if_neg (Nat.not_lt_zero _))

/-- The first response came too late for its caller, and another session has had its own. -/
theorem responses_in_order_after_timeout :
    let script := (Script.empty.on "show" { output := "down", delayMillis := some 9 }).on "show"
      { output := "up" }
    let setup : Provider := { script }
    let earlier : List Operation := [.open_ setup ⟨"edge"⟩]
    let opened := after (earlier ++ [.open_ setup ⟨"core"⟩])
    let pool := after (earlier ++ .open_ setup ⟨"core"⟩ :: [.run 1 "show", .run 0 "show", .run 1 "ping"])
    ((after earlier).open_ setup ⟨"core"⟩).1 = .ok () ∧ pool.Holds 1 ⟨"core"⟩ ∧
      (opened.run 1 "show").1.map (·.within 5) = some ⟨.error (.timeout 5), 5⟩ ∧
      (pool.run 1 "show").1.map (·.within 5) = some ⟨.ok ⟨"up", none⟩, 0⟩ := by
  intro script setup earlier opened pool
  have free : ((after earlier).open_ setup ⟨"core"⟩).1 = .ok () := by decide
  have holds : pool.Holds 1 ⟨"core"⟩ := ⟨_, rfl, rfl, rfl⟩
  obtain ⟨answered, -, -⟩ := responses_in_order earlier [.run 1 "show", .run 0 "show", .run 1 "ping"]
    setup ⟨"core"⟩ free holds "show" 5
  obtain ⟨response, second, heard⟩ := answered
    [{ output := "down", delayMillis := some 9 }, { output := "up" }] rfl (List.cons_ne_nil _ _)
  cases second
  exact ⟨free, holds, rfl, heard⟩

end Pool

end Replay

end Runbook.Device
