import Runbook.Device.Replay

/-! Scripts made from what a device answered.

All answers to one command stand in one queue, whatever was sent between them. A script foretells answers
when each command that is still to come has just its answers in its queue.
-/

set_option autoImplicit false

namespace Runbook.Device

/-- Whether a script can give this reply: an output, or a fault on the way. -/
def Reply.isPlain : Reply → Bool
  | .ok _ | .error (.transport _) => true
  | .error _ => false

/-- What a recording keeps of a reply: never how long it took. -/
def Response.ofReply : Reply → Response
  | .ok output => { output := output.text, exitCode := output.exitCode }
  | .error (.transport message) => { error := some message }
  | .error error => { error := some error.message }

theorem Response.reply_ofReply {reply : Reply} (plain : reply.isPlain = true) :
    (ofReply reply).reply = reply := by
  cases reply with
  | ok output => rfl
  | error error =>
    cases error with
    | transport message => rfl
    | timeout millis => cases plain
    | closed => cases plain
    | unavailable message => cases plain

theorem Response.delayMillis_ofReply (reply : Reply) : (ofReply reply).delayMillis = none := by
  unfold ofReply
  split <;> rfl

def responsesTo (command : String) (answers : List (String × Reply)) : List Response :=
  answers.filterMap fun answer => if answer.1 = command then some (.ofReply answer.2) else none

theorem responsesTo_cons (command : String) (answer : String × Reply) (rest : List (String × Reply)) :
    responsesTo command (answer :: rest) =
      if answer.1 = command then .ofReply answer.2 :: responsesTo command rest
      else responsesTo command rest := by
  by_cases same : answer.1 = command <;> simp [responsesTo, same]

namespace Script

def recorded (answers : List (String × Reply)) : Script :=
  answers.foldl (fun script answer => script.on answer.1 (.ofReply answer.2)) .empty

def onAll (script : Script) (recordings : List (String × Response)) : Script :=
  recordings.foldl (fun script recording => script.on recording.1 recording.2) script

theorem get?_on (script : Script) (command other : String) (response : Response) :
    (script.on command response).queues.get? other =
      if other = command then some ((script.queues.get? command).getD [] ++ [response])
      else script.queues.get? other :=
  Table.get?_insert script.queues command other _

theorem get?_onAll (recordings : List (String × Response)) (script : Script) (command : String) :
    (script.onAll recordings).queues.get? command =
      if Table.valuesOf command recordings = [] then script.queues.get? command
      else some ((script.queues.get? command).getD [] ++ Table.valuesOf command recordings) := by
  induction recordings generalizing script with
  | nil => rfl
  | cons recording rest ih =>
    refine (ih _).trans ?_
    rw [get?_on, Table.valuesOf_cons]
    by_cases same : recording.1 = command
    · subst same
      by_cases last : Table.valuesOf recording.1 rest = []
      · simp [last]
      · simp [last]
    · simp [same, Ne.symm same]

theorem onAll_fallback (recordings : List (String × Response)) (script : Script) :
    (script.onAll recordings).fallback = script.fallback := by
  induction recordings generalizing script with
  | nil => rfl
  | cons recording rest ih => exact ih _

theorem get?_recorded (answers : List (String × Reply)) (command : String) :
    (recorded answers).queues.get? command =
      if responsesTo command answers = [] then none else some (responsesTo command answers) := by
  have same : recorded answers =
      empty.onAll (answers.map fun answer => (answer.1, .ofReply answer.2)) := by
    rw [recorded, onAll, List.foldl_map]
  have own : Table.valuesOf command (answers.map fun answer => (answer.1, .ofReply answer.2)) =
      responsesTo command answers :=
    List.filterMap_map
  rw [same, get?_onAll, own]
  rfl

/-- Whatever is still to come stands in the queues. Used up, a queue may hold anything. -/
def Foretells (script : Script) (answers : List (String × Reply)) : Prop :=
  ∀ command, responsesTo command answers ≠ [] →
    script.queues.get? command = some (responsesTo command answers)

theorem foretells_recorded (answers : List (String × Reply)) : (recorded answers).Foretells answers := by
  intro command more
  rw [get?_recorded, if_neg more]

theorem Foretells.next {script : Script} {command : String} {reply : Reply} {rest : List (String × Reply)}
    (foretells : script.Foretells ((command, reply) :: rest)) :
    (script.next command).1 = some (.ofReply reply) ∧
      (script.next command).2.Foretells rest := by
  have own : responsesTo command ((command, reply) :: rest) =
      .ofReply reply :: responsesTo command rest := by
    rw [responsesTo_cons, if_pos rfl]
  have others {other : String} (differ : other ≠ command) :
      responsesTo other ((command, reply) :: rest) = responsesTo other rest := by
    rw [responsesTo_cons, if_neg differ.symm]
  have queue := foretells command (by rw [own]; exact List.cons_ne_nil _ _)
  rw [own] at queue
  unfold Script.next
  rw [queue]
  cases left : responsesTo command rest with
  | nil =>
    -- The last answer stays in its queue, but nobody asks for it again.
    refine ⟨rfl, fun other more => ?_⟩
    have differ : other ≠ command := by
      rintro rfl
      exact more left
    rw [← others differ]
    exact foretells other (others differ ▸ more)
  | cons second more =>
    refine ⟨rfl, fun other more => ?_⟩
    rw [Table.get?_insert]
    by_cases same : other = command
    · subst same
      rw [if_pos rfl, left]
    · rw [if_neg same, ← others same]
      exact foretells other (others same ▸ more)

end Script

namespace Replay

/-- An open session whose script foretells these answers. -/
structure Session.Foretells (session : Session) (answers : List (String × Reply)) : Prop where
  isOpen : session.closed = false
  script : session.script.Foretells answers

theorem Session.Foretells.send {session : Session} {command : String} {reply : Reply}
    {rest : List (String × Reply)} (foretells : session.Foretells ((command, reply) :: rest))
    (plain : reply.isPlain = true) (provider : Provider) (timeout : UInt64) :
    ∃ answer next after, provider.send session command = (answer, next, after) ∧
      (answer.within timeout).reply = reply ∧ next.Foretells rest ∧ next.device = session.device ∧
      after.transcript = provider.transcript ++ [⟨session.device, command⟩] := by
  obtain ⟨response, later⟩ := foretells.script.next
  obtain ⟨script, used⟩ : ∃ script, (session.script.next command).2 = script := ⟨_, rfl⟩
  have answered : session.script.next command = (some (.ofReply reply), script) :=
    Prod.ext response used
  rw [used] at later
  refine ⟨⟨reply, 0⟩, { session with script },
    { provider with transcript := provider.transcript ++ [⟨session.device, command⟩] }, ?_, ?_,
    ⟨foretells.isOpen, later⟩, rfl, rfl⟩
  · simp only [Provider.send, foretells.isOpen, answered, Bool.false_eq_true, if_false,
      Response.reply_ofReply plain, Response.delayMillis_ofReply, Option.getD_none]
  · have patient : ¬timeout < 0 := Nat.not_lt_zero _
    rw [Answer.within, if_neg patient]

end Replay

end Runbook.Device
