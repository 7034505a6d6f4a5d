import Runbook.Proofs.Execution.Performance
import Runbook.Proofs.Service.Tenancy
import Runbook.Proofs.Service.Undisturbed

/-! The runs of a service do not influence each other.

A run that has its session is answered by that session alone, and nothing else tells it anything that it
would not be told alone. So it goes the way that it goes when its request comes alone.
-/

set_option autoImplicit false

namespace Runbook

namespace Service

open Execution (Exchange Procedure Undisturbed Plays commandsOf)

/-! ### A request by itself -/

/-- What a request comes to that is carried out alone, and what passes meanwhile. -/
structure Alone (start : Service) (request : Request) (copy : Run) (dialogue : List Exchange) :
    Prop where
  returned : (start.execute request).1 = some (.ok copy)
  sentTo : (start.execute request).2.provider.sentTo request.deviceId = commandsOf dialogue
  calm : Undisturbed dialogue
  own : ∃ workflow twin session, Records start request workflow twin ∧
    (Execution.execute start.settings workflow twin).run.Gives dialogue (.ok copy) ∧
    Plays (start.provider.fresh request.deviceId) dialogue session

theorem length_calls_goOn (service : Service) (index number : Nat) :
    (service.after (List.replicate number (.goOn index))).calls.length = service.calls.length := by
  induction number generalizing service with
  | zero => rfl
  | succ number ih =>
    refine (ih (service.step index)).trans ?_
    rw [step, onCall]
    cases service.calls[index]? with
    | none => rfl
    | some call =>
      simp only [List.length_set]
      rw [(turn_stepCall service call).calls]

section
variable {start : Service} (fresh : start.Fresh) {request : Request} {workflow : Workflow}
include fresh

theorem Fresh.unrefused (valid : start.validate request = .ok workflow)
    (reachable : request.deviceId ∉ start.provider.unreachable) (error : Error) :
    ¬start.Refusal request error := by
  intro refusal
  cases refusal with
  | unknown unknown =>
    rw [validate_of_unknown unknown] at valid
    cases valid
  | invalid known fault =>
    rw [validate_of_known known, fault] at valid
    cases valid
  | unavailable _ unavailable =>
    have free : request.deviceId ∉ start.provider.openDevices := by
      rw [fresh.openDevices]
      exact List.not_mem_nil
    rw [Device.Replay.Provider.open_eq_ok_iff.2 ⟨reachable, free, rfl, rfl⟩] at unavailable
    cases unavailable
  | unrecorded _ _ failed =>
    have absent : start.store.runs.get? (start.newRun request).1.id = none := by
      rw [fresh.empty]
      rfl
    rw [Store.FaultyRuns.create_ok fresh.reliable absent] at failed
    cases failed

theorem sentTo_of_single (events : List Event) {call : Call}
    (alone : (start.history events).service.calls.length = 1)
    (found : (start.history events).service.calls[0]? = some call) :
    (start.history events).service.provider.sentTo call.request.deviceId =
      commandsOf ((start.history events).dialogue 0) := by
  obtain ⟨order, tenants⟩ := exists_tenants fresh.toIdle events call.request.deviceId
  have only {index : Nat} (member : index ∈ order) : index = 0 := by
    obtain ⟨_, at_, -⟩ := tenants.past index member
    have inside := (List.getElem?_eq_some_iff.1 at_).1
    omega
  rw [tenants.sentTo]
  rcases order with _ | ⟨first, _ | ⟨second, rest⟩⟩
  · exact (tenants.silent 0 List.not_mem_nil call found rfl).symm
  · rw [only List.mem_cons_self, List.flatMap_singleton]
  · have same : first = second :=
      (only List.mem_cons_self).trans (only (.tail _ List.mem_cons_self)).symm
    exact absurd (same ▸ List.mem_cons_self) (List.nodup_cons.1 tenants.nodup).1

theorem exists_history_of_alone (valid : start.validate request = .ok workflow)
    (reachable : request.deviceId ∉ start.provider.unreachable) :
    ∃ events call run result, (∀ event ∈ events, event.isPlain = true) ∧
      start.execute request = (some result, (start.history events).service) ∧
      (start.history events).service.calls.length = 1 ∧
      (start.history events).service.calls[0]? = some call ∧ call.request = request ∧
      call.phase.result? = some result ∧ (start.history events).run? 0 = some run := by
  obtain ⟨prepared, session, rest, preparing, -⟩ :=
    prepare_of_unrefused (fresh.unrefused valid reachable) start.calls
  obtain ⟨first, more, begun, ended⟩ := start.exists_history_of_execute request
  obtain ⟨result, returned⟩ := start.exists_result_of_execute request
  have empty : start.calls.length = 0 := congrArg List.length fresh.calls
  rw [empty] at begun ended preparing
  obtain ⟨earlier, goesOn⟩ : ∃ earlier : List Event,
      .accept request :: List.replicate first (.goOn 0) = earlier := ⟨_, rfl⟩
  rw [goesOn] at begun ended
  -- When it has been prepared the run is recorded, and so it stays.
  have driving : (start.history earlier).service.calls[0]? =
      some { request, phase := .drive (start.newRun request).1.id session rest } := by
    have last := @seat_last prepared start.calls
      { request, phase := .drive (start.newRun request).1.id session rest }
    rw [empty] at last
    rw [service_history, ← begun, accept_eq, preparing, last]
  obtain ⟨run, recorded, -⟩ := (biography fresh.toIdle earlier driving).active rfl
  obtain ⟨call, found, asked⟩ :=
    exists_call_append start earlier (List.replicate more (.goOn 0)) driving
  rw [← service_history] at ended
  refine ⟨_, call, run, result, ?_, Prod.ext returned ended, ?_, found, asked, ?_,
    run?_history_append fresh.toIdle earlier _ recorded⟩
  · rw [← goesOn]
    refine List.forall_mem_cons.2 ⟨rfl, List.forall_mem_append.2 ⟨?_, ?_⟩⟩ <;>
      exact fun event member => List.eq_of_mem_replicate member ▸ rfl
  · rw [service_history, after_append, length_calls_goOn, ← goesOn]
    refine (length_calls_goOn (start.accept request).2 _ _).trans ?_
    rw [accept_eq, seat, List.length_append, empty]
    rfl
  · have answer := returned
    rw [fst_execute, ended, resultOf?, empty, found] at answer
    exact answer

theorem exists_alone (valid : start.validate request = .ok workflow)
    (reachable : request.deviceId ∉ start.provider.unreachable) :
    ∃ copy dialogue, Alone start request copy dialogue := by
  obtain ⟨events, call, run, result, plain, executed, single, found, rfl, finished, recorded⟩ :=
    exists_history_of_alone fresh valid reachable
  have life := biography fresh.toIdle events found
  rw [recorded] at life
  obtain ⟨workflow, session, records, given, plays⟩ := life.of_result finished
  have pending : run.status = .pending := by
    obtain ⟨id, createdAt, rfl⟩ := records.new
    rfl
  obtain ⟨copy, rfl⟩ :=
    Execution.exists_ok_of_quiet pending ((kept_of_plain events plain fresh).quiet 0) given
  refine ⟨copy, _, congrArg Prod.fst executed, ?_, undisturbed events plain fresh 0,
    workflow, run, session, records, given, plays⟩
  rw [executed]
  exact sentTo_of_single fresh events single found

end

section
variable {start : Service} {request : Request} {workflow : Workflow} {copy run : Run}
  {dialogue said : List Exchange} {session : Device.Replay.Session}

theorem Alone.inStep {result : Except Error Run} (alone : Alone start request copy dialogue)
    (records : Records start request workflow run)
    (given : (Execution.execute start.settings workflow run).run.Gives said result)
    (calm : Undisturbed said) (plays : Plays (start.provider.fresh request.deviceId) said session) :
    (∃ after, result = .ok after ∧ after.outline = copy.outline) ∧
      commandsOf said = commandsOf dialogue ∧ said.length = dialogue.length := by
  obtain ⟨twinWorkflow, twin, used, twinRecords, twinGiven, twinPlays⟩ := alone.own
  cases records.valid.symm.trans twinRecords.valid
  have same : run.outline = twin.outline := by
    obtain ⟨id, createdAt, rfl⟩ := records.new
    obtain ⟨twinId, twinCreatedAt, rfl⟩ := twinRecords.new
    rfl
  obtain ⟨related, commands, length⟩ := (Execution.alike_execute start.settings workflow same).inStep
    given twinGiven calm alone.calm plays twinPlays
  refine ⟨?_, commands, length⟩
  cases result with
  | error error => cases related
  | ok after => exact ⟨after, rfl, Except.ok.inj related⟩

/-- A run that has got somewhere has said the beginning of what it says alone, and less than that as long
as it has something to ask. -/
theorem Alone.begins {rest : Procedure (Except Error Run)} (alone : Alone start request copy dialogue)
    (records : Records start request workflow run)
    (reaches : (Execution.execute start.settings workflow run).run.Reaches said rest)
    (calm : Undisturbed said) (plays : Plays (start.provider.fresh request.deviceId) said session) :
    commandsOf said <+: commandsOf dialogue ∧
      (rest.isDone = false → said.length < dialogue.length) := by
  obtain ⟨later, result, after, given, calmRest, goesOn⟩ := Execution.exists_played rest session
  obtain ⟨-, commands, length⟩ := alone.inStep records (reaches later result given)
    (List.forall_mem_append.2 ⟨calm, calmRest⟩) (plays.append goesOn)
  rw [Execution.commandsOf_append] at commands
  rw [List.length_append] at length
  refine ⟨⟨_, commands⟩, fun open_ => ?_⟩
  cases given with
  | done => cases open_
  | _ =>
    rw [List.length_cons] at length
    omega

end

/-! ### How long a run can take -/

/-- How many turns a call has still to take that has its session, where so many exchanges are left. -/
def Phase.turnsLeft (exchanges : Nat) : Phase → Nat
  | .create _ _ => exchanges + 5
  | .register _ _ _ => exchanges + 4
  | .drive _ _ _ => exchanges + 3
  | .close _ _ _ => 2
  | .unregister _ _ => 1
  | _ => 0

section
variable {start service after : Service} {call next : Call} {run? recorded : Option Run}
  {exchange : Option Exchange} {said dialogue : List Exchange} {copy : Run}

theorem Turn.turnsLeft (turn : Turn service call recorded exchange next after)
    (life : Biography start call.request run? call.phase said) (seated : Seated run? call.phase)
    (records : ∀ workflow session, call.phase = .create workflow session →
      ∃ run, next.phase = .register workflow run session)
    (calm : Undisturbed said) (alone : Alone start call.request copy dialogue) :
    next.phase.turnsLeft (dialogue.length - (said ++ exchange.toList).length) ≤
      call.phase.turnsLeft (dialogue.length - said.length) - 1 := by
  have short {run : RunId} {session : Device.Replay.Session} {rest : Procedure (Except Error Run)}
      (driving : call.phase = .drive run session rest) (open_ : rest.isDone = false) :
      said.length < dialogue.length := by
    rw [driving] at life
    cases life with
    | inProgress own reaches plays => exact (alone.begins own reaches calm plays).2 open_
  have one {exchange : Exchange} : (said ++ [exchange]).length = said.length + 1 :=
    List.length_append
  obtain ⟨request, phase, due⟩ := call
  simp only at life seated records short ⊢
  cases turn with
  | rejected at_ | checked at_ | refused at_ | opened at_ | discarded at_ =>
    -- The call has no session yet, or none any more.
    cases at_
    rcases seated with ⟨_, _, creating⟩ | own
    · cases creating
    · cases life
      cases own
  | unrecorded at_ =>
    obtain ⟨run, registering⟩ := records _ _ at_
    cases registering
  | sent at_ | polled at_ | read at_ | stored at_ | announced at_ =>
    have less := short at_ rfl
    cases at_
    simp only [Phase.turnsLeft, Option.toList_some, one]
    omega
  | recorded at_ | registered at_ | returned at_ | closed at_ | unregistered at_ | idle at_ =>
    cases at_
    simp only [Phase.turnsLeft, Option.toList_none, List.append_nil]
    omega

end

section
variable {start : Service} {request : Request} {run? : Option Run} {phase : Phase}
  {said dialogue : List Exchange} {copy : Run}

theorem Biography.begins (life : Biography start request run? phase said)
    (alone : Alone start request copy dialogue) (calm : Undisturbed said) :
    commandsOf said <+: commandsOf dialogue := by
  cases life with
  | inProgress records reaches plays => exact (alone.begins records reaches calm plays).1
  | closing records given plays | leaving records given plays | ended records given plays =>
    exact (alone.begins records given.reaches calm plays).1
  | _ => exact List.nil_prefix

theorem Biography.isSome_result? {exchanges : Nat} (life : Biography start request run? phase said)
    (seated : Seated run? phase) (done : phase.turnsLeft exchanges = 0) :
    phase.result?.isSome = true := by
  cases life with
  | refused | ended => rfl
  | opened | recorded | inProgress | closing | leaving => cases done
  | arrived | checked | discarding =>
    rcases seated with ⟨_, _, creating⟩ | own
    · cases creating
    · cases own

end

section
variable {start : Service} (fresh : start.Fresh) {earlier : List Event} {index : Nat} {call : Call}
  {session : Device.Replay.Session}
  (found : (start.history earlier).service.calls[index]? = some call)
  (obtained : call.phase.session? = some session)
include fresh found obtained

theorem turnsLeft_history {copy : Run} {dialogue : List Exchange}
    (alone : Alone start call.request copy dialogue) (later : List Event)
    (plain : ∀ event ∈ earlier ++ later, event.isPlain = true)
    (distinct : DistinctIds (start.history (earlier ++ later)).service) {next : Call}
    (at_ : (start.history (earlier ++ later)).service.calls[index]? = some next) :
    next.phase.turnsLeft
        (dialogue.length - ((start.history (earlier ++ later)).dialogue index).length) ≤
      dialogue.length + 5 - later.countP (Event.isTurnOf index) := by
  -- On the events from the last one: a turn of the call itself lowers what is left, and no other event
  -- touches it.
  induction later using List.reverseRecOn generalizing next with
  | nil =>
    have most (exchanges : Nat) (phase : Phase) : phase.turnsLeft exchanges ≤ exchanges + 5 := by
      cases phase <;> simp only [Phase.turnsLeft] <;> omega
    exact (most _ next.phase).trans (Nat.add_le_add_right (Nat.sub_le _ _) 5)
  | append_singleton later event ih =>
    rw [← List.append_assoc] at plain distinct at_ ⊢
    obtain ⟨before, -⟩ := List.forall_mem_append.1 plain
    obtain ⟨former, there, asked⟩ := exists_call_append start earlier later found
    have passes := passes_history start (earlier ++ later) event
    have concerns := passes.concerns there
    have distinctBefore := distinct.of_le passes.readings
    have bound := ih before distinctBefore there
    have seated := seated fresh earlier later before distinctBefore found obtained there
    have recorded := @recorded_of_create start (earlier ++ later) before fresh
    have calm := undisturbed (earlier ++ later) before fresh index
    have life := biography fresh.toIdle (earlier ++ later) there
    rw [List.countP_append, List.countP_singleton]
    generalize start.history (earlier ++ later ++ [event]) = following at concerns distinct at_ ⊢
    cases concerns with
    | goesOn turn =>
      rw [History.getElem?_turned_self there turn] at at_
      cases at_
      have fewer := turn.turnsLeft life seated
        (fun workflow session creating =>
          (recorded turn creating distinct).imp fun _ created => created.2)
        calm (asked ▸ alone)
      have mine : Event.isTurnOf index (.goOn index) = true := beq_self_eq_true index
      rw [History.dialogue_turned_self, if_pos mine]
      omega
    | stays other same _ silent =>
      cases same.symm.trans at_
      rw [silent, other]
      exact bound

omit found obtained in
theorem infix_sentTo (events : List Event) {next : Call}
    (at_ : (start.history events).service.calls[index]? = some next) :
    commandsOf ((start.history events).dialogue index) <:+:
      (start.history events).service.provider.sentTo next.request.deviceId := by
  obtain ⟨order, tenants⟩ := exists_tenants fresh.toIdle events next.request.deviceId
  by_cases member : index ∈ order
  · obtain ⟨before, after, rfl⟩ := List.append_of_mem member
    rw [tenants.sentTo, List.flatMap_append, List.flatMap_cons, ← List.append_assoc]
    exact List.infix_append _ _ _
  · rw [tenants.silent index member next at_ rfl]
    exact List.nil_infix

/-- However the calls of a service interleave, and whichever come before or after: a call that has once
got a session for its run is never disturbed by another. What it sends to its device, in one piece, begins
as what the run sends that is carried out alone on the service as it was set up. When it comes to a
result, that is a record which differs from the lonely one in nothing but identifiers and times, the store
holds it, and the commands are the same. And it comes to a result, once it has gone on often enough. -/
theorem runs_isolated : ∃ copy turns, (start.execute call.request).1 = some (.ok copy) ∧
    ∀ later : List Event, (∀ event ∈ earlier ++ later, event.isPlain = true) →
      DistinctIds (start.history (earlier ++ later)).service →
      let history := start.history (earlier ++ later)
      let sentAlone := (start.execute call.request).2.provider.sentTo call.request.deviceId
      ∃ next, history.service.calls[index]? = some next ∧ next.request = call.request ∧
        commandsOf (history.dialogue index) <:+:
          history.service.provider.sentTo call.request.deviceId ∧
        commandsOf (history.dialogue index) <+: sentAlone ∧
        (∀ result, next.phase.result? = some result → ∃ run, result = .ok run ∧
          run.outline = copy.outline ∧ history.service.getRun run.id = some run ∧
          commandsOf (history.dialogue index) = sentAlone) ∧
        (turns ≤ later.countP (Event.isTurnOf index) → next.phase.result?.isSome = true) := by
  obtain ⟨workflow, valid, reachable⟩ := (biography fresh.toIdle earlier found).accepted obtained
  obtain ⟨copy, dialogue, alone⟩ := exists_alone fresh valid reachable
  refine ⟨copy, dialogue.length + 5, alone.returned, fun later plain distinct => ?_⟩
  intro history sentAlone
  obtain ⟨next, at_, asked⟩ := exists_call_append start earlier later found
  have seated := seated fresh earlier later plain distinct found obtained at_
  have calm := undisturbed (earlier ++ later) plain fresh index
  have kept := kept_of_plain (earlier ++ later) plain fresh
  have life := biography fresh.toIdle (earlier ++ later) at_
  have bound := turnsLeft_history fresh found obtained alone later plain distinct at_
  have sent : sentAlone = commandsOf dialogue := alone.sentTo
  rw [asked] at life
  have piece := infix_sentTo fresh (earlier ++ later) at_
  rw [asked] at piece
  refine ⟨next, at_, asked, piece, ?_, fun result finished => ?_, fun enough => ?_⟩
  · rw [sent]
    exact life.begins alone calm
  · rcases seated with ⟨_, _, creating⟩ | own
    · rw [creating] at finished
      cases finished
    · -- With a result the whole life of the call is known, and the lonely run is in step with it.
      obtain ⟨run, recorded⟩ := Option.isSome_iff_exists.1 own
      rw [recorded] at life
      obtain ⟨workflow, used, records, given, plays⟩ := life.of_result finished
      obtain ⟨⟨after, rfl, outline⟩, commands, -⟩ := alone.inStep records given calm plays
      have course := Execution.course given
      have fresh : run.status = .pending ∧ run.steps = [] := by
        obtain ⟨id, createdAt, rfl⟩ := records.new
        exact ⟨rfl, rfl⟩
      have same : after.id = run.id :=
        congrArg Run.Origin.id (course.proceeds fresh.1 fresh.2).origin
      have stored := kept.stored recorded trivial
      rw [course.latest fresh.1 fresh.2, ← same] at stored
      exact ⟨after, rfl, outline, stored, commands.trans sent.symm⟩
  · rw [Nat.sub_eq_zero_of_le enough, Nat.le_zero] at bound
    exact life.isSome_result? seated bound

end

/-! Two requests for two devices, and one for a device that is taken; they take turns. -/

def seatedCore : List Event :=
  .accept probeCore :: List.replicate 2 (.goOn 0)

def inTurn : List Event :=
  [.accept { probeCore with deviceId := ⟨"edge"⟩ }, .accept probeCore] ++
    (List.replicate 32 [.goOn 1, .goOn 2, .goOn 0]).flatten

theorem runs_isolated_in_turn :
    ∃ copy run, (probing.execute probeCore).1 = some (.ok copy) ∧
      (probing.history (seatedCore ++ inTurn)).service.resultOf? 0 = some (.ok run) ∧
      run.outline = copy.outline ∧
      (probing.history (seatedCore ++ inTurn)).service.getRun run.id = some run ∧
      (probing.history (seatedCore ++ inTurn)).service.provider.sentTo ⟨"core"⟩ = ["show", "check"] := by
  have fresh : probing.Fresh := ⟨⟨rfl, rfl, rfl, rfl⟩, rfl, rfl⟩
  obtain ⟨call, session, found, obtained, asked⟩ : ∃ call session,
      (probing.history seatedCore).service.calls[0]? = some call ∧
        call.phase.session? = some session ∧ call.request = probeCore := ⟨_, _, rfl, rfl, rfl⟩
  have plain : ∀ event ∈ seatedCore ++ inTurn, event.isPlain = true := by
    refine List.all_eq_true.1 ?_
    decide +kernel
  have few : (probing.history (seatedCore ++ inTurn)).service.readings ≤ 16 ^ 32 := by
    decide +kernel
  have finished :
      ((probing.history (seatedCore ++ inTurn)).service.resultOf? 0).isSome = true := by
    decide +kernel
  obtain ⟨copy, turns, returned, isolated⟩ := runs_isolated fresh found obtained
  obtain ⟨next, at_, -, -, -, comes, -⟩ := isolated inTurn plain (distinctIds_of_le few)
  obtain ⟨result, ended⟩ := Option.isSome_iff_exists.1 finished
  have own : next.phase.result? = some result := by
    have answer := ended
    rw [resultOf?, at_] at answer
    exact answer
  obtain ⟨run, rfl, outline, stored, -⟩ := comes result own
  refine ⟨copy, run, asked ▸ returned, ended, outline, stored, ?_⟩
  decide +kernel

end Service

end Runbook
