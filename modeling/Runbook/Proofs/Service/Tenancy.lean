import Runbook.Proofs.Service.Biography

/-! A device has one run at a time, and nothing stays behind when all calls have finished.

The calls that have had a session to a device are put in order. The last of them may still hold its
session; to all others applies that they have said all that they had to say.
-/

set_option autoImplicit false

namespace Runbook

open Device.Replay (Session Provider)
open Execution (Exchange commandsOf commandsOf_append)

namespace Service

/-! ### Who holds a device -/

def heldBy (calls : List Call) (index : Nat) : Option DeviceId :=
  calls[index]?.bind fun call => call.phase.session?.map Session.device

/-- Whether a call has tried to open a session. -/
def Phase.isPastOpening : Phase → Bool
  | .lookUp | .open_ _ => false
  | _ => true

section
variable {start service after : Service} {call next : Call} {run? recorded : Option Run}
  {exchange : Option Exchange} {dialogue : List Exchange} {session : Session}

theorem Turn.isPastOpening (turn : Turn service call recorded exchange next after)
    (past : call.phase.isPastOpening = true) : next.phase.isPastOpening = true := by
  cases turn with
  | checked at_ =>
    rw [at_] at past
    cases past
  | idle => exact past
  | _ => rfl

theorem Biography.holds {request : Request} {phase : Phase}
    (life : Biography start request run? phase dialogue) (holding : phase.session? = some session) :
    session.device = request.deviceId ∧ session.closed = false := by
  cases life with
  | opened | discarding | recorded =>
    cases holding
    exact ⟨rfl, rfl⟩
  | inProgress _ _ plays | closing _ _ plays =>
    cases holding
    exact plays.same
  | _ => cases holding

/-- All that the run for a request had to ask has been asked and answered, and it has come to a result.
Where no run was recorded there was nothing to ask. -/
def Complete (start : Service) (request : Request) (history : History) (index : Nat) : Prop :=
  (history.run? index = none ∧ history.dialogue index = []) ∨
    ∃ workflow run result, history.run? index = some run ∧ Records start request workflow run ∧
      (Execution.execute start.settings workflow run).run.Gives (history.dialogue index) result

theorem Biography.complete {request : Request} {phase : Phase} {history : History} {index : Nat}
    (life : Biography start request (history.run? index) phase (history.dialogue index))
    (past : phase.isPastOpening = true) (free : phase.session? = none) :
    Complete start request history index := by
  generalize recorded : history.run? index = run? at life
  generalize said : history.dialogue index = dialogue at life
  cases life with
  | arrived | checked => cases past
  | opened | discarding | recorded | inProgress | closing => cases free
  | refused => exact .inl ⟨recorded, said⟩
  | leaving records given | ended records given =>
    exact .inr ⟨_, _, _, recorded, records, said ▸ given⟩

end

/-! ### The tenants of a device -/

/-- The calls that have had a session to a device, in the order in which they opened it. -/
structure Tenants (calls : List Call) (provider : Provider) (dialogue : Nat → List Exchange)
    (device : DeviceId) (order : List Nat) : Prop where
  nodup : order.Nodup
  past : ∀ index ∈ order, ∃ call, calls[index]? = some call ∧ call.request.deviceId = device ∧
    call.phase.isPastOpening = true
  holder (index : Nat) : heldBy calls index = some device →
    device ∈ provider.openDevices ∧ order.getLast? = some index
  held : device ∈ provider.openDevices → ∃ index, heldBy calls index = some device
  sentTo : provider.sentTo device = order.flatMap fun index => commandsOf (dialogue index)
  silent : ∀ index ∉ order, ∀ call, calls[index]? = some call → call.request.deviceId = device →
    commandsOf (dialogue index) = []

section
variable {α : Type} {order : List Nat} {index : Nat} (f : Nat → List α)

theorem flatMap_update_of_not_mem (absent : index ∉ order) (a : List α) :
    order.flatMap (Function.update f index a) = order.flatMap f := by
  refine List.flatMap_congr fun other member => ?_
  have differ : other ≠ index := ne_of_mem_of_not_mem member absent
  rw [Function.update_of_ne differ]

theorem flatMap_update_of_last (distinct : order.Nodup) (last : order.getLast? = some index)
    (more : List α) :
    order.flatMap (Function.update f index (f index ++ more)) = order.flatMap f ++ more := by
  obtain ⟨before, rfl⟩ := List.getLast?_eq_some_iff.1 last
  have absent : index ∉ before := fun member =>
    (List.nodup_append.1 distinct).2.2 index member index List.mem_cons_self rfl
  rw [List.flatMap_append, List.flatMap_append, flatMap_update_of_not_mem f absent]
  simp only [List.flatMap_cons, List.flatMap_nil, List.append_nil, Function.update_self,
    List.append_assoc]

end

section
variable {history : History} {device : DeviceId} {order : List Nat} {index : Nat}
  {call next : Call} {recorded : Option Run} {exchange : Option Exchange} {after : Service}

theorem heldBy_turned (found : history.service.calls[index]? = some call)
    (turn : Turn history.service call recorded exchange next after) :
    heldBy (history.turned index recorded exchange next after).service.calls =
      Function.update (heldBy history.service.calls) index
        (next.phase.session?.map Session.device) := by
  funext other
  rw [heldBy, History.getElem?_turned found turn]
  by_cases same : other = index
  · rw [if_pos same, same, Function.update_self]
    rfl
  · rw [if_neg same, Function.update_of_ne same]
    rfl

theorem commandsOf_turned (history : History) (index : Nat) (recorded : Option Run)
    (exchange : Option Exchange) (next : Call) (after : Service) :
    (fun other => commandsOf ((history.turned index recorded exchange next after).dialogue other)) =
      Function.update (fun other => commandsOf (history.dialogue other)) index
        (commandsOf (history.dialogue index) ++ (exchange.bind Exchange.command?).toList) := by
  funext other
  by_cases same : other = index
  · subst same
    rw [History.dialogue_turned_self, Function.update_self, commandsOf_append]
    cases exchange with
    | none => rfl
    | some exchange => cases exchange <;> rfl
  · rw [History.dialogue_turned, if_neg same, Function.update_of_ne same]

theorem Tenants.past_turned
    (tenants : Tenants history.service.calls history.service.provider history.dialogue device order)
    (found : history.service.calls[index]? = some call)
    (turn : Turn history.service call recorded exchange next after) :
    ∀ other ∈ order, ∃ call,
      (history.turned index recorded exchange next after).service.calls[other]? = some call ∧
        call.request.deviceId = device ∧ call.phase.isPastOpening = true := by
  intro other member
  obtain ⟨own, at_, asked, past⟩ := tenants.past other member
  rw [History.getElem?_turned found turn]
  by_cases same : other = index
  · subst same
    rw [found] at at_
    cases at_
    exact ⟨next, if_pos rfl, turn.request.symm ▸ asked, turn.isPastOpening past⟩
  · exact ⟨own, (if_neg same).trans at_, asked, past⟩

theorem Tenants.silent_turned
    (tenants : Tenants history.service.calls history.service.provider history.dialogue device order)
    (found : history.service.calls[index]? = some call)
    (turn : Turn history.service call recorded exchange next after)
    (quiet : exchange.bind Exchange.command? = none ∨ index ∈ order ∨ call.request.deviceId ≠ device) :
    ∀ other ∉ order, ∀ own,
      (history.turned index recorded exchange next after).service.calls[other]? = some own →
      own.request.deviceId = device →
      commandsOf ((history.turned index recorded exchange next after).dialogue other) = [] := by
  intro other outside own at_ asked
  refine (congrFun (commandsOf_turned ..) other).trans ?_
  rw [History.getElem?_turned found turn] at at_
  by_cases same : other = index
  · subst same
    rw [if_pos rfl] at at_
    cases at_
    rw [turn.request] at asked
    -- A turn that sends something is one of a call in the order, or of one for another device.
    have unsent := (quiet.resolve_right fun here =>
      here.elim outside fun elsewhere => elsewhere asked)
    rw [Function.update_self, unsent, tenants.silent other outside call found asked]
    rfl
  · rw [if_neg same] at at_
    rw [Function.update_of_ne same]
    exact tenants.silent other outside own at_ asked

theorem Handles.elsewhere {service : Service} {provider : Provider}
    (handles : Handles service call exchange next provider)
    (own : ∀ session, call.phase.session? = some session →
      session.device = call.request.deviceId ∧ session.closed = false)
    (elsewhere : call.request.deviceId ≠ device) :
    (device ∈ provider.openDevices ↔ device ∈ service.provider.openDevices) ∧
      provider.sentTo device = service.provider.sentTo device ∧
      next.phase.session?.map Session.device ≠ some device := by
  cases handles with
  | leaves same =>
    refine ⟨.rfl, rfl, fun held => ?_⟩
    rw [same] at held
    obtain ⟨session, holds, rfl⟩ := Option.map_eq_some_iff.1 held
    exact elsewhere (own session holds).1.symm
  | opens at_ opened created =>
    obtain ⟨-, -, rfl, rfl⟩ := Provider.open_eq_ok_iff.1 opened
    refine ⟨?_, rfl, fun held => ?_⟩
    · simp [Ne.symm elsewhere]
    · rw [created] at held
      exact elsewhere (Option.some.inj held)
  | sends holds holding sent =>
    obtain ⟨place, isOpen⟩ := own _ holds
    rw [Provider.of_send sent isOpen]
    refine ⟨.rfl, ?_, fun held => ?_⟩
    · simp [Provider.sentTo, place, elsewhere]
    · rw [holding] at held
      have heard := (Session.device_of_send sent).trans place
      exact elsewhere (heard.symm.trans (Option.some.inj held))
  | releases holds free =>
    obtain ⟨place, isOpen⟩ := own _ holds
    rw [Provider.release_of_open isOpen]
    refine ⟨?_, rfl, fun held => ?_⟩
    · simp [place, Ne.symm elsewhere]
    · rw [free] at held
      cases held

theorem Tenants.turned_elsewhere
    (tenants : Tenants history.service.calls history.service.provider history.dialogue device order)
    (found : history.service.calls[index]? = some call)
    (turn : Turn history.service call recorded exchange next after)
    (own : ∀ session, call.phase.session? = some session →
      session.device = call.request.deviceId ∧ session.closed = false)
    (elsewhere : call.request.deviceId ≠ device) :
    Tenants (history.turned index recorded exchange next after).service.calls after.provider
      (history.turned index recorded exchange next after).dialogue device order := by
  obtain ⟨openDevices, sentTo, notHeld⟩ := turn.handles.elsewhere own elsewhere
  -- Whoever is in the order was asked for this device.
  have outside : index ∉ order := by
    intro member
    obtain ⟨_, at_, asked, -⟩ := tenants.past index member
    rw [found] at at_
    cases at_
    exact elsewhere asked
  have heldBefore : heldBy history.service.calls index ≠ some device := by
    intro held
    rw [heldBy, found] at held
    obtain ⟨session, holds, rfl⟩ := Option.map_eq_some_iff.1 held
    exact elsewhere (own session holds).1.symm
  have held (other : Nat) :
      heldBy (history.turned index recorded exchange next after).service.calls other = some device ↔
        heldBy history.service.calls other = some device := by
    rw [heldBy_turned found turn]
    by_cases same : other = index
    · subst same
      rw [Function.update_self]
      exact iff_of_false notHeld heldBefore
    · rw [Function.update_of_ne same]
  exact {
    nodup := tenants.nodup
    past := tenants.past_turned found turn
    holder other holds := by
      obtain ⟨isOpen, last⟩ := tenants.holder other ((held other).1 holds)
      exact ⟨openDevices.2 isOpen, last⟩
    held isOpen := by
      obtain ⟨other, holds⟩ := tenants.held (openDevices.1 isOpen)
      exact ⟨other, (held other).2 holds⟩
    sentTo := by
      rw [sentTo, tenants.sentTo]
      rw [commandsOf_turned, flatMap_update_of_not_mem _ outside]
    silent := tenants.silent_turned found turn (.inr (.inr elsewhere)) }

theorem heldBy_eq_of_call (found : history.service.calls[index]? = some call) :
    heldBy history.service.calls index = call.phase.session?.map Session.device := by
  rw [heldBy, found]
  rfl

theorem heldBy_turned_of_same (found : history.service.calls[index]? = some call)
    (turn : Turn history.service call recorded exchange next after)
    (same : next.phase.session?.map Session.device = call.phase.session?.map Session.device) :
    heldBy (history.turned index recorded exchange next after).service.calls =
      heldBy history.service.calls := by
  rw [heldBy_turned found turn, same, ← heldBy_eq_of_call found, Function.update_eq_self]

theorem Tenants.arrived {calls : List Call} {provider : Provider} {dialogue : Nat → List Exchange}
    {request : Request} (tenants : Tenants calls provider dialogue device order)
    (unsaid : dialogue calls.length = []) :
    Tenants (calls ++ [({ request } : Call)]) provider dialogue device order := by
  have held : heldBy (calls ++ [({ request } : Call)]) = heldBy calls := by
    funext index
    rw [heldBy, heldBy]
    -- The new call holds no session yet, and neither does any place behind it.
    rcases Nat.lt_trichotomy index calls.length with earlier | rfl | later
    · rw [List.getElem?_append_left earlier]
    · rw [List.getElem?_concat_length, List.getElem?_eq_none (Nat.le_refl _)]
      rfl
    · rw [List.getElem?_eq_none (List.length_append ▸ later),
        List.getElem?_eq_none (Nat.le_of_lt later)]
  exact {
    nodup := tenants.nodup
    past index member := by
      obtain ⟨call, at_, own⟩ := tenants.past index member
      have inside := (List.getElem?_eq_some_iff.1 at_).1
      exact ⟨call, (List.getElem?_append_left inside).trans at_, own⟩
    holder := held ▸ tenants.holder
    held := held ▸ tenants.held
    sentTo := tenants.sentTo
    silent index outside call found asked := by
      rcases eq_of_getElem?_concat found with earlier | ⟨rfl, rfl⟩
      · exact tenants.silent index outside call earlier asked
      · rw [unsaid]
        rfl }

/-! ### Turns of a call that was asked for the device -/

section
variable
  (tenants : Tenants history.service.calls history.service.provider history.dialogue device order)
  (found : history.service.calls[index]? = some call)
  (turn : Turn history.service call recorded exchange next after)
include tenants found turn

theorem Tenants.left (same : next.phase.session? = call.phase.session?)
    (unsent : exchange.bind Exchange.command? = none) :
    Tenants (history.turned index recorded exchange next after).service.calls
      history.service.provider (history.turned index recorded exchange next after).dialogue device
      order := by
  have unmoved := heldBy_turned_of_same found turn (congrArg (Option.map Session.device) same)
  refine ⟨tenants.nodup, tenants.past_turned found turn, ?_, ?_, ?_,
    tenants.silent_turned found turn (.inl unsent)⟩
  · rw [unmoved]
    exact tenants.holder
  · rw [unmoved]
    exact tenants.held
  · rw [tenants.sentTo, commandsOf_turned, unsent, Option.toList_none, List.append_nil,
      Function.update_eq_self]

theorem Tenants.sent {session heard : Session} {provider : Provider} {command : String}
    {answer : Device.Replay.Answer} (holds : call.phase.session? = some session)
    (place : session.device = device) (isOpen : session.closed = false)
    (holding : next.phase.session? = some heard)
    (sent : history.service.provider.send session command = (answer, heard, provider))
    (told : exchange.bind Exchange.command? = some command) :
    Tenants (history.turned index recorded exchange next after).service.calls provider
      (history.turned index recorded exchange next after).dialogue device order := by
  have unmoved := heldBy_turned_of_same found turn
    (by rw [holding, holds, Option.map_some, Option.map_some, Session.device_of_send sent])
  have last := (tenants.holder index (by rw [heldBy_eq_of_call found, holds, ← place]; rfl)).2
  rw [Provider.of_send sent isOpen]
  refine ⟨tenants.nodup, tenants.past_turned found turn, ?_, ?_, ?_,
    tenants.silent_turned found turn (.inr (.inl (List.mem_of_getLast? last)))⟩
  · rw [unmoved]
    exact tenants.holder
  · rw [unmoved]
    exact tenants.held
  · rw [commandsOf_turned, flatMap_update_of_last _ tenants.nodup last, ← tenants.sentTo, told]
    simp [Provider.sentTo, place]

theorem Tenants.opened {workflow : Workflow} {session : Session} {provider : Provider}
    (here : call.request.deviceId = device) (opening : call.phase = .open_ workflow)
    (opened : history.service.provider.open_ call.request.deviceId = .ok (session, provider))
    (created : next.phase = .create workflow session)
    (unsent : exchange.bind Exchange.command? = none) :
    Tenants (history.turned index recorded exchange next after).service.calls provider
      (history.turned index recorded exchange next after).dialogue device (order ++ [index]) := by
  obtain ⟨-, free, rfl, rfl⟩ := Provider.open_eq_ok_iff.1 opened
  rw [here] at free
  -- A call in the order has its opening behind it.
  have outside : index ∉ order := by
    intro member
    obtain ⟨_, at_, -, past⟩ := tenants.past index member
    rw [found] at at_
    cases at_
    rw [opening] at past
    cases past
  -- The device was free, so nobody held it.
  have nobody (other : Nat) : heldBy history.service.calls other ≠ some device :=
    fun holds => free (tenants.holder other holds).1
  have moved : heldBy (history.turned index recorded exchange next after).service.calls =
      Function.update (heldBy history.service.calls) index (some device) := by
    rw [heldBy_turned found turn, created, ← here]
    rfl
  have silent := tenants.silent_turned found turn (.inl unsent)
  refine ⟨?_, ?_, ?_, ?_, ?_, ?_⟩
  · exact List.nodup_append.2 ⟨tenants.nodup, List.pairwise_singleton _ _, fun other member _ last =>
      List.mem_singleton.1 last ▸ ne_of_mem_of_not_mem member outside⟩
  · refine List.forall_mem_append.2
      ⟨tenants.past_turned found turn, List.forall_mem_singleton.2 ⟨next, ?_, ?_, ?_⟩⟩
    · exact History.getElem?_turned_self found turn
    · rw [turn.request, here]
    · rw [created]
      rfl
  · intro other holds
    rw [moved] at holds
    by_cases same : other = index
    · subst same
      exact ⟨List.mem_append_right _ (here ▸ List.mem_singleton_self _), List.getLast?_concat⟩
    · rw [Function.update_of_ne same] at holds
      exact absurd holds (nobody other)
  · exact fun _ => ⟨index, by rw [moved, Function.update_self]⟩
  · rw [commandsOf_turned, unsent, Option.toList_none, List.append_nil, Function.update_eq_self,
      List.flatMap_append, List.flatMap_singleton, tenants.silent index outside call found here,
      List.append_nil]
    exact tenants.sentTo
  · exact fun other without => silent other fun member => without (List.mem_append_left _ member)

theorem Tenants.released {session : Session} (holds : call.phase.session? = some session)
    (place : session.device = device) (isOpen : session.closed = false)
    (free : next.phase.session? = none) (unsent : exchange.bind Exchange.command? = none) :
    Tenants (history.turned index recorded exchange next after).service.calls
      (history.service.provider.release session).2
      (history.turned index recorded exchange next after).dialogue device order := by
  have last := (tenants.holder index (by rw [heldBy_eq_of_call found, holds, ← place]; rfl)).2
  rw [Provider.release_of_open isOpen]
  refine ⟨tenants.nodup, tenants.past_turned found turn, ?_, ?_, ?_,
    tenants.silent_turned found turn (.inl unsent)⟩
  · intro other still
    rw [heldBy_turned found turn] at still
    by_cases same : other = index
    · rw [same, Function.update_self, free] at still
      cases still
    · rw [Function.update_of_ne same] at still
      have also := (tenants.holder other still).2
      exact absurd (Option.some.inj (also.symm.trans last)) same
  · intro member
    simp [place] at member
  · rw [commandsOf_turned, unsent, Option.toList_none, List.append_nil, Function.update_eq_self]
    exact tenants.sentTo

end

theorem Tenants.passes {start : Service} {event : Event} {following : History}
    (tenants : Tenants history.service.calls history.service.provider history.dialogue device order)
    (lives : ∀ index call, history.service.calls[index]? = some call →
      Biography start call.request (history.run? index) call.phase (history.dialogue index))
    (unsaid : history.dialogue history.service.calls.length = [])
    (passes : Passes history event following) :
    ∃ order, Tenants following.service.calls following.service.provider following.dialogue device
      order := by
  cases passes with
  | accepted => exact ⟨order, tenants.arrived unsaid⟩
  | @turned index call next recorded exchange after found turn =>
    have own := fun session => @Biography.holds _ _ _ session _ _ (lives index call found)
    by_cases here : call.request.deviceId = device
    · have handles := turn.handles
      simp only [History.turned]
      -- Only what the turn does to the provider decides what becomes of the tenants.
      generalize after.provider = provider at handles ⊢
      cases handles with
      | leaves same unsent => exact ⟨order, tenants.left found turn same unsent⟩
      | sends holds holding sent =>
        obtain ⟨place, isOpen⟩ := own _ holds
        exact ⟨order, tenants.sent found turn holds (place.trans here) isOpen holding sent rfl⟩
      | opens opening opened created =>
        exact ⟨_, tenants.opened found turn here opening opened created rfl⟩
      | releases holds free =>
        obtain ⟨place, isOpen⟩ := own _ holds
        exact ⟨order, tenants.released found turn holds (place.trans here) isOpen free rfl⟩
    · exact ⟨order, tenants.turned_elsewhere found turn own here⟩
  | _ => exact ⟨order, tenants⟩

end

section
variable {start : Service} (idle : start.Idle) (events : List Event)
include idle

theorem exists_tenants (device : DeviceId) :
    ∃ order, Tenants (start.history events).service.calls (start.history events).service.provider
      (start.history events).dialogue device order := by
  induction events using List.reverseRecOn with
  | nil =>
    have nobody (index : Nat) : heldBy start.calls index = none := by
      rw [heldBy, idle.calls]
      rfl
    have unsent : start.provider.sentTo device = [] := by
      rw [Provider.sentTo, idle.transcript]
      rfl
    refine ⟨[], .nil, nofun, fun index holds => ?_, fun isOpen => ?_, unsent, fun _ _ _ _ _ => rfl⟩
    · cases (nobody index).symm.trans holds
    · have free : device ∈ start.provider.openDevices := isOpen
      rw [idle.openDevices] at free
      cases free
  | append_singleton events event ih =>
    obtain ⟨order, tenants⟩ := ih
    exact tenants.passes (fun _ _ => biography idle events) (forgotten start events (Nat.le_refl _)).2
      (passes_history start events event)

theorem exists_call_of_active {run : RunId}
    (marked : (start.history events).service.active.contains run = true) :
    ∃ (index : Nat) (call : Call), (start.history events).service.calls[index]? = some call ∧
      call.phase.active? = some run := by
  induction events using List.reverseRecOn with
  | nil =>
    have none : start.active.contains run = true := marked
    rw [idle.active] at none
    cases none
  | append_singleton events event ih =>
    have passes := passes_history start events event
    generalize start.history (events ++ [event]) = following at passes marked ⊢
    cases passes with
    | accepted =>
      obtain ⟨index, call, at_, own⟩ := ih marked
      have inside := (List.getElem?_eq_some_iff.1 at_).1
      exact ⟨index, call, (List.getElem?_append_left inside).trans at_, own⟩
    | @cancelled asked already =>
      refine ih ?_
      rw [Table.contains, Table.get?_insert] at marked
      by_cases same : run = asked
      · exact same ▸ already
      · rwa [if_neg same] at marked
    | @turned turning own next recorded exchange after found turn =>
      -- Whoever has put it there still has it to take off, unless that happens now.
      have others (earlier : (start.history events).service.active.contains run = true)
          (same : own.phase.active? = some run → next.phase.active? = some run) :
          ∃ (index : Nat) (call : Call),
            ((start.history events).turned turning recorded exchange next after).service.calls[index]? =
              some call ∧ call.phase.active? = some run := by
        obtain ⟨index, call, at_, marks⟩ := ih earlier
        by_cases here : index = turning
        · subst here
          rw [found] at at_
          cases at_
          exact ⟨index, next, History.getElem?_turned_self found turn, same marks⟩
        · exact ⟨index, call, by rw [History.getElem?_turned found turn, if_neg here, at_], marks⟩
      have marking := turn.marks
      simp only [History.turned] at marked
      generalize after.active = active at marking marked
      cases marking with
      | leaves same => exact others marked fun marks => same.trans marks
      | @inserts workflow recorded session _ registering registered =>
        rw [Table.contains, Table.get?_insert] at marked
        by_cases same : run = recorded.id
        · subst same
          exact ⟨turning, next, History.getElem?_turned_self found turn, registered⟩
        · rw [if_neg same] at marked
          refine others marked fun marks => ?_
          rw [registering] at marks
          cases marks
      | @erases erased result _ unregistering unregistered =>
        rw [Table.contains, Table.get?_erase] at marked
        by_cases same : run = erased
        · rw [if_pos same] at marked
          cases marked
        · rw [if_neg same] at marked
          refine others marked fun marks => ?_
          rw [unregistering] at marks
          exact absurd (Option.some.inj marks).symm same
    | _ => exact ih marked

/-- However the calls of a service interleave, and whatever fails in its store: no two calls hold
sessions to one device. What a device is sent are the commands of one run after the other, each whole but
for the last, which may still be going on. When all calls have finished, every device is free and no run
counts as in progress. -/
theorem one_run_per_device :
    let history := start.history events
    (∀ device index other, heldBy history.service.calls index = some device →
      heldBy history.service.calls other = some device → index = other) ∧
    (∀ device, ∃ order : List Nat, order.Nodup ∧
      history.service.provider.sentTo device =
        order.flatMap (fun index => commandsOf (history.dialogue index)) ∧
      (∀ index ∈ order, ∃ call, history.service.calls[index]? = some call ∧
        call.request.deviceId = device ∧
        (Complete start call.request history index ∨
          heldBy history.service.calls index = some device ∧ order.getLast? = some index)) ∧
      ∀ index ∉ order, ∀ call, history.service.calls[index]? = some call →
        call.request.deviceId = device → commandsOf (history.dialogue index) = []) ∧
    ((∀ call ∈ history.service.calls, call.phase.result?.isSome = true) →
      history.service.provider.openDevices = [] ∧ history.service.active = .empty) := by
  intro history
  refine ⟨fun device index other holds also => ?_, fun device => ?_, fun finished => ⟨?_, ?_⟩⟩
  · obtain ⟨order, tenants⟩ := exists_tenants idle events device
    have last := (tenants.holder index holds).2
    exact Option.some.inj (last.symm.trans (tenants.holder other also).2)
  · obtain ⟨order, tenants⟩ := exists_tenants idle events device
    refine ⟨order, tenants.nodup, tenants.sentTo, fun index member => ?_, tenants.silent⟩
    obtain ⟨call, at_, asked, past⟩ := tenants.past index member
    have life := biography idle events at_
    refine ⟨call, at_, asked, ?_⟩
    cases holding : call.phase.session? with
    | none => exact .inl (life.complete past holding)
    | some session =>
      have holds : heldBy history.service.calls index = some device := by
        rw [heldBy_eq_of_call at_, holding, ← asked, ← (life.holds holding).1]
        rfl
      exact .inr ⟨holds, (tenants.holder index holds).2⟩
  · refine List.eq_nil_iff_forall_not_mem.2 fun device isOpen => ?_
    obtain ⟨order, tenants⟩ := exists_tenants idle events device
    obtain ⟨index, holds⟩ := tenants.held isOpen
    obtain ⟨call, at_, holding⟩ := Option.bind_eq_some_iff.1 holds
    -- A call that has finished holds no session.
    have ended := finished call (List.mem_of_getElem? at_)
    cases phase : call.phase with
    | finished result =>
      rw [phase] at holding
      cases holding
    | _ =>
      rw [phase] at ended
      cases ended
  · refine Table.eq_empty_of_get?_eq_none fun run => ?_
    cases marked : history.service.active.get? run with
    | none => rfl
    | some flag =>
      obtain ⟨index, call, at_, own⟩ :=
        exists_call_of_active idle events (Table.contains_iff.2 ⟨flag, marked⟩)
      -- And it has none among the runs in progress.
      have ended := finished call (List.mem_of_getElem? at_)
      cases phase : call.phase with
      | finished result =>
        rw [phase] at own
        cases own
      | _ =>
        rw [phase] at ended
        cases ended

end

/-! Three requests for one device, with a store that refuses the third update: the second request comes
while the first run has the device, and the first run is cut short. -/

def faltering : Service :=
  { probing with store := { outages := Store.Outages.none.updateOf 3 (.storage "disk full") } }

def crowded : List Event :=
  [.accept probeCore, .accept probeCore, .goOn 0, .goOn 1, .goOn 0, .goOn 1, .accept probeCore] ++
    List.replicate 20 (.goOn 0) ++ List.replicate 32 (.goOn 2)

theorem one_run_per_device_when_crowded :
    (∃ order : List Nat, order.Nodup ∧ ["show", "check", "show", "check"] =
      order.flatMap (fun index => commandsOf ((faltering.history crowded).dialogue index))) ∧
    (faltering.history crowded).service.provider.openDevices = [] ∧
    (faltering.history crowded).service.active = .empty ∧
    (faltering.history crowded).service.resultOf? 0 =
      some (.error (.persistence "Storage error: disk full")) := by
  have idle : faltering.Idle := ⟨rfl, rfl, rfl, rfl⟩
  have sent : (faltering.history crowded).service.provider.sentTo ⟨"core"⟩ =
      ["show", "check", "show", "check"] := by
    decide +kernel
  have finished : ∀ call ∈ (faltering.history crowded).service.calls,
      call.phase.result?.isSome = true := by
    refine List.all_eq_true.1 ?_
    decide +kernel
  obtain ⟨-, tenants, released⟩ := one_run_per_device idle crowded
  obtain ⟨order, distinct, commands, -⟩ := tenants ⟨"core"⟩
  obtain ⟨free, unmarked⟩ := released finished
  refine ⟨⟨order, distinct, sent.symm.trans commands⟩, free, unmarked, ?_⟩
  decide +kernel

end Service

end Runbook
