import Runbook.Proofs.Execution.Performance
import Runbook.Proofs.Service.Interleaving

/-! The life of a call by itself, from the request to the result.

Whatever the other calls of a service do, a call goes through the same phases, its session answers from
the script that it was opened with, and its run asks for nothing but what it would ask for alone. Only
what it is answered by the store, by the clock and about its cancellation comes from outside.
-/

set_option autoImplicit false

namespace Runbook

namespace Service

open Device.Replay (Session Provider)
open Execution (Exchange Procedure Plays)

/-- A run that is recorded for a request which a service can carry out. -/
structure Records (start : Service) (request : Request) (workflow : Workflow) (run : Run) : Prop where
  valid : start.validate request = .ok workflow
  reachable : request.deviceId ∉ start.provider.unreachable
  new : ∃ id createdAt,
    run = .new id request.workflowId request.deviceId request.parameters createdAt

/-- What has become of a request: the run that was recorded for it, how far its call has come, and what
has passed between the run and its surroundings. -/
inductive Biography (start : Service) (request : Request) :
    Option Run → Phase → List Exchange → Prop
  | arrived : Biography start request none .lookUp []
  | checked {workflow : Workflow} :
      start.validate request = .ok workflow → Biography start request none (.open_ workflow) []
  | opened {workflow : Workflow} :
      start.validate request = .ok workflow → request.deviceId ∉ start.provider.unreachable →
      Biography start request none (.create workflow (start.provider.fresh request.deviceId)) []
  | discarding {workflow : Workflow} {error : Error} :
      start.validate request = .ok workflow → request.deviceId ∉ start.provider.unreachable →
      Biography start request none (.discard (start.provider.fresh request.deviceId) error) []
  | refused {error : Error} : Biography start request none (.finished (.error error)) []
  | recorded {workflow : Workflow} {run : Run} :
      Records start request workflow run →
      Biography start request (some run)
        (.register workflow run (start.provider.fresh request.deviceId)) []
  | inProgress {workflow : Workflow} {run : Run} {session : Session}
      {rest : Procedure (Except Error Run)} {dialogue : List Exchange} :
      Records start request workflow run →
      (Execution.execute start.settings workflow run).run.Reaches dialogue rest →
      Plays (start.provider.fresh request.deviceId) dialogue session →
      Biography start request (some run) (.drive run.id session rest) dialogue
  | closing {workflow : Workflow} {run : Run} {session : Session} {result : Except Error Run}
      {dialogue : List Exchange} :
      Records start request workflow run →
      (Execution.execute start.settings workflow run).run.Gives dialogue result →
      Plays (start.provider.fresh request.deviceId) dialogue session →
      Biography start request (some run) (.close run.id session result) dialogue
  | leaving {workflow : Workflow} {run : Run} {session : Session} {result : Except Error Run}
      {dialogue : List Exchange} :
      Records start request workflow run →
      (Execution.execute start.settings workflow run).run.Gives dialogue result →
      Plays (start.provider.fresh request.deviceId) dialogue session →
      Biography start request (some run) (.unregister run.id result) dialogue
  | ended {workflow : Workflow} {run : Run} {session : Session} {result : Except Error Run}
      {dialogue : List Exchange} :
      Records start request workflow run →
      (Execution.execute start.settings workflow run).run.Gives dialogue result →
      Plays (start.provider.fresh request.deviceId) dialogue session →
      Biography start request (some run) (.finished result) dialogue

section
variable {start service after : Service} {request : Request}

theorem validate_congr (same : service.configuration = start.configuration) :
    service.validate request = start.validate request := by
  have workflows : service.workflows = start.workflows := congrArg Configuration.workflows same
  simp only [validate, getWorkflow, workflows]

variable {call next : Call} {run? recorded : Option Run} {exchange : Option Exchange}
  {dialogue : List Exchange}

/-- A turn goes on with the life of its call, whatever the service has come to. -/
theorem Biography.turn (life : Biography start call.request run? call.phase dialogue)
    (setUp : service.configuration = start.configuration)
    (turn : Turn service call recorded exchange next after) :
    Biography start next.request (recorded <|> run?) next.phase (dialogue ++ exchange.toList) := by
  -- Each turn names the phase in which it is taken, and a life has one form for each phase.
  obtain ⟨request, phase, due⟩ := call
  have stock : service.provider.stock = start.provider.stock := congrArg Configuration.stock setUp
  have unreachable : service.provider.unreachable = start.provider.unreachable :=
    congrArg (·.2.2) stock
  have settings : service.settings = start.settings := congrArg Configuration.settings setUp
  simp only at life
  cases turn with
  | rejected at_ =>
    cases at_
    cases life
    exact .refused
  | checked at_ valid =>
    cases at_
    cases life
    exact .checked ((validate_congr setUp).symm.trans valid)
  | refused at_ =>
    cases at_
    cases life
    exact .refused
  | opened at_ opened =>
    cases at_
    cases life with
    | checked valid =>
      obtain ⟨reachable, -, rfl, rfl⟩ := Provider.open_eq_ok_iff.1 opened
      rw [Provider.fresh_congr stock]
      exact .opened valid (unreachable ▸ reachable)
  | unrecorded at_ =>
    cases at_
    cases life with
    | opened valid reachable => exact .discarding valid reachable
  | recorded at_ =>
    cases at_
    cases life with
    | opened valid reachable => exact .recorded ⟨valid, reachable, _, _, rfl⟩
  | discarded at_ =>
    cases at_
    cases life
    exact .refused
  | registered at_ =>
    cases at_
    cases life with
    | recorded records =>
      rw [settings]
      exact .inProgress records (.refl _) .silent
  | @sent run session heard command timeout _ answer _ at_ sent =>
    cases at_
    cases life with
    | inProgress records reaches plays =>
      -- The answer comes from the session alone, whatever the provider has come to.
      have told := Session.hear_of_send sent
      have answered : Plays session [.sent command timeout (answer.within timeout).reply] heard := by
        have own : Plays session
            [.sent command timeout ((session.hear command).1.within timeout).reply]
            (session.hear command).2 := .heard .silent
        rwa [told] at own
      exact .inProgress records (reaches.next fun _ _ given => .send given) (plays.append answered)
  | polled at_ =>
    cases at_
    cases life with
    | inProgress records reaches plays =>
      exact .inProgress records (reaches.next fun _ _ given => .poll given)
        (plays.append (.other rfl .silent))
  | read at_ =>
    cases at_
    cases life with
    | inProgress records reaches plays =>
      exact .inProgress records (reaches.next fun _ _ given => .clock given)
        (plays.append (.other rfl .silent))
  | stored at_ =>
    cases at_
    cases life with
    | inProgress records reaches plays =>
      exact .inProgress records (reaches.next fun _ _ given => .update given)
        (plays.append (.other rfl .silent))
  | announced at_ =>
    cases at_
    cases life with
    | inProgress records reaches plays =>
      exact .inProgress records (reaches.next fun _ _ given => .announce given)
        (plays.append (.other rfl .silent))
  | returned at_ =>
    cases at_
    cases life with
    | inProgress records reaches plays =>
      rw [Option.toList_none, List.append_nil]
      exact .closing records reaches.gives plays
  | closed at_ =>
    cases at_
    cases life with
    | closing records given plays =>
      rw [Option.toList_none, List.append_nil]
      exact .leaving records given plays
  | unregistered at_ =>
    cases at_
    cases life with
    | leaving records given plays =>
      rw [Option.toList_none, List.append_nil]
      exact .ended records given plays
  | idle at_ =>
    rw [Option.toList_none, List.append_nil]
    exact life

theorem biography (idle : start.Idle) (events : List Event) {index : Nat}
    (found : (start.history events).service.calls[index]? = some call) :
    Biography start call.request ((start.history events).run? index) call.phase
      ((start.history events).dialogue index) :=
  forall_calls idle (P := fun run? call dialogue => Biography start call.request run? call.phase dialogue)
    (fun _ => .arrived) (fun setUp turn life => life.turn setUp turn) events found

end

section
variable {start : Service} {call : Call}

theorem Biography.unrecorded_or {service after : Service} {next : Call} {run? recorded : Option Run}
    {exchange : Option Exchange} {dialogue : List Exchange}
    (life : Biography start call.request run? call.phase dialogue)
    (turn : Turn service call recorded exchange next after) : recorded = none ∨ run? = none := by
  cases turn with
  | recorded creating =>
    rw [creating] at life
    cases life
    exact .inr rfl
  | _ => exact .inl rfl

theorem run?_history_concat (idle : start.Idle) (events : List Event) (event : Event) {index : Nat}
    {run : Run} (own : (start.history events).run? index = some run) :
    (start.history (events ++ [event])).run? index = some run := by
  obtain ⟨call, found⟩ := exists_call_of_recorded own
  have life := biography idle events found
  have concerns := (passes_history start events event).concerns found
  generalize start.history (events ++ [event]) = next at concerns ⊢
  cases concerns with
  | goesOn turn =>
    rw [History.run?_turned_self]
    rcases life.unrecorded_or turn with none | none
    · rw [none]
      exact own
    · rw [none] at own
      cases own
  | stays _ _ same => exact same.trans own

theorem run?_history_append (idle : start.Idle) (events later : List Event) {index : Nat} {run : Run}
    (own : (start.history events).run? index = some run) :
    (start.history (events ++ later)).run? index = some run := by
  induction later using List.reverseRecOn with
  | nil => rwa [List.append_nil]
  | append_singleton later event ih =>
    rw [← List.append_assoc]
    exact run?_history_concat idle _ event ih

section
variable {request : Request} {run? : Option Run} {phase : Phase} {dialogue : List Exchange}

theorem Biography.active {id : RunId} (life : Biography start request run? phase dialogue)
    (marked : phase.active? = some id) : ∃ run, run? = some run ∧ run.id = id := by
  cases life with
  | inProgress | closing | leaving => exact ⟨_, rfl, Option.some.inj marked⟩
  | _ => cases marked

theorem Biography.accepted {session : Session}
    (life : Biography start request run? phase dialogue) (holding : phase.session? = some session) :
    ∃ workflow, start.validate request = .ok workflow ∧
      request.deviceId ∉ start.provider.unreachable := by
  cases life with
  | opened valid reachable | discarding valid reachable => exact ⟨_, valid, reachable⟩
  | recorded records | inProgress records | closing records =>
    exact ⟨_, records.valid, records.reachable⟩
  | _ => cases holding

theorem Biography.of_result {run : Run} {result : Except Error Run}
    (life : Biography start request (some run) phase dialogue)
    (finished : phase.result? = some result) :
    ∃ workflow session, Records start request workflow run ∧
      (Execution.execute start.settings workflow run).run.Gives dialogue result ∧
      Plays (start.provider.fresh request.deviceId) dialogue session := by
  cases life with
  | ended records given plays =>
    cases finished
    exact ⟨_, _, records, given, plays⟩
  | _ => cases finished

end

end

/-! ### Something to try it out on -/

/-- A service with one workflow, which looks at a device twice. Every device answers everything. -/
def probing : Service where
  workflows := .ofList [{
    id := ⟨"probing", by decide⟩, name := "Probe"
    preCheck := [{ template := "show" }, { template := "check" }] }]
  provider := { script := { fallback := some { output := "up" } } }

def probeCore : Request where
  workflowId := ⟨"probing", by decide⟩
  deviceId := ⟨"core"⟩

def midway : List Event :=
  .accept probeCore :: List.replicate 9 (.goOn 0)

end Service

end Runbook
