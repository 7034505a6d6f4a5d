import Runbook.Proofs.Execution.Conclusion
import Runbook.Proofs.Execution.Conduct
import Runbook.Proofs.Execution.Outage

/-! What a device has been sent beside what the store holds: at every moment of a run, whatever the store
refuses, the two are at most one command apart.
-/

set_option autoImplicit false

namespace Runbook.Execution

/-- What a device was sent for steps that come after others, as the record has it: nothing for a step
whose template has no value. -/
def transcript (workflow : Workflow) (parameters : Bindings) : List Step → List Step → List String
  | _, [] => []
  | before, step :: rest =>
    sentFor (contextAfter workflow parameters before) step ++
      transcript workflow parameters (before ++ [step]) rest

section
variable {workflow : Workflow} {parameters : Bindings} {run after : Run}
  {dialogue first rest : List Exchange}

theorem transcript_append_singleton (before steps : List Step) (step : Step) :
    transcript workflow parameters before (steps ++ [step]) =
      transcript workflow parameters before steps ++
        sentFor (contextAfter workflow parameters (before ++ steps)) step := by
  induction steps generalizing before with
  | nil => rw [List.nil_append, transcript, transcript, transcript, List.append_nil, List.append_nil,
      List.nil_append]
  | cons head steps ih =>
    rw [List.cons_append, transcript, transcript, ih, List.append_assoc, List.append_assoc]
    rfl

theorem Change.transcript_apply (change : Change) :
    transcript workflow parameters [] (change.apply run).steps =
      transcript workflow parameters [] run.steps ++ change.commands workflow parameters run := by
  cases change with
  | record step => exact transcript_append_singleton [] run.steps step
  | start now => exact (List.append_nil _).symm
  | enter stage => exact (List.append_nil _).symm
  | rollBack failure => exact (List.append_nil _).symm
  | finish status rollbackFailure now => exact (List.append_nil _).symm

theorem Change.length_commands (change : Change) :
    (change.commands workflow parameters run).length ≤ 1 := by
  cases change with
  | record step =>
    rw [Change.commands, sentFor]
    cases (contextAfter workflow parameters run.steps).resolve step.template with
    | ok text => exact Nat.le_refl 1
    | error fault => exact Nat.zero_le 1
  | start now => exact Nat.zero_le 1
  | enter stage => exact Nat.zero_le 1
  | rollBack failure => exact Nat.zero_le 1
  | finish status rollbackFailure now => exact Nat.zero_le 1

/-! ### Along an itinerary -/

theorem Proceeds.commandsOf (path : Proceeds workflow parameters run dialogue after) :
    transcript workflow parameters [] after.steps =
      transcript workflow parameters [] run.steps ++ commandsOf dialogue := by
  induction path with
  | refl => exact (List.append_nil _).symm
  | @change run after change before rest leg _ ih =>
    rw [ih, change.transcript_apply, commandsOf_append, leg.silent.2, List.append_assoc]
    rfl
  | announce _ ih => exact ih

theorem foldl_hold_of_unstored {id : RunId} (held : Run) (unstored : updatesOf dialogue = []) :
    dialogue.foldl (hold id) held = held := by
  induction dialogue with
  | nil => rfl
  | cons exchange rest ih =>
    cases exchange with
    | stored => cases unstored
    | sent => exact ih unstored
    | polled => exact ih unstored
    | read => exact ih unstored
    | announced => exact ih unstored

theorem Proceeds.held (path : Proceeds workflow parameters run dialogue after) :
    dialogue.foldl (hold run.id) run = after := by
  induction path with
  | refl => rfl
  | @change run after change before rest leg _ ih =>
    have same : (change.apply run).id = run.id := congrArg Run.Origin.id change.apply_origin
    rw [same] at ih
    rw [List.foldl_append, foldl_hold_of_unstored run leg.silent.1, List.foldl_cons]
    simp only [hold, same, if_true]
    exact ih
  | announce _ ih => exact ih

theorem Proceeds.held_append (path : Proceeds workflow parameters run first after)
    (unstored : updatesOf rest = []) : (first ++ rest).foldl (hold run.id) run = after := by
  rw [List.foldl_append, path.held, foldl_hold_of_unstored after unstored]

/-- At any moment some changes have been made, and at most one command has been sent since the last. -/
theorem Proceeds.underway (path : Proceeds workflow parameters run dialogue after)
    (split : dialogue = first ++ rest) :
    ∃ done current part, first = done ++ part ∧ Proceeds workflow parameters run done current ∧
      updatesOf part = [] ∧ (Execution.commandsOf part).length ≤ 1 := by
  induction path generalizing first with
  | @refl run =>
    obtain ⟨rfl, -⟩ := List.append_eq_nil_iff.1 split.symm
    exact ⟨[], run, [], rfl, .refl, rfl, Nat.zero_le 1⟩
  | @change run after change before others leg path ih =>
    obtain ⟨unstored, sent⟩ := leg.silent
    have few : (Execution.commandsOf before).length ≤ 1 := by
      rw [sent]
      exact change.length_commands
    rcases List.append_eq_append_iff.1 split with ⟨middle, rfl, tail⟩ | ⟨middle, rfl, -⟩
    · -- At the update or past it.
      cases middle with
      | nil => exact ⟨[], run, before, List.append_nil _, .refl, unstored, few⟩
      | cons exchange middle =>
        obtain ⟨rfl, same⟩ := List.cons.inj tail
        obtain ⟨done, current, part, rfl, head, found⟩ := ih same
        exact ⟨before ++ .stored (change.apply run) (.ok ()) :: done, current, part, by simp,
          .change leg head, found⟩
    · -- On the way to the update, with a part of what passes before it.
      rw [updatesOf_append, List.append_eq_nil_iff] at unstored
      rw [commandsOf_append, List.length_append] at few
      exact ⟨[], run, first, rfl, .refl, unstored.1, Nat.le_of_add_right_le few⟩
  | @announce run after kind others _ ih =>
    cases first with
    | nil => exact ⟨[], run, [], rfl, .refl, rfl, Nat.zero_le 1⟩
    | cons exchange first =>
      obtain ⟨rfl, same⟩ := List.cons.inj split
      obtain ⟨done, current, part, rfl, head, found⟩ := ih same
      exact ⟨.announced kind run :: done, current, part, rfl, .announce head, found⟩

end

/-! ### Runs that are cut short -/

section
variable {dialogue whole : List Exchange}

theorem Cut.take (cut : Cut dialogue whole) (number : Nat) :
    ∃ first rest ending, whole = first ++ rest ∧ dialogue.take number = first ++ ending ∧
      ∀ exchange ∈ ending, exchange.isOutage = true := by
  induction cut generalizing number with
  | @whole dialogue =>
    exact ⟨dialogue.take number, dialogue.drop number, [], (List.take_append_drop _ _).symm,
      (List.append_nil _).symm, by simp⟩
  | @refused run cause rest =>
    refine ⟨[], _, _, rfl, rfl, fun exchange member => ?_⟩
    rw [List.mem_singleton.1 (List.mem_of_mem_take member)]
    rfl
  | @next exchange dialogue whole _ ih =>
    cases number with
    | zero => exact ⟨[], _, [], rfl, rfl, by simp⟩
    | succ number =>
      obtain ⟨first, rest, ending, rfl, same, refused⟩ := ih number
      exact ⟨exchange :: first, rest, ending, rfl, congrArg (exchange :: ·) same, refused⟩

theorem Cut.of_split (cut : Cut dialogue whole) {first rest : List Exchange} {exchange : Exchange}
    (kept : exchange.isOutage = false) (split : dialogue = first ++ exchange :: rest) :
    ∃ later, whole = first ++ exchange :: later ∧ Cut rest later := by
  induction cut generalizing first with
  | whole => exact ⟨rest, split, .whole⟩
  | refused =>
    cases first with
    | nil =>
      obtain ⟨rfl, -⟩ := List.cons.inj split
      cases kept
    | cons exchange first => simp at split
  | next cut ih =>
    cases first with
    | nil =>
      obtain ⟨rfl, rfl⟩ := List.cons.inj split
      exact ⟨_, rfl, cut⟩
    | cons exchange first =>
      obtain ⟨rfl, same⟩ := List.cons.inj split
      obtain ⟨later, rfl, goesOn⟩ := ih same
      exact ⟨later, rfl, goesOn⟩

theorem Cut.of_step {now : Time.Instant} {record : Run} {later : List Exchange}
    (cut : Cut dialogue (.read now :: .stored record (.ok ()) :: later)) :
    ∃ result rest, dialogue = .read now :: .stored record result :: rest := by
  cases cut with
  | whole => exact ⟨_, _, rfl⟩
  | next cut =>
    cases cut with
    | whole => exact ⟨_, _, rfl⟩
    | refused => exact ⟨_, _, rfl⟩
    | next => exact ⟨_, _, rfl⟩

theorem silent_of_outages (refused : ∀ exchange ∈ dialogue, exchange.isOutage = true) :
    commandsOf dialogue = [] ∧ ∀ id held, dialogue.foldl (hold id) held = held := by
  induction dialogue with
  | nil => exact ⟨rfl, fun _ _ => rfl⟩
  | cons exchange rest ih =>
    obtain ⟨here, others⟩ := List.forall_mem_cons.1 refused
    obtain ⟨silent, same⟩ := ih others
    cases exchange with
    | stored run result =>
      cases result with
      | ok u => cases here
      | error cause => exact ⟨silent, same⟩
    | sent => cases here
    | polled => cases here
    | read => cases here
    | announced => cases here

end

section
variable {workflow : Workflow} {parameters : Bindings} {run after : Run}
  {dialogue whole first rest : List Exchange}

theorem Cut.drift (cut : Cut dialogue whole)
    (path : Proceeds workflow parameters run whole after) (number : Nat) :
    ∃ inFlight, inFlight.length ≤ 1 ∧
      transcript workflow parameters [] run.steps ++ commandsOf (dialogue.take number) =
        transcript workflow parameters [] ((dialogue.take number).foldl (hold run.id) run).steps ++
          inFlight := by
  obtain ⟨first, rest, ending, rfl, taken, refused⟩ := cut.take number
  obtain ⟨silent, same⟩ := silent_of_outages refused
  obtain ⟨done, current, part, rfl, head, unstored, few⟩ := path.underway rfl
  refine ⟨commandsOf part, few, ?_⟩
  rw [taken, List.foldl_append, same, head.held_append unstored, head.commandsOf, commandsOf_append,
    commandsOf_append, silent, List.append_nil, List.append_assoc]

theorem Cut.dispatch (cut : Cut dialogue whole)
    (path : Proceeds workflow parameters run whole after) {command : String} {timeout : UInt64}
    {reply : Device.Reply} (split : dialogue = first ++ .sent command timeout reply :: rest) :
    ∃ current cancellable step now result later,
      first.foldl (hold run.id) run = current ∧
      transcript workflow parameters [] current.steps =
        transcript workflow parameters [] run.steps ++ commandsOf first ∧
      During cancellable step.stage current ∧ step.commandSent = command ∧
      rest = .read now :: .stored (current.append [step]) result :: later ∧
      current.steps ++ [step] <+: after.steps := by
  obtain ⟨others, rfl, goesOn⟩ := cut.of_split rfl split
  obtain ⟨done, idle, current, cancellable, step, now, _, rfl, quiet, head, during, sent, rfl, tail⟩ :=
    path.sent rfl
  obtain ⟨result, later, next⟩ := goesOn.of_step
  refine ⟨current, cancellable, step, now, result, later, head.held_append quiet.1, ?_, during, sent,
    next, tail.steps_prefix⟩
  rw [head.commandsOf, commandsOf_append, quiet.2, List.append_nil]

end

section
variable {σ : Type} {world : World σ} (s : σ) (settings : Settings) (workflow : Workflow) (id : RunId)
  (workflowId : WorkflowId) (deviceId : DeviceId) (parameters : Bindings)
  (createdAt : Time.Instant)

/-- At any moment the device has been sent what the stored record says, and at most one more command.
Where it is sent one, the stored record has the steps before that of the command in the record of a
whole run, and its status and stage are those of the command. -/
theorem store_keeps_pace {heard : σ → List String} {held : σ → Run}
    (hears : world.Shows heard hear) (holds : world.Shows held (hold id)) (unheard : heard s = [])
    (created : held s = .new id workflowId deviceId parameters createdAt) {number : Nat}
    {left : Procedure (Except Error Run)} {t : σ}
    (reached : (execute settings workflow
      (.new id workflowId deviceId parameters createdAt)).run.after world number s = (left, t)) :
    (∃ inFlight, inFlight.length ≤ 1 ∧
      heard t = transcript workflow parameters [] (held t).steps ++ inFlight) ∧
    ∀ command timeout next, left = .send command timeout next →
      heard t = transcript workflow parameters [] (held t).steps ∧
      ∃ step reply now result rest,
        left.dialogue world t = .sent command timeout reply :: .read now ::
          .stored ((held t).append [step]) result :: rest ∧
        step.commandSent = command ∧ (held t).currentStage = some step.stage ∧
        (step.stage ≠ .rollback → (held t).status = .running) ∧
        (step.stage = .rollback →
          (held t).status = .rollingBack ∧ (held t).failure.isSome = true) ∧
        ∃ whole blocks,
          whole.origin = (Run.new id workflowId deviceId parameters createdAt).origin ∧
          Conclusion workflow Stage.forward [] blocks whole ∧
          (held t).steps ++ [step] <+: whole.steps := by
  have pending : (Run.new id workflowId deviceId parameters createdAt).status = .pending := rfl
  have given := Procedure.gives_dialogue world
    (execute settings workflow (.new id workflowId deviceId parameters createdAt)).run s
  obtain ⟨whole, after, course, cut⟩ := cut_course pending given
  have path : Proceeds workflow parameters _ whole after := course.proceeds pending rfl
  -- Both views are folds of what has passed up to the moment.
  have seen := hears.after number
    (execute settings workflow (.new id workflowId deviceId parameters createdAt)).run s
  have stored := holds.after number
    (execute settings workflow (.new id workflowId deviceId parameters createdAt)).run s
  have remaining := Procedure.dialogue_after world number
    (execute settings workflow (.new id workflowId deviceId parameters createdAt)).run s
  rw [reached, foldl_hear, unheard, List.nil_append] at seen
  rw [reached, created] at stored
  rw [reached] at remaining
  rw [seen, stored]
  -- From here on the surroundings play no part.
  constructor
  · exact cut.drift path number
  · rintro command timeout next rfl
    have split := List.take_append_drop number ((execute settings workflow
      (.new id workflowId deviceId parameters createdAt)).run.dialogue world s)
    rw [← remaining] at split
    obtain ⟨current, cancellable, step, now, result, rest, kept, known, during, sent, goesOn, begins⟩ :=
      cut.dispatch path split.symm
    obtain ⟨blocks, conclusion⟩ := course.conclusion
    have own : (Run.new id workflowId deviceId parameters createdAt).id = id := rfl
    rw [own] at kept
    rw [kept]
    exact ⟨known.symm, step, _, now, result, rest, congrArg (_ :: ·) goesOn, sent,
      during.currentStage, during.status_of_forward, during.status_of_rollback, after, blocks,
      path.origin, conclusion, begins⟩

/-- On a ledger with a full disk the record of the second command is refused: it has been sent, and the
stored record has only the first. -/
theorem store_keeps_pace_on_ledger :
    ∃ left t,
      (execute {} Bench.workflow Bench.pending).run.after (Ledger.world Bench.answers none) 14
        (Ledger.opened Bench.pending Ledger.fullDisk) = (left, t) ∧
      Ledger.heard t = ["probe core", "prepare 7"] ∧
      transcript Bench.workflow Bench.parameters [] (Ledger.held Bench.pending t).steps =
        ["probe core"] ∧
      ∃ inFlight, inFlight.length ≤ 1 ∧ Ledger.heard t =
        transcript Bench.workflow Bench.parameters [] (Ledger.held Bench.pending t).steps ++
          inFlight := by
  obtain ⟨⟨left, t⟩, reached⟩ : ∃ moment,
      (execute {} Bench.workflow Bench.pending).run.after (Ledger.world Bench.answers none) 14
        (Ledger.opened Bench.pending Ledger.fullDisk) = moment := ⟨_, rfl⟩
  have sent : Ledger.heard ((execute {} Bench.workflow Bench.pending).run.after
      (Ledger.world Bench.answers none) 14 (Ledger.opened Bench.pending Ledger.fullDisk)).2 =
        ["probe core", "prepare 7"] := by
    decide +kernel
  have kept : transcript Bench.workflow Bench.parameters []
      (Ledger.held Bench.pending ((execute {} Bench.workflow Bench.pending).run.after
        (Ledger.world Bench.answers none) 14 (Ledger.opened Bench.pending Ledger.fullDisk)).2).steps =
        ["probe core"] := by
    decide +kernel
  rw [reached] at sent kept
  obtain ⟨drift, -⟩ := store_keeps_pace (Ledger.opened Bench.pending Ledger.fullDisk) {}
    Bench.workflow (.ofSerial 1) Bench.workflow.id ⟨"bench"⟩ Bench.parameters ⟨0, 0⟩
    (Ledger.shows_heard Bench.answers none) (Ledger.shows_held Bench.answers none Bench.pending) rfl
    (Ledger.held_opened Bench.pending _) reached
  exact ⟨left, t, reached, sent, kept, drift⟩

end

end Runbook.Execution
