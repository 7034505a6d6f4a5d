import Runbook.Proofs.Execution.Advance
import Runbook.Proofs.Execution.Shape

/-! A run as an itinerary: one change of the record after the other, each with what passes before its
update.

Where a run looks for a cancellation depends on what is left to be done, so an itinerary speaks of that
as well: a run is cancelled only with something left, and completed only with nothing.
-/

set_option autoImplicit false

namespace Runbook

open Notification (EventKind)

def Workflow.commandsAfter (workflow : Workflow) (step : Step) : List Command :=
  (workflow.commands step.stage).drop (step.commandIndex + 1)

/-- The branch commands that come right after a step: the arm that it has earned, or for a step of a
branch the rest of its arm. -/
def Workflow.branchesAfter (workflow : Workflow) (context : Template.Context) (step : Step) :
    List BranchCommand :=
  match (workflow.commandOf step).bind Command.condition with
  | none => []
  | some condition =>
    match step.branch with
    | some place => (condition.commands place.arm).drop (place.index + 1)
    | none =>
      match condition.select step context with
      | .ok arm => condition.commands arm
      | .error _ => []

namespace Execution

def Exchange.record? : Exchange → Option Run
  | .stored run _ => some run
  | _ => none

def updatesOf (dialogue : List Exchange) : List Run :=
  dialogue.filterMap Exchange.record?

theorem updatesOf_append (first rest : List Exchange) :
    updatesOf (first ++ rest) = updatesOf first ++ updatesOf rest :=
  List.filterMap_append

theorem commandsOf_append (first rest : List Exchange) :
    commandsOf (first ++ rest) = commandsOf first ++ commandsOf rest :=
  List.filterMap_append

section
variable (workflow : Workflow) (parameters : Bindings)

/-- No command of the forward stages comes after a step. -/
structure IsFinal (before : List Step) (step : Step) : Prop where
  stage : step.stage = .postCheck
  commands : workflow.commandsAfter step = []
  branches :
    workflow.branchesAfter (contextAfter workflow parameters (before ++ [step])) step = []

def AtEnd (run : Run) : Prop :=
  ∃ before step, run.steps = before ++ [step] ∧ IsFinal workflow parameters before step

/-- A record in the last forward stage, of which nothing is left. -/
structure Exhausted (run : Run) : Prop where
  currentStage : run.currentStage = some .postCheck
  final (before : List Step) (step : Step) : run.steps = before ++ [step] →
    step.stage = .postCheck → IsFinal workflow parameters before step

/-- What passes with the device for a step: nothing where its template has no value. -/
inductive Asked (context : Template.Context) (step : Step) : List Exchange → Prop
  | unresolved {fault : Template.Fault} :
      context.resolve step.template = .error fault → Asked context step []
  | answered {timeout : UInt64} {reply : Device.Reply} :
      context.resolve step.template = .ok step.commandSent →
      Asked context step [.sent step.commandSent timeout reply]

/-- A record while a stage is carried out. Only the rollback cannot be cancelled. -/
inductive During : Bool → Stage → Run → Prop
  | forward {stage : Stage} {run : Run} :
      run.status = .running → run.currentStage = some stage → stage ≠ .rollback →
      During true stage run
  | rollback {run : Run} :
      run.status = .rollingBack → run.failure.isSome = true →
      run.currentStage = some .rollback → During false .rollback run

/-- The last step of a record has an error, and it stands for this failure. -/
def LastFails (failure : Failure) (run : Run) : Prop :=
  ∃ before step, run.steps = before ++ [step] ∧ step.failure? = some failure

/-- How a record comes to its end, with the poll that asked for it. -/
inductive Ends (run : Run) : List Exchange → Run.Status → Option Failure → Prop
  | cancelled :
      run.status.canBecome .cancelled = true → ¬AtEnd workflow parameters run →
      Ends run [.polled true] .cancelled run.rollbackFailure
  | completed :
      run.status = .running → Exhausted workflow parameters run →
      Ends run [] .completed run.rollbackFailure
  | rolledBack : run.status = .rollingBack → Ends run [] .rolledBack run.rollbackFailure
  | failed {rollbackFailure : Option Failure} :
      run.status = .rollingBack → Ends run [] .failed rollbackFailure

inductive Leg (run : Run) : Change → List Exchange → Prop
  | start {now : Time.Instant} :
      run.status = .pending → Leg run (.start now) [.polled false, .read now]
  | enter {stage earlier : Stage} :
      run.status = .running → run.currentStage = some earlier → stage.Follows earlier →
      Leg run (.enter stage) [.polled false]
  | record {cancellable : Bool} {step : Step} {startedAt now : Time.Instant}
      {asked : List Exchange} :
      During cancellable step.stage run →
      Asked (contextAfter workflow parameters run.steps) step asked →
      Leg run (.record step)
        (polls cancellable ++ .read startedAt :: (asked ++ [.read now]))
  | rollBack {failure : Failure} :
      run.status = .running → LastFails failure run → Leg run (.rollBack failure) []
  | finish {polled : List Exchange} {status : Run.Status} {rollbackFailure : Option Failure}
      {now : Time.Instant} :
      Ends workflow parameters run polled status rollbackFailure →
      Leg run (.finish status rollbackFailure now) (polled ++ [.read now])

inductive Proceeds : Run → List Exchange → Run → Prop
  | refl {run : Run} : Proceeds run [] run
  | change {run after : Run} {change : Change} {before rest : List Exchange} :
      Leg workflow parameters run change before →
      Proceeds (change.apply run) rest after →
      Proceeds run (before ++ .stored (change.apply run) (.ok ()) :: rest) after
  | announce {run after : Run} {kind : EventKind} {rest : List Exchange} :
      Proceeds run rest after → Proceeds run (.announced kind run :: rest) after

end

namespace During

variable {cancellable : Bool} {stage : Stage} {run : Run}

theorem currentStage (during : During cancellable stage run) : run.currentStage = some stage := by
  cases during with
  | forward _ current => exact current
  | rollback _ _ current => exact current

theorem unfinished (during : During cancellable stage run) : run.isTerminal = false := by
  cases during with
  | forward running => rw [Run.isTerminal, running]; rfl
  | rollback rolling => rw [Run.isTerminal, rolling]; rfl

theorem status_of_forward (during : During cancellable stage run) (ahead : stage ≠ .rollback) :
    run.status = .running := by
  cases during with
  | forward running => exact running
  | rollback => exact absurd rfl ahead

theorem status_of_rollback (during : During cancellable stage run) (backward : stage = .rollback) :
    run.status = .rollingBack ∧ run.failure.isSome = true := by
  cases during with
  | forward _ _ ahead => exact absurd backward ahead
  | rollback rolling failed => exact ⟨rolling, failed⟩

theorem cancellable_of_running (during : During cancellable stage run)
    (running : run.status = .running) : cancellable = true := by
  cases during with
  | forward => rfl
  | rollback rolling =>
    rw [running] at rolling
    cases rolling

theorem append (during : During cancellable stage run) (steps : List Step) :
    During cancellable stage (run.append steps) := by
  cases during with
  | forward running current ahead => exact .forward running current ahead
  | rollback rolling failed current => exact .rollback rolling failed current

end During

section
variable {workflow : Workflow} {parameters : Bindings} {run middle after : Run}
  {first rest : List Exchange}

theorem Proceeds.append (head : Proceeds workflow parameters run first middle)
    (tail : Proceeds workflow parameters middle rest after) :
    Proceeds workflow parameters run (first ++ rest) after := by
  induction head with
  | refl => exact tail
  | change leg _ ih =>
    rw [List.append_assoc, List.cons_append]
    exact .change leg (ih tail)
  | announce _ ih => exact .announce (ih tail)

theorem Leg.proceeds {change : Change} (leg : Leg workflow parameters run change first) :
    Proceeds workflow parameters run (first ++ [.stored (change.apply run) (.ok ())])
      (change.apply run) :=
  .change leg .refl

theorem proceeds_of_step {cancellable : Bool} {step : Step} {asked : List Exchange}
    {startedAt now : Time.Instant} (during : During cancellable step.stage run)
    (passed : Asked (contextAfter workflow parameters run.steps) step asked) :
    Proceeds workflow parameters run
      (polls cancellable ++
        .read startedAt :: ((asked ++ [.read now]) ++ [.stored (run.append [step]) (.ok ())]))
      (run.append [step]) := by
  have leg : Leg workflow parameters run (.record step)
      (polls cancellable ++ .read startedAt :: (asked ++ [.read now])) := .record during passed
  have path := leg.proceeds
  rw [List.append_assoc] at path
  exact path

theorem Ends.proceeds {polled : List Exchange} {status : Run.Status}
    {rollbackFailure : Option Failure}
    (ends : Ends workflow parameters run polled status rollbackFailure) (now : Time.Instant) :
    Proceeds workflow parameters run
      (polled ++ .read now :: closing { run.closed status now with rollbackFailure })
      { run.closed status now with rollbackFailure } := by
  have leg : Leg workflow parameters run (.finish status rollbackFailure now) _ := .finish ends
  -- Not every status has an announcement, but those that end a run do; neither changes the record.
  have told : Proceeds workflow parameters { run.closed status now with rollbackFailure }
      ((EventKind.terminal? status).toList.map fun kind =>
        .announced kind { run.closed status now with rollbackFailure })
      { run.closed status now with rollbackFailure } := by
    cases EventKind.terminal? status with
    | none => exact .refl
    | some kind => exact .announce .refl
  have whole := Proceeds.change leg told
  rw [List.append_assoc] at whole
  exact whole

theorem Leg.allowed {change : Change} (leg : Leg workflow parameters run change first) :
    change.Allowed run := by
  cases leg with
  | start pending => exact pending
  | enter running current follows => exact ⟨running, _, current, follows⟩
  | record during asked => exact ⟨during.unfinished, during.currentStage⟩
  | rollBack running => exact running
  | finish ends =>
    cases ends with
    | cancelled allowed => exact ⟨allowed, rfl, fun _ => rfl⟩
    | completed running => exact ⟨by rw [running]; rfl, rfl, fun _ => rfl⟩
    | rolledBack rolling => exact ⟨by rw [rolling]; rfl, rfl, fun _ => rfl⟩
    | failed rolling => exact ⟨by rw [rolling]; rfl, rfl, fun other => absurd rfl other⟩

theorem Proceeds.steps_prefix (path : Proceeds workflow parameters run first after) :
    run.steps <+: after.steps := by
  induction path with
  | refl => exact List.prefix_rfl
  | change _ _ ih => exact Change.steps_prefix_apply.trans ih
  | announce _ ih => exact ih

theorem Proceeds.origin (path : Proceeds workflow parameters run first after) :
    after.origin = run.origin := by
  induction path with
  | refl => rfl
  | change _ _ ih => exact ih.trans Change.apply_origin
  | announce _ ih => exact ih

/-! ### What passes on the way to a change -/

def sentFor (context : Template.Context) (step : Step) : List String :=
  match context.resolve step.template with
  | .ok _ => [step.commandSent]
  | .error _ => []

def Idle (dialogue : List Exchange) : Prop :=
  updatesOf dialogue = [] ∧ commandsOf dialogue = []

theorem idle_polls (cancellable : Bool) : Idle (polls cancellable) := by
  cases cancellable <;> exact ⟨rfl, rfl⟩

theorem Idle.append (before : Idle first) (later : Idle rest) : Idle (first ++ rest) :=
  ⟨by rw [updatesOf_append, before.1, later.1]; rfl,
    by rw [commandsOf_append, before.2, later.2]; rfl⟩

theorem Asked.silent {context : Template.Context} {step : Step} (asked : Asked context step first) :
    updatesOf first = [] ∧ commandsOf first = sentFor context step := by
  cases asked with
  | unresolved absent => exact ⟨rfl, by rw [sentFor, absent]; rfl⟩
  | answered present => exact ⟨rfl, by rw [sentFor, present]; rfl⟩

def Change.commands (workflow : Workflow) (parameters : Bindings) (run : Run) :
    Change → List String
  | .record step => sentFor (contextAfter workflow parameters run.steps) step
  | _ => []

theorem Leg.silent {change : Change} (leg : Leg workflow parameters run change first) :
    updatesOf first = [] ∧ commandsOf first = change.commands workflow parameters run := by
  cases leg with
  | start => exact ⟨rfl, rfl⟩
  | enter => exact ⟨rfl, rfl⟩
  | @record cancellable step startedAt now asked during passed =>
    obtain ⟨unstored, sent⟩ := passed.silent
    obtain ⟨noUpdate, noCommand⟩ := idle_polls cancellable
    -- Polls and clocks say nothing to device or store, so what was asked for the step is all.
    have split : polls cancellable ++ .read startedAt :: (asked ++ [.read now]) =
        polls cancellable ++ ([.read startedAt] ++ (asked ++ [.read now])) := rfl
    rw [split]
    simp only [updatesOf_append, commandsOf_append, unstored, sent, noUpdate, noCommand]
    exact ⟨rfl, List.append_nil _⟩
  | rollBack => exact ⟨rfl, rfl⟩
  | finish ends => cases ends <;> exact ⟨rfl, rfl⟩

/-- Only on the way to a step is a command sent, and only the time is asked for after it. -/
theorem Leg.sent {change : Change} {dialogue : List Exchange} {command : String} {timeout : UInt64}
    {reply : Device.Reply} (leg : Leg workflow parameters run change dialogue)
    (split : dialogue = first ++ .sent command timeout reply :: rest) :
    ∃ cancellable step now, change = .record step ∧ During cancellable step.stage run ∧
      step.commandSent = command ∧ Idle first ∧ rest = [.read now] := by
  cases leg with
  | start => simp [List.cons_eq_append_iff] at split
  | enter => simp [List.cons_eq_append_iff] at split
  | @record cancellable step startedAt now asked during passed =>
    cases passed with
    | unresolved absent => cases cancellable <;> simp [polls, List.cons_eq_append_iff] at split
    | answered present =>
      have parts : first = polls cancellable ++ [.read startedAt] ∧ step.commandSent = command ∧
          rest = [.read now] := by
        cases cancellable <;> simp [polls, List.cons_eq_append_iff] at split <;>
          exact ⟨split.1, split.2.1.1.symm, split.2.2⟩
      obtain ⟨rfl, sent, rfl⟩ := parts
      exact ⟨cancellable, step, now, rfl, during, sent, (idle_polls cancellable).append ⟨rfl, rfl⟩,
        rfl⟩
  | rollBack => simp at split
  | finish ends => cases ends <;> simp [List.cons_eq_append_iff] at split

/-- Where a command is sent, the record is as it was left by the last change, and its step comes
next. -/
theorem Proceeds.sent {dialogue : List Exchange} {command : String} {timeout : UInt64}
    {reply : Device.Reply} (path : Proceeds workflow parameters run dialogue after)
    (split : dialogue = first ++ .sent command timeout reply :: rest) :
    ∃ done idle current cancellable step now later,
      first = done ++ idle ∧ Idle idle ∧ Proceeds workflow parameters run done current ∧
      During cancellable step.stage current ∧ step.commandSent = command ∧
      rest = .read now :: .stored (current.append [step]) (.ok ()) :: later ∧
      Proceeds workflow parameters (current.append [step]) later after := by
  induction path generalizing first with
  | refl => simp at split
  | @change run after change before others leg path ih =>
    rcases List.append_eq_append_iff.1 split with ⟨middle, rfl, tail⟩ | ⟨middle, own, tail⟩
    · -- Past the update, the command lies in the rest of the way.
      cases middle with
      | nil => cases tail
      | cons exchange middle =>
        obtain ⟨rfl, same⟩ := List.cons.inj tail
        obtain ⟨done, idle, current, cancellable, step, now, later, rfl, quiet, head, found⟩ :=
          ih same
        refine ⟨before ++ .stored (change.apply run) (.ok ()) :: done, idle, current, cancellable,
          step, now, later, by simp, quiet, .change leg head, found⟩
    · -- On the way to the update, which is then the one with the step of the command.
      cases middle with
      | nil => cases tail
      | cons exchange middle =>
        obtain ⟨rfl, rfl⟩ := List.cons.inj tail
        obtain ⟨cancellable, step, now, rfl, during, sent, quiet, rfl⟩ := leg.sent own
        exact ⟨[], first, run, cancellable, step, now, others, rfl, quiet, .refl, during, sent, rfl,
          path⟩
  | @announce run _ kind _ _ ih =>
    cases first with
    | nil => cases split
    | cons exchange first =>
      obtain ⟨rfl, same⟩ := List.cons.inj split
      obtain ⟨done, idle, current, cancellable, step, now, later, rfl, quiet, head, found⟩ := ih same
      exact ⟨.announced kind run :: done, idle, current, cancellable, step, now, later, rfl, quiet,
        .announce head, found⟩

end

end Execution

end Runbook
