import Mathlib.Logic.Basic
import Runbook.Proofs.Run.Operation
import Runbook.Proofs.Template.Resolution

/-! Records that no operation tells apart: what a record says apart from its identifiers and its times.

Operations read neither identifiers nor times nor parameters. Whatever two records have in common
besides, their changes have in common too, errors included.
-/

set_option autoImplicit false

namespace Runbook

def Step.untimed (step : Step) : Step :=
  { step with startedAt := ⟨0, 0⟩, durationMillis := 0 }

namespace Run

structure Outline where
  status : Status
  currentStage : Option Stage
  parameters : Bindings
  steps : List Step
  failure : Option Failure
  rollbackFailure : Option Failure
  deriving DecidableEq, Repr

def outline (run : Run) : Outline where
  status := run.status
  currentStage := run.currentStage
  parameters := run.parameters
  steps := run.steps.map Step.untimed
  failure := run.failure
  rollbackFailure := run.rollbackFailure

/-! ### Changes -/

theorem map_bind_congr {α β γ δ ε : Type} {f : α → γ} {g : β → δ} {first second : Except ε α}
    {next other : α → Except ε β} (same : first.map f = second.map f)
    (rest : ∀ a b, f a = f b → (next a).map g = (other b).map g) :
    (first >>= next).map g = (second >>= other).map g := by
  cases first with
  | error error =>
    cases second with
    | error other =>
      cases same
      rfl
    | ok b => cases same
  | ok a =>
    cases second with
    | error error => cases same
    | ok b => exact rest a b (Except.ok.inj same)

section
variable {run other : Run} (same : run.outline = other.outline)
include same

theorem ok_congr (change : Outline → Outline) :
    (.ok (change run.outline) : Except Error Outline) = .ok (change other.outline) :=
  congrArg (fun outline => Except.ok (change outline)) same

theorem outline_become (target : Status) :
    (run.become target).map outline = (other.become target).map outline := by
  have computed (run : Run) : (run.become target).map outline =
      if run.outline.status.canBecome target then .ok { run.outline with status := target }
      else .error (.invalidTransition run.outline.status.name target.name) := by
    rw [become, apply_ite (Except.map outline)]
    rfl
  rw [computed, computed, same]

theorem outline_start (stage : Stage) (now later : Time.Instant) :
    (run.start stage now).map outline = (other.start stage later).map outline :=
  map_bind_congr (outline_become same .running) fun _ _ same =>
    ok_congr same fun outline => { outline with currentStage := some stage }

theorem outline_enterStage (stage : Stage) :
    (run.enterStage stage).map outline = (other.enterStage stage).map outline := by
  have computed (run : Run) : (run.enterStage stage).map outline =
      if run.outline.status = .running ∧ stage ≠ .rollback then
        .ok { run.outline with currentStage := some stage }
      else .error (.invalidTransition
        s!"{run.outline.status}({stageText run.outline.currentStage})" s!"running({stage})") := by
    rw [enterStage, apply_ite (Except.map outline)]
    rfl
  rw [computed, computed, same]

theorem outline_record {step otherStep : Step} (sameStep : step.untimed = otherStep.untimed) :
    (run.record step).map outline = (other.record otherStep).map outline := by
  have computed (run : Run) (step : Step) : (run.record step).map outline =
      if run.outline.status.isTerminal then
        .error (.invalidTransition run.outline.status.name "record_step")
      else .ok { run.outline with steps := run.outline.steps ++ [step.untimed] } := by
    have appended : (run.steps ++ [step]).map Step.untimed = run.outline.steps ++ [step.untimed] :=
      List.map_append
    rw [record, apply_ite (Except.map outline), ← appended]
    rfl
  rw [computed, computed, same, sameStep]

theorem outline_rollBack (failure : Failure) :
    (run.rollBack failure).map outline = (other.rollBack failure).map outline :=
  map_bind_congr (outline_become same .rollingBack) fun _ _ same =>
    ok_congr same fun outline =>
      { outline with failure := some failure, currentStage := some .rollback }

theorem outline_finishAs (target : Status) (now later : Time.Instant) :
    (run.finishAs target now).map outline = (other.finishAs target later).map outline :=
  map_bind_congr (outline_become same target) fun _ _ same => congrArg Except.ok same

theorem outline_fail (failure : Option Failure) (now later : Time.Instant) :
    (run.fail failure now).map outline = (other.fail failure later).map outline :=
  map_bind_congr (outline_finishAs same .failed now later) fun _ _ same =>
    ok_congr same fun outline => { outline with rollbackFailure := failure }

end

end Run

/-- Related values, or the same error. -/
inductive Paired {α β : Type} (R : α → β → Prop) : Except Error α → Except Error β → Prop
  | ok {a : α} {b : β} : R a b → Paired R (.ok a) (.ok b)
  | error {error : Error} : Paired R (.error error) (.error error)

section
variable {α β : Type} {R S : α → α → Prop} {result copy : Except Error α}

theorem Paired.imp (paired : Paired R result copy)
    (implies : ∀ a b, result = .ok a → copy = .ok b → R a b → S a b) : Paired S result copy := by
  cases paired with
  | ok related => exact .ok (implies _ _ rfl rfl related)
  | error => exact .error

theorem paired_map_iff {f : α → β} :
    Paired (fun a b => f a = f b) result copy ↔ result.map f = copy.map f := by
  constructor
  · intro paired
    cases paired with
    | ok same => exact congrArg Except.ok same
    | error => rfl
  · intro same
    cases result with
    | ok a =>
      cases copy with
      | ok b => exact .ok (Except.ok.inj same)
      | error error => cases same
    | error error =>
      cases copy with
      | ok b => cases same
      | error other =>
        cases same
        exact .error

end

namespace Run

def Operation.untimed : Operation → Operation
  | .record step => .record step.untimed
  | operation => operation

/-- Records related in this way go on alike: they have the same status, they agree on the parameters of
some names, and operations that are the same apart from times lead to records so related. -/
structure Bisimulation (names : List String) (Q : Run → Run → Prop) : Prop where
  status {run copy : Run} : Q run copy → run.status = copy.status
  parameters {run copy : Run} : Q run copy → run.parameters.Agree names copy.parameters
  apply {run copy : Run} {operation other : Operation} : Q run copy →
    operation.untimed = other.untimed →
    ∀ now later, Paired Q (operation.apply now run) (other.apply later copy)

namespace Bisimulation

variable {names : List String} {Q : Run → Run → Prop} (bisimulation : Bisimulation names Q)
  {run copy : Run} (same : Q run copy)
include bisimulation same

theorem keeps (operation : Operation) (now later : Time.Instant) :
    Paired Q (operation.apply now run) (operation.apply later copy) :=
  bisimulation.apply same rfl now later

theorem record {step other : Step} (sameStep : step.untimed = other.untimed) :
    Paired Q (run.record step) (copy.record other) := by
  have alike : (Operation.record step).untimed = (Operation.record other).untimed :=
    congrArg Operation.record sameStep
  exact bisimulation.apply same alike ⟨0, 0⟩ ⟨0, 0⟩

theorem enterStage (stage : Stage) : Paired Q (run.enterStage stage) (copy.enterStage stage) :=
  bisimulation.keeps same (.enterStage stage) ⟨0, 0⟩ ⟨0, 0⟩

theorem rollBack (failure : Failure) : Paired Q (run.rollBack failure) (copy.rollBack failure) :=
  bisimulation.keeps same (.rollBack failure) ⟨0, 0⟩ ⟨0, 0⟩

end Bisimulation

section
variable {run copy : Run} {operation other : Operation}

/-! ### The same outline -/

theorem outline_apply_untimed (same : run.outline = copy.outline) (operation : Operation)
    (now later : Time.Instant) :
    (operation.apply now run).map outline = (operation.untimed.apply later copy).map outline := by
  cases operation with
  | start stage => exact outline_start same stage now later
  | enterStage stage => exact outline_enterStage same stage
  | record step => exact outline_record same rfl
  | rollBack failure => exact outline_rollBack same failure
  | complete => exact outline_finishAs same .completed now later
  | finishRollback => exact outline_finishAs same .rolledBack now later
  | fail rollbackFailure => exact outline_fail same rollbackFailure now later
  | cancel => exact outline_finishAs same .cancelled now later

theorem outline_apply (same : run.outline = copy.outline) (alike : operation.untimed = other.untimed)
    (now later : Time.Instant) :
    (operation.apply now run).map outline = (other.apply later copy).map outline := by
  rw [outline_apply_untimed same operation now later, alike]
  exact (outline_apply_untimed rfl other later later).symm

theorem bisimulation_outline (names : List String) :
    Bisimulation names fun run copy => run.outline = copy.outline where
  status same := congrArg Outline.status same
  parameters same name _ := congrArg (fun outline => outline.parameters.get? name) same
  apply same alike now later := paired_map_iff.2 (outline_apply same alike now later)

/-! ### The same outline, but for the parameters -/

def withParameters (parameters : Bindings) (run : Run) : Run :=
  { run with parameters }

/-- What a record says apart from its origin and its times. -/
def gist (run : Run) : Outline :=
  (run.withParameters .empty).outline

theorem become_withParameters (parameters : Bindings) (run : Run) (target : Status) :
    (run.withParameters parameters).become target =
      (run.become target).map (withParameters parameters) := by
  rw [become, become, apply_ite (Except.map _)]
  rfl

theorem finishAs_withParameters (parameters : Bindings) (run : Run) (target : Status)
    (now : Time.Instant) :
    (run.withParameters parameters).finishAs target now =
      (run.finishAs target now).map (withParameters parameters) := by
  rw [finishAs, become_withParameters, finishAs]
  cases run.become target <;> rfl

theorem apply_withParameters (operation : Operation) (now : Time.Instant) (parameters : Bindings)
    (run : Run) :
    operation.apply now (run.withParameters parameters) =
      (operation.apply now run).map (withParameters parameters) := by
  cases operation with
  | start stage =>
    rw [Operation.apply, Operation.apply, start, become_withParameters, start]
    cases run.become .running <;> rfl
  | enterStage stage =>
    rw [Operation.apply, Operation.apply, enterStage, enterStage, apply_ite (Except.map _)]
    rfl
  | record step =>
    rw [Operation.apply, Operation.apply, record, record, apply_ite (Except.map _)]
    rfl
  | rollBack failure =>
    rw [Operation.apply, Operation.apply, rollBack, become_withParameters, rollBack]
    cases run.become .rollingBack <;> rfl
  | complete => exact finishAs_withParameters parameters run .completed now
  | finishRollback => exact finishAs_withParameters parameters run .rolledBack now
  | fail rollbackFailure =>
    rw [Operation.apply, Operation.apply, fail, finishAs_withParameters, fail]
    cases run.finishAs .failed now <;> rfl
  | cancel => exact finishAs_withParameters parameters run .cancelled now

theorem gist_apply (same : run.gist = copy.gist) (alike : operation.untimed = other.untimed)
    (now later : Time.Instant) :
    (operation.apply now run).map gist = (other.apply later copy).map gist := by
  -- Without their parameters the records have the same outline, which operations keep.
  have emptied (operation : Operation) (now : Time.Instant) (run : Run) :
      (operation.apply now run).map gist =
        (operation.apply now (run.withParameters .empty)).map outline := by
    rw [apply_withParameters]
    cases operation.apply now run <;> rfl
  rw [emptied, emptied]
  exact outline_apply same alike now later

theorem origin_apply {now : Time.Instant} {after : Run} (changed : operation.apply now run = .ok after) :
    after.origin = run.origin :=
  (Operation.amended_of_apply changed).keeps.1

/-- Records of two runs that say the same of them, wherever the runs come from. -/
structure Kindred (origin otherOrigin : Origin) (run copy : Run) : Prop where
  gist : run.gist = copy.gist
  origin : run.origin = origin
  otherOrigin : copy.origin = otherOrigin

theorem bisimulation_kindred {names : List String} {origin otherOrigin : Origin}
    (agree : origin.parameters.Agree names otherOrigin.parameters) :
    Bisimulation names (Kindred origin otherOrigin) where
  status kindred := congrArg Outline.status kindred.gist
  parameters kindred := by
    obtain ⟨-, rfl, rfl⟩ := kindred
    exact agree
  apply kindred alike now later := by
    have gists := paired_map_iff.2 (gist_apply kindred.gist alike now later)
    refine gists.imp fun after copied changed otherChanged same => ⟨same, ?_, ?_⟩
    · exact (origin_apply changed).trans kindred.origin
    · exact (origin_apply otherChanged).trans kindred.otherOrigin

end

end Run

end Runbook
