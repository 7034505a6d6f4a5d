import Mathlib.Data.List.Induction
import Runbook.Proofs.Run.Operation

/-! When a record under any use of its interface keeps to the order of its stages.

Two operations break it that are not refused: to start in the rollback stage, and to enter a stage that lies
before the current one. Without them every series of operations goes forward.
-/

set_option autoImplicit false

namespace Runbook.Run

/-- How far a run has come in the order of the stages, zero before the first. -/
def place (run : Run) : Nat :=
  match run.currentStage with
  | none => 0
  | some stage => stage.rank + 1

/-- A run that is running is in a forward stage. -/
def RunsForward (run : Run) : Prop :=
  run.status = .running → ∃ stage ∈ Stage.forward, run.currentStage = some stage

namespace Operation

/-- Along a series of operations, a run that is running is in a forward stage, and no stage is followed by
one before it. -/
structure Orderly (run : Run) (operations : List (Time.Instant × Operation)) : Prop where
  forward : ∀ past, past <+: operations → (after run past).RunsForward
  onward : ∀ past later, past <+: later → later <+: operations →
    (after run past).place ≤ (after run later).place

/-- Whether an operation would be carried out although it leads out of the order. -/
def Strays (run : Run) : Operation → Prop
  | .start stage => run.status = .pending ∧ stage = .rollback
  | .enterStage stage => run.status = .running ∧ stage ≠ .rollback ∧ stage.rank + 1 < run.place
  | _ => False

section
variable {run : Run}

theorem place_le (run : Run) : run.place ≤ Stage.rollback.rank + 1 := by
  rw [place]
  split
  · exact Nat.zero_le _
  · next stage _ => cases stage <;> decide

theorem mem_forward_iff {stage : Stage} : stage ∈ Stage.forward ↔ stage ≠ .rollback := by
  cases stage <;> decide

theorem after_concat (run : Run) (past : List (Time.Instant × Operation))
    (operation : Time.Instant × Operation) :
    after run (past ++ [operation]) = left (operation.2.edit operation.1 (after run past)) := by
  rw [after, List.foldl_append]
  rfl

theorem left_of_apply {operation : Operation} {now : Time.Instant} {changed : Run}
    (allowed : operation.apply now run = .ok changed) : left (operation.edit now run) = changed := by
  rw [edit_eq_settled, allowed]
  rfl

theorem left_of_refused {operation : Operation} {now : Time.Instant} {error : Error}
    (refused : operation.apply now run = .error error) : left (operation.edit now run) = run := by
  rw [edit_eq_settled, refused]
  rfl

theorem ordered_left (consistent : run.Consistent) (forward : run.RunsForward)
    (operation : Operation) (now : Time.Instant) (straight : ¬Strays run operation) :
    (left (operation.edit now run)).RunsForward ∧ run.place ≤ (left (operation.edit now run)).place := by
  -- What is no longer running has nothing to show but the stage that it had.
  have ended {changed : Run} (status : changed.status ≠ .running)
      (current : changed.currentStage = run.currentStage) :
      changed.RunsForward ∧ run.place ≤ changed.place :=
    ⟨fun running => absurd running status, Nat.le_of_eq (by rw [place, place, current])⟩
  cases result : operation.apply now run with
  | error error =>
    rw [left_of_refused result]
    exact ⟨forward, Nat.le_refl _⟩
  | ok changed =>
    rw [left_of_apply result]
    cases operation with
    | start stage =>
      obtain ⟨pending, rfl⟩ := start_eq_ok_iff.1 result
      have unplaced : run.currentStage = none := by
        have absent := consistent.started
        rwa [consistent.pending pending, Option.isSome_none, eq_comm, Option.isSome_eq_false_iff,
          Option.isNone_iff_eq_none] at absent
      refine ⟨fun _ => ⟨stage, mem_forward_iff.2 fun same => straight ⟨pending, same⟩, rfl⟩, ?_⟩
      rw [place, unplaced]
      exact Nat.zero_le _
    | enterStage stage =>
      obtain ⟨running, inForward, rfl⟩ := enterStage_eq_ok_iff.1 result
      refine ⟨fun _ => ⟨stage, mem_forward_iff.2 inForward, rfl⟩, ?_⟩
      exact Nat.le_of_not_lt fun before => straight ⟨running, inForward, before⟩
    | record step =>
      obtain ⟨-, rfl⟩ := record_eq_ok_iff.1 result
      exact ⟨forward, Nat.le_refl _⟩
    | rollBack failure =>
      obtain ⟨-, rfl⟩ := rollBack_eq_ok_iff.1 result
      exact ⟨nofun, place_le run⟩
    | complete =>
      obtain ⟨-, rfl⟩ := complete_eq_ok_iff.1 result
      exact ended nofun rfl
    | finishRollback =>
      obtain ⟨-, rfl⟩ := finishRollback_eq_ok_iff.1 result
      exact ended nofun rfl
    | fail rollbackFailure =>
      obtain ⟨-, rfl⟩ := fail_eq_ok_iff.1 result
      exact ended nofun rfl
    | cancel =>
      obtain ⟨-, rfl⟩ := cancel_eq_ok_iff.1 result
      exact ended nofun rfl

theorem disordered_left {operation : Operation} (strays : Strays run operation)
    (now : Time.Instant) :
    ¬((left (operation.edit now run)).RunsForward ∧
      run.place ≤ (left (operation.edit now run)).place) := by
  rintro ⟨forward, onward⟩
  cases operation with
  | start stage =>
    obtain ⟨pending, rfl⟩ := strays
    have started : left (edit now (.start .rollback) run) = _ :=
      left_of_apply (start_eq_ok_iff.2 ⟨pending, rfl⟩)
    rw [started] at forward
    obtain ⟨stage, inForward, same⟩ := forward rfl
    cases same
    exact mem_forward_iff.1 inForward rfl
  | enterStage stage =>
    obtain ⟨running, inForward, before⟩ := strays
    have entered : left (edit now (.enterStage stage) run) = _ :=
      left_of_apply (enterStage_eq_ok_iff.2 ⟨running, inForward, rfl⟩)
    rw [entered] at onward
    exact Nat.not_lt_of_le onward before
  | record _ => exact strays
  | rollBack _ => exact strays
  | complete => exact strays
  | finishRollback => exact strays
  | fail _ => exact strays
  | cancel => exact strays

theorem Orderly.of_isPrefix {operations more : List (Time.Instant × Operation)}
    (orderly : Orderly run more) (part : operations <+: more) : Orderly run operations where
  forward past inside := orderly.forward past (inside.trans part)
  onward past later first inside := orderly.onward past later first (inside.trans part)

theorem orderly_concat_iff (consistent : run.Consistent)
    (operations : List (Time.Instant × Operation)) (operation : Time.Instant × Operation) :
    Orderly run (operations ++ [operation]) ↔
      Orderly run operations ∧ ¬Strays (after run operations) operation.2 := by
  constructor
  · intro orderly
    refine ⟨orderly.of_isPrefix (List.prefix_append _ _), fun strays => ?_⟩
    refine disordered_left strays operation.1 ?_
    rw [← after_concat]
    exact ⟨orderly.forward _ List.prefix_rfl,
      orderly.onward _ _ (List.prefix_append _ _) List.prefix_rfl⟩
  · rintro ⟨orderly, straight⟩
    obtain ⟨forward, onward⟩ := ordered_left (consistent_after consistent operations)
      (orderly.forward operations List.prefix_rfl) operation.2 operation.1 straight
    rw [← after_concat] at forward onward
    constructor
    case forward =>
      intro past inside
      rcases List.prefix_concat_iff.1 inside with rfl | before
      · exact forward
      · exact orderly.forward past before
    case onward =>
      intro past later first inside
      rcases List.prefix_concat_iff.1 inside with rfl | before
      · rcases List.prefix_concat_iff.1 first with rfl | earlier
        · exact Nat.le_refl _
        · exact Nat.le_trans (orderly.onward past _ earlier List.prefix_rfl) onward
      · exact orderly.onward past later first before

theorem orderly_nil (forward : run.RunsForward) : Orderly run [] where
  forward past inside := by
    rw [List.prefix_nil.1 inside]
    exact forward
  onward past later first inside := by
    cases List.prefix_nil.1 inside
    cases List.prefix_nil.1 first
    exact Nat.le_refl _

theorem orderly_iff (consistent : run.Consistent) (forward : run.RunsForward)
    (operations : List (Time.Instant × Operation)) :
    Orderly run operations ↔ ∀ past operation, past ++ [operation] <+: operations →
      ¬Strays (after run past) operation.2 := by
  induction operations using List.reverseRecOn with
  | nil => exact ⟨fun _ past operation inside => by simp at inside, fun _ => orderly_nil forward⟩
  | append_singleton operations last ih =>
    rw [orderly_concat_iff consistent, ih]
    constructor
    · rintro ⟨straight, lastStraight⟩ past operation inside
      rcases List.prefix_concat_iff.1 inside with same | before
      · obtain ⟨rfl, final⟩ := List.append_inj' same rfl
        cases final
        exact lastStraight
      · exact straight past operation before
    · intro straight
      refine ⟨fun past operation inside => ?_, straight operations last List.prefix_rfl⟩
      exact straight past operation (inside.trans (List.prefix_append _ _))

end

end Operation

open Operation (Orderly Strays)

/-- However the operations on a new record are mixed: it keeps to the order of the stages exactly as long as
none of them strays. -/
theorem stages_in_order_iff (id : RunId) (workflowId : WorkflowId) (deviceId : DeviceId)
    (parameters : Bindings) (createdAt : Time.Instant)
    (operations : List (Time.Instant × Operation)) :
    let run := Run.new id workflowId deviceId parameters createdAt
    Orderly run operations ↔ ∀ past operation, past ++ [operation] <+: operations →
      ¬Strays (Operation.after run past) operation.2 :=
  Operation.orderly_iff (consistent_new ..) nofun operations

/-! A run that starts in its rollback, and one that goes back from its last check to the first. -/

def unstarted : Run :=
  .new (.ofSerial 0) ⟨"trial", by decide +kernel⟩ ⟨"core"⟩ .empty ⟨0, 0⟩

theorem stages_out_of_order :
    let inRollback : List (Time.Instant × Operation) := [(⟨1, 0⟩, .start .rollback)]
    let late : List (Time.Instant × Operation) := [(⟨1, 0⟩, .start .postCheck)]
    let back := late ++ [(⟨2, 0⟩, .enterStage .preCheck)]
    ((Operation.after unstarted inRollback).status = .running ∧
      (Operation.after unstarted inRollback).currentStage = some .rollback) ∧
    ((Operation.after unstarted late).currentStage = some .postCheck ∧
      (Operation.after unstarted back).currentStage = some .preCheck) ∧
    ¬Orderly unstarted inRollback ∧ ¬Orderly unstarted back := by
  intro inRollback late back
  refine ⟨⟨rfl, rfl⟩, ⟨rfl, rfl⟩, fun orderly => ?_, fun orderly => ?_⟩
  · obtain ⟨stage, inForward, same⟩ := orderly.forward inRollback List.prefix_rfl rfl
    cases same
    exact Operation.mem_forward_iff.1 inForward rfl
  · have onward := orderly.onward late back (List.prefix_append _ _) List.prefix_rfl
    exact absurd onward (by decide)

end Runbook.Run
