import Runbook.Proofs.Execution.Bench
import Runbook.Proofs.Execution.Conclusion
import Runbook.Proofs.Execution.FailStop

/-! What the record of a run that was carried out says: where its steps lie, and how its status agrees
with them.
-/

set_option autoImplicit false

namespace Runbook

def Run.forwardSteps (run : Run) : List Step :=
  run.steps.filter fun step => step.stage.isForward

/-- Every command of a stage has a step of its own, apart from those of branches. -/
def Run.Covers (run : Run) (workflow : Workflow) (stage : Stage) : Prop :=
  ∀ index < (workflow.commands stage).length,
    ∃ step ∈ run.steps, step.stage = stage ∧ step.commandIndex = index ∧ step.branch = none

def errorCount (steps : List Step) : Nat :=
  steps.countP fun step => step.error.isSome

namespace Execution

section
variable {workflow : Workflow} {blocks : Stage → List Block} {run : Run}

theorem stage_of_mem_flatMap {stages : List Stage} (layout : Layout workflow stages blocks)
    {step : Step} (member : step ∈ stepsOfBlocks (stages.flatMap blocks)) :
    step.stage ∈ stages := by
  obtain ⟨block, found, inside⟩ := List.mem_flatMap.1 member
  obtain ⟨stage, listed, own⟩ := List.mem_flatMap.1 found
  rwa [(layout.segment stage listed).stage_eq (List.mem_flatMap_of_mem own inside)]

section
variable (conclusion : Conclusion workflow Stage.forward [] blocks run)
include conclusion

theorem Conclusion.forwardSteps :
    run.forwardSteps = stepsOfBlocks (Stage.forward.flatMap blocks) := by
  rw [Run.forwardSteps, conclusion.steps, List.nil_append, stepsOfBlocks_append,
    List.filter_append]
  have forward : (stepsOfBlocks (Stage.forward.flatMap blocks)).filter
      (fun step => step.stage.isForward) = stepsOfBlocks (Stage.forward.flatMap blocks) := by
    refine List.filter_eq_self.2 fun step member => ?_
    exact List.contains_iff_mem.2 (stage_of_mem_flatMap conclusion.layout member)
  have backward : (stepsOfBlocks (blocks .rollback)).filter
      (fun step => step.stage.isForward) = [] := by
    refine List.filter_eq_nil_iff.2 fun step member => ?_
    rw [conclusion.rollback.stage_eq member]
    decide
  rw [forward, backward, List.append_nil]

theorem Conclusion.stepsOf_rollback : run.stepsOf .rollback = stepsOfBlocks (blocks .rollback) := by
  rw [Run.stepsOf, conclusion.steps, List.nil_append, stepsOfBlocks_append, List.filter_append]
  have forward : (stepsOfBlocks (Stage.forward.flatMap blocks)).filter
      (fun step => step.stage == .rollback) = [] := by
    refine List.filter_eq_nil_iff.2 fun step member => ?_
    have listed := stage_of_mem_flatMap conclusion.layout member
    rw [beq_iff_eq]
    exact ne_of_mem_of_not_mem listed (by decide)
  have backward : (stepsOfBlocks (blocks .rollback)).filter
      (fun step => step.stage == .rollback) = stepsOfBlocks (blocks .rollback) := by
    refine List.filter_eq_self.2 fun step member => ?_
    rw [conclusion.rollback.stage_eq member]
    rfl
  rw [forward, backward, List.nil_append]

theorem Conclusion.covers {stage : Stage}
    (complete : Complete (workflow.commands stage) (blocks stage)) :
    run.Covers workflow stage := by
  intro index bound
  obtain ⟨step, member, place⟩ := (conclusion.segment stage).head_of_complete complete bound
  rw [Nat.zero_add] at place
  obtain ⟨block, own, inside⟩ := List.mem_flatMap.1 member
  have listed : stage ∈ Stage.all := by cases stage <;> decide
  refine ⟨step, ?_, place⟩
  rw [conclusion.steps_eq]
  exact List.mem_flatMap_of_mem (List.mem_flatMap_of_mem listed own) inside

theorem Conclusion.faultless (failure : run.failure = none) (nothing : blocks .rollback = []) :
    Faultless run.steps ∧ run.stepsOf .rollback = [] := by
  have ends := conclusion.ends
  rw [failure] at ends
  constructor
  · rw [conclusion.steps, nothing, List.append_nil]
    exact ends
  · rw [conclusion.stepsOf_rollback, nothing]
    rfl

theorem Conclusion.errorCount_forward {failure : Failure} (failed : run.failure = some failure) :
    errorCount run.forwardSteps = 1 := by
  have count := conclusion.ends.countP
  rw [failed] at count
  rw [conclusion.forwardSteps]
  exact count

theorem Conclusion.errorCount_rollback {failure : Failure}
    (failed : run.rollbackFailure = some failure) :
    errorCount (run.stepsOf .rollback) = 1 ∧
      ∃ step ∈ run.stepsOf .rollback, step.failure? = some failure := by
  rw [conclusion.stepsOf_rollback]
  have count := conclusion.rollbackEnds.countP
  rw [failed] at count
  exact ⟨count, (conclusion.rollbackEnds.eq_some_iff failure).1 failed⟩

/-! ### What each status says -/

theorem Conclusion.isTerminal : run.isTerminal = true := by
  -- The three are indices of the verdict, so they become variables before it is taken apart.
  have verdict := conclusion.verdict
  rw [Run.isTerminal]
  generalize run.status = status at verdict ⊢
  generalize run.failure = failure at verdict
  generalize run.rollbackFailure = rollbackFailure at verdict
  cases verdict <;> rfl

theorem Conclusion.of_completed (done : run.status = .completed) :
    (∀ stage ∈ Stage.forward, run.Covers workflow stage) ∧ Faultless run.steps ∧
      run.stepsOf .rollback = [] := by
  have verdict := conclusion.verdict
  rw [done] at verdict
  generalize forward : run.failure = failure at verdict
  generalize run.rollbackFailure = rollbackFailure at verdict
  cases verdict with
  | completed complete nothing =>
    refine ⟨fun stage member => conclusion.covers (complete stage member), ?_⟩
    exact conclusion.faultless forward nothing

theorem Conclusion.of_cancelled (stopped : run.status = .cancelled) :
    Faultless run.steps ∧ run.stepsOf .rollback = [] ∧ run.failure = none := by
  have verdict := conclusion.verdict
  rw [stopped] at verdict
  generalize forward : run.failure = failure at verdict
  generalize run.rollbackFailure = rollbackFailure at verdict
  cases verdict with
  | cancelled nothing =>
    obtain ⟨faultless, empty⟩ := conclusion.faultless forward nothing
    exact ⟨faultless, empty, rfl⟩

theorem Conclusion.of_rolledBack (undone : run.status = .rolledBack) :
    errorCount run.forwardSteps = 1 ∧ workflow.commands .rollback ≠ [] ∧
      run.Covers workflow .rollback ∧ Faultless (run.stepsOf .rollback) := by
  have verdict := conclusion.verdict
  have ends := conclusion.rollbackEnds
  rw [undone] at verdict
  generalize forward : run.failure = failure at verdict
  generalize run.rollbackFailure = rollbackFailure at verdict ends
  cases verdict with
  | rolledBack defined complete =>
    refine ⟨conclusion.errorCount_forward forward, defined, conclusion.covers complete, ?_⟩
    rw [conclusion.stepsOf_rollback]
    exact ends

theorem Conclusion.of_failed (failed : run.status = .failed) :
    errorCount run.forwardSteps = 1 ∧
      (workflow.commands .rollback = [] ∧ run.stepsOf .rollback = [] ∧
          run.rollbackFailure = none ∨
        errorCount (run.stepsOf .rollback) = 1 ∧
          ∃ failure, run.rollbackFailure = some failure ∧
            ∃ step ∈ run.stepsOf .rollback, step.failure? = some failure) := by
  have verdict := conclusion.verdict
  rw [failed] at verdict
  generalize forward : run.failure = failure at verdict
  generalize backward : run.rollbackFailure = rollbackFailure at verdict
  cases verdict with
  | nothingToDo undefined nothing =>
    refine ⟨conclusion.errorCount_forward forward, .inl ⟨undefined, ?_, rfl⟩⟩
    rw [conclusion.stepsOf_rollback, nothing]
    rfl
  | failed =>
    obtain ⟨count, stands⟩ := conclusion.errorCount_rollback backward
    exact ⟨conclusion.errorCount_forward forward, .inr ⟨count, _, rfl, stands⟩⟩

end

end

section
variable {σ : Type} {world : World σ} (s : σ) (settings : Settings) (workflow : Workflow) (id : RunId)
  (workflowId : WorkflowId) (deviceId : DeviceId) (parameters : Bindings)
  (createdAt : Time.Instant)

/-- Where the store keeps every record, a run comes to its end, and its status agrees with its
steps. -/
theorem verdict_agrees {isSet : σ → Bool} (reliable : world.StoresAll)
    (flag : world.ReadsFlag isSet) :
    ∃ run after,
      (execute settings workflow (.new id workflowId deviceId parameters createdAt)).run.runIn world s =
        (.ok run, after) ∧
      run.isTerminal = true ∧
      (run.status = .completed →
        (∀ stage ∈ Stage.forward, run.Covers workflow stage) ∧ Faultless run.steps ∧
          run.stepsOf .rollback = []) ∧
      (run.status = .cancelled →
        isSet after = true ∧ Faultless run.steps ∧ run.stepsOf .rollback = [] ∧
          run.failure = none) ∧
      (run.status = .rolledBack →
        errorCount run.forwardSteps = 1 ∧ workflow.commands .rollback ≠ [] ∧
          run.Covers workflow .rollback ∧ Faultless (run.stepsOf .rollback)) ∧
      (run.status = .failed →
        errorCount run.forwardSteps = 1 ∧
          (workflow.commands .rollback = [] ∧ run.stepsOf .rollback = [] ∧
              run.rollbackFailure = none ∨
            errorCount (run.stepsOf .rollback) = 1 ∧
              ∃ failure, run.rollbackFailure = some failure ∧
                ∃ step ∈ run.stepsOf .rollback, step.failure? = some failure)) := by
  have pending : (Run.new id workflowId deviceId parameters createdAt).status = .pending := rfl
  obtain ⟨run, returned⟩ := returns_of_storesAll settings workflow reliable pending s
  have course := course_of_returned returned
  obtain ⟨blocks, conclusion⟩ := course.conclusion
  refine ⟨run, _, Prod.ext returned rfl, conclusion.isTerminal, conclusion.of_completed,
    fun stopped => ?_, conclusion.of_rolledBack, conclusion.of_failed⟩
  -- Only a poll that finds the flag set leads to a cancelled run.
  have set := Procedure.isSet_of_polled flag _ s (course.polled_of_cancelled stopped)
  exact ⟨set, conclusion.of_cancelled stopped⟩

theorem verdict_agrees_on_bench :
    ∃ run after, (execute {} Bench.workflow Bench.pending).run.runIn
        (Bench.world Bench.answers none) {} = (.ok run, after) ∧
      run.status = .failed ∧ errorCount run.forwardSteps = 1 ∧
      errorCount (run.stepsOf .rollback) = 1 := by
  obtain ⟨run, after, returned, -, -, -, -, failed⟩ := verdict_agrees ({} : Bench) {}
    Bench.workflow (.ofSerial 1) Bench.workflow.id ⟨"bench"⟩ Bench.parameters ⟨0, 0⟩
    (Bench.storesAll Bench.answers none) (Bench.readsFlag Bench.answers none)
  have status : ((execute {} Bench.workflow Bench.pending).run.runIn
      (Bench.world Bench.answers none) {}).1.toOption.map Run.status = some .failed := by
    decide +kernel
  rw [Bench.pending, returned] at status
  obtain ⟨forward, ⟨undefined, -⟩ | ⟨backward, -⟩⟩ := failed (Option.some.inj status)
  · cases undefined
  · exact ⟨run, after, returned, Option.some.inj status, forward, backward⟩

/-- The steps of a run are one segment for each stage, and its failures are those of its steps. -/
theorem record_segmented {run : Run}
    (returned : ((execute settings workflow
      (.new id workflowId deviceId parameters createdAt)).run.runIn world s).1 = .ok run) :
    ∃ blocks : Stage → List Block,
      run.steps = stepsOfBlocks (Stage.all.flatMap blocks) ∧
      (∀ stage, Segment stage 0 (workflow.commands stage) (blocks stage)) ∧
      (∀ earlier block later, Stage.all.flatMap blocks = earlier ++ block :: later →
        Chosen workflow run.parameters (stepsOfBlocks earlier) block) ∧
      (∀ earlier later, later ∈ Stage.forward → earlier.rank < later.rank → blocks later ≠ [] →
        Complete (workflow.commands earlier) (blocks earlier) ∧
          Faultless (stepsOfBlocks (blocks earlier))) ∧
      (∀ failure, run.failure = some failure ↔
        ∃ step ∈ stepsOfBlocks (Stage.forward.flatMap blocks), step.failure? = some failure) ∧
      (∀ failure, run.rollbackFailure = some failure ↔
        ∃ step ∈ stepsOfBlocks (blocks .rollback), step.failure? = some failure) := by
  obtain ⟨blocks, conclusion⟩ := (course_of_returned returned).conclusion
  refine ⟨blocks, conclusion.steps_eq, conclusion.segment, fun earlier block later split => ?_,
    fun _ _ => rel_of_pairwise_forward conclusion.layout.ordered, conclusion.ends.eq_some_iff,
    conclusion.rollbackEnds.eq_some_iff⟩
  exact (conclusion.told_all earlier block later split).chosen

theorem record_segmented_on_bench :
    ∃ run, ((execute {} Bench.workflow Bench.pending).run.runIn
        (Bench.world Bench.answers none) {}).1 = .ok run ∧
      run.steps.length = 6 ∧
      ∃ blocks : Stage → List Block, run.steps = stepsOfBlocks (Stage.all.flatMap blocks) ∧
        ∀ stage, Segment stage 0 (Bench.workflow.commands stage) (blocks stage) := by
  have pending : Bench.pending.status = .pending := rfl
  obtain ⟨run, returned⟩ := returns_of_storesAll {} Bench.workflow
    (Bench.storesAll Bench.answers none) pending {}
  have length : ((execute {} Bench.workflow Bench.pending).run.runIn
      (Bench.world Bench.answers none) {}).1.toOption.map (fun run => run.steps.length) =
        some 6 := by
    decide +kernel
  rw [returned] at length
  obtain ⟨blocks, steps, segments, -⟩ := record_segmented ({} : Bench) {} Bench.workflow
    (.ofSerial 1) Bench.workflow.id ⟨"bench"⟩ Bench.parameters ⟨0, 0⟩ returned
  exact ⟨run, returned, Option.some.inj length, blocks, steps, segments⟩

end

end Execution

end Runbook
