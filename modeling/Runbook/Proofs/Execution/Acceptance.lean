import Runbook.Proofs.Execution.Conduct
import Runbook.Proofs.Execution.Moment
import Runbook.Proofs.Execution.Verdict

/-! A cancellation that comes while a forward command is on the device: the next look at it ends the run,
and only the final command of the last forward stage is not followed by one.
-/

set_option autoImplicit false

namespace Runbook.Execution

theorem Procedure.polled_of_isSet {α σ : Type} {world : World σ} {isSet : σ → Bool}
    (flag : world.ReadsFlag isSet) (p : Procedure α) (s : σ) (set : isSet s = true) :
    ∀ cancelled, .polled cancelled ∈ p.dialogue world s → cancelled = true := by
  induction p generalizing s with
  | done a => exact fun _ member => absurd member List.not_mem_nil
  | send command timeout next ih =>
    intro cancelled member
    exact ih _ _ (flag.after_send s command timeout set) cancelled
      ((List.mem_cons.1 member).resolve_left Exchange.noConfusion)
  | poll next ih =>
    intro cancelled member
    rcases List.mem_cons.1 member with here | later
    · rw [Exchange.polled.inj here, flag.poll, set]
    · exact ih _ _ (flag.after_poll s set) cancelled later
  | clock next ih =>
    intro cancelled member
    exact ih _ _ (flag.after_clock s set) cancelled
      ((List.mem_cons.1 member).resolve_left Exchange.noConfusion)
  | update run next ih =>
    intro cancelled member
    exact ih _ _ (flag.after_update s run set) cancelled
      ((List.mem_cons.1 member).resolve_left Exchange.noConfusion)
  | announce kind run next ih =>
    intro cancelled member
    exact ih _ (flag.after_announce s kind run set) cancelled
      ((List.mem_cons.1 member).resolve_left Exchange.noConfusion)

section
variable {workflow : Workflow} {parameters : Bindings} {run after : Run}
  {dialogue : List Exchange}

theorem Proceeds.eq_of_ended (path : Proceeds workflow parameters run dialogue after)
    (ended : run.isTerminal = true) : after = run := by
  induction path with
  | refl => rfl
  | change leg _ _ =>
    rw [leg.allowed.unfinished] at ended
    cases ended
  | announce _ ih => exact ih ended

/-- Where every poll says that the run is cancelled, it ends after its last step: cancelled at the next
poll, or completed where no poll comes any more. -/
theorem Proceeds.ends_of_polled (path : Proceeds workflow parameters run dialogue after)
    (polled : ∀ cancelled, .polled cancelled ∈ dialogue → cancelled = true)
    (ended : after.isTerminal = true) (running : run.status = .running) {before : List Step}
    {step : Step} (steps : run.steps = before ++ [step])
    (current : run.currentStage = some step.stage) (success : step.error = none) :
    after.steps = before ++ [step] ∧
      (IsFinal workflow parameters before step → after.status = .completed) ∧
      (¬IsFinal workflow parameters before step → after.status = .cancelled) := by
  have last {others : List Step} {other : Step} (split : run.steps = others ++ [other]) :
      others = before ∧ other = step := by
    obtain ⟨rfl, same⟩ := List.append_inj' (split.symm.trans steps) rfl
    exact ⟨rfl, (List.cons.inj same).1⟩
  induction path with
  | refl =>
    rw [Run.isTerminal, running] at ended
    cases ended
  | announce _ ih =>
    exact ih (fun cancelled member => polled cancelled (.tail _ member)) ended running steps current
      last
  | change leg rest _ =>
    cases leg with
    | start pending =>
      rw [running] at pending
      cases pending
    | enter => exact absurd (polled false List.mem_cons_self) Bool.false_ne_true
    | record during asked =>
      -- Another command would be preceded by a poll that finds nothing.
      cases during.cancellable_of_running running
      exact absurd (polled false List.mem_cons_self) Bool.false_ne_true
    | rollBack _ fails =>
      -- The last step has no error, so nothing is rolled back.
      obtain ⟨others, other, split, failed⟩ := fails
      rw [(last split).2, failure?_eq_none_iff.2 success] at failed
      cases failed
    | finish ends =>
      cases ends with
      | cancelled allowed unfinished =>
        rw [rest.eq_of_ended rfl]
        exact ⟨steps, fun final => absurd ⟨before, step, steps, final⟩ unfinished, fun _ => rfl⟩
      | completed _ exhausted =>
        rw [rest.eq_of_ended rfl]
        have stage : step.stage = .postCheck :=
          Option.some.inj (current.symm.trans exhausted.currentStage)
        exact ⟨steps, fun _ => rfl, fun more => absurd (exhausted.final before step steps stage) more⟩
      | rolledBack rolling =>
        rw [running] at rolling
        cases rolling
      | failed rolling =>
        rw [running] at rolling
        cases rolling

end

section
variable {σ : Type} {world : World σ} (s : σ) (settings : Settings) (workflow : Workflow) (id : RunId)
  (workflowId : WorkflowId) (deviceId : DeviceId) (parameters : Bindings)
  (createdAt : Time.Instant)

/-- Cancellation that comes while a forward command is on the device, and whose step has no error, ends
the run with that step: as cancelled, unless it was the final one. Then the run is completed. -/
theorem cancelled_unless_final {isSet : σ → Bool} (reliable : world.StoresAll)
    (flag : world.ReadsFlag isSet) {number : Nat} {command : String} {timeout : UInt64}
    {next : Device.Reply → Procedure (Except Error Run)} {t : σ}
    (reached : (execute settings workflow
      (.new id workflowId deviceId parameters createdAt)).run.after world number s =
        (.send command timeout next, t))
    (accepted : isSet (world.send t command timeout).2 = true) :
    ∃ run before step now record rest,
      ((execute settings workflow
        (.new id workflowId deviceId parameters createdAt)).run.runIn world s).1 = .ok run ∧
      (next (world.send t command timeout).1).dialogue world (world.send t command timeout).2 =
        .read now :: .stored record (.ok ()) :: rest ∧
      record.steps = before ++ [step] ∧ step.commandSent = command ∧
      before ++ [step] <+: run.steps ∧
      (step.stage ≠ .rollback → step.error = none →
        run.steps = before ++ [step] ∧
        (IsFinal workflow parameters before step → run.status = .completed) ∧
        (¬IsFinal workflow parameters before step → run.status = .cancelled)) := by
  have pending : (Run.new id workflowId deviceId parameters createdAt).status = .pending := rfl
  obtain ⟨run, returned⟩ := returns_of_storesAll settings workflow reliable pending s
  have course := course_of_returned returned
  obtain ⟨blocks, conclusion⟩ := course.conclusion
  have path : Proceeds workflow parameters _ _ run := course.proceeds pending rfl
  have remaining := Procedure.dialogue_after world number
    (execute settings workflow (.new id workflowId deviceId parameters createdAt)).run s
  rw [reached, Procedure.dialogue] at remaining
  have split := List.take_append_drop number ((execute settings workflow
    (.new id workflowId deviceId parameters createdAt)).run.dialogue world s)
  rw [← remaining] at split
  obtain ⟨done, idle, current, cancellable, step, now, later, -, -, -, during, sent, rest, tail⟩ :=
    path.sent split.symm
  -- The step of the command comes onto the record first, and then the next poll decides.
  refine ⟨run, current.steps, step, now, _, later, returned, rest, rfl, sent, tail.steps_prefix, ?_⟩
  intro forward success
  have polled := Procedure.polled_of_isSet flag (next (world.send t command timeout).1) _ accepted
  rw [rest] at polled
  exact tail.ends_of_polled (fun cancelled member => polled cancelled (.tail _ (.tail _ member)))
    conclusion.isTerminal (during.status_of_forward forward) rfl during.currentStage success

theorem Bench.isCancelled_send (answers : Answers) (number : Nat) (bench : Bench)
    (command : String) (timeout : UInt64) :
    isCancelled (some number)
        ((Bench.world answers (some number)).send bench command timeout).2 =
      decide (number ≤ bench.sent.length + 1) := by
  simp [Bench.world, isCancelled]

theorem cancelled_unless_final_on_bench :
    ∃ run, ((execute {} Bench.workflow Bench.pending).run.runIn
        (Bench.world Bench.answers (some 2)) {}).1 = .ok run ∧
      run.status = .cancelled ∧ run.steps.map Step.commandSent = ["probe core", "prepare 7"] := by
  have sends : ((execute {} Bench.workflow Bench.pending).run.after
      (Bench.world Bench.answers (some 2)) 11 {}).1.command? = some "prepare 7" := by
    decide +kernel
  have sent : ((execute {} Bench.workflow Bench.pending).run.after
      (Bench.world Bench.answers (some 2)) 11 {}).2.sent = ["probe core"] := by
    decide +kernel
  have record : ((execute {} Bench.workflow Bench.pending).run.runIn
      (Bench.world Bench.answers (some 2)) {}).1.toOption.map (fun run =>
        (run.steps.map Step.commandSent, run.steps.map Step.stage, run.steps.map Step.error)) =
      some (["probe core", "prepare 7"], [.preCheck, .preCheck], [none, none]) := by
    decide +kernel
  obtain ⟨timeout, next, reached⟩ := Procedure.eq_after_of_command? _ sends
  obtain ⟨run, before, step, now, _, _, returned, -, -, -, within, ends⟩ :=
    cancelled_unless_final ({} : Bench) {} Bench.workflow (.ofSerial 1) Bench.workflow.id ⟨"bench"⟩
      Bench.parameters ⟨0, 0⟩ (Bench.storesAll Bench.answers (some 2))
      (Bench.readsFlag Bench.answers (some 2)) reached
      (by rw [Bench.isCancelled_send, sent]; rfl)
  rw [Bench.pending, returned] at record
  have record := Option.some.inj record
  simp only [Prod.mk.injEq] at record
  obtain ⟨commands, stages, errors⟩ := record
  have member : step ∈ run.steps := within.subset (by simp)
  have stage : step.stage = .preCheck := by
    have listed : step.stage ∈ run.steps.map Step.stage := List.mem_map_of_mem member
    rw [stages] at listed
    simpa using listed
  have success : step.error = none := by
    have listed : step.error ∈ run.steps.map Step.error := List.mem_map_of_mem member
    rw [errors] at listed
    simpa using listed
  obtain ⟨-, -, stopped⟩ := ends (by simp [stage]) success
  refine ⟨run, returned, stopped fun final => ?_, commands⟩
  rw [final.stage] at stage
  cases stage

/-! A workflow with one command, in its last forward stage. -/

def Bench.check : Workflow where
  id := ⟨"check", by decide⟩
  name := "Check"
  postCheck := [{ template := "verify" }]

def Bench.checkRun : Run :=
  .new (.ofSerial 1) Bench.check.id ⟨"bench"⟩ .empty ⟨0, 0⟩

/-- Cancellation that comes while the final command is on the device has no effect. -/
theorem completed_though_cancelled :
    ∃ timeout next t run,
      (execute {} Bench.check Bench.checkRun).run.after
        (Bench.world (fun _ _ _ => .ok ⟨"up", none⟩) (some 1)) 10 {} =
          (.send "verify" timeout next, t) ∧
      Bench.isCancelled (some 1) t = false ∧
      Bench.isCancelled (some 1)
        ((Bench.world (fun _ _ _ => .ok ⟨"up", none⟩) (some 1)).send t "verify" timeout).2 = true ∧
      ((execute {} Bench.check Bench.checkRun).run.runIn
        (Bench.world (fun _ _ _ => .ok ⟨"up", none⟩) (some 1)) {}).1 = .ok run ∧
      run.steps.map Step.stage = [.postCheck] ∧ run.steps.map Step.error = [none] ∧
      run.status = .completed := by
  have pending : Bench.checkRun.status = .pending := rfl
  have sends : ((execute {} Bench.check Bench.checkRun).run.after
      (Bench.world (fun _ _ _ => .ok ⟨"up", none⟩) (some 1)) 10 {}).1.command? = some "verify" := by
    decide +kernel
  have sent : ((execute {} Bench.check Bench.checkRun).run.after
      (Bench.world (fun _ _ _ => .ok ⟨"up", none⟩) (some 1)) 10 {}).2.sent = [] := by
    decide +kernel
  have record : ((execute {} Bench.check Bench.checkRun).run.runIn
      (Bench.world (fun _ _ _ => .ok ⟨"up", none⟩) (some 1)) {}).1.toOption.map (fun run =>
        (run.steps.map Step.stage, run.steps.map Step.error, run.status)) =
      some ([.postCheck], [none], .completed) := by
    decide +kernel
  obtain ⟨timeout, next, reached⟩ := Procedure.eq_after_of_command? _ sends
  obtain ⟨run, returned⟩ := returns_of_storesAll {} Bench.check
    (Bench.storesAll (fun _ _ _ => .ok ⟨"up", none⟩) (some 1)) pending {}
  rw [returned] at record
  have record := Option.some.inj record
  simp only [Prod.mk.injEq] at record
  obtain ⟨stages, errors, status⟩ := record
  refine ⟨timeout, next, _, run, reached, ?_, ?_, returned, stages, errors, status⟩
  · rw [Bench.isCancelled, sent]
    rfl
  · rw [Bench.isCancelled_send, sent]
    rfl

end

end Runbook.Execution
