import Runbook.Proofs.Execution.Conclusion
import Runbook.Proofs.Execution.Conduct
import Runbook.Proofs.Execution.Outage

/-! Where the steps of a record come from: each is an attempt at a command of the workflow, with the
variables that the steps before it have left. The failures of a record are those of its steps.

This holds of every record that a run hands to the store, whether the run is cut short or not.
-/

set_option autoImplicit false

namespace Runbook

def Workflow.specOf (workflow : Workflow) (step : Step) : Option Command :=
  match step.branch with
  | none => workflow.commandOf step
  | some place =>
    (workflow.commandOf step).bind fun command => command.condition.bind fun condition =>
      (condition.commands place.arm)[place.index]?.map BranchCommand.toCommand

theorem Workflow.specOf_cases {workflow : Workflow} {step : Step} {command : Command}
    (own : workflow.specOf step = some command) :
    step.branch = none ∧ workflow.commandOf step = some command ∨
      ∃ parent condition arm branch, step.branch.isSome = true ∧
        workflow.commandOf step = some parent ∧ parent.condition = some condition ∧
        branch ∈ condition.commands arm ∧ command = branch.toCommand := by
  rw [specOf] at own
  cases branched : step.branch with
  | none =>
    rw [branched] at own
    exact .inl ⟨rfl, own⟩
  | some place =>
    rw [branched] at own
    obtain ⟨parent, found, others⟩ := Option.bind_eq_some_iff.1 own
    obtain ⟨condition, defined, others⟩ := Option.bind_eq_some_iff.1 others
    obtain ⟨branch, listed, rfl⟩ := Option.map_eq_some_iff.1 others
    have member := List.mem_of_getElem? listed
    exact .inr ⟨parent, condition, place.arm, branch, rfl, found, defined, member, rfl⟩

namespace Execution

open StageRunner (chooseArm)

/-- A step has come about after these steps: by an attempt at its command, and by the choice of an arm
with the variables that the attempt has left. -/
inductive Arisen (settings : Settings) (workflow : Workflow) (parameters : Bindings)
    (before : List Step) : Step → Prop
  | mk {stage : Stage} {index : Nat} {branch : Option Step.Branch} {command : Command}
      {startedAt : Time.Instant} {dialogue : List Exchange} {attempted step : Step}
      {chosen : Option (Condition × Arm)} :
      workflow.specOf step = some command →
      Attempt settings command (freshStep stage index branch command startedAt)
        (contextAfter workflow parameters before) dialogue attempted
        (contextAfter workflow parameters (before ++ [step])) →
      chooseArm command attempted (contextAfter workflow parameters (before ++ [step])) =
        (step, chosen) →
      Arisen settings workflow parameters before step

/-- All steps of a record have come about after those before them, and its variables agree with them. -/
structure Traced (settings : Settings) (workflow : Workflow) (parameters : Bindings)
    (progress : Progress Run) : Prop where
  recalls : Recalls workflow parameters progress
  steps : Along (Arisen settings workflow parameters) [] progress.collected.steps

/-- Every failure of a record is that of one of its steps. -/
def Accounted (run : Run) : Prop :=
  ∀ failure, run.failure = some failure ∨ run.rollbackFailure = some failure →
    ∃ step ∈ run.steps, step.failure? = some failure

section
variable {P : List Step → Step → Prop} {before steps more : List Step}

theorem Along.concat {step : Step} (along : Along P before steps) (holds : P (before ++ steps) step) :
    Along P before (steps ++ [step]) := by
  intro earlier other later split
  rcases List.eq_nil_or_concat later with rfl | ⟨rest, last, rfl⟩
  · obtain ⟨rfl, same⟩ := List.append_inj' split rfl
    cases same
    exact holds
  · rw [List.concat_eq_append, ← List.cons_append, ← List.append_assoc] at split
    obtain ⟨rfl, -⟩ := List.append_inj' split rfl
    exact along earlier other rest rfl

theorem Along.of_isPrefix (along : Along P before steps) (begins : more <+: steps) :
    Along P before more := by
  obtain ⟨rest, rfl⟩ := begins
  rintro earlier step later rfl
  exact along earlier step (later ++ rest) (by simp)

end

section
variable {settings : Settings} {workflow : Workflow} {parameters : Bindings} {stage : Stage}
  {index : Nat} {cancellable : Bool} {dialogue : List Exchange} {progress after : Progress Run}

/-! ### One command -/

section
variable {branch : Option Step.Branch} {command : Command} {step : Step}
  {chosen : Option (Condition × Arm)}

theorem Recorded.traced
    (recorded : Recorded settings stage index branch command progress dialogue step chosen after)
    (traced : Traced settings workflow parameters progress)
    (recalls : Recalls workflow parameters after) (own : workflow.specOf step = some command) :
    Traced settings workflow parameters after where
  recalls := recalls
  steps := by
    rw [recorded.steps]
    refine traced.steps.concat ?_
    rw [List.nil_append]
    rw [Recalls, recorded.steps] at recalls
    cases recorded with
    | mk attempt choice unfinished =>
      rw [traced.recalls] at attempt
      cases recalls
      exact .mk own attempt choice

theorem Recorded.traced_of_command (present : (workflow.commands stage)[index]? = some command)
    (recorded : Recorded settings stage index none command progress dialogue step chosen after)
    (traced : Traced settings workflow parameters progress) :
    Traced settings workflow parameters after := by
  refine recorded.traced traced (recorded.recalls_of_command present traced.recalls) ?_
  obtain ⟨plain, own⟩ := recorded.commandOf present
  rw [Workflow.specOf, plain]
  exact own

theorem Recorded.traced_of_branch {arm : Arm} {position : Nat} {branchCommand : BranchCommand}
    {condition : Condition} (present : (workflow.commands stage)[index]? = some command)
    (defined : command.condition = some condition)
    (listed : (condition.commands arm)[position]? = some branchCommand)
    (recorded : Recorded settings stage index (some ⟨index, arm, position⟩) branchCommand.toCommand
      progress dialogue step chosen after)
    (traced : Traced settings workflow parameters progress) :
    Traced settings workflow parameters after := by
  refine recorded.traced traced (recorded.recalls_of_branch traced.recalls) ?_
  obtain ⟨atStage, atIndex, below⟩ := recorded.place
  have parent : workflow.commandOf step = some command := by
    rw [Workflow.commandOf, atStage, atIndex]
    exact present
  simp only [Workflow.specOf, below, parent, defined, listed, Option.bind_some, Option.map_some]

end

/-! ### Stages -/

theorem BranchHistory.traced {parent : Step} {arm : Arm} {branches : List BranchCommand}
    {outcome : BranchOutcome} {command : Command} {condition : Condition}
    (history : BranchHistory settings cancellable parent arm index branches progress dialogue
      outcome after)
    (present : (workflow.commands parent.stage)[parent.commandIndex]? = some command)
    (defined : command.condition = some condition)
    (ahead : branches = (condition.commands arm).drop index)
    (traced : Traced settings workflow parameters progress) :
    Traced settings workflow parameters after := by
  induction history with
  | completed => exact traced
  | cancelled => exact traced
  | failed recorded =>
    have listed := congrArg List.head? ahead.symm
    rw [List.head?_drop] at listed
    exact recorded.traced_of_branch present defined listed traced
  | @next index _ rest _ _ _ _ _ _ _ _ recorded _ _ ih =>
    have listed := congrArg List.head? ahead.symm
    rw [List.head?_drop] at listed
    have tail : rest = (condition.commands arm).drop (index + 1) := by
      rw [← List.tail_drop, ← ahead]
      rfl
    exact ih tail (recorded.traced_of_branch present defined listed traced)

theorem BlockHistory.traced {command : Command} {ending : Option StageOutcome}
    (history : BlockHistory settings cancellable stage index command progress dialogue ending after)
    (present : (workflow.commands stage)[index]? = some command)
    (traced : Traced settings workflow parameters progress) :
    Traced settings workflow parameters after := by
  cases history with
  | cancelled => exact traced
  | failed recorded => exact recorded.traced_of_command present traced
  | plain recorded => exact recorded.traced_of_command present traced
  | branched recorded _ branch =>
    obtain ⟨defined, -⟩ := recorded.selected
    obtain ⟨atStage, atIndex, -⟩ := recorded.place
    have before := recorded.traced_of_command present traced
    rw [← atStage, ← atIndex] at present
    exact branch.traced present defined List.drop_zero.symm before

theorem StageHistory.traced {commands : List Command} {outcome : StageOutcome}
    (history : StageHistory settings cancellable stage index commands progress dialogue outcome after)
    (ahead : commands = (workflow.commands stage).drop index)
    (traced : Traced settings workflow parameters progress) :
    Traced settings workflow parameters after := by
  induction history with
  | passed => exact traced
  | ended block => exact block.traced (getElem?_of_drop ahead).1 traced
  | next block _ ih =>
    obtain ⟨present, rest⟩ := getElem?_of_drop ahead
    exact ih rest (block.traced present traced)

/-! ### Whole runs -/

theorem RollbackCourse.arisen {run after : Run} {failure : Failure} {context : Template.Context}
    (course : RollbackCourse settings workflow run failure context dialogue after)
    (traced : Traced settings workflow parameters ⟨context, run⟩) :
    Along (Arisen settings workflow parameters) [] after.steps := by
  have rolling : Traced settings workflow parameters ⟨context, rollingBack run failure⟩ :=
    ⟨traced.recalls, traced.steps⟩
  cases course with
  | nothing => exact traced.steps
  | rolledBack _ history => exact (history.traced List.drop_zero.symm rolling).steps
  | failed _ history => exact (history.traced List.drop_zero.symm rolling).steps

theorem Entered.traced {entered : Progress Run} (entering : Entered stage progress dialogue entered)
    (traced : Traced settings workflow parameters progress) :
    Traced settings workflow parameters entered := by
  cases entering with
  | first => exact traced
  | later => exact ⟨traced.recalls, traced.steps⟩

theorem ForwardCourse.arisen {stages : List Stage} {run : Run}
    (course : ForwardCourse settings workflow stages progress dialogue run)
    (traced : Traced settings workflow parameters progress) :
    Along (Arisen settings workflow parameters) [] run.steps := by
  induction course with
  | completed => exact traced.steps
  | stopped => exact traced.steps
  | passed entering history _ ih =>
    exact ih (history.traced List.drop_zero.symm (entering.traced traced))
  | cancelled entering history =>
    exact (history.traced List.drop_zero.symm (entering.traced traced)).steps
  | failed entering history rollback =>
    exact rollback.arisen (history.traced List.drop_zero.symm (entering.traced traced))

theorem Course.arisen {run after : Run} (course : Course settings workflow run dialogue after)
    (nothing : run.steps = []) :
    Along (Arisen settings workflow run.parameters) [] after.steps := by
  cases course with
  | cancelled =>
    have empty : Along (Arisen settings workflow run.parameters) [] run.steps := by
      rw [nothing]
      exact along_nil
    exact empty
  | started _ forward =>
    refine forward.arisen ⟨?_, ?_⟩
    · simp only [Recalls, begun, nothing]
      rfl
    · simp only [begun, nothing]
      exact along_nil

/-! ### Every record of a run -/

theorem Proceeds.steps_of_updates {run last : Run}
    (path : Proceeds workflow parameters run dialogue last) :
    ∀ record ∈ updatesOf dialogue, record.steps <+: last.steps := by
  induction path with
  | refl => exact fun record member => absurd member List.not_mem_nil
  | @change run after change before rest leg path ih =>
    rw [updatesOf_append, leg.silent.1, List.nil_append]
    exact List.forall_mem_cons.2 ⟨path.steps_prefix, ih⟩
  | announce _ ih => exact ih

theorem Accounted.of_isPrefix {run next : Run} (accounted : Accounted run)
    (begins : run.steps <+: next.steps) (failure : next.failure = run.failure)
    (rollbackFailure : next.rollbackFailure = run.rollbackFailure) : Accounted next := by
  intro found present
  rw [failure, rollbackFailure] at present
  obtain ⟨step, member, stands⟩ := accounted found present
  exact ⟨step, begins.subset member, stands⟩

theorem Leg.accounted {run : Run} {change : Change}
    (leg : Leg workflow parameters run change dialogue)
    (unfinished : (change.apply run).isTerminal = false) (accounted : Accounted run) :
    Accounted (change.apply run) := by
  have allowed := leg.allowed
  cases leg with
  | start => exact accounted
  | enter => exact accounted
  | record => exact accounted.of_isPrefix (List.prefix_append _ _) rfl rfl
  | @rollBack failure _ fails =>
    obtain ⟨before, step, steps, stands⟩ := fails
    rintro found (same | same)
    · cases same
      exact ⟨step, steps ▸ List.mem_concat_self, stands⟩
    · exact accounted found (.inr same)
  | finish => exact absurd (allowed.2.1.symm.trans unfinished) (by decide)

theorem Proceeds.eq_of_terminal {run last : Run}
    (path : Proceeds workflow parameters run dialogue last) (ended : run.isTerminal = true) :
    last = run ∧ updatesOf dialogue = [] := by
  induction path with
  | refl => exact ⟨rfl, rfl⟩
  | change leg =>
    have unfinished := leg.allowed.unfinished
    rw [ended] at unfinished
    cases unfinished
  | announce _ ih => exact ih ended

theorem Proceeds.accounted {run last : Run} (path : Proceeds workflow parameters run dialogue last)
    (accounted : Accounted run) (ending : Accounted last) :
    ∀ record ∈ updatesOf dialogue, Accounted record := by
  induction path with
  | refl => exact fun record member => absurd member List.not_mem_nil
  | @change run after change before rest leg path ih =>
    rw [updatesOf_append, leg.silent.1, List.nil_append]
    cases ended : (change.apply run).isTerminal with
    | false =>
      have here := leg.accounted ended accounted
      exact List.forall_mem_cons.2 ⟨here, ih here ending⟩
    | true =>
      obtain ⟨rfl, nothing⟩ := path.eq_of_terminal ended
      refine List.forall_mem_cons.2 ⟨ending, fun record member => ?_⟩
      have none : record ∈ updatesOf rest := member
      rw [nothing] at none
      cases none
  | announce _ ih => exact ih accounted ending

theorem Course.accounted {id : RunId} {workflowId : WorkflowId} {deviceId : DeviceId}
    {createdAt : Time.Instant} {after : Run}
    (course : Course settings workflow (.new id workflowId deviceId parameters createdAt) dialogue
      after) : Accounted after := by
  obtain ⟨blocks, conclusion⟩ := course.conclusion
  rintro failure (forward | backward)
  · obtain ⟨step, member, stands⟩ := (conclusion.ends.eq_some_iff failure).1 forward
    refine ⟨step, ?_, stands⟩
    rw [conclusion.steps, List.nil_append, stepsOfBlocks_append]
    exact List.mem_append_left _ member
  · obtain ⟨step, member, stands⟩ := (conclusion.rollbackEnds.eq_some_iff failure).1 backward
    refine ⟨step, ?_, stands⟩
    rw [conclusion.steps, List.nil_append, stepsOfBlocks_append]
    exact List.mem_append_right _ member

theorem Cut.updatesOf {whole : List Exchange} (cut : Cut dialogue whole) :
    Execution.updatesOf dialogue <+: Execution.updatesOf whole := by
  induction cut with
  | whole => exact List.prefix_rfl
  | refused => exact List.prefix_append [_] _
  | @next exchange _ _ _ ih =>
    cases exchange with
    | stored run result => exact (List.cons_prefix_cons.2 ⟨rfl, ih⟩ :)
    | sent => exact ih
    | polled => exact ih
    | read => exact ih
    | announced => exact ih

end

section
variable {σ : Type} (world : World σ) (s : σ) (settings : Settings) (workflow : Workflow)

/-- A record that a run hands to the store, or the one that it returns. -/
def IsRecordOf (run record : Run) : Prop :=
  record ∈ updatesOf ((execute settings workflow run).run.dialogue world s) ∨
    ((execute settings workflow run).run.runIn world s).1 = .ok record

variable {world s settings workflow} {run record : Run}

theorem IsRecordOf.steps_prefix (recorded : IsRecordOf world s settings workflow run record)
    (pending : run.status = .pending) (nothing : run.steps = []) :
    ∃ dialogue after, Course settings workflow run dialogue after ∧ record.steps <+: after.steps := by
  rcases recorded with stored | returned
  · have passed := Procedure.gives_dialogue world (execute settings workflow run).run s
    obtain ⟨whole, after, course, cut⟩ := cut_course pending passed
    exact ⟨whole, after, course,
      (course.proceeds pending nothing).steps_of_updates record (cut.updatesOf.subset stored)⟩
  · exact ⟨_, record, course_of_returned returned, List.prefix_rfl⟩

theorem IsRecordOf.arisen (recorded : IsRecordOf world s settings workflow run record)
    (pending : run.status = .pending) (nothing : run.steps = []) :
    Along (Arisen settings workflow run.parameters) [] record.steps := by
  obtain ⟨dialogue, after, course, begins⟩ := recorded.steps_prefix pending nothing
  exact (course.arisen nothing).of_isPrefix begins

theorem IsRecordOf.accounted {id : RunId} {workflowId : WorkflowId} {deviceId : DeviceId}
    {parameters : Bindings} {createdAt : Time.Instant}
    (recorded : IsRecordOf world s settings workflow
      (.new id workflowId deviceId parameters createdAt) record) : Accounted record := by
  rcases recorded with stored | returned
  · have pending : (Run.new id workflowId deviceId parameters createdAt).status = .pending := rfl
    have passed := Procedure.gives_dialogue world
      (execute settings workflow (.new id workflowId deviceId parameters createdAt)).run s
    obtain ⟨whole, after, course, cut⟩ := cut_course pending passed
    have unfailed : Accounted (.new id workflowId deviceId parameters createdAt) := by
      rintro failure (absent | absent) <;> cases absent
    exact (course.proceeds pending rfl).accounted unfailed course.accounted record
      (cut.updatesOf.subset stored)
  · exact (course_of_returned returned).accounted

end

end Execution

end Runbook
