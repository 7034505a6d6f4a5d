import Runbook.Proofs.Execution.Evaluation
import Runbook.Proofs.Execution.Action
import Runbook.Proofs.Run.Likeness
import Runbook.Proofs.Workflow.Validation

/-! Runs of one workflow ask for the same, as far as what differs between them is not looked at.

Two procedures are similar when their requests are, whatever they are answered and whatever the time is.
Each action of a run is similar to itself on a related record, with variables and parameters that agree
on the names that the texts of the workflow mention.
-/

set_option autoImplicit false

namespace Runbook.Execution

open StageRunner (begin_ chooseArm)

/-! ### Commands -/

/-- Steps that differ in nothing but times, with contexts that agree. -/
structure SameAttempt (names : List String) (first second : Step × Template.Context) : Prop where
  step : first.1.untimed = second.1.untimed
  context : first.2.Agree names second.2

section
variable {names : List String} {command : Command} {step other : Step}
  {context copy : Template.Context}

theorem sameAttempt_keep (same : step.untimed = other.untimed) (agree : context.Agree names copy)
    (binding : Option Binding) (extracted : Option String) :
    SameAttempt names (keep binding extracted step context) (keep binding extracted other copy) := by
  cases binding with
  | none => exact ⟨same, agree⟩
  | some binding =>
    cases extracted with
    | none => exact ⟨same, agree⟩
    | some value =>
      exact ⟨congrArg (fun step : Step => { step with extractedValue := some value }) same,
        agree.bind binding.name value⟩

theorem resolveRule?_congr (agree : context.Agree names copy) (mentions : command.MentionsOnly names) :
    resolveRule? context command.rule = resolveRule? copy command.rule := by
  cases defined : command.rule with
  | none => rfl
  | some rule =>
    rw [resolveRule?, resolveRule?, resolveRule, resolveRule]
    rw [agree.resolve (mentions _ (Command.rule_mem_templates defined))]

theorem sameAttempt_judge (same : step.untimed = other.untimed) (agree : context.Agree names copy)
    (mentions : command.MentionsOnly names) (output : Device.Output) :
    SameAttempt names (judge command step context output) (judge command other copy output) := by
  unfold judge
  rw [resolveRule?_congr agree mentions]
  have answered : ({ step with rawOutput := output.text, exitCode := output.exitCode } : Step).untimed =
      ({ other with rawOutput := output.text, exitCode := output.exitCode } : Step).untimed :=
    congrArg (fun step : Step =>
      { step with rawOutput := output.text, exitCode := output.exitCode }) same
  cases resolveRule? copy command.rule with
  | error fault =>
    exact ⟨congrArg (·.fail .variableResolution (unresolvedMessage fault)) answered, agree⟩
  | ok rule =>
    simp only
    cases Matching.evaluate output.text output.exitCode rule command.expectedExitCode
        command.binding.isSome with
    | error invalid => exact ⟨congrArg (Step.fail · _ _) answered, agree⟩
    | ok verdict =>
      have judged := congrArg (fun step : Step => { step with matched := verdict.matched }) answered
      simp only
      cases verdict.rejection with
      | some rejection => exact ⟨congrArg (Step.fail · _ _) judged, agree⟩
      | none => exact sameAttempt_keep judged agree command.binding verdict.extracted

theorem sameAttempt_receive (same : step.untimed = other.untimed) (agree : context.Agree names copy)
    (mentions : command.MentionsOnly names) (reply : Device.Reply) :
    SameAttempt names (receive command step context reply) (receive command other copy reply) := by
  cases reply with
  | ok output => exact sameAttempt_judge same agree mentions output
  | error error => exact ⟨congrArg (Step.fail · _ _) same, agree⟩

theorem select_congr (same : step.untimed = other.untimed) (agree : context.Agree names copy)
    {condition : Condition} (defined : command.condition = some condition)
    (mentions : command.MentionsOnly names) :
    condition.select step context = condition.select other copy := by
  have output : step.rawOutput = other.rawOutput := (congrArg Step.rawOutput same :)
  have exitCode : step.exitCode = other.exitCode := (congrArg Step.exitCode same :)
  have parameter {template : String} (own : condition.test.template? = some template) :
      context.resolve template = copy.resolve template :=
    agree.resolve (mentions template (Command.condition_mem_templates defined own))
  have operands : condition.operands step context = condition.operands other copy := by
    unfold Condition.operands Condition.operands.resolve
    cases compared : condition.test with
    | regexMatches pattern =>
      have resolved : context.resolve pattern = copy.resolve pattern := parameter (congrArg _ compared)
      simp only [resolved, output]
    | outputContains text =>
      have resolved : context.resolve text = copy.resolve text := parameter (congrArg _ compared)
      simp only [resolved, output]
    | exitCodeEquals expected => simp only [exitCode]
    | variableEquals name value =>
      have resolved : context.resolve value = copy.resolve value := parameter (congrArg _ compared)
      simp only [resolved, agree.bound]
  rw [Condition.select, operands, Condition.select]

theorem chooseArm_congr (same : step.untimed = other.untimed) (agree : context.Agree names copy)
    (mentions : command.MentionsOnly names) :
    (chooseArm command step context).1.untimed = (chooseArm command other copy).1.untimed ∧
      (chooseArm command step context).2 = (chooseArm command other copy).2 := by
  have success : step.isSuccess = other.isSuccess := congrArg Option.isNone (congrArg Step.error same :)
  unfold chooseArm
  rw [success]
  cases defined : command.condition with
  | none => exact ⟨same, rfl⟩
  | some condition =>
    cases other.isSuccess with
    | false => exact ⟨same, rfl⟩
    | true =>
      simp only [select_congr same agree defined mentions]
      cases condition.select other copy with
      | ok arm => exact ⟨same, rfl⟩
      | error error => exact ⟨congrArg (fun step : Step => { step with error := some error }) same, rfl⟩

end

/-! ### Procedures -/

section
variable {α β : Type} {Q : Run → Run → Prop}

/-- Procedures with the same requests, where records related by `Q` are taken for the same. -/
inductive Similar (Q : Run → Run → Prop) (R : α → α → Prop) : Procedure α → Procedure α → Prop
  | done {a b : α} : R a b → Similar Q R (.done a) (.done b)
  | send {command : String} {timeout : UInt64} {next other : Device.Reply → Procedure α} :
      (∀ reply, Similar Q R (next reply) (other reply)) →
      Similar Q R (.send command timeout next) (.send command timeout other)
  | poll {next other : Bool → Procedure α} :
      (∀ cancelled, Similar Q R (next cancelled) (other cancelled)) →
      Similar Q R (.poll next) (.poll other)
  | clock {next other : Time.Instant → Procedure α} :
      (∀ now later, Similar Q R (next now) (other later)) → Similar Q R (.clock next) (.clock other)
  | update {run copy : Run} {next other : Except Store.Error Unit → Procedure α} :
      Q run copy → (∀ result, Similar Q R (next result) (other result)) →
      Similar Q R (.update run next) (.update copy other)
  | announce {kind : Notification.EventKind} {run copy : Run} {next other : Procedure α} :
      Q run copy → Similar Q R next other →
      Similar Q R (.announce kind run next) (.announce kind copy other)

theorem Similar.bind {R : α → α → Prop} {S : β → β → Prop} {p q : Procedure α}
    {f g : α → Procedure β} (similar : Similar Q R p q)
    (rest : ∀ a b, R a b → Similar Q S (f a) (g b)) : Similar Q S (p.bind f) (q.bind g) := by
  induction similar with
  | done related => exact rest _ _ related
  | send _ ih => exact .send ih
  | poll _ ih => exact .poll ih
  | clock _ ih => exact .clock ih
  | update same _ ih => exact .update same ih
  | announce same _ ih => exact .announce same ih

theorem Similar.imp {R S : α → α → Prop} {p q : Procedure α} (similar : Similar Q R p q)
    (implies : ∀ a b, R a b → S a b) : Similar Q S p q := by
  rw [← p.bind_done, ← q.bind_done]
  exact similar.bind fun a b related => .done (implies a b related)

/-- Similar actions with related results. -/
def Alike (Q : Run → Run → Prop) (R : α → α → Prop) (action other : Action α) : Prop :=
  Similar Q (Paired R) action.run other.run

namespace Alike

variable {R : α → α → Prop} {S : β → β → Prop}

theorem pure {a b : α} (related : R a b) : Alike Q R (pure a) (pure b) :=
  .done (.ok related)

theorem except {result copy : Except Error α} (paired : Paired R result copy) :
    Alike Q R (liftM result) (liftM copy) := by
  cases paired with
  | ok related => exact .done (.ok related)
  | error => exact .done .error

theorem lift {p q : Procedure α} (similar : Similar Q R p q) : Alike Q R (liftM p) (liftM q) :=
  similar.bind fun _ _ related => .done (.ok related)

theorem bind {action other : Action α} {next copy : α → Action β} (first : Alike Q R action other)
    (rest : ∀ a b, R a b → Alike Q S (next a) (copy b)) :
    Alike Q S (action >>= next) (other >>= copy) := by
  refine Similar.bind first fun result copied paired => ?_
  cases paired with
  | error => exact .done .error
  | ok related => exact rest _ _ related

end Alike

end

/-! ### The requests of a run -/

def Whatever {α : Type} (_ _ : α) : Prop :=
  True

section
variable {Q : Run → Run → Prop} {run copy : Run}

theorem alike_persist (same : Q run copy) : Alike Q Whatever (persist run) (persist copy) := by
  rw [Alike, persist_run, persist_run]
  refine .update same fun result => .done ?_
  cases result with
  | ok u => exact .ok trivial
  | error error => exact .error

theorem alike_announce {kind : Notification.EventKind} (same : Q run copy) :
    Alike Q Whatever (announce kind run) (announce kind copy) :=
  .lift (.announce same (.done trivial))

theorem alike_now : Alike Q Whatever (liftM Procedure.now : Action Time.Instant)
    (liftM Procedure.now) :=
  .lift (.clock fun _ _ => .done trivial)

theorem alike_poll : Alike Q Eq (liftM Procedure.isCancelled : Action Bool)
    (liftM Procedure.isCancelled) :=
  .lift (.poll fun _ => .done rfl)

end

/-! ### Commands and stages -/

/-- Where two runs of a stage stand, with variables that agree and related records. -/
structure SameProgress (names : List String) (Q : Run → Run → Prop) (first second : Progress Run) :
    Prop where
  context : first.context.Agree names second.context
  collected : Q first.collected second.collected

/-- The same outcome, at places that correspond. -/
def SameOutcome {α : Type} (names : List String) (Q : Run → Run → Prop)
    (first second : α × Progress Run) : Prop :=
  first.1 = second.1 ∧ SameProgress names Q first.2 second.2

section
variable {names : List String} {Q : Run → Run → Prop} {settings : Settings} {cancellable : Bool}
  {stage : Stage} {index : Nat} {run copy : Run} {progress other : Progress Run}

theorem alike_isCancelled :
    Alike Q Eq (runner settings cancellable).isCancelled (runner settings cancellable).isCancelled := by
  cases cancellable with
  | true => exact alike_poll
  | false => exact .pure rfl

theorem alike_begin {branch : Option Step.Branch} {description : Option String}
    {template : String} :
    Alike Q (fun step other => step.untimed = other.untimed)
      (begin_ stage index branch description template)
      (begin_ stage index branch description template) :=
  .bind alike_now fun _ _ _ => .pure rfl

theorem similar_evaluate {command : Command} (mentions : command.MentionsOnly names)
    {step other : Step} {context copy : Template.Context} (same : step.untimed = other.untimed)
    (agree : context.Agree names copy) :
    Similar Q (SameAttempt names) (evaluate settings command step context)
      (evaluate settings command other copy) := by
  have resolved : context.resolve command.template = copy.resolve command.template :=
    agree.resolve (mentions _ List.mem_cons_self)
  cases outcome : copy.resolve command.template with
  | error fault =>
    rw [evaluate_of_unresolved (resolved.trans outcome), evaluate_of_unresolved outcome]
    exact .clock fun now later => .done ⟨congrArg (Step.fail · _ _) same, agree⟩
  | ok text =>
    rw [evaluate_of_resolved (resolved.trans outcome), evaluate_of_resolved outcome]
    have sent : ({ step with commandSent := text } : Step).untimed =
        ({ other with commandSent := text } : Step).untimed :=
      congrArg (fun step : Step => { step with commandSent := text }) same
    refine .send fun reply => .clock fun now later => .done ?_
    obtain ⟨received, agree⟩ := sameAttempt_receive sent agree mentions reply
    exact ⟨received, agree⟩

variable (bisimulation : Run.Bisimulation names Q)
include bisimulation

theorem alike_recordStep (same : Q run copy) {step other : Step}
    (sameStep : step.untimed = other.untimed) :
    Alike Q Q (recordStep run step) (recordStep copy other) := by
  have recorded : Paired Q (run.record step) (copy.record other) :=
    bisimulation.record same sameStep
  exact .bind (.except recorded) fun _ _ recorded =>
    .bind (alike_persist recorded) fun _ _ _ => .pure recorded

theorem alike_enter (same : Q run copy) (stage : Stage) :
    Alike Q Q (enter stage run) (enter stage copy) :=
  .bind (.except (bisimulation.enterStage same stage)) fun _ _ entered =>
    .bind (alike_persist entered) fun _ _ _ => .pure entered

theorem alike_runBranch {parent otherParent : Step} (sameParent : parent.untimed = otherParent.untimed)
    {arm : Arm} {branches : List BranchCommand}
    (mentions : ∀ branch ∈ branches, branch.toCommand.MentionsOnly names)
    (same : SameProgress names Q progress other) :
    Alike Q (SameOutcome names Q)
      ((runner settings cancellable).runBranch parent arm index branches progress)
      ((runner settings cancellable).runBranch otherParent arm index branches other) := by
  have atStage : parent.stage = otherParent.stage := (congrArg Step.stage sameParent :)
  have atIndex : parent.commandIndex = otherParent.commandIndex :=
    (congrArg Step.commandIndex sameParent :)
  induction branches generalizing index progress other with
  | nil => exact .pure ⟨rfl, same⟩
  | cons branch rest ih =>
    obtain ⟨here, later⟩ := List.forall_mem_cons.1 mentions
    rw [StageRunner.runBranch, StageRunner.runBranch, atStage, atIndex]
    refine .bind alike_isCancelled fun cancelled _ polled => ?_
    cases polled
    cases cancelled with
    | true => exact .pure ⟨rfl, same⟩
    | false =>
      refine .bind alike_begin fun fresh _ begun => ?_
      refine .bind (.lift (similar_evaluate here begun same.context)) fun attempt copied attempted => ?_
      obtain ⟨step, context⟩ := attempt
      obtain ⟨stepCopy, contextCopy⟩ := copied
      obtain ⟨sameStep, agree⟩ := attempted
      -- An error has no time in it, so both go on or neither does.
      have failure : step.error = stepCopy.error := (congrArg Step.error sameStep :)
      refine .bind (alike_recordStep bisimulation same.collected sameStep) fun _ _ recorded => ?_
      rw [failure]
      cases stepCopy.error with
      | some error => exact .pure ⟨rfl, agree, recorded⟩
      | none => exact ih later ⟨agree, recorded⟩

theorem alike_runFrom {commands : List Command}
    (mentions : ∀ command ∈ commands, command.MentionsOnly names)
    (same : SameProgress names Q progress other) :
    Alike Q (SameOutcome names Q)
      ((runner settings cancellable).runFrom stage index commands progress)
      ((runner settings cancellable).runFrom stage index commands other) := by
  induction commands generalizing index progress other with
  | nil => exact .pure ⟨rfl, same⟩
  | cons command rest ih =>
    obtain ⟨here, later⟩ := List.forall_mem_cons.1 mentions
    rw [StageRunner.runFrom, StageRunner.runFrom]
    refine .bind alike_isCancelled fun cancelled _ polled => ?_
    cases polled
    cases cancelled with
    | true => exact .pure ⟨rfl, same⟩
    | false =>
      refine .bind alike_begin fun fresh _ begun => ?_
      refine .bind (.lift (similar_evaluate here begun same.context)) fun attempt copied attempted => ?_
      obtain ⟨attempt, context⟩ := attempt
      obtain ⟨attemptCopy, contextCopy⟩ := copied
      obtain ⟨sameAttempt, agree⟩ := attempted
      -- Nor does a condition ask for the time, so both choose the same arm.
      have chosenAlike := chooseArm_congr sameAttempt agree here
      obtain ⟨⟨step, chosen⟩, choice⟩ : ∃ choice, chooseArm command attempt context = choice :=
        ⟨_, rfl⟩
      obtain ⟨⟨stepCopy, chosenCopy⟩, choiceCopy⟩ :
          ∃ choice, chooseArm command attemptCopy contextCopy = choice := ⟨_, rfl⟩
      simp only [choice, choiceCopy] at chosenAlike ⊢
      obtain ⟨sameStep, rfl⟩ := chosenAlike
      have failure : step.error = stepCopy.error := (congrArg Step.error sameStep :)
      refine .bind (alike_recordStep bisimulation same.collected sameStep) fun _ _ recorded => ?_
      rw [failure]
      cases stepCopy.error with
      | some error => exact .pure ⟨rfl, agree, recorded⟩
      | none =>
        cases chosen with
        | none => exact ih later ⟨agree, recorded⟩
        | some chosen =>
          have defined := (chooseArm_some choice).1
          have branches : ∀ branch ∈ chosen.1.commands chosen.2,
              branch.toCommand.MentionsOnly names := fun branch member =>
            here.branch defined member
          refine .bind (alike_runBranch bisimulation sameStep branches ⟨agree, recorded⟩)
            fun result copied branched => ?_
          obtain ⟨outcome, middle⟩ := result
          obtain ⟨outcomeCopy, middleCopy⟩ := copied
          obtain ⟨rfl, same⟩ := branched
          cases outcome with
          | completed => exact ih later same
          | cancelled => exact .pure ⟨rfl, same⟩
          | failed error => exact .pure ⟨rfl, same⟩

/-! ### Whole runs -/

theorem alike_finish (same : Q run copy) : Alike Q Q (finish run) (finish copy) := by
  refine .bind (alike_persist same) fun _ _ _ => ?_
  rw [bisimulation.status same]
  cases Notification.EventKind.terminal? copy.status with
  | none => exact .pure same
  | some kind => exact .bind (alike_announce same) fun _ _ _ => .pure same

theorem alike_finishBy (same : Q run copy) (operation : Run.Operation) :
    Alike Q Q (finishBy fun now => operation.apply now run)
      (finishBy fun now => operation.apply now copy) :=
  .bind alike_now fun now later _ =>
    .bind (.except (bisimulation.keeps same operation now later)) fun _ _ ended =>
      alike_finish bisimulation ended

variable {workflow : Workflow}
  (mentions : ∀ command ∈ workflow.allCommands, command.MentionsOnly names)
include mentions

theorem alike_runStage (same : SameProgress names Q progress other) :
    Alike Q (SameOutcome names Q)
      ((runner settings cancellable).run stage (workflow.commands stage) progress)
      ((runner settings cancellable).run stage (workflow.commands stage) other) :=
  alike_runFrom bisimulation (fun command member => mentions command (Workflow.mem_allCommands member))
    same

theorem alike_rollBack {failure : Failure} {context contextCopy : Template.Context}
    (agree : context.Agree names contextCopy) (same : Q run copy) :
    Alike Q Q (rollBack settings workflow run failure context)
      (rollBack settings workflow copy failure contextCopy) := by
  refine .bind (.except (bisimulation.rollBack same failure)) fun run copy rolling => ?_
  refine .bind (alike_persist rolling) fun _ _ _ => ?_
  cases workflow.hasRollback with
  | false => exact alike_finishBy bisimulation rolling (.fail none)
  | true =>
    refine .bind (alike_runStage bisimulation mentions ⟨agree, rolling⟩) fun result copied ran => ?_
    obtain ⟨outcome, progress⟩ := result
    obtain ⟨outcomeCopy, progressCopy⟩ := copied
    obtain ⟨rfl, same⟩ := ran
    cases outcome with
    | passed => exact alike_finishBy bisimulation same.collected .finishRollback
    | cancelled => exact alike_finishBy bisimulation same.collected .finishRollback
    | failed rollbackFailure =>
      exact alike_finishBy bisimulation same.collected (.fail (some rollbackFailure))

theorem alike_stageThen {next : Progress Run → Action Run}
    (same : SameProgress names Q progress other)
    (goesOn : ∀ first second : Progress Run, SameProgress names Q first second →
      Alike Q Q (next first) (next second)) :
    Alike Q Q (stageThen settings workflow stage next progress)
      (stageThen settings workflow stage next other) := by
  refine .bind (alike_runStage bisimulation mentions same) fun result copied ran => ?_
  obtain ⟨outcome, progress⟩ := result
  obtain ⟨outcomeCopy, progressCopy⟩ := copied
  obtain ⟨rfl, same⟩ := ran
  cases outcome with
  | passed => exact goesOn progress progressCopy same
  | cancelled => exact alike_finishBy bisimulation same.collected .cancel
  | failed failure => exact alike_rollBack bisimulation mentions same.context same.collected

theorem alike_forwardFrom {stages : List Stage} (same : SameProgress names Q progress other) :
    Alike Q Q (forwardFrom settings workflow stages progress)
      (forwardFrom settings workflow stages other) := by
  induction stages generalizing progress other with
  | nil => exact alike_finishBy bisimulation same.collected .complete
  | cons stage rest ih =>
    rw [forwardFrom, forwardFrom]
    by_cases first : stage = .preCheck
    · rw [if_pos first, if_pos first]
      exact alike_stageThen bisimulation mentions same fun _ _ => ih
    · rw [if_neg first, if_neg first]
      refine .bind alike_poll fun cancelled _ polled => ?_
      cases polled
      cases cancelled with
      | true => exact alike_finishBy bisimulation same.collected .cancel
      | false =>
        refine .bind (alike_enter bisimulation same.collected stage) fun _ _ entered => ?_
        exact alike_stageThen bisimulation mentions ⟨same.context, entered⟩ fun _ _ => ih

/-- Related records are carried out alike, where the relation covers all that the workflow mentions. -/
theorem alike_execute_of_bisimulation (settings : Settings) (same : Q run copy) :
    Alike Q Q (execute settings workflow run) (execute settings workflow copy) := by
  refine .bind alike_poll fun cancelled _ polled => ?_
  cases polled
  cases cancelled with
  | true => exact alike_finishBy bisimulation same .cancel
  | false =>
    refine .bind alike_now fun now later _ => ?_
    refine .bind (.except (bisimulation.keeps same (.start .preCheck) now later)) fun run copy started => ?_
    refine .bind (alike_persist started) fun _ _ _ => ?_
    refine .bind (alike_announce started) fun _ _ _ => ?_
    exact alike_forwardFrom bisimulation mentions ⟨⟨bisimulation.parameters started, rfl⟩, started⟩

end

theorem alike_execute (settings : Settings) (workflow : Workflow) {run copy : Run}
    (same : run.outline = copy.outline) :
    Similar (fun run copy => run.outline = copy.outline)
      (fun result copied => result.map Run.outline = copied.map Run.outline)
      (execute settings workflow run).run (execute settings workflow copy).run :=
  (alike_execute_of_bisimulation (Run.bisimulation_outline workflow.requiredParameters)
    (fun _ => Workflow.mentionsOnly_requiredParameters) settings same).imp
    fun _ _ => paired_map_iff.1

end Runbook.Execution
