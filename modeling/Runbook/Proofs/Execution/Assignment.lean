import Runbook.Proofs.Execution.Assurance
import Runbook.Proofs.Execution.Precedence

/-! Definite assignment: where every variable has a command ahead that is sure to bind it, no command
of the forward stages ever lacks one.

A command with a regular expression that has succeeded has bound its variable, if only to the empty
text. What was bound stays bound. So a step lacks a variable only if none of the commands that had to
succeed before it binds that variable.
-/

set_option autoImplicit false

namespace Runbook

namespace Template

def variableNames (template : String) : List String :=
  (tokens template).filterMap fun
    | .variable name => some name
    | .parameter _ => none

theorem mem_variableNames {template name : String} :
    name ∈ variableNames template ↔ .variable name ∈ tokens template := by
  rw [variableNames, List.mem_filterMap]
  constructor
  · rintro ⟨token, member, found⟩
    cases token with
    | «variable» other =>
      cases found
      exact member
    | parameter other => cases found
  · intro member
    exact ⟨.variable name, member, rfl⟩

end Template

/-- The variables of the texts that are resolved after the command: those of the parameter and of the
branches, and the one that is compared. -/
def Condition.variableNames (condition : Condition) : List String :=
  (match condition.test with
    | .variableEquals name _ => [name]
    | _ => []) ++
  (condition.test.template?.toList ++ condition.allCommands.map BranchCommand.template).flatMap
    Template.variableNames

namespace Command

/-- The variables that have to be there before the command, for its text and its rule. -/
def earlyVariables (command : Command) : List String :=
  (command.template :: (command.rule.map MatchRule.pattern).toList).flatMap Template.variableNames

/-- The variables that have to be there after it, for its condition and what follows that. -/
def lateVariables (command : Command) : List String :=
  match command.condition with
  | none => []
  | some condition => condition.variableNames

/-- Every variable of a command is bound by a command before it, or by itself where that is early
enough. -/
def IsAssigned (command : Command) (before : List Command) : Prop :=
  (∀ name ∈ command.earlyVariables, ∃ binder ∈ before, binder.Binds name) ∧
    ∀ name ∈ command.lateVariables, command.Binds name ∨ ∃ binder ∈ before, binder.Binds name

section
variable {command : Command} {condition : Condition} {name template : String}

theorem mem_earlyVariables (mentioned : .variable name ∈ Template.tokens command.template) :
    name ∈ command.earlyVariables := by
  rw [earlyVariables, List.flatMap_cons, List.mem_append]
  exact .inl (Template.mem_variableNames.2 mentioned)

theorem rule_mem_earlyVariables {rule : MatchRule} (defined : command.rule = some rule)
    (mentioned : .variable name ∈ Template.tokens rule.pattern) : name ∈ command.earlyVariables := by
  rw [earlyVariables, defined]
  exact List.mem_flatMap.2 ⟨rule.pattern, by simp, Template.mem_variableNames.2 mentioned⟩

theorem compared_mem_lateVariables {value : String} (defined : command.condition = some condition)
    (tested : condition.test = .variableEquals name value) : name ∈ command.lateVariables := by
  simp [lateVariables, Condition.variableNames, defined, tested]

theorem condition_mem_lateVariables (defined : command.condition = some condition)
    (compared : condition.test.template? = some template)
    (mentioned : .variable name ∈ Template.tokens template) : name ∈ command.lateVariables := by
  rw [lateVariables, defined]
  have own := Template.mem_variableNames.2 mentioned
  exact List.mem_append_right _ (List.mem_flatMap.2 ⟨template, by simp [compared], own⟩)

theorem branch_mem_lateVariables {arm : Arm} {branch : BranchCommand}
    (defined : command.condition = some condition) (member : branch ∈ condition.commands arm)
    (needed : name ∈ branch.toCommand.earlyVariables) : name ∈ command.lateVariables := by
  obtain ⟨template, listed, mentioned⟩ := List.mem_flatMap.1 needed
  cases List.mem_singleton.1 listed
  have listed := condition.commands_subset arm member
  rw [lateVariables, defined]
  refine List.mem_append_right _ (List.mem_flatMap.2 ⟨branch.template, ?_, mentioned⟩)
  exact List.mem_append_right _ (List.mem_map_of_mem listed)

end

variable (command : Command) (name : String) (before : List Command)

instance : Decidable (command.Binds name) :=
  inferInstanceAs (Decidable (_ ∧ _))

instance : Decidable (command.IsAssigned before) :=
  inferInstanceAs (Decidable (_ ∧ _))

end Command

namespace Workflow

def commandsBefore (workflow : Workflow) (stage : Stage) (index : Nat) : List Command :=
  (Stage.forward.filter fun earlier => earlier.rank < stage.rank).flatMap workflow.commands ++
    (workflow.commands stage).take index

/-- Every variable of a forward stage is bound by a command ahead of its use. -/
def IsAssigned (workflow : Workflow) : Prop :=
  ∀ stage ∈ Stage.forward, ∀ (index : Nat) (bound : index < (workflow.commands stage).length),
    (workflow.commands stage)[index].IsAssigned (workflow.commandsBefore stage index)

instance (workflow : Workflow) : Decidable workflow.IsAssigned :=
  inferInstanceAs (Decidable (∀ stage ∈ Stage.forward, _))

end Workflow

/-! ### What stays bound -/

namespace Workflow

variable {workflow : Workflow} {name : String}

theorem contains_noteStep {bound : Bindings} (present : bound.contains name = true) (step : Step) :
    (workflow.noteStep bound step).contains name = true := by
  unfold noteStep
  split
  · unfold Command.note
    split
    · rw [Table.contains, Table.get?_insert]
      split
      · rfl
      · exact present
    · exact present
  · exact present

theorem contains_variablesAfter {before : List Step}
    (present : (workflow.variablesAfter before).contains name = true) (more : List Step) :
    (workflow.variablesAfter (before ++ more)).contains name = true := by
  induction more generalizing before with
  | nil => rwa [List.append_nil]
  | cons step rest ih =>
    have here : (workflow.variablesAfter (before ++ [step])).contains name = true := by
      rw [variablesAfter_append_singleton]
      exact contains_noteStep present step
    have later := ih here
    rwa [List.append_assoc] at later

end Workflow

namespace Execution

section
variable {settings : Settings} {workflow : Workflow} {parameters : Bindings} {command : Command}
  {context later : Template.Context} {fresh step attempted : Step} {dialogue : List Exchange}
  {before : List Step} {name : String}

/-! ### What a command binds -/

theorem Judgement.bound_of_binds {answered : Step}
    (judgement : Judgement command answered context attempted later) (binds : command.Binds name)
    (unmatched : answered.matched = false) (matched : attempted.matched = true)
    (kind : ∀ error, attempted.error = some error → error.kind ≠ .exitCodeMismatch) :
    later.bound.contains name = true := by
  cases judgement with
  | unresolved => cases matched.symm.trans unmatched
  | invalid => cases matched.symm.trans unmatched
  | unsatisfied => cases matched
  | mismatched => exact absurd rfl (kind _ rfl)
  | plain unbound => exact absurd binds (unbound name)
  | @bound other value same =>
    rw [same.unique binds, Template.Context.bind, Table.contains, Table.get?_insert, if_pos rfl]
    rfl

theorem Attempt.bound (attempt : Attempt settings command fresh context dialogue attempted later)
    (binds : command.Binds name) (unmatched : fresh.matched = false)
    (matched : attempted.matched = true)
    (kind : ∀ error, attempted.error = some error → error.kind ≠ .exitCodeMismatch) :
    later.bound.contains name = true := by
  cases attempt with
  | unresolved => cases matched.symm.trans unmatched
  | @answered text reply now =>
    cases reply with
    | error error => cases matched.symm.trans unmatched
    | ok output =>
      let sent : Step := { fresh with commandSent := text }
      have unsettled : sent.matched = false := unmatched
      exact (judgement command sent context output).bound_of_binds binds unsettled matched kind

/-- After a step that has matched its variable is bound, whatever else is wrong with the step but its
exit code. -/
theorem Arisen.bound (arisen : Arisen settings workflow parameters before step)
    (own : workflow.specOf step = some command) (binds : command.Binds name)
    (matched : step.matched = true)
    (kind : ∀ error, step.error = some error → error.kind ≠ .exitCodeMismatch) :
    (workflow.variablesAfter (before ++ [step])).contains name = true := by
  cases arisen with
  | @mk _ _ _ other _ _ attempted _ chosen same attempt choice =>
    cases own.symm.trans same
    have only := chooseArm_step choice
    have attemptMatched : attempted.matched = true := by
      rw [only] at matched
      exact matched
    refine attempt.bound binds rfl attemptMatched fun error failed => ?_
    -- A condition is not asked after an error, so the error is that of the step.
    have unchosen := chooseArm_of_error failed choice
    exact kind error (unchosen ▸ failed)

theorem Arisen.matched (arisen : Arisen settings workflow parameters before step)
    (success : step.error = none) : step.matched = true := by
  cases arisen with
  | @mk _ _ _ _ _ _ attempted _ chosen own attempt choice =>
    have only := chooseArm_step choice
    have same : step.matched = attempted.matched := by rw [only]
    rw [same]
    refine (attempt.judged rfl rfl).matched ?_
    cases outcome : attempted.error with
    | none => rfl
    | some error =>
      rw [chooseArm_of_error outcome choice, outcome] at success
      cases success

/-! ### What the commands ahead have bound -/

theorem bound_of_passed {stage : Stage} {index : Nat} {binder : Command}
    (arisen : Along (Arisen settings workflow parameters) [] before)
    (passed : Passed before stage index)
    (present : (workflow.commands stage)[index]? = some binder) (binds : binder.Binds name) :
    (workflow.variablesAfter before).contains name = true := by
  obtain ⟨step, member, rfl, rfl, plain, success⟩ := passed
  obtain ⟨earlier, later, rfl⟩ := List.append_of_mem member
  have here : Arisen settings workflow parameters earlier step := arisen earlier step later rfl
  have own : workflow.specOf step = some binder := by
    rw [Workflow.specOf, plain]
    exact present
  have unfailed (error : Step.Error) (failed : step.error = some error) :
      error.kind ≠ .exitCodeMismatch := by
    rw [success] at failed
    cases failed
  have bound := here.bound own binds (here.matched success) unfailed
  have kept := Workflow.contains_variablesAfter bound later
  rwa [List.append_assoc] at kept

/-- How a step of a forward stage was reached: every step has come about after those before it, and all
commands ahead have been passed. -/
structure Reached (settings : Settings) (workflow : Workflow) (parameters : Bindings)
    (before : List Step) (step : Step) : Prop where
  forward : step.stage ∈ Stage.forward
  past : Along (Arisen settings workflow parameters) [] before
  arisen : Arisen settings workflow parameters before step
  preceded : Preceded workflow before step

namespace Reached

theorem bound_of_ahead (reached : Reached settings workflow parameters before step)
    (ahead : ∃ binder ∈ workflow.commandsBefore step.stage step.commandIndex, binder.Binds name) :
    (workflow.variablesAfter before).contains name = true := by
  obtain ⟨binder, member, binds⟩ := ahead
  rcases List.mem_append.1 member with earlier | here
  · obtain ⟨stage, lower, listed⟩ := List.mem_flatMap.1 earlier
    have lower := of_decide_eq_true (List.mem_filter.1 lower).2
    obtain ⟨index, bound, found⟩ := List.mem_iff_getElem.1 listed
    have passed := reached.preceded reached.forward stage index bound (.inl lower)
    exact bound_of_passed reached.past passed (List.getElem?_eq_some_iff.2 ⟨bound, found⟩) binds
  · obtain ⟨index, bound, found⟩ := List.mem_take_iff_getElem.1 here
    obtain ⟨below, bound⟩ := Nat.lt_min.1 bound
    have passed := reached.preceded reached.forward step.stage index bound (.inr ⟨rfl, .inl below⟩)
    exact bound_of_passed reached.past passed (List.getElem?_eq_some_iff.2 ⟨bound, found⟩) binds

theorem bound_of_parent (reached : Reached settings workflow parameters before step)
    {parent : Command} (below : step.branch.isSome = true)
    (own : workflow.commandOf step = some parent) (binds : parent.Binds name) :
    (workflow.variablesAfter before).contains name = true := by
  obtain ⟨bound, -⟩ := List.getElem?_eq_some_iff.1 own
  have behind : step.IsBehind step.commandIndex := .inr ⟨rfl, below⟩
  have passed := reached.preceded reached.forward step.stage step.commandIndex bound (.inr ⟨rfl, behind⟩)
  exact bound_of_passed reached.past passed own binds

theorem assigned (reached : Reached settings workflow parameters before step)
    (assigned : workflow.IsAssigned) {parent : Command}
    (own : workflow.commandOf step = some parent) :
    parent.IsAssigned (workflow.commandsBefore step.stage step.commandIndex) := by
  obtain ⟨bound, found⟩ := List.getElem?_eq_some_iff.1 own
  exact found ▸ assigned step.stage reached.forward step.commandIndex bound

theorem early (reached : Reached settings workflow parameters before step)
    (assigned : workflow.IsAssigned) (own : workflow.specOf step = some command)
    (needed : name ∈ command.earlyVariables) :
    (workflow.variablesAfter before).contains name = true := by
  rcases Workflow.specOf_cases own with
    ⟨-, found⟩ | ⟨parent, condition, arm, branch, below, found, defined, member, rfl⟩
  · exact reached.bound_of_ahead ((reached.assigned assigned found).1 name needed)
  · -- The text of a branch command is among the late ones of the command above it.
    have late := Command.branch_mem_lateVariables defined member needed
    rcases (reached.assigned assigned found).2 name late with binds | ahead
    · exact reached.bound_of_parent below found binds
    · exact reached.bound_of_ahead ahead

theorem late (reached : Reached settings workflow parameters before step)
    (assigned : workflow.IsAssigned) (own : workflow.specOf step = some command)
    (matched : step.matched = true)
    (kind : ∀ error, step.error = some error → error.kind ≠ .exitCodeMismatch)
    (needed : name ∈ command.lateVariables) :
    (workflow.variablesAfter (before ++ [step])).contains name = true := by
  rcases Workflow.specOf_cases own with ⟨-, found⟩ | ⟨_, _, _, branch, -, -, -, -, rfl⟩
  · rcases (reached.assigned assigned found).2 name needed with binds | ahead
    · exact reached.arisen.bound own binds matched kind
    · exact Workflow.contains_variablesAfter (reached.bound_of_ahead ahead) [step]
  · -- A branch command has no condition.
    cases needed

theorem kind_ne_variableResolution (reached : Reached settings workflow parameters before step)
    (valid : workflow.validateInvocation parameters = .ok ()) (assigned : workflow.IsAssigned)
    {error : Step.Error} (failed : step.error = some error) : error.kind ≠ .variableResolution := by
  intro kind
  obtain ⟨command, own, cause⟩ := reached.arisen.cause failed
  cases cause with
  | unresolved absent =>
    obtain ⟨name, mentioned, -, missing⟩ := lacks_of_spec valid own List.mem_cons_self absent
    have bound := reached.early assigned own (Command.mem_earlyVariables mentioned)
    exact Option.isSome_iff_ne_none.1 bound missing
  | unresolvedRule defined absent =>
    have listed := Command.rule_mem_templates defined
    obtain ⟨name, mentioned, -, missing⟩ := lacks_of_spec valid own listed absent
    have bound := reached.early assigned own (Command.rule_mem_earlyVariables defined mentioned)
    exact Option.isSome_iff_ne_none.1 bound missing
  | condition defined matched unanswered =>
    -- The condition sees what its own command has bound, even though the step fails now.
    have unlike (other : Step.Error) (found : step.error = some other) :
        other.kind ≠ .exitCodeMismatch := by
      cases failed.symm.trans found
      rw [kind]
      decide
    have late {name : String} (needed : name ∈ command.lateVariables) :=
      reached.late assigned own matched unlike needed
    cases unanswered with
    | unresolved compared absent =>
      have listed := Command.condition_mem_templates defined compared
      obtain ⟨name, mentioned, -, missing⟩ := lacks_of_spec valid own listed absent
      have bound := late (Command.condition_mem_lateVariables defined compared mentioned)
      exact Option.isSome_iff_ne_none.1 bound missing
    | unbound tested missing =>
      have bound := late (Command.compared_mem_lateVariables defined tested)
      exact Option.isSome_iff_ne_none.1 bound missing
    | invalid => cases kind
  | device error =>
    dsimp only at kind
    split at kind <;> cases kind
  | invalidRule => cases kind
  | rejected rejection => cases rejection <;> cases kind

end Reached

end

section
variable {σ : Type} {world : World σ} {s : σ} {settings : Settings} {workflow : Workflow}
  {id : RunId} {workflowId : WorkflowId} {deviceId : DeviceId} {parameters : Bindings}
  {createdAt : Time.Instant} {record : Run}

theorem IsRecordOf.reached (recorded : IsRecordOf world s settings workflow
    (.new id workflowId deviceId parameters createdAt) record) {before after : List Step}
    {step : Step} (split : record.steps = before ++ step :: after)
    (forward : step.stage ∈ Stage.forward) :
    Reached settings workflow parameters before step where
  forward := forward
  past := (recorded.arisen rfl rfl).of_isPrefix (split ▸ List.prefix_append _ _)
  arisen := recorded.arisen rfl rfl before step after split
  preceded := recorded.preceded before step after split

/-- Where every variable is bound ahead of its use, no command of a forward stage ever lacks one. -/
theorem assigned_never_unresolved (valid : workflow.validateInvocation parameters = .ok ())
    (assigned : workflow.IsAssigned)
    (recorded : IsRecordOf world s settings workflow
      (.new id workflowId deviceId parameters createdAt) record) :
    ∀ step ∈ record.steps, step.stage ∈ Stage.forward → ∀ error, step.error = some error →
      error.kind ≠ .variableResolution := by
  intro step member forward error failed
  obtain ⟨before, after, split⟩ := List.append_of_mem member
  exact (recorded.reached split forward).kind_ne_variableResolution valid assigned failed

end

namespace Bench

/-! A workflow that is sure of its variable, though what it reads may be empty. Only its rollback asks
for one that nothing binds. -/

def sure : Workflow where
  id := ⟨"sure", by decide⟩
  name := "Sure"
  preCheck := [{
    template := "show slot"
    rule := some ⟨.matches, "slot ([0-9])?"⟩
    binding := some ⟨"slot", none⟩
    condition := some {
      test := .variableEquals "slot" "1", elseCommands := [{ template := "clear {slot}" }] } }]
  implementation := [{ template := "load {slot}", rule := some ⟨.startsWith, "slot {slot}"⟩ }]
  rollback := [{ template := "restore {backup}" }]

def vacant : Answers :=
  fun _ command _ => .ok ⟨if command = "show slot" then "slot ?" else "denied", none⟩

def sureRun : Run :=
  .new (.ofSerial 1) sure.id ⟨"bench"⟩ .empty ⟨0, 0⟩

end Bench

/-- On the bench the variable is bound to the empty text, and it is the rollback that lacks one. -/
theorem assigned_never_unresolved_on_bench :
    ∃ record, ((execute {} Bench.sure Bench.sureRun).run.runIn
        (Bench.world Bench.vacant none) {}).1 = .ok record ∧
      record.steps.map (fun step => (step.commandSent, step.error.map Step.Error.kind)) =
        [("show slot", none), ("clear ", none), ("load ", some .matchFailure),
          ("", some .variableResolution)] ∧
      ∀ step ∈ record.steps, step.stage ∈ Stage.forward → ∀ error, step.error = some error →
        error.kind ≠ .variableResolution := by
  have valid : Bench.sure.validateInvocation .empty = .ok () := by decide +kernel
  have assigned : Bench.sure.IsAssigned := by decide +kernel
  have pending : Bench.sureRun.status = .pending := rfl
  obtain ⟨record, returned⟩ := returns_of_storesAll {} Bench.sure
    (Bench.storesAll Bench.vacant none) pending {}
  have steps : ((execute {} Bench.sure Bench.sureRun).run.runIn
      (Bench.world Bench.vacant none) {}).1.toOption.map (fun record => record.steps.map fun step =>
        (step.commandSent, step.error.map Step.Error.kind)) =
          some [("show slot", none), ("clear ", none), ("load ", some .matchFailure),
            ("", some .variableResolution)] := by
    decide +kernel
  rw [returned] at steps
  exact ⟨record, returned, Option.some.inj steps,
    assigned_never_unresolved valid assigned (.inr returned)⟩

end Execution

end Runbook
