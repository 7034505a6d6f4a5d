import Runbook.Proofs.Execution.Bench
import Runbook.Proofs.Execution.Cause
import Runbook.Proofs.Pattern.Literal
import Runbook.Proofs.Template.Resolution
import Runbook.Proofs.Workflow.Validation

/-! What the checks of an invocation rule out in its run: that a parameter is missing, and that a pattern
is broken unless a variable has broken it.

The checks look at texts that are listed beforehand, a run at those that it comes to. Every text that a
step can come to is on the list of its command, or of the command above it.
-/

set_option autoImplicit false

namespace Runbook

/-- A variable that a command asks for: by a token in one of its texts, or to compare it. -/
def Command.Asks (command : Command) (name : String) : Prop :=
  (∃ template ∈ command.templates, .variable name ∈ Template.tokens template) ∨
    ∃ condition value, command.condition = some condition ∧
      condition.test = .variableEquals name value

theorem Workflow.parent_of_spec {workflow : Workflow} {step : Step} {command : Command}
    (own : workflow.specOf step = some command) :
    ∃ parent ∈ workflow.allCommands, command.templates ⊆ parent.templates ∧
      ∀ template, command.IsRegexText template → parent.IsRegexText template := by
  have listed {parent : Command} (found : workflow.commandOf step = some parent) :
      parent ∈ workflow.allCommands :=
    mem_allCommands (List.mem_of_getElem? found)
  rcases specOf_cases own with
    ⟨-, found⟩ | ⟨parent, condition, arm, branch, -, found, defined, member, rfl⟩
  · exact ⟨command, listed found, List.Subset.refl _, fun _ regex => regex⟩
  · refine ⟨parent, listed found, ?_, ?_⟩
    · have below := Command.branch_mem_templates defined member
      exact List.cons_subset.2 ⟨below, List.nil_subset _⟩
    · rintro template (⟨rule, absent, -⟩ | ⟨other, absent, -⟩) <;> cases absent

namespace Execution

/-! ### Texts without a value -/

/-- A message is about this fault, by itself or as what kept a text from its value. -/
def IsAbout (message : String) (fault : Template.Fault) : Prop :=
  message = unresolvedMessage fault ∨ message = fault.message

theorem toList_unresolvedMessage (fault : Template.Fault) :
    (unresolvedMessage fault).toList =
      "Variable resolution failed: ".toList ++ fault.message.toList :=
  String.toList_append

theorem toList_unboundVariable (name : String) :
    ∃ rest, (Template.Fault.unboundVariable name).message.toList = "Variable '".toList ++ rest := by
  refine ⟨name.toList ++ "' is not bound".toList, ?_⟩
  rw [← String.toList_append, ← String.toList_append]
  rfl

theorem toList_missingParameter (name : String) :
    ∃ rest, (Template.Fault.missingParameter name).message.toList =
      "Dynamic parameter '".toList ++ rest := by
  refine ⟨name.toList ++ "' was not supplied".toList, ?_⟩
  rw [← String.toList_append, ← String.toList_append]
  rfl

theorem not_about_missing {message name missing : String}
    (about : IsAbout message (.unboundVariable name)) :
    ¬IsAbout message (.missingParameter missing) := by
  intro other
  obtain ⟨own, unbound⟩ := toList_unboundVariable name
  obtain ⟨others, unsupplied⟩ := toList_missingParameter missing
  -- The four messages begin differently.
  rcases about with rfl | rfl <;> rcases other with same | same <;>
    have texts := congrArg String.toList same <;>
    simp [toList_unresolvedMessage, unbound, unsupplied] at texts

section
variable {workflow : Workflow} {parameters : Bindings} {step : Step} {command : Command}
  {before later : List Step} {matched : Bool} {error : Step.Error}

theorem lacks_of_spec {template : String} {fault : Template.Fault}
    (valid : workflow.validateInvocation parameters = .ok ())
    (own : workflow.specOf step = some command) (listed : template ∈ command.templates)
    (failed : (contextAfter workflow parameters before).resolve template = .error fault) :
    ∃ name, .variable name ∈ Template.tokens template ∧ fault = .unboundVariable name ∧
      (workflow.variablesAfter before).get? name = none := by
  obtain ⟨parent, member, templates, -⟩ := Workflow.parent_of_spec own
  have supplied : ∀ name ∈ Template.parameters template, parameters.contains name = true :=
    fun _ => Workflow.supplied_of_valid valid member (templates listed)
  exact Template.Context.unbound_of_resolve supplied failed

theorem unbound_of_spec {template : String} {fault : Template.Fault}
    (valid : workflow.validateInvocation parameters = .ok ())
    (own : workflow.specOf step = some command) (listed : template ∈ command.templates)
    (failed : (contextAfter workflow parameters before).resolve template = .error fault) :
    ∃ name, fault = .unboundVariable name ∧ command.Asks name ∧
      (workflow.variablesAfter before).get? name = none := by
  obtain ⟨name, mentioned, same, absent⟩ := lacks_of_spec valid own listed failed
  exact ⟨name, same, .inl ⟨template, listed, mentioned⟩, absent⟩

theorem Cause.names_variable
    (cause : Cause command (contextAfter workflow parameters before)
      (contextAfter workflow parameters later) matched error)
    (unbound : matched = false →
      contextAfter workflow parameters later = contextAfter workflow parameters before)
    (valid : workflow.validateInvocation parameters = .ok ())
    (own : workflow.specOf step = some command) (kind : error.kind = .variableResolution) :
    ∃ name, command.Asks name ∧ (workflow.variablesAfter later).get? name = none ∧
      IsAbout error.message (.unboundVariable name) := by
  cases cause with
  | unresolved failed unmatched =>
    -- Before the output has matched nothing is bound, so the variables are those from before the step.
    rw [← unbound unmatched] at failed
    obtain ⟨name, rfl, asks, absent⟩ := unbound_of_spec valid own List.mem_cons_self failed
    exact ⟨name, asks, absent, .inl rfl⟩
  | unresolvedRule defined failed unmatched =>
    rw [← unbound unmatched] at failed
    have listed := Command.rule_mem_templates defined
    obtain ⟨name, rfl, asks, absent⟩ := unbound_of_spec valid own listed failed
    exact ⟨name, asks, absent, .inl rfl⟩
  | condition defined _ unanswered =>
    cases unanswered with
    | unresolved compared failed =>
      have listed := Command.condition_mem_templates defined compared
      obtain ⟨name, rfl, asks, absent⟩ := unbound_of_spec valid own listed failed
      exact ⟨name, asks, absent, .inl rfl⟩
    | @unbound name value tested absent =>
      exact ⟨name, .inr ⟨_, value, defined, tested⟩, absent, .inr rfl⟩
    | invalid => cases kind
  | device error =>
    dsimp only at kind
    split at kind <;> cases kind
  | invalidRule => cases kind
  | rejected rejection => cases rejection <;> cases kind

end

/-! ### Texts that do not compile -/

/-- A text that is compiled for a step, behind the template it comes from: that of the rule with the
variables before the step, that of the condition with those after it. -/
inductive Compiled (command : Command) (context later : Template.Context) :
    Bool → String → String → Prop
  | rule {rule : MatchRule} {text : String} :
      command.rule = some rule → rule.operator = .matches →
      context.resolve rule.pattern = .ok text →
      Compiled command context later false rule.pattern text
  | condition {condition : Condition} {template text : String} :
      command.condition = some condition → condition.effectiveOperator = .matches →
      condition.test.template? = some template → later.resolve template = .ok text →
      Compiled command context later true template text

section
variable {command : Command} {context later : Template.Context} {matched : Bool}
  {template text : String} {error : Step.Error}

theorem Compiled.isRegexText (compiled : Compiled command context later matched template text) :
    command.IsRegexText template := by
  cases compiled with
  | rule defined regex => exact .inl ⟨_, defined, regex, rfl⟩
  | condition defined regex own => exact .inr ⟨_, defined, regex, own⟩

/-- An exit code is always a pattern, so it is the text of a rule or of a condition that is broken. -/
theorem Cause.compiled (cause : Cause command context later matched error)
    (kind : error.kind = .invalidPattern) :
    ∃ template text invalid, Compiled command context later matched template text ∧
      Pattern.ofText text = .error invalid ∧
      error.message = (Error.validation invalid.message).message := by
  cases cause with
  | invalidRule defined regex resolved broken unmatched =>
    subst unmatched
    exact ⟨_, _, _, .rule defined regex resolved, broken, rfl⟩
  | condition defined holds unanswered =>
    subst holds
    cases unanswered with
    | invalid regex compares broken =>
      cases compares with
      | template own resolved => exact ⟨_, _, _, .condition defined regex own resolved, broken, rfl⟩
      | @exitCode exitCode tested =>
        -- The digits of an exit code always compile.
        obtain ⟨pattern, compiles⟩ := Pattern.ofText_toString exitCode
        rw [compiles] at broken
        cases broken
    | unresolved => cases kind
    | unbound => cases kind
  | device error =>
    dsimp only at kind
    split at kind <;> cases kind
  | unresolved => cases kind
  | unresolvedRule => cases kind
  | rejected rejection => cases rejection <;> cases kind

theorem Compiled.eq_preview (compiled : Compiled command context later matched template text)
    {parameters : Bindings} (here : context.parameters = parameters)
    (there : later.parameters = parameters) (plain : ¬Template.HasVariable template) :
    text = Template.preview parameters template := by
  cases compiled with
  | rule _ _ resolved => exact here ▸ Template.Context.resolve_eq_preview plain resolved
  | condition _ _ _ resolved => exact there ▸ Template.Context.resolve_eq_preview plain resolved

end

/-! ### Runs that were checked -/

section
variable {settings : Settings} {workflow : Workflow} {parameters : Bindings} {step : Step}
  {command : Command} {before later : List Step} {matched : Bool} {template text : String}
  {invalid : InvalidPattern} {error : Step.Error}

theorem Compiled.hasVariable
    (compiled : Compiled command (contextAfter workflow parameters before)
      (contextAfter workflow parameters later) matched template text)
    (valid : workflow.validateInvocation parameters = .ok ())
    (own : workflow.specOf step = some command) (broken : Pattern.ofText text = .error invalid) :
    Template.HasVariable template := by
  by_contra plain
  obtain ⟨parent, member, -, regexes⟩ := Workflow.parent_of_spec own
  have regex := regexes template compiled.isRegexText
  obtain ⟨pattern, compiles⟩ := Workflow.compiles_of_valid valid member regex
  have previewed : text = Template.preview parameters template :=
    compiled.eq_preview rfl rfl plain
  rw [← previewed, broken] at compiles
  cases compiles

theorem Arisen.compiled (arisen : Arisen settings workflow parameters before step)
    (valid : workflow.validateInvocation parameters = .ok ()) (failed : step.error = some error)
    (kind : error.kind = .invalidPattern) :
    ∃ command template text invalid, workflow.specOf step = some command ∧
      Compiled command (contextAfter workflow parameters before)
        (contextAfter workflow parameters (before ++ [step])) step.matched template text ∧
      Pattern.ofText text = .error invalid ∧
      error.message = (Error.validation invalid.message).message ∧
      Template.HasVariable template := by
  obtain ⟨command, own, cause⟩ := arisen.cause failed
  obtain ⟨template, text, invalid, compiled, broken, message⟩ := cause.compiled kind
  have uses := compiled.hasVariable valid own broken
  exact ⟨command, template, text, invalid, own, compiled, broken, message, uses⟩

theorem Arisen.kind_ne_invalidPattern (arisen : Arisen settings workflow parameters before step)
    (valid : workflow.validateInvocation parameters = .ok ())
    (plain : ∀ command ∈ workflow.allCommands, ∀ template, command.IsRegexText template →
      ¬Template.HasVariable template)
    (failed : step.error = some error) : error.kind ≠ .invalidPattern := by
  intro kind
  obtain ⟨command, template, text, invalid, own, compiled, -, -, uses⟩ :=
    arisen.compiled valid failed kind
  obtain ⟨parent, listed, -, regexes⟩ := Workflow.parent_of_spec own
  exact plain parent listed template (regexes template compiled.isRegexText) uses

end

section
variable {σ : Type} {world : World σ} {s : σ} {settings : Settings} {workflow : Workflow}
  {id : RunId} {workflowId : WorkflowId} {deviceId : DeviceId} {parameters : Bindings}
  {createdAt : Time.Instant} {record : Run}

/-- After a checked invocation, a text without a value lacks a variable that its command asks for and
that no step has bound, never a parameter. -/
theorem unresolved_lacks_variable (valid : workflow.validateInvocation parameters = .ok ())
    (recorded : IsRecordOf world s settings workflow
      (.new id workflowId deviceId parameters createdAt) record) :
    (∀ before step after error, record.steps = before ++ step :: after → step.error = some error →
      error.kind = .variableResolution →
      ∃ command name, workflow.specOf step = some command ∧ command.Asks name ∧
        (workflow.variablesAfter (before ++ [step])).get? name = none ∧
        IsAbout error.message (.unboundVariable name) ∧
        ∀ missing, ¬IsAbout error.message (.missingParameter missing)) ∧
      Accounted record := by
  refine ⟨fun before step after error split failed kind => ?_, recorded.accounted⟩
  have arisen : Arisen settings workflow parameters before step :=
    recorded.arisen rfl rfl before step after split
  obtain ⟨command, own, cause⟩ := arisen.cause failed
  obtain ⟨name, asks, absent, about⟩ := cause.names_variable arisen.unbound valid own kind
  exact ⟨command, name, own, asks, absent, about, fun _ => not_about_missing about⟩

theorem unresolved_lacks_variable_on_bench :
    ∃ record before step error, ((execute {} Bench.workflow Bench.pending).run.runIn
        (Bench.world Bench.answers none) {}).1 = .ok record ∧
      record.steps = before ++ [step] ∧ step.error = some error ∧
      error.kind = .variableResolution ∧ step.template = "restore {backup}" ∧
      ∃ name, (Bench.workflow.variablesAfter record.steps).get? name = none ∧
        IsAbout error.message (.unboundVariable name) := by
  have valid : Bench.workflow.validateInvocation Bench.parameters = .ok () := by decide +kernel
  have pending : Bench.pending.status = .pending := rfl
  obtain ⟨record, returned⟩ := returns_of_storesAll {} Bench.workflow
    (Bench.storesAll Bench.answers none) pending {}
  have last : ((execute {} Bench.workflow Bench.pending).run.runIn
      (Bench.world Bench.answers none) {}).1.toOption.bind (fun record => record.steps.getLast?.bind
        fun step => step.error.map fun error => (error.kind, step.template)) =
          some (.variableResolution, "restore {backup}") := by
    decide +kernel
  rw [returned] at last
  obtain ⟨step, final, own⟩ := Option.bind_eq_some_iff.1 ((Option.bind_some ..).symm.trans last)
  obtain ⟨error, failed, same⟩ := Option.map_eq_some_iff.1 own
  obtain ⟨kind, template⟩ := Prod.mk.inj same
  obtain ⟨before, split⟩ := List.getLast?_eq_some_iff.1 final
  obtain ⟨named, -⟩ := unresolved_lacks_variable valid (.inr returned)
  obtain ⟨command, name, -, -, unbound, about, -⟩ := named before step [] error split failed kind
  exact ⟨record, before, step, error, returned, split, failed, kind, template, name, split ▸ unbound,
    about⟩

/-- After a checked invocation, only a text with a variable does not compile. -/
theorem invalid_pattern_has_variable (valid : workflow.validateInvocation parameters = .ok ())
    (recorded : IsRecordOf world s settings workflow
      (.new id workflowId deviceId parameters createdAt) record) :
    (∀ before step after error, record.steps = before ++ step :: after → step.error = some error →
      error.kind = .invalidPattern →
      ∃ command template text invalid, workflow.specOf step = some command ∧
        Compiled command (contextAfter workflow parameters before)
          (contextAfter workflow parameters (before ++ [step])) step.matched template text ∧
        Pattern.ofText text = .error invalid ∧
        error.message = (Error.validation invalid.message).message ∧
        Template.HasVariable template) ∧
      ((∀ command ∈ workflow.allCommands, ∀ template, command.IsRegexText template →
          ¬Template.HasVariable template) →
        (∀ step ∈ record.steps, ∀ error, step.error = some error → error.kind ≠ .invalidPattern) ∧
          ∀ failure, record.failure = some failure ∨ record.rollbackFailure = some failure →
            failure.kind ≠ .invalidPattern) := by
  have arisen := recorded.arisen rfl rfl
  refine ⟨fun before step after _ split => (arisen before step after split).compiled valid,
    fun plain => ?_⟩
  have never (step : Step) (member : step ∈ record.steps) (error : Step.Error)
      (failed : step.error = some error) : error.kind ≠ .invalidPattern := by
    obtain ⟨before, after, split⟩ := List.append_of_mem member
    exact (arisen before step after split).kind_ne_invalidPattern valid plain failed
  refine ⟨never, fun failure present => ?_⟩
  -- Every failure of the record is that of a step, so what no step has no failure has.
  obtain ⟨step, member, stands⟩ := recorded.accounted failure present
  obtain ⟨error, failed, rfl⟩ := Option.map_eq_some_iff.1 stands
  exact never step member error failed

end

namespace Bench

/-! A workflow that looks for what it has extracted, which is not always a pattern. -/

def lookup : Workflow where
  id := ⟨"lookup", by decide⟩
  name := "Lookup"
  preCheck := [{
    template := "show name"
    rule := some ⟨.matches, "name (.*)"⟩
    binding := some ⟨"name", none⟩ }]
  implementation := [{ template := "list", rule := some ⟨.matches, "^{name}$"⟩ }]

def unpaired : Answers :=
  fun _ _ _ => .ok ⟨"name (", none⟩

def lookupRun : Run :=
  .new (.ofSerial 1) lookup.id ⟨"bench"⟩ .empty ⟨0, 0⟩

/-! A workflow whose patterns are fixed, one of them an exit code. -/

def graded : Workflow where
  id := ⟨"graded", by decide⟩
  name := "Graded"
  preCheck := [{
    template := "list"
    rule := some ⟨.matches, "^name"⟩
    condition := some { test := .exitCodeEquals (-2), operator := some .matches } }]

def gradedRun : Run :=
  .new (.ofSerial 1) graded.id ⟨"bench"⟩ .empty ⟨0, 0⟩

theorem plain_graded : ∀ command ∈ graded.allCommands, ∀ template, command.IsRegexText template →
    ¬Template.HasVariable template := by
  rintro command member template regex ⟨name, mentioned⟩
  have only : graded.allCommands.flatMap Workflow.regexTemplates = ["^name"] := by decide
  have listed : template ∈ graded.allCommands.flatMap Workflow.regexTemplates :=
    List.mem_flatMap.2 ⟨command, member, Workflow.mem_regexTemplates.2 regex⟩
  rw [only, List.mem_singleton] at listed
  subst listed
  have none : Template.tokens "^name" = [] := by decide +kernel
  rw [none] at mentioned
  cases mentioned

end Bench

/-- On the bench what was extracted breaks the pattern that it is put into; patterns that are fixed stay
whole. -/
theorem invalid_pattern_has_variable_on_bench :
    (∃ record before step error template text invalid,
      ((execute {} Bench.lookup Bench.lookupRun).run.runIn (Bench.world Bench.unpaired none) {}).1 =
        .ok record ∧
      record.steps = before ++ [step] ∧ step.error = some error ∧ error.kind = .invalidPattern ∧
      Pattern.ofText text = .error invalid ∧
      error.message = (Error.validation invalid.message).message ∧
      Template.HasVariable template) ∧
    ∃ record,
      ((execute {} Bench.graded Bench.gradedRun).run.runIn (Bench.world Bench.unpaired none) {}).1 =
        .ok record ∧
      record.steps.length = 1 ∧
      ∀ step ∈ record.steps, ∀ error, step.error = some error → error.kind ≠ .invalidPattern := by
  constructor
  · have valid : Bench.lookup.validateInvocation .empty = .ok () := by decide +kernel
    have pending : Bench.lookupRun.status = .pending := rfl
    obtain ⟨record, returned⟩ := returns_of_storesAll {} Bench.lookup
      (Bench.storesAll Bench.unpaired none) pending {}
    have last : ((execute {} Bench.lookup Bench.lookupRun).run.runIn
        (Bench.world Bench.unpaired none) {}).1.toOption.bind (fun record =>
          record.steps.getLast?.bind fun step => step.error.map Step.Error.kind) =
            some .invalidPattern := by
      decide +kernel
    rw [returned] at last
    obtain ⟨step, final, own⟩ := Option.bind_eq_some_iff.1 ((Option.bind_some ..).symm.trans last)
    obtain ⟨error, failed, kind⟩ := Option.map_eq_some_iff.1 own
    obtain ⟨before, split⟩ := List.getLast?_eq_some_iff.1 final
    obtain ⟨named, -⟩ := invalid_pattern_has_variable valid (.inr returned)
    obtain ⟨command, template, text, invalid, -, -, broken, message, uses⟩ :=
      named before step [] error split failed kind
    exact ⟨record, before, step, error, template, text, invalid, returned, split, failed, kind,
      broken, message, uses⟩
  · have valid : Bench.graded.validateInvocation .empty = .ok () := by decide +kernel
    have pending : Bench.gradedRun.status = .pending := rfl
    obtain ⟨record, returned⟩ := returns_of_storesAll {} Bench.graded
      (Bench.storesAll Bench.unpaired none) pending {}
    have count : ((execute {} Bench.graded Bench.gradedRun).run.runIn
        (Bench.world Bench.unpaired none) {}).1.toOption.map (fun record => record.steps.length) =
          some 1 := by
      decide +kernel
    rw [returned] at count
    obtain ⟨-, never⟩ := invalid_pattern_has_variable valid (.inr returned)
    exact ⟨record, returned, Option.some.inj count, (never Bench.plain_graded).1⟩

end Execution

end Runbook
