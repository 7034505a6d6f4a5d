import Runbook.Proofs.Template.Resolution
import Runbook.Workflow.Validation

/-! What is known of a workflow once an invocation of it has passed its checks, and that these depend on the
parameters that the workflow requires and on no others.
-/

set_option autoImplicit false

namespace Runbook

theorem Stage.mem_all (stage : Stage) : stage ∈ all := by
  cases stage <;> decide

/-! ### The texts of a command -/

theorem Condition.commands_subset (condition : Condition) (arm : Arm) :
    condition.commands arm ⊆ condition.allCommands := by
  cases arm with
  | then_ => exact List.subset_append_left _ _
  | else_ => exact List.subset_append_right _ _

namespace Command

/-- A text of a command that is compiled when it is carried out: the pattern of its rule or the parameter
of its condition. -/
def IsRegexText (command : Command) (template : String) : Prop :=
  (∃ rule, command.rule = some rule ∧ rule.operator = .matches ∧ rule.pattern = template) ∨
    ∃ condition, command.condition = some condition ∧ condition.effectiveOperator = .matches ∧
      condition.test.template? = some template

section
variable {command : Command} {condition : Condition} {template : String}

theorem rule_mem_templates {rule : MatchRule} (defined : command.rule = some rule) :
    rule.pattern ∈ command.templates := by
  simp [templates, defined]

theorem condition_mem_templates (defined : command.condition = some condition)
    (own : condition.test.template? = some template) : template ∈ command.templates := by
  simp [templates, defined, own]

theorem branch_mem_templates (defined : command.condition = some condition) {arm : Arm}
    {branch : BranchCommand} (member : branch ∈ condition.commands arm) :
    branch.template ∈ command.templates := by
  have listed := condition.commands_subset arm member
  have mentioned := List.mem_map_of_mem listed (f := BranchCommand.template)
  simp only [templates, defined, List.mem_cons, List.mem_append]
  exact .inr (.inr (.inr mentioned))

end

end Command

theorem Operator.isRegex_iff {operator : Operator} : operator.isRegex = true ↔ operator = .matches :=
  beq_iff_eq

theorem Workflow.mem_regexTemplates {command : Command} {template : String} :
    template ∈ regexTemplates command ↔ command.IsRegexText template := by
  rw [regexTemplates, List.mem_append]
  refine or_congr ?_ ?_
  · cases defined : command.rule with
    | none => simp
    | some rule =>
      simp only [apply_ite (template ∈ ·), Operator.isRegex_iff, List.mem_singleton,
        List.not_mem_nil, Option.some.injEq, exists_eq_left', if_false_right]
      exact and_congr_right fun _ => eq_comm
  · cases defined : command.condition with
    | none => simp
    | some condition =>
      simp only [apply_ite (template ∈ ·), Operator.isRegex_iff, Option.mem_toList,
        List.not_mem_nil, Option.some.injEq, exists_eq_left', if_false_right]

/-! ### Checks one by one -/

namespace Workflow

theorem forM_eq_ok {α ε : Type} {check : α → Except ε Unit} {elements : List α}
    (passed : elements.forM check = .ok ()) {a : α} (member : a ∈ elements) : check a = .ok () := by
  induction elements with
  | nil => cases member
  | cons first rest ih =>
    have both : (check first >>= fun _ => rest.forM check) = .ok () := passed
    cases checked : check first with
    | error fault =>
      rw [checked] at both
      cases both
    | ok u =>
      rw [checked] at both
      rcases List.mem_cons.1 member with rfl | later
      · exact checked
      · exact ih both later

theorem checkFrom_eq_ok {check : Command → Except CommandFault Unit} {stage : Stage} {index : Nat}
    {commands : List Command} (passed : checkFrom check stage index commands = .ok ())
    {command : Command} (member : command ∈ commands) : check command = .ok () := by
  induction commands generalizing index with
  | nil => cases member
  | cons first rest ih =>
    rw [checkFrom] at passed
    cases checked : check first with
    | error fault =>
      rw [checked] at passed
      cases passed
    | ok u =>
      rw [checked] at passed
      rcases List.mem_cons.1 member with rfl | later
      · exact checked
      · exact ih passed later

section
variable {workflow : Workflow} {command : Command}

theorem mem_allCommands {stage : Stage} (member : command ∈ workflow.commands stage) :
    command ∈ workflow.allCommands :=
  List.mem_flatMap.2 ⟨stage, stage.mem_all, member⟩

theorem checkAll_eq_ok {check : Command → Except CommandFault Unit}
    (passed : workflow.checkAll check = .ok ()) (member : command ∈ workflow.allCommands) :
    check command = .ok () := by
  obtain ⟨stage, listed, own⟩ := List.mem_flatMap.1 member
  exact checkFrom_eq_ok (forM_eq_ok passed listed) own

/-! ### The parameters -/

theorem mem_firsts {name : String} {seen names : List String} :
    name ∈ firsts seen names ↔ name ∈ names ∧ name ∉ seen := by
  induction names generalizing seen with
  | nil => simp [firsts]
  | cons first rest ih =>
    rw [firsts]
    by_cases known : first ∈ seen
    · rw [if_pos known, ih]
      constructor
      · rintro ⟨later, fresh⟩
        exact ⟨List.mem_cons_of_mem _ later, fresh⟩
      · rintro ⟨member, fresh⟩
        have differ : name ≠ first := by
          rintro rfl
          exact fresh known
        exact ⟨(List.mem_cons.1 member).resolve_left differ, fresh⟩
    · rw [if_neg known, List.mem_cons, ih, List.mem_cons, List.mem_cons]
      by_cases same : name = first
      · subst same
        simp [known]
      · simp [same]

theorem mem_requiredParameters {name : String} :
    name ∈ workflow.requiredParameters ↔
      ∃ template ∈ workflow.templates, name ∈ Template.parameters template := by
  rw [requiredParameters, mem_firsts, List.mem_flatMap]
  simp

theorem mem_templates {template : String} (member : command ∈ workflow.allCommands)
    (own : template ∈ command.templates) : template ∈ workflow.templates :=
  List.mem_flatMap.2 ⟨command, member, own⟩

/-! ### An invocation that has passed -/

section
variable {parameters : Bindings} (valid : workflow.validateInvocation parameters = .ok ())
include valid

theorem validateInvocation_eq_ok :
    workflow.missingParameters parameters = [] ∧
      workflow.checkAll (checkPatterns parameters) = .ok () := by
  unfold validateInvocation at valid
  cases accepts : workflow.status.acceptsRuns with
  | false =>
    rw [accepts, Bool.not_false, if_pos rfl] at valid
    cases valid
  | true =>
    rw [accepts, Bool.not_true, if_neg Bool.false_ne_true] at valid
    cases checked : workflow.validate with
    | error fault =>
      rw [checked] at valid
      cases valid
    | ok u =>
      rw [checked] at valid
      cases missing : workflow.missingParameters parameters with
      | nil =>
        rw [missing] at valid
        exact ⟨rfl, valid⟩
      | cons name rest =>
        rw [missing] at valid
        cases valid

theorem supplied_of_valid {template name : String} (member : command ∈ workflow.allCommands)
    (own : template ∈ command.templates) (mentioned : name ∈ Template.parameters template) :
    parameters.contains name = true := by
  obtain ⟨none, -⟩ := validateInvocation_eq_ok valid
  have required := mem_requiredParameters.2 ⟨template, mem_templates member own, mentioned⟩
  have supplied := List.filter_eq_nil_iff.1 none name required
  simpa using supplied

theorem compiles_of_valid {template : String} (member : command ∈ workflow.allCommands)
    (regex : command.IsRegexText template) :
    ∃ pattern, Pattern.ofText (Template.preview parameters template) = .ok pattern := by
  obtain ⟨-, patterns⟩ := validateInvocation_eq_ok valid
  have checked := forM_eq_ok (checkAll_eq_ok patterns member) (mem_regexTemplates.2 regex)
  rw [checkPattern] at checked
  cases compiled : Pattern.ofText (Template.preview parameters template) with
  | ok pattern => exact ⟨pattern, rfl⟩
  | error invalid =>
    rw [compiled] at checked
    cases checked

end

end

end Workflow

/-! ### What the checks depend on -/

theorem Command.IsRegexText.mem_templates {command : Command} {template : String}
    (regex : command.IsRegexText template) : template ∈ command.templates := by
  rcases regex with ⟨rule, defined, -, rfl⟩ | ⟨condition, defined, -, own⟩
  · exact rule_mem_templates defined
  · exact condition_mem_templates defined own

/-- Whether all parameters that the texts of a command mention have one of these names. -/
def Command.MentionsOnly (names : List String) (command : Command) : Prop :=
  ∀ template ∈ command.templates, Template.parameters template ⊆ names

theorem Command.MentionsOnly.branch {names : List String} {command : Command}
    (mentions : command.MentionsOnly names) {condition : Condition}
    (defined : command.condition = some condition) {arm : Arm} {branch : BranchCommand}
    (member : branch ∈ condition.commands arm) : branch.toCommand.MentionsOnly names := by
  intro template own
  cases List.mem_singleton.1 own
  exact mentions _ (branch_mem_templates defined member)

namespace Workflow

theorem forM_congr {α ε : Type} {check other : α → Except ε Unit} {elements : List α}
    (same : ∀ a ∈ elements, check a = other a) : elements.forM check = elements.forM other := by
  induction elements with
  | nil => rfl
  | cons first rest ih =>
    have here : check first = other first := same first List.mem_cons_self
    have later := ih fun a member => same a (List.mem_cons_of_mem _ member)
    show (check first >>= fun _ => rest.forM check) = (other first >>= fun _ => rest.forM other)
    rw [here, later]

theorem checkFrom_congr {check other : Command → Except CommandFault Unit} {stage : Stage} {index : Nat}
    {commands : List Command} (same : ∀ command ∈ commands, check command = other command) :
    checkFrom check stage index commands = checkFrom other stage index commands := by
  induction commands generalizing index with
  | nil => rfl
  | cons first rest ih =>
    have here : check first = other first := same first List.mem_cons_self
    rw [checkFrom, checkFrom, here]
    rw [ih fun command member => same command (List.mem_cons_of_mem _ member)]

section
variable {workflow : Workflow} {command : Command}

theorem checkAll_congr {check other : Command → Except CommandFault Unit}
    (same : ∀ command ∈ workflow.allCommands, check command = other command) :
    workflow.checkAll check = workflow.checkAll other :=
  forM_congr fun _ _ => checkFrom_congr fun command member => same command (mem_allCommands member)

theorem mentionsOnly_requiredParameters (member : command ∈ workflow.allCommands) :
    command.MentionsOnly workflow.requiredParameters :=
  fun template own _ mentioned =>
    mem_requiredParameters.2 ⟨template, mem_templates member own, mentioned⟩

section
variable {names : List String} {parameters others : Bindings}

theorem checkPatterns_congr (agree : parameters.Agree names others)
    (mentions : command.MentionsOnly names) :
    checkPatterns parameters command = checkPatterns others command := by
  refine forM_congr fun template listed => ?_
  have own : template ∈ command.templates := (mem_regexTemplates.1 listed).mem_templates
  rw [checkPattern, checkPattern, Template.preview_congr agree (mentions template own)]

theorem missingParameters_congr (agree : parameters.Agree workflow.requiredParameters others) :
    workflow.missingParameters parameters = workflow.missingParameters others :=
  List.filter_congr fun _ required => congrArg not (agree.contains required)

/-- The same answer for the same required parameters, down to the fault. -/
theorem validateInvocation_congr (agree : parameters.Agree workflow.requiredParameters others) :
    workflow.validateInvocation parameters = workflow.validateInvocation others := by
  have patterns : workflow.checkAll (checkPatterns parameters) =
      workflow.checkAll (checkPatterns others) :=
    checkAll_congr fun command member =>
      checkPatterns_congr agree (mentionsOnly_requiredParameters member)
  rw [validateInvocation, validateInvocation, missingParameters_congr agree, patterns]

end

end

end Workflow

end Runbook
