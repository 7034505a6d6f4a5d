import Runbook.Template

/-! Why a template has no value, where its preview is its value, and that either depends on the parameters
that it mentions and on the variables alone.
-/

set_option autoImplicit false

namespace Runbook.Template

theorem mem_tokens {template : String} {token : Token} :
    token ∈ tokens template ↔ .token token ∈ segments template := by
  rw [tokens, List.mem_filterMap]
  constructor
  · rintro ⟨segment, member, found⟩
    cases segment with
    | char c => cases found
    | token other =>
      cases found
      exact member
  · intro member
    exact ⟨.token token, member, rfl⟩

theorem mem_parameters {template name : String} :
    name ∈ parameters template ↔ .parameter name ∈ tokens template := by
  rw [parameters, List.mem_filterMap]
  constructor
  · rintro ⟨token, member, found⟩
    cases token with
    | parameter other =>
      cases found
      exact member
    | «variable» other => cases found
  · intro member
    exact ⟨.parameter name, member, rfl⟩

/-- Whether a text has a token that only a run can fill. -/
def HasVariable (template : String) : Prop :=
  ∃ name, .variable name ∈ tokens template

/-- A segment as far as the parameters alone decide it. -/
def Segment.preview (parameters : Bindings) : Segment → List Char
  | .char c => [c]
  | .token (.parameter name) => ((parameters.get? name).getD "").toList
  | .token (.variable _) => []

namespace Context

variable {context : Context}

theorem value_eq_error {token : Token} {fault : Fault} (missing : context.value token = .error fault) :
    (∃ name, token = .parameter name ∧ fault = .missingParameter name ∧
      context.parameters.get? name = none) ∨
    ∃ name, token = .variable name ∧ fault = .unboundVariable name ∧
      context.bound.get? name = none := by
  cases token with
  | parameter name =>
    cases found : context.parameters.get? name with
    | none =>
      simp only [value, found] at missing
      cases missing
      exact .inl ⟨name, rfl, rfl, found⟩
    | some text =>
      simp only [value, found] at missing
      cases missing
  | «variable» name =>
    cases found : context.bound.get? name with
    | none =>
      simp only [value, found] at missing
      cases missing
      exact .inr ⟨name, rfl, rfl, found⟩
    | some text =>
      simp only [value, found] at missing
      cases missing

def text (context : Context) : Segment → Except Fault (List Char)
  | .char c => .ok [c]
  | .token token => (context.value token).map String.toList

theorem render_cons (segment : Segment) (rest : List Segment) :
    context.render (segment :: rest) =
      (context.text segment).bind fun front => (context.render rest).map (front ++ ·) := by
  cases segment with
  | char c =>
    rw [render, text]
    cases context.render rest <;> rfl
  | token token =>
    rw [render, text]
    cases context.value token <;> cases context.render rest <;> rfl

theorem text_eq_error {segment : Segment} {fault : Fault} (failed : context.text segment = .error fault) :
    ∃ token, segment = .token token ∧ context.value token = .error fault := by
  cases segment with
  | char c => cases failed
  | token token =>
    rw [text] at failed
    cases valued : context.value token <;> rw [valued] at failed <;> cases failed
    exact ⟨token, rfl, valued⟩

theorem render_eq_error {segments : List Segment} {fault : Fault}
    (failed : context.render segments = .error fault) :
    ∃ token, .token token ∈ segments ∧ context.value token = .error fault := by
  induction segments with
  | nil => cases failed
  | cons segment rest ih =>
    rw [render_cons] at failed
    cases front : context.text segment with
    | error other =>
      rw [front] at failed
      cases failed
      obtain ⟨token, rfl, missing⟩ := text_eq_error front
      exact ⟨token, List.mem_cons_self, missing⟩
    | ok cs =>
      rw [front] at failed
      cases behind : context.render rest with
      | error other =>
        rw [behind] at failed
        cases failed
        obtain ⟨token, member, missing⟩ := ih behind
        exact ⟨token, List.mem_cons_of_mem _ member, missing⟩
      | ok others =>
        rw [behind] at failed
        cases failed

theorem resolve_eq_error {template : String} {fault : Fault}
    (failed : context.resolve template = .error fault) :
    (∃ name ∈ Template.parameters template, fault = .missingParameter name ∧
      context.parameters.get? name = none) ∨
    ∃ name, .variable name ∈ tokens template ∧ fault = .unboundVariable name ∧
      context.bound.get? name = none := by
  have rendered : context.render (segments template) = .error fault := by
    rw [resolve] at failed
    cases result : context.render (segments template) with
    | error other =>
      rw [result] at failed
      cases failed
      rfl
    | ok cs =>
      rw [result] at failed
      cases failed
  obtain ⟨token, member, missing⟩ := render_eq_error rendered
  have listed := mem_tokens.2 member
  rcases value_eq_error missing with ⟨name, rfl, same, absent⟩ | ⟨name, rfl, same, absent⟩
  · exact .inl ⟨name, mem_parameters.2 listed, same, absent⟩
  · exact .inr ⟨name, listed, same, absent⟩

theorem unbound_of_resolve {template : String} {fault : Fault}
    (supplied : ∀ name ∈ Template.parameters template, context.parameters.contains name = true)
    (failed : context.resolve template = .error fault) :
    ∃ name, .variable name ∈ tokens template ∧ fault = .unboundVariable name ∧
      context.bound.get? name = none := by
  rcases resolve_eq_error failed with ⟨name, mentioned, -, absent⟩ | unbound
  · have present := supplied name mentioned
    rw [Table.contains, absent] at present
    cases present
  · exact unbound

theorem text_eq_preview {segment : Segment} {cs : List Char}
    (plain : ∀ name, segment ≠ .token (.variable name)) (valued : context.text segment = .ok cs) :
    cs = segment.preview context.parameters := by
  cases segment with
  | char c =>
    cases valued
    rfl
  | token token =>
    cases token with
    | «variable» name => exact absurd rfl (plain name)
    | parameter name =>
      rw [text, value] at valued
      rw [Segment.preview]
      cases found : context.parameters.get? name <;> rw [found] at valued <;> cases valued
      rfl

theorem render_eq_preview {segments : List Segment} {cs : List Char}
    (plain : ∀ name, .token (.variable name) ∉ segments)
    (rendered : context.render segments = .ok cs) :
    cs = segments.flatMap (Segment.preview context.parameters) := by
  induction segments generalizing cs with
  | nil =>
    cases rendered
    rfl
  | cons segment rest ih =>
    rw [render_cons] at rendered
    cases front : context.text segment with
    | error fault =>
      rw [front] at rendered
      cases rendered
    | ok own =>
      cases behind : context.render rest with
      | error fault =>
        rw [front, behind] at rendered
        cases rendered
      | ok others =>
        rw [front, behind] at rendered
        cases rendered
        obtain ⟨here, there⟩ : (∀ name, segment ≠ .token (.variable name)) ∧
            ∀ name, .token (.variable name) ∉ rest := by
          simpa only [List.mem_cons, not_or, forall_and, ne_comm] using plain
        rw [List.flatMap_cons, ← text_eq_preview here front, ← ih there behind]

theorem resolve_eq_preview {template text : String} (plain : ¬HasVariable template)
    (resolved : context.resolve template = .ok text) :
    text = preview context.parameters template := by
  rw [resolve] at resolved
  cases rendered : context.render (segments template) with
  | error fault =>
    rw [rendered] at resolved
    cases resolved
  | ok cs =>
    rw [rendered] at resolved
    cases resolved
    have same := render_eq_preview (fun name member => plain ⟨name, mem_tokens.2 member⟩) rendered
    exact congrArg String.ofList same

end Context

end Runbook.Template

/-! ### Parameters that agree -/

namespace Runbook

/-- Each of these names has the same value in both, or none in either. -/
def Bindings.Agree (names : List String) (table other : Bindings) : Prop :=
  ∀ name ∈ names, table.get? name = other.get? name

theorem Bindings.Agree.contains {names : List String} {table other : Bindings}
    (agree : table.Agree names other) {name : String} (member : name ∈ names) :
    table.contains name = other.contains name :=
  congrArg Option.isSome (agree name member)

namespace Template

theorem preview_eq (parameters : Bindings) (template : String) :
    preview parameters template =
      String.ofList ((segments template).flatMap (Segment.preview parameters)) := rfl

theorem preview_congr {names : List String} {table other : Bindings}
    (agree : table.Agree names other) {template : String} (mentions : parameters template ⊆ names) :
    preview table template = preview other template := by
  rw [preview_eq, preview_eq, List.flatMap_def, List.flatMap_def]
  refine congrArg (fun parts => String.ofList (List.flatten parts))
    (List.map_congr_left fun segment member => ?_)
  cases segment with
  | char c => rfl
  | token token =>
    cases token with
    | «variable» name => rfl
    | parameter name =>
      rw [Segment.preview, Segment.preview]
      rw [agree name (mentions (mem_parameters.2 (mem_tokens.2 member)))]

namespace Context

/-- Contexts that differ in nothing but parameters of other names. -/
structure Agree (names : List String) (context other : Context) : Prop where
  parameters : context.parameters.Agree names other.parameters
  bound : context.bound = other.bound

variable {names : List String} {context other : Context}

theorem Agree.bind (agree : context.Agree names other) (name value : String) :
    (context.bind name value).Agree names (other.bind name value) :=
  ⟨agree.parameters, congrArg (fun bound => Table.insert bound name value) agree.bound⟩

theorem Agree.value (agree : context.Agree names other) {token : Token}
    (known : ∀ name, token = .parameter name → name ∈ names) :
    context.value token = other.value token := by
  cases token with
  | parameter name =>
    rw [Context.value, Context.value]
    rw [agree.parameters name (known name rfl)]
  | «variable» name =>
    rw [Context.value, Context.value]
    rw [agree.bound]

theorem Agree.render (agree : context.Agree names other) {segments : List Segment}
    (known : ∀ name, .token (.parameter name) ∈ segments → name ∈ names) :
    context.render segments = other.render segments := by
  induction segments with
  | nil => rfl
  | cons segment rest ih =>
    have later := ih fun name member => known name (List.mem_cons_of_mem _ member)
    cases segment with
    | char c => rw [Context.render, Context.render, later]
    | token token =>
      have here : context.value token = other.value token := by
        refine agree.value fun name same => known name ?_
        rw [same]
        exact List.mem_cons_self
      rw [Context.render, Context.render, later, here]

theorem Agree.resolve (agree : context.Agree names other) {template : String}
    (mentions : Template.parameters template ⊆ names) :
    context.resolve template = other.resolve template := by
  rw [Context.resolve, Context.resolve]
  rw [agree.render fun name member => mentions (mem_parameters.2 (mem_tokens.2 member))]

end Context

end Template

end Runbook
