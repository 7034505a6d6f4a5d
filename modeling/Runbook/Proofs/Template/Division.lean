import Runbook.Proofs.Template.Resolution

/-! A template divided into literal texts and the tokens between them.

The tokens are those that a search from left to right comes upon: no token starts anywhere in a literal
text, whatever follows that text. A template has one such division, and its value, its preview and its
tokens can all be read off it.
-/

set_option autoImplicit false

namespace Runbook

namespace Name

variable {name cs : List Char}

theorem leading_isPrefix (cs : List Char) : leading cs <+: cs := by
  cases cs with
  | nil => exact List.prefix_rfl
  | cons c rest =>
    rw [leading]
    split
    · exact List.cons_prefix_cons.2 ⟨rfl, List.takeWhile_prefix _⟩
    · exact List.nil_prefix

/-- A name ends where a character follows that no name has. -/
theorem leading_append (isName : isNameChars name = true) {c : Char} (ends : isPart c = false) :
    leading (name ++ c :: cs) = name := by
  cases name with
  | nil => cases isName
  | cons first rest =>
    obtain ⟨start, parts⟩ := Bool.and_eq_true_iff.1 isName
    rw [List.cons_append, leading, if_pos start]
    rw [List.takeWhile_append_of_pos (List.all_eq_true.1 parts), List.takeWhile_cons, ends]
    simp

end Name

namespace Template

/-- A token stands at the front of a text. -/
structure Token.Leads (token : Token) (cs : List Char) : Prop where
  isName : Name.isName token.name = true
  isPrefix : token.source <+: cs

theorem delimitedName?_eq_some_iff {last : Char} {closing cs name : List Char}
    (ends : Name.isPart last = false) :
    delimitedName? (last :: closing) cs = some name ↔
      Name.isNameChars name = true ∧ name ++ last :: closing <+: cs := by
  rw [delimitedName?]
  constructor
  · intro found
    by_cases absent : (Name.leading cs).isEmpty = true
    · simp [absent] at found
    · by_cases closed : (last :: closing).isPrefixOf (cs.drop (Name.leading cs).length) = true
      · simp only [absent, closed, Bool.false_eq_true, if_false, if_true, Option.some.injEq] at found
        subst found
        refine ⟨Name.isNameChars_leading fun none => absent (by rw [none]; rfl), ?_⟩
        obtain ⟨rest, split⟩ := List.isPrefixOf_iff_prefix.1 closed
        have whole := List.prefix_iff_eq_append.1 (Name.leading_isPrefix cs)
        exact ⟨rest, by rw [List.append_assoc, split, whole]⟩
      · simp [absent, closed] at found
  · rintro ⟨isName, rest, rfl⟩
    have own : Name.leading (name ++ last :: (closing ++ rest)) = name :=
      Name.leading_append isName ends
    have nonempty : name.isEmpty = false := by
      cases name with
      | nil => cases isName
      | cons => rfl
    simp only [List.append_assoc, List.cons_append, own, nonempty, List.drop_left]
    simp

/-- No name starts with a brace, so a variable never stands where a parameter could. -/
theorem not_leads_variable {name : String} {rest : List Char} :
    ¬(Token.variable name).Leads ('{' :: '{' :: rest) := by
  rintro ⟨isName, stands⟩
  obtain ⟨-, behind⟩ := List.cons_prefix_cons.1 stands
  rw [Name.isName, Token.name] at isName
  cases chars : name.toList with
  | nil =>
    rw [chars] at isName
    cases isName
  | cons c others =>
    rw [chars] at isName behind
    obtain ⟨rfl, -⟩ := List.cons_prefix_cons.1 behind
    cases isName

theorem leads_parameter_iff {token : Token} {rest : List Char} :
    token.Leads ('{' :: '{' :: rest) ↔
      ∃ name, delimitedName? ['}', '}'] rest = some name ∧ .parameter (String.ofList name) = token := by
  simp only [delimitedName?_eq_some_iff (show Name.isPart '}' = false from rfl)]
  constructor
  · intro leads
    cases token with
    | «variable» name => exact absurd leads not_leads_variable
    | parameter name =>
      obtain ⟨-, inner⟩ := List.cons_prefix_cons.1 leads.isPrefix
      exact ⟨name.toList, ⟨leads.isName, (List.cons_prefix_cons.1 inner).2⟩,
        congrArg Token.parameter String.ofList_toList⟩
  · rintro ⟨name, ⟨isName, stands⟩, rfl⟩
    refine ⟨by rwa [Name.isName, Token.name, String.toList_ofList], ?_⟩
    rw [Token.source, String.toList_ofList]
    exact List.cons_prefix_cons.2 ⟨rfl, List.cons_prefix_cons.2 ⟨rfl, stands⟩⟩

theorem leads_variable_iff {token : Token} {rest : List Char} (single : ∀ more, rest ≠ '{' :: more) :
    token.Leads ('{' :: rest) ↔
      ∃ name, delimitedName? ['}'] rest = some name ∧ .variable (String.ofList name) = token := by
  simp only [delimitedName?_eq_some_iff (show Name.isPart '}' = false from rfl)]
  constructor
  · intro leads
    cases token with
    | parameter name =>
      obtain ⟨-, more, rfl⟩ := List.cons_prefix_cons.1 leads.isPrefix
      exact absurd rfl (single _)
    | «variable» name =>
      obtain ⟨-, inner⟩ := List.cons_prefix_cons.1 leads.isPrefix
      exact ⟨name.toList, ⟨leads.isName, inner⟩, congrArg Token.variable String.ofList_toList⟩
  · rintro ⟨name, ⟨isName, stands⟩, rfl⟩
    refine ⟨by rwa [Name.isName, Token.name, String.toList_ofList], ?_⟩
    rw [Token.source, String.toList_ofList]
    exact List.cons_prefix_cons.2 ⟨rfl, stands⟩

theorem tokenAt?_eq_some_iff {cs : List Char} {token : Token} :
    tokenAt? cs = some token ↔ token.Leads cs := by
  unfold tokenAt?
  split
  case h_1 rest => rw [leads_parameter_iff, Option.map_eq_some_iff]
  case h_2 rest other =>
    rw [leads_variable_iff other, Option.map_eq_some_iff]
  case h_3 other =>
    refine ⟨nofun, fun leads => ?_⟩
    obtain ⟨rest, rfl⟩ := leads.isPrefix
    cases token with
    | parameter name => exact absurd rfl (other _)
    | «variable» name => exact absurd rfl (other _)

/-! ### Dividing a text -/

/-- A literal text, and tokens each with the literal text behind it. -/
structure Division where
  front : List Char
  parts : List (Token × List Char)
  deriving DecidableEq, Repr

namespace Division

def fill (division : Division) (text : Token → List Char) : List Char :=
  division.front ++ division.parts.flatMap fun part => text part.1 ++ part.2

def source (division : Division) : List Char :=
  division.fill Token.source

def tokens (division : Division) : List Token :=
  division.parts.map Prod.fst

def literals (division : Division) : List (List Char) :=
  division.front :: division.parts.map Prod.snd

/-- No token starts within the literal text in front. -/
def StartsPlain (division : Division) : Prop :=
  ∀ before behind, division.source = before ++ behind → before.length < division.front.length →
    ∀ token : Token, ¬token.Leads behind

/-- The tokens are those that a search from left to right comes upon, and each is the only one that starts
at its place. -/
inductive Leftmost : Division → Prop
  | last {front : List Char} : StartsPlain ⟨front, []⟩ → Leftmost ⟨front, []⟩
  | next {front literal : List Char} {token : Token} {parts : List (Token × List Char)} :
      StartsPlain ⟨front, (token, literal) :: parts⟩ →
      (∀ other : Token,
        other.Leads (token.source ++ source ⟨literal, parts⟩) ↔ other = token) →
      Leftmost ⟨literal, parts⟩ → Leftmost ⟨front, (token, literal) :: parts⟩

def ofSegments : List Segment → Division
  | [] => ⟨[], []⟩
  | .char c :: rest => ⟨c :: (ofSegments rest).front, (ofSegments rest).parts⟩
  | .token token :: rest => ⟨[], (token, (ofSegments rest).front) :: (ofSegments rest).parts⟩

section
variable {front literal : List Char} {token : Token} {parts : List (Token × List Char)}
  {division : Division}

theorem fill_next (text : Token → List Char) :
    fill ⟨front, (token, literal) :: parts⟩ text = front ++ (text token ++ fill ⟨literal, parts⟩ text) := by
  simp only [fill, List.flatMap_cons, List.append_assoc]

theorem source_next :
    source ⟨front, (token, literal) :: parts⟩ = front ++ (token.source ++ source ⟨literal, parts⟩) :=
  fill_next Token.source

def segmentText (text : Token → List Char) : Segment → List Char
  | .char c => [c]
  | .token token => text token

theorem fill_ofSegments (segments : List Segment) (text : Token → List Char) :
    (ofSegments segments).fill text = segments.flatMap (segmentText text) := by
  induction segments with
  | nil => rfl
  | cons segment rest ih =>
    rw [List.flatMap_cons, ← ih]
    cases segment with
    | char c => rfl
    | token token => exact fill_next text

theorem tokens_ofSegments (segments : List Segment) :
    (ofSegments segments).tokens = segments.filterMap fun
      | .token token => some token
      | .char _ => none := by
  induction segments with
  | nil => rfl
  | cons segment rest ih =>
    cases segment with
    | char c => exact ih
    | token token => exact congrArg (token :: ·) ih

theorem Leftmost.cons {c : Char} (leftmost : division.Leftmost)
    (plain : ∀ token : Token, ¬token.Leads (c :: division.source)) :
    Leftmost ⟨c :: division.front, division.parts⟩ := by
  have starts (parts : List (Token × List Char)) (front : List Char)
      (rest : StartsPlain ⟨front, parts⟩)
      (here : ∀ token : Token, ¬token.Leads (c :: source ⟨front, parts⟩)) :
      StartsPlain ⟨c :: front, parts⟩ := by
    intro before behind split short
    cases before with
    | nil =>
      have whole : c :: source ⟨front, parts⟩ = behind := split
      exact whole ▸ here
    | cons first before =>
      obtain ⟨rfl, same⟩ := List.cons.inj (split : c :: source ⟨front, parts⟩ = _)
      exact rest before behind same (Nat.lt_of_succ_lt_succ short)
  cases leftmost with
  | last rest => exact .last (starts _ _ rest plain)
  | next rest only behind => exact .next (starts _ _ rest plain) only behind

end

end Division

/-! ### There is no other division -/

namespace Division

variable {first second : Division}

theorem front_le (plain : first.StartsPlain) (leftmost : second.Leftmost)
    (same : first.source = second.source) : first.front.length ≤ second.front.length := by
  refine Nat.le_of_not_lt fun longer => ?_
  cases leftmost with
  | @last front =>
    have whole : first.source = front := same.trans (List.append_nil front)
    have long := congrArg List.length whole
    rw [source, fill, List.length_append] at long
    exact absurd longer (Nat.not_lt.2 (long ▸ Nat.le_add_right _ _))
  | @next front literal token parts _ only =>
    -- Where the shorter text ends a token starts, in the middle of the longer one.
    rw [source_next] at same
    exact plain front _ same longer token ((only token).2 rfl)

theorem Leftmost.plain (leftmost : first.Leftmost) : first.StartsPlain := by
  cases leftmost with
  | last plain => exact plain
  | next plain => exact plain

theorem Leftmost.unique (leftmost : first.Leftmost) (other : second.Leftmost)
    (same : first.source = second.source) : first = second := by
  have fronts {first second : Division} (leftmost : first.Leftmost) (other : second.Leftmost)
      (same : first.source = second.source) : first.front.length = second.front.length :=
    Nat.le_antisymm (front_le leftmost.plain other same) (front_le other.plain leftmost same.symm)
  induction leftmost generalizing second with
  | last plain =>
    have length := fronts (.last plain) other same
    obtain ⟨rfl, behind⟩ := List.append_inj same length
    cases other with
    | last => rfl
    | @next _ _ token => cases token <;> cases behind
  | @next front literal token parts plain only later ih =>
    have length := fronts (.next plain only later) other same
    cases other with
    | last =>
      obtain ⟨rfl, behind⟩ := List.append_inj same length
      cases token <;> cases behind
    | @next otherFront otherLiteral otherToken otherParts _ onlyOther otherLater =>
      rw [source_next, source_next] at same
      obtain ⟨rfl, behind⟩ := List.append_inj same length
      obtain rfl : otherToken = token := (only otherToken).1 (behind ▸ (onlyOther otherToken).2 rfl)
      cases ih otherLater (List.append_cancel_left behind)
      rfl

end Division

/-! ### The division that reading makes -/

theorem scan_eq_drop (skip : Nat) (cs : List Char) : scan skip cs = scan 0 (cs.drop skip) := by
  induction cs generalizing skip with
  | nil => rw [List.drop_nil, scan, scan]
  | cons c rest ih =>
    cases skip with
    | zero => rfl
    | succ left => exact ih left

theorem scan_of_leads {token : Token} {rest : List Char} (leads : token.Leads (token.source ++ rest)) :
    scan 0 (token.source ++ rest) = .token token :: scan 0 rest := by
  obtain ⟨more, split⟩ : ∃ more, token.source = '{' :: more := by
    cases token <;> exact ⟨_, rfl⟩
  have found := tokenAt?_eq_some_iff.2 leads
  rw [split, List.cons_append] at found ⊢
  rw [scan]
  simp only [found]
  rw [scan_eq_drop, split, List.length_cons, Nat.add_sub_cancel, List.drop_left]

theorem leftmost_scan (cs : List Char) :
    (Division.ofSegments (scan 0 cs)).source = cs ∧ (Division.ofSegments (scan 0 cs)).Leftmost := by
  -- On the length of the text, for a token takes many characters at once.
  induction length : cs.length using Nat.strongRecOn generalizing cs with
  | ind n ih =>
    subst length
    cases cs with
    | nil =>
      refine ⟨rfl, .last fun before behind split short => ?_⟩
      exact absurd short (Nat.not_lt_zero _)
    | cons c rest =>
      cases found : tokenAt? (c :: rest) with
      | some token =>
        have leads := tokenAt?_eq_some_iff.1 found
        obtain ⟨behind, same⟩ := leads.isPrefix
        rw [← same] at leads ⊢
        have shorter : behind.length < (c :: rest).length := by
          rw [← same, List.length_append]
          cases token <;> simp [Token.source]
        obtain ⟨source, leftmost⟩ := ih behind.length shorter behind rfl
        rw [scan_of_leads leads]
        refine ⟨?_, .next ?_ ?_ leftmost⟩
        · rw [Division.ofSegments, Division.source_next, List.nil_append]
          exact congrArg (token.source ++ ·) source
        · exact fun before behind split short => absurd short (Nat.not_lt_zero _)
        · intro other
          have whole : token.source ++ Division.source ⟨(Division.ofSegments (scan 0 behind)).front,
              (Division.ofSegments (scan 0 behind)).parts⟩ = token.source ++ behind :=
            congrArg (token.source ++ ·) source
          rw [whole]
          constructor
          · intro also
            exact Option.some.inj ((tokenAt?_eq_some_iff.2 also).symm.trans
              (tokenAt?_eq_some_iff.2 leads))
          · rintro rfl
            exact leads
      | none =>
        obtain ⟨source, leftmost⟩ := ih rest.length (Nat.lt_succ_self _) rest rfl
        have goesOn : scan 0 (c :: rest) = .char c :: scan 0 rest := by
          rw [scan]
          simp only [found]
        rw [goesOn]
        refine ⟨?_, leftmost.cons fun token leads => ?_⟩
        · exact congrArg (c :: ·) source
        · rw [source] at leads
          cases found.symm.trans (tokenAt?_eq_some_iff.2 leads)

theorem Division.Leftmost.literal_plain {division : Division} (leftmost : division.Leftmost)
    {literal : List Char} (member : literal ∈ division.literals) {token : Token}
    (isName : Name.isName token.name = true) : ¬token.source <:+: literal := by
  have inFront {division : Division} (plain : division.StartsPlain) : ¬token.source <:+: division.front := by
    rintro ⟨before, behind, split⟩
    have nonempty : 0 < token.source.length := by
      cases token <;> exact Nat.succ_pos _
    refine plain before (token.source ++ (behind ++ division.parts.flatMap fun part => part.1.source ++ part.2))
      ?_ ?_ token ⟨isName, List.prefix_append _ _⟩
    · rw [Division.source, Division.fill, ← split]
      simp only [List.append_assoc]
    · rw [← split]
      simp only [List.length_append]
      omega
  induction leftmost with
  | last plain =>
    obtain rfl : literal = _ := List.mem_singleton.1 member
    exact inFront plain
  | next plain only later ih =>
    rcases List.mem_cons.1 member with rfl | others
    · exact inFront plain
    · exact ih others

/-! ### What is read off a division -/

def Context.supplied? (context : Context) : Token → Option String
  | .parameter name => context.parameters.get? name
  | .variable name => context.bound.get? name

def Token.missing : Token → Fault
  | .parameter name => .missingParameter name
  | .variable name => .unboundVariable name

def Token.preview (parameters : Bindings) : Token → List Char
  | .parameter name => ((parameters.get? name).getD "").toList
  | .variable _ => []

theorem Context.value_of_supplied {context : Context} {token : Token} {text : String}
    (supplied : context.supplied? token = some text) : context.value token = .ok text := by
  cases token with
  | parameter name =>
    rw [Context.value]
    simp only [show context.parameters.get? name = some text from supplied]
  | «variable» name =>
    rw [Context.value]
    simp only [show context.bound.get? name = some text from supplied]

theorem Context.value_of_missing {context : Context} {token : Token}
    (absent : context.supplied? token = none) : context.value token = .error token.missing := by
  cases token with
  | parameter name =>
    rw [Context.value]
    simp only [show context.parameters.get? name = none from absent]
    rfl
  | «variable» name =>
    rw [Context.value]
    simp only [show context.bound.get? name = none from absent]
    rfl

theorem Context.render_eq (context : Context) (segments : List Segment) :
    context.render segments =
      match (Division.ofSegments segments).tokens.find? fun token => (context.supplied? token).isNone with
      | some token => .error token.missing
      | none => .ok ((Division.ofSegments segments).fill fun token =>
          ((context.supplied? token).getD "").toList) := by
  induction segments with
  | nil => rfl
  | cons segment rest ih =>
    rw [render_cons, ih]
    cases segment with
    | char c =>
      have same : (Division.ofSegments (.char c :: rest)).tokens = (Division.ofSegments rest).tokens := rfl
      rw [same]
      cases (Division.ofSegments rest).tokens.find? fun token => (context.supplied? token).isNone <;> rfl
    | token token =>
      have same : (Division.ofSegments (.token token :: rest)).tokens =
          token :: (Division.ofSegments rest).tokens := rfl
      have filled (text : Token → List Char) : (Division.ofSegments (.token token :: rest)).fill text =
          text token ++ (Division.ofSegments rest).fill text := Division.fill_next text
      rw [same, filled, List.find?_cons]
      cases supplied : context.supplied? token with
      | none =>
        rw [Context.text, value_of_missing supplied]
        rfl
      | some text =>
        rw [Context.text, value_of_supplied supplied]
        simp only [Option.isNone_some, Option.getD_some]
        cases (Division.ofSegments rest).tokens.find? fun token => (context.supplied? token).isNone <;> rfl

theorem preview_eq_fill (parameters : Bindings) (template : String) :
    preview parameters template =
      String.ofList ((Division.ofSegments (segments template)).fill (Token.preview parameters)) := by
  rw [Division.fill_ofSegments, preview]
  refine congrArg (fun texts => String.ofList (List.flatMap texts (segments template))) ?_
  funext segment
  cases segment with
  | char c => rfl
  | token token => cases token <;> rfl

/-- Every template has one division into literal texts and its leftmost tokens. Its tokens are those that are
read; its value is the division with each token replaced by what is supplied for it, or the fault of the
first for which nothing is; its preview is the division with whatever is missing left out. -/
theorem substitution_exact (template : String) :
    ∃ division : Division, division.source = template.toList ∧ division.Leftmost ∧
      (∀ other : Division, other.source = template.toList → other.Leftmost → other = division) ∧
      (∀ literal ∈ division.literals, ∀ token : Token, Name.isName token.name = true →
        ¬token.source <:+: literal) ∧
      tokens template = division.tokens ∧
      (hasTokens template = true ↔ 0 < division.parts.length) ∧
      (∀ context : Context, context.resolve template =
        match division.tokens.find? fun token => (context.supplied? token).isNone with
        | some token => .error token.missing
        | none => .ok (String.ofList (division.fill fun token =>
            ((context.supplied? token).getD "").toList))) ∧
      ∀ parameters : Bindings,
        preview parameters template = String.ofList (division.fill (Token.preview parameters)) := by
  obtain ⟨source, leftmost⟩ := leftmost_scan template.toList
  have listed : tokens template = (Division.ofSegments (segments template)).tokens :=
    (Division.tokens_ofSegments _).symm
  refine ⟨.ofSegments (segments template), source, leftmost,
    fun other same also => also.unique leftmost (same.trans source.symm),
    fun literal member token => leftmost.literal_plain member, listed, ?_, fun context => ?_,
    fun parameters => preview_eq_fill parameters template⟩
  · rw [hasTokens, listed, Division.tokens, Bool.not_eq_true', List.isEmpty_eq_false_iff, ne_eq,
      List.map_eq_nil_iff, List.length_pos_iff]
  · rw [Context.resolve, context.render_eq]
    cases (Division.ofSegments (segments template)).tokens.find? fun token =>
      (context.supplied? token).isNone <;> rfl

end Template

end Runbook
