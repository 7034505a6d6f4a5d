import Mathlib
import Runbook.Proofs.Configuration.Overlay
import Runbook.Proofs.Document.Conveyance
import Runbook.Proofs.Pattern.Search
import Runbook.Proofs.Template.Division
import Runbook.Proofs.Workflow.Validation

/-! Names and the texts that mention them: a text in braces is a token just where it is a name, so the
names that a definition may introduce are those that its texts can mention. Names and tokens are what the
patterns say that describe them.
-/

set_option autoImplicit false

namespace Runbook

open Pattern (Expression Point Place Slots Captures)
open Pattern.Expression (append_isPrefix_iff Takes Ends takes_char takes_chars takes_repeat ends_textEnd)

/-! ### The pattern of names -/

namespace Name

def pattern : String := "(?-ms)^[A-Za-z_][A-Za-z0-9_]*$"

def starts : Unicode.RangeSet := ⟨[(65, 90), (95, 95), (97, 122)]⟩

def parts : Unicode.RangeSet := ⟨[(48, 57), (65, 90), (95, 95), (97, 122)]⟩

variable {c : Char}

theorem isPart_iff : isPart c = true ↔ parts.contains c.toNat = true := by
  rw [isPart, Bool.or_eq_true, Text.LowerCase.isAlphanum_iff, beq_iff_eq, ← Char.toNat_inj]
  simp [parts, Unicode.RangeSet.contains, Unicode.RangeSet.contains.go]
  omega

theorem isStart_iff : isStart c = true ↔ starts.contains c.toNat = true := by
  have letter : c.isAlpha = true ↔ 65 ≤ c.toNat ∧ c.toNat ≤ 90 ∨ 97 ≤ c.toNat ∧ c.toNat ≤ 122 :=
    Bool.or_eq_true_iff.trans (or_congr decide_eq_true_iff
      (Bool.and_eq_true_iff.trans (and_congr decide_eq_true_iff decide_eq_true_iff)))
  rw [isStart, Bool.or_eq_true, letter, beq_iff_eq, ← Char.toNat_inj]
  simp [starts, Unicode.RangeSet.contains, Unicode.RangeSet.contains.go]
  omega

theorem isNameChars_iff {cs : List Char} : isNameChars cs = true ↔
    ∃ c rest, cs = c :: rest ∧ starts.contains c.toNat = true ∧ ∀ d ∈ rest, parts.contains d.toNat = true := by
  cases cs with
  | nil => simp [isNameChars]
  | cons c rest => simp [isNameChars, isStart_iff, isPart_iff]

def expression : Expression :=
  .seq (.chars starts) (.repeat (.chars parts) 0 none true)

theorem takes_expression : expression.Takes (isNameChars · = true) := by
  refine ((takes_chars _).seq (takes_repeat _ _ _ _)).congr fun cs => ?_
  rw [isNameChars_iff]
  constructor
  · rintro ⟨_, rest, rfl, ⟨c, rfl, start⟩, -, -, others⟩
    exact ⟨c, rest, rfl, start, others⟩
  · rintro ⟨c, rest, rfl, start, others⟩
    exact ⟨[c], rest, rfl, ⟨c, rfl, start⟩, Nat.zero_le _, by simp, others⟩

theorem ends_name : Ends (.seq (.chars starts) (.seq (.repeat (.chars parts) 0 none true) (.look .textEnd)))
    (isNameChars · = true) := by
  refine ((takes_chars _).ends_seq ((takes_repeat _ _ _ _).ends_seq ends_textEnd)).congr fun cs => ?_
  rw [isNameChars_iff]
  constructor
  · rintro ⟨_, _, rfl, ⟨c, rfl, start⟩, rest, _, rfl, ⟨-, -, others⟩, rfl⟩
    exact ⟨c, rest, by simp, start, others⟩
  · rintro ⟨c, rest, rfl, start, others⟩
    exact ⟨[c], rest, rfl, ⟨c, rfl, start⟩, rest, [], by simp, ⟨Nat.zero_le _, by simp, others⟩, rfl⟩

theorem describes_pattern : Pattern.Describes pattern fun name => isName name = true :=
  Pattern.describes_anchored (by cbv) (by cbv) ends_name

end Name

/-! ### The pattern of tokens -/

namespace Template

/-- The parameters of a template, or else its variables. -/
def pattern : String :=
  "(?-ms)\\\x7b\\\x7b([A-Za-z_][A-Za-z0-9_]*)\\\x7d\\\x7d|\\\x7b([A-Za-z_][A-Za-z0-9_]*)\\\x7d"

def character (c : Char) : Expression := .chars (.single c.toNat)

def parameterForm : Expression :=
  .seq (character '{') (.seq (character '{')
    (.seq (.group 1 Name.expression) (.seq (character '}') (character '}'))))

def variableForm : Expression :=
  .seq (character '{') (.seq (.group 2 Name.expression) (character '}'))

def expression : Expression :=
  .alt parameterForm variableForm

theorem opening_eq (place : Place) :
    expression.opening place = ⟨place, #[some place.index, none, none, none, none, none]⟩ :=
  rfl

theorem spans_seq_assoc {first second third : Expression} {p q : Point} :
    (Expression.seq first (.seq second third)).Spans p q ↔
      (Expression.seq (.seq first second) third).Spans p q := by
  constructor
  · rintro ⟨r, one, s, two, three⟩
    exact ⟨s, ⟨r, one, two⟩, three⟩
  · rintro ⟨s, ⟨r, one, two⟩, three⟩
    exact ⟨r, one, s, two, three⟩

theorem spans_delimited {front back : Expression} {u v : List Char} {index : Nat} {p q : Point}
    (before : front.Takes (· = u)) (behind : back.Takes (· = v)) :
    (Expression.seq front (.seq (.group index Name.expression) back)).Spans p q ↔
      ∃ name, Name.isNameChars name = true ∧ u ++ (name ++ v) <+: p.place.behind ∧
        q = ⟨p.place.past (u ++ (name ++ v)),
          (p.slots.setIfInBounds (2 * index) (some (p.place.index + u.length))).setIfInBounds
            (2 * index + 1) (some (p.place.index + u.length + name.length))⟩ := by
  constructor
  · rintro ⟨_, one, _, ⟨_, two, rfl⟩, three⟩
    obtain ⟨u, rfl, ahead, rfl⟩ := (before _ _).1 one
    obtain ⟨name, isName, ahead', rfl⟩ := (Name.takes_expression _ _).1 two
    obtain ⟨v, rfl, ahead'', rfl⟩ := (behind _ _).1 three
    -- Each part starts where the one before has ended, so together they are a front of what is ahead.
    refine ⟨name, isName, ?_, ?_⟩
    · have inside : name <+: p.place.behind.drop u.length := Place.behind_past p.place u ▸ ahead'
      have last : v <+: (p.place.behind.drop u.length).drop name.length := by
        rw [← Place.behind_past, ← Place.behind_past]
        exact ahead''
      exact append_isPrefix_iff.2 ⟨ahead, append_isPrefix_iff.2 ⟨inside, last⟩⟩
    · simp only [Point.past, Point.note, Place.past_append, Place.index_past]
  · rintro ⟨name, isName, ahead, rfl⟩
    obtain ⟨ahead, ahead'⟩ := append_isPrefix_iff.1 ahead
    obtain ⟨inside, last⟩ := append_isPrefix_iff.1 ahead'
    rw [← Place.behind_past] at inside last
    rw [← Place.behind_past] at last
    refine ⟨p.past u, (before _ _).2 ⟨u, rfl, ahead, rfl⟩, _, ⟨_, (Name.takes_expression _ _).2
      ⟨name, isName, inside, rfl⟩, rfl⟩, (behind _ _).2 ⟨v, rfl, last, ?_⟩⟩
    simp only [Point.past, Point.note, Place.past_append, Place.index_past]

/-- What the pattern captures where a token stands: the group of its form has the name. -/
def Token.captures (token : Token) (index : Nat) : Captures :=
  match token with
  | .parameter name =>
    ⟨⟨index, index + token.source.length⟩, [some ⟨index + 2, index + 2 + name.length⟩, none]⟩
  | .variable name =>
    ⟨⟨index, index + token.source.length⟩, [none, some ⟨index + 1, index + 1 + name.length⟩]⟩

theorem takes_pair (c d : Char) : (Expression.seq (character c) (character d)).Takes (· = [c, d]) :=
  ((takes_char c).seq (takes_char d)).congr fun word => by simp

theorem leads_of_spans {place : Place} {q : Point}
    (spans : expression.Spans (expression.opening place) q) :
    ∃ token : Token, token.Leads place.behind ∧
      Pattern.capturesOf 2 (q.note 1).slots = some (token.captures place.index) := by
  rw [opening_eq] at spans
  rcases spans with spans | spans
  · obtain ⟨name, isName, ahead, rfl⟩ :=
      (spans_delimited (takes_pair '{' '{') (takes_pair '}' '}')).1 (spans_seq_assoc.1 spans)
    have source : (Token.parameter (String.ofList name)).source = ['{', '{'] ++ (name ++ ['}', '}']) := by
      simp [Token.source]
    refine ⟨.parameter (String.ofList name), ⟨?_, source ▸ ahead⟩, ?_⟩
    · rwa [Name.isName, Token.name, String.toList_ofList]
    · simp only [Token.captures, source, String.length_ofList, Point.note, Place.index_past]
      rfl
  · obtain ⟨name, isName, ahead, rfl⟩ :=
      (spans_delimited (takes_char '{') (takes_char '}')).1 spans
    have source : (Token.variable (String.ofList name)).source = ['{'] ++ (name ++ ['}']) := by
      simp [Token.source]
    refine ⟨.variable (String.ofList name), ⟨?_, source ▸ ahead⟩, ?_⟩
    · rwa [Name.isName, Token.name, String.toList_ofList]
    · simp only [Token.captures, source, String.length_ofList, Point.note, Place.index_past]
      rfl

theorem starts_iff {place : Place} :
    expression.Starts place ↔ ∃ token : Token, token.Leads place.behind := by
  constructor
  · rintro ⟨q, spans⟩
    obtain ⟨token, leads, -⟩ := leads_of_spans spans
    exact ⟨token, leads⟩
  · rintro ⟨token, isName, ahead⟩
    rw [Name.isName] at isName
    cases token with
    | parameter name =>
      exact ⟨_, .inl (spans_seq_assoc.2 ((spans_delimited (takes_pair '{' '{') (takes_pair '}' '}')).2
        ⟨name.toList, isName, ahead, rfl⟩))⟩
    | «variable» name =>
      exact ⟨_, .inr ((spans_delimited (takes_char '{') (takes_char '}')).2
        ⟨name.toList, isName, ahead, rfl⟩)⟩

/-- The token that a match has captured. -/
def Token.ofCaptures? (text : List Char) (captures : Captures) : Option Token :=
  match captures.groups with
  | some name :: _ => some (.parameter (String.ofList (name.slice text)))
  | none :: some name :: _ => some (.variable (String.ofList (name.slice text)))
  | _ => none

/-- The tokens that a pattern captures, each search going on behind the match before. It goes on as in a text
of its own, since the pattern does not look at what is before a match. -/
inductive Captured (pattern : Pattern) : List Char → List Token → Prop
  | last {text : List Char} : pattern.find? text = none → Captured pattern text []
  | next {text : List Char} {captures : Captures} {token : Token} {tokens : List Token} :
      pattern.find? text = some captures → Token.ofCaptures? text captures = some token →
      Captured pattern (text.drop captures.whole.last) tokens → Captured pattern text (token :: tokens)

theorem slice_of_split {text opening name closing : List Char} {index : Nat}
    (split : opening ++ (name ++ closing) = text.drop index) :
    Pattern.Span.slice ⟨index + opening.length, index + opening.length + name.length⟩ text = name := by
  rw [Pattern.Span.slice, ← List.drop_drop, ← split, List.drop_left, Nat.add_sub_cancel_left,
    List.take_left]

theorem ofCaptures?_captures {token : Token} {text : List Char} {index : Nat}
    (leads : token.Leads (text.drop index)) :
    Token.ofCaptures? text (token.captures index) = some token := by
  obtain ⟨rest, split⟩ := leads.isPrefix
  cases token with
  | parameter name =>
    have inside : ['{', '{'] ++ (name.toList ++ '}' :: '}' :: rest) = text.drop index := by
      simpa [Token.source] using split
    have slice : Pattern.Span.slice ⟨index + 2, index + 2 + name.length⟩ text = name.toList :=
      String.length_toList ▸ slice_of_split inside
    simp [Token.captures, Token.ofCaptures?, slice]
  | «variable» name =>
    have inside : ['{'] ++ (name.toList ++ '}' :: rest) = text.drop index := by
      simpa [Token.source] using split
    have slice : Pattern.Span.slice ⟨index + 1, index + 1 + name.length⟩ text = name.toList :=
      String.length_toList ▸ slice_of_split inside
    simp [Token.captures, Token.ofCaptures?, slice]

theorem tokens_of_leads {token : Token} {rest : List Char} (leads : token.Leads (token.source ++ rest)) :
    tokens (String.ofList (token.source ++ rest)) = token :: tokens (String.ofList rest) := by
  simp [tokens, segments, scan_of_leads leads]

/-- No token starts within the front of a text. -/
def Plain (front rest : List Char) : Prop :=
  ∀ j < front.length, ∀ token : Token, ¬token.Leads ((front ++ rest).drop j)

theorem tokens_of_plain {front rest : List Char} (plain : Plain front rest) :
    tokens (String.ofList (front ++ rest)) = tokens (String.ofList rest) := by
  induction front with
  | nil => rfl
  | cons c front ih =>
    have none : tokenAt? (c :: (front ++ rest)) = none := by
      rw [Option.eq_none_iff_forall_ne_some]
      exact fun token found => plain 0 (Nat.succ_pos _) token (tokenAt?_eq_some_iff.1 found)
    rw [← ih fun j less => plain (j + 1) (Nat.succ_lt_succ less)]
    simp [tokens, segments, scan, none]

section
variable {pattern : Pattern}

/-- A search captures the first token of a text, if there is one. -/
theorem find?_first (realizes : pattern.Realizes expression) (text : List Char) :
    (pattern.find? text = none ∧ Plain text []) ∨
    ∃ front token rest, front ++ (Token.source token ++ rest) = text ∧
      Plain front (token.source ++ rest) ∧ token.Leads (token.source ++ rest) ∧
      pattern.find? text = some (token.captures front.length) := by
  rcases realizes.find?_cases text with
    ⟨same, nowhere⟩ | ⟨earlier, place, later, q, around, nowhere, spans, same⟩
  · refine .inl ⟨same, fun j less token leads => ?_⟩
    obtain ⟨b, among⟩ := Pattern.exists_mem_placesFrom none 0 (Nat.le_of_lt less)
    rw [List.append_nil] at leads
    exact nowhere _ among (starts_iff.2 ⟨token, leads⟩)
  · -- The places before the match are those of the text in front of it, and nothing starts at any of them.
    obtain ⟨number, left, inside, all⟩ := Pattern.placesFrom_split around
    obtain ⟨token, leads, captured⟩ := leads_of_spans spans
    obtain ⟨rest, split⟩ := leads.isPrefix
    have whole : text.take earlier.length ++ (token.source ++ rest) = text := by
      rw [split, left, List.take_append_drop]
    have length : (text.take earlier.length).length = earlier.length :=
      List.length_take_of_le inside
    refine .inr ⟨text.take earlier.length, token, rest, whole, fun j less other leads => ?_,
      split ▸ leads, ?_⟩
    · rw [whole] at leads
      obtain ⟨b, among⟩ := all j (length ▸ less)
      exact nowhere _ among (starts_iff.2 ⟨other, leads⟩)
    · rw [same, length, ← Nat.zero_add earlier.length, ← number]
      exact captured

theorem captured_tokens (realizes : pattern.Realizes expression) (text : List Char) :
    Captured pattern text (tokens (String.ofList text)) := by
  -- On the length of the text, for a match takes many characters at once.
  induction length : text.length using Nat.strongRecOn generalizing text with
  | ind n ih =>
    subst length
    rcases find?_first realizes text with ⟨none, plain⟩ | ⟨front, token, rest, rfl, plain, leads, found⟩
    · have nothing := tokens_of_plain plain
      rw [List.append_nil] at nothing
      rw [nothing]
      exact .last none
    · have last : (token.captures front.length).whole.last = front.length + token.source.length := by
        cases token <;> rfl
      have behind : (front ++ (token.source ++ rest)).drop (token.captures front.length).whole.last = rest := by
        rw [last, ← List.drop_drop, List.drop_left, List.drop_left]
      have shorter : rest.length < (front ++ (token.source ++ rest)).length := by
        have some : 0 < token.source.length := by cases token <;> exact Nat.succ_pos _
        simp only [List.length_append]
        omega
      rw [tokens_of_plain plain, tokens_of_leads leads]
      refine .next found (ofCaptures?_captures ?_) (behind.symm ▸ ih rest.length shorter rest rfl)
      rwa [List.drop_left]

theorem Captured.unique {text : List Char} {found other : List Token}
    (captured : Captured pattern text found) (also : Captured pattern text other) : found = other := by
  induction captured generalizing other with
  | last none =>
    cases also with
    | last => rfl
    | next found => cases none.symm.trans found
  | next found token _ ih =>
    cases also with
    | last none => cases none.symm.trans found
    | next same token' later =>
      cases found.symm.trans same
      cases token.symm.trans token'
      rw [ih later]

end

theorem exists_pattern : ∃ tokenPattern, Pattern.compile pattern = .ok tokenPattern ∧
    ∀ (template : String) (found : List Token),
      Captured tokenPattern template.toList found ↔ found = tokens template := by
  have read : (Pattern.parse? pattern).map Pattern.Parsed.expression = some expression := by cbv
  obtain ⟨tokenPattern, compiled, realizes⟩ := Pattern.exists_realizes read (by cbv)
  refine ⟨tokenPattern, compiled, fun template found => ?_⟩
  have own := captured_tokens realizes template.toList
  rw [String.ofList_toList] at own
  constructor
  · exact fun captured => captured.unique own
  · rintro rfl
    exact own

end Template

end Runbook

/-! ### Texts that mention one name -/

namespace Runbook.Template

variable {name template : String} {token : Token}

def braced (name : String) : String := "\x7b" ++ name ++ "\x7d"

def doubleBraced (name : String) : String := "\x7b\x7b" ++ name ++ "\x7d\x7d"

theorem toList_braced (name : String) : (braced name).toList = (Token.variable name).source := by
  simp [braced, Token.source]

theorem toList_doubleBraced (name : String) :
    (doubleBraced name).toList = (Token.parameter name).source := by
  simp [doubleBraced, Token.source]

theorem isName_of_mem_scan {skip : Nat} {cs : List Char} (member : .token token ∈ scan skip cs) :
    Name.isName token.name = true := by
  induction cs generalizing skip with
  | nil => cases member
  | cons c rest ih =>
    cases skip with
    | succ left => exact ih member
    | zero =>
      rw [scan] at member
      cases found : tokenAt? (c :: rest) with
      | none =>
        simp only [found] at member
        exact ih (by simpa using member)
      | some first =>
        simp only [found] at member
        rcases List.mem_cons.1 member with same | later
        · cases same
          exact (tokenAt?_eq_some_iff.1 found).isName
        · exact ih later

theorem isName_of_mem_tokens (member : token ∈ tokens template) : Name.isName token.name = true :=
  isName_of_mem_scan (mem_tokens.1 member)

theorem segments_of_source (spelled : template.toList = token.source)
    (isName : Name.isName token.name = true) : segments template = [.token token] := by
  have leads : token.Leads (token.source ++ []) := ⟨isName, List.prefix_append _ _⟩
  have read := scan_of_leads leads
  rw [List.append_nil, ← spelled] at read
  exact read

theorem tokens_eq_singleton_iff (spelled : template.toList = token.source) :
    tokens template = [token] ↔ Name.isName token.name = true := by
  constructor
  · intro only
    have member : token ∈ tokens template := only ▸ List.mem_singleton.2 rfl
    exact isName_of_mem_tokens member
  · intro isName
    rw [tokens, segments_of_source spelled isName]
    rfl

namespace Context

variable {context : Context} {value : String}

theorem resolve_bind_of_unmentioned (absent : .variable name ∉ tokens template) :
    (context.bind name value).resolve template = context.resolve template := by
  have elsewhere {token : Token} (other : token ≠ .variable name) :
      (context.bind name value).value token = context.value token := by
    cases token with
    | parameter other => rfl
    | «variable» differing =>
      have differs : differing ≠ name := fun same => other (same ▸ rfl)
      simp only [Context.value, Context.bind, Table.get?_insert, if_neg differs]
  have rendered (segments : List Segment) (absent : .token (.variable name) ∉ segments) :
      (context.bind name value).render segments = context.render segments := by
    induction segments with
    | nil => rfl
    | cons segment rest ih =>
      obtain ⟨here, later⟩ := not_or.1 (mt List.mem_cons.2 absent)
      cases segment with
      | char c => rw [Context.render, Context.render, ih later]
      | token token =>
        have other : token ≠ .variable name := fun same => here (same ▸ rfl)
        rw [Context.render, Context.render, ih later, elsewhere other]
  rw [Context.resolve, Context.resolve, rendered _ (mt mem_tokens.2 absent)]

theorem resolve_bind_braced (isName : Name.isName name = true) :
    (context.bind name value).resolve (braced name) = .ok value := by
  have found : (context.bind name value).value (.variable name) = .ok value := by
    simp [Context.value, Context.bind, Table.get?_insert]
  rw [Context.resolve, segments_of_source (toList_braced name) isName, Context.render, found]
  change Except.ok (String.ofList (value.toList ++ [])) = Except.ok value
  rw [List.append_nil, String.ofList_toList]

end Context

end Runbook.Template

namespace Runbook

/-- A command names a variable: it binds it, or its condition looks at it. -/
def Command.Names (command : Command) (name : String) : Prop :=
  (∃ binding, command.binding = some binding ∧ binding.name = name) ∨
    ∃ condition value, command.condition = some condition ∧
      condition.test = .variableEquals name value

namespace Workflow

variable {command : Command} {name : String} {stage : Stage} {index : Nat}

theorem bind_eq_error_iff {α β ε : Type} {first : Except ε α} {next : α → Except ε β} {fault : ε} :
    first >>= next = .error fault ↔
      first = .error fault ∨ ∃ a, first = .ok a ∧ next a = .error fault := by
  cases first <;> simp [bind, Except.bind]

theorem forM_eq_error {α ε : Type} {check : α → Except ε Unit} {elements : List α} {fault : ε}
    (failed : elements.forM check = .error fault) : ∃ a ∈ elements, check a = .error fault := by
  induction elements with
  | nil => cases failed
  | cons first rest ih =>
    rcases bind_eq_error_iff.1 (failed : (check first >>= fun _ => rest.forM check) = _) with
      here | ⟨_, -, later⟩
    · exact ⟨first, List.mem_cons_self, here⟩
    · obtain ⟨a, member, wrong⟩ := ih later
      exact ⟨a, List.mem_cons_of_mem _ member, wrong⟩

theorem checkFrom_eq_error {check : Command → Except CommandFault Unit} {commands : List Command}
    {fault : Fault} (failed : checkFrom check stage index commands = .error fault) :
    ∃ position command wrong, commands[position]? = some command ∧
      fault = .command stage (index + position) wrong ∧ check command = .error wrong := by
  induction commands generalizing index with
  | nil => cases failed
  | cons first rest ih =>
    rw [checkFrom] at failed
    cases checked : check first with
    | error wrong =>
      rw [checked] at failed
      cases failed
      exact ⟨0, first, wrong, rfl, rfl, checked⟩
    | ok u =>
      rw [checked] at failed
      obtain ⟨position, command, wrong, found, rfl, refused⟩ := ih failed
      refine ⟨position + 1, command, wrong, found, ?_, refused⟩
      rw [Nat.add_assoc, Nat.add_comm 1]

/-! ### The check of a command -/

theorem checkName_eq_ok_iff : checkName name = .ok () ↔ Name.isName name = true := by
  rw [checkName]
  split <;> simp [*]

theorem checkName_eq_error_iff {other : String} :
    checkName name = .error (.invalidVariableName other) ↔
      name = other ∧ Name.isName name = false := by
  rw [checkName]
  split <;> simp [*]

theorem checkBranch_ne_invalidName (branch : BranchCommand) :
    checkBranch branch ≠ .error (.invalidVariableName name) := by
  rw [checkBranch]
  split <;> simp

theorem checkCondition_eq_ok {condition : Condition} {value : String}
    (passed : checkCondition condition = .ok ())
    (compares : condition.test = .variableEquals name value) : Name.isName name = true := by
  rw [checkCondition, compares] at passed
  obtain ⟨_, checked, -⟩ := Document.bind_eq_ok_iff.1 passed
  exact checkName_eq_ok_iff.1 checked

theorem checkCondition_eq_error {condition : Condition}
    (failed : checkCondition condition = .error (.invalidVariableName name)) :
    (∃ value, condition.test = .variableEquals name value) ∧ Name.isName name = false := by
  rw [checkCondition] at failed
  have branches : condition.allCommands.forM checkBranch ≠ .error (.invalidVariableName name) := by
    intro wrong
    obtain ⟨branch, -, refused⟩ := forM_eq_error wrong
    exact checkBranch_ne_invalidName branch refused
  cases test : condition.test with
  | variableEquals other value =>
    rw [test] at failed
    rcases bind_eq_error_iff.1 failed with here | ⟨_, -, later⟩
    · obtain ⟨rfl, refused⟩ := checkName_eq_error_iff.1 here
      exact ⟨⟨value, rfl⟩, refused⟩
    · exact absurd later branches
  | regexMatches pattern =>
    rw [test] at failed
    exact absurd failed branches
  | exitCodeEquals exitCode =>
    rw [test] at failed
    exact absurd failed branches
  | outputContains text =>
    rw [test] at failed
    exact absurd failed branches

theorem checkCommand_eq (command : Command) :
    checkCommand command =
      (if Text.isBlankText command.template then .error .emptyCommand else .ok ()) >>= fun _ =>
        ((command.binding.elim (.ok ()) fun binding => checkName binding.name) >>= fun _ =>
          command.condition.elim (.ok ()) checkCondition) := by
  rw [checkCommand]
  cases Text.isBlankText command.template <;> cases command.binding <;> cases command.condition <;>
    rfl

theorem isName_of_checkCommand (passed : checkCommand command = .ok ())
    (names : command.Names name) : Name.isName name = true := by
  rw [checkCommand_eq, Document.bind_eq_ok_iff] at passed
  obtain ⟨_, -, passed⟩ := passed
  obtain ⟨_, binding, condition⟩ := Document.bind_eq_ok_iff.1 passed
  rcases names with ⟨found, bound, rfl⟩ | ⟨found, value, tested, compares⟩
  · rw [bound] at binding
    exact checkName_eq_ok_iff.1 binding
  · rw [tested] at condition
    exact checkCondition_eq_ok condition compares

theorem names_of_checkCommand (failed : checkCommand command = .error (.invalidVariableName name)) :
    command.Names name ∧ Name.isName name = false := by
  rw [checkCommand_eq] at failed
  rcases bind_eq_error_iff.1 failed with blank | ⟨_, -, failed⟩
  · split at blank <;> cases blank
  rcases bind_eq_error_iff.1 failed with binding | ⟨_, -, condition⟩
  · cases bound : command.binding with
    | none =>
      rw [bound] at binding
      cases binding
    | some found =>
      rw [bound] at binding
      obtain ⟨same, refused⟩ := checkName_eq_error_iff.1 binding
      exact ⟨.inl ⟨found, bound, same⟩, same ▸ refused⟩
  · cases tested : command.condition with
    | none =>
      rw [tested] at condition
      cases condition
    | some found =>
      rw [tested] at condition
      obtain ⟨⟨value, compares⟩, refused⟩ := checkCondition_eq_error condition
      exact ⟨.inr ⟨found, value, tested, compares⟩, refused⟩

/-! ### The check of a definition -/

variable {workflow : Workflow}

theorem isName_of_validate (valid : workflow.validate = .ok ())
    (member : command ∈ workflow.allCommands) (names : command.Names name) :
    Name.isName name = true :=
  isName_of_checkCommand (checkAll_eq_ok valid member) names

theorem names_of_validate
    (invalid : workflow.validate = .error (.command stage index (.invalidVariableName name))) :
    (∃ command, (workflow.commands stage)[index]? = some command ∧ command.Names name) ∧
      Name.isName name = false := by
  obtain ⟨other, -, failed⟩ := forM_eq_error invalid
  obtain ⟨position, command, wrong, found, same, refused⟩ := checkFrom_eq_error failed
  cases same
  obtain ⟨names, isNone⟩ := names_of_checkCommand refused
  rw [Nat.zero_add]
  exact ⟨⟨command, found, names⟩, isNone⟩

open Template (braced doubleBraced toList_braced toList_doubleBraced tokens_eq_singleton_iff)

/-- Names are what templates can mention. The pattern of names and the pattern that is searched for tokens
agree: a text is a name just where it is a token within braces, and then its token is all that is read; no
template mentions anything else. So a variable that an accepted definition
names can be mentioned for the value that it is bound to, and binding one whose name is refused changes the
value of no text. -/
theorem mentionable_names_exact :
    Pattern.Describes Name.pattern (fun name => Name.isName name = true) ∧
    (∃ pattern, Pattern.compile Template.pattern = .ok pattern ∧
      ∀ (template : String) (found : List Template.Token),
        Template.Captured pattern template.toList found ↔ found = Template.tokens template) ∧
    (∀ name, (Name.isName name = true ↔ Template.tokens (braced name) = [.variable name]) ∧
      (Name.isName name = true ↔ Template.tokens (doubleBraced name) = [.parameter name])) ∧
    (∀ template, ∀ token ∈ Template.tokens template, Name.isName token.name = true) ∧
    (∀ workflow : Workflow, workflow.validate = .ok () → ∀ command ∈ workflow.allCommands,
      ∀ name, command.Names name → ∀ (context : Template.Context) (value : String),
        (context.bind name value).resolve (braced name) = .ok value) ∧
    ∀ (workflow : Workflow) (stage : Stage) (index : Nat) (name : String),
      workflow.validate = .error (.command stage index (.invalidVariableName name)) →
      (∃ command, (workflow.commands stage)[index]? = some command ∧ command.Names name) ∧
      ∀ template, .variable name ∉ Template.tokens template ∧
        ∀ (context : Template.Context) (value : String),
          (context.bind name value).resolve template = context.resolve template := by
  refine ⟨Name.describes_pattern, Template.exists_pattern, fun name => ⟨?_, ?_⟩,
    fun template token => Template.isName_of_mem_tokens, ?_, ?_⟩
  · exact (tokens_eq_singleton_iff (toList_braced name)).symm
  · exact (tokens_eq_singleton_iff (toList_doubleBraced name)).symm
  · intro workflow valid command member name names context value
    exact Template.Context.resolve_bind_braced (isName_of_validate valid member names)
  · intro workflow stage index name invalid
    obtain ⟨named, refused⟩ := names_of_validate invalid
    refine ⟨named, fun template => ?_⟩
    -- What a template mentions is a name, and this one was refused as none.
    have absent : .variable name ∉ Template.tokens template := by
      intro mentioned
      have isName := Template.isName_of_mem_tokens mentioned
      rw [Template.Token.name, refused] at isName
      cases isName
    exact ⟨absent, fun context value => Template.Context.resolve_bind_of_unmentioned absent⟩

end Workflow

end Runbook
