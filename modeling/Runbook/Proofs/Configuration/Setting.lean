import Mathlib.Data.List.Nodup
import Runbook.Configuration.Load
import Runbook.Proofs.Configuration.Overlay
import Runbook.Proofs.Document.Conveyance

/-! What becomes of a text that the environment gives a setting.

The text wins over all files. But it is first taken for a truth value or a number where it looks like one,
and written out again as such, so it arrives as it is only where it was written in that way.
-/

set_option autoImplicit false

namespace Runbook

/-! ### The characters of numbers -/

namespace Number.Numeral

open Text.LowerCase (isAlphanum_toLower isAlphanum_iff)

def isNumeral (c : Char) : Bool :=
  c.isAlphanum || c == '+' || c == '-' || c == '.'

theorem isNumeral_of_isAlphanum {c : Char} (letter : c.isAlphanum = true) : isNumeral c = true := by
  simp only [isNumeral, letter, Bool.true_or]

theorem isNumeral_of_isDigit {c : Char} (digit : c.isDigit = true) : isNumeral c = true :=
  isNumeral_of_isAlphanum (Bool.or_eq_true_iff.2 (.inr digit))

section
variable {cs : List Char}

theorem isNumeral_of_signed (all : ∀ c ∈ (signed cs).2, isNumeral c = true) :
    ∀ c ∈ cs, isNumeral c = true := by
  intro c member
  unfold signed at all
  split at all
  · rcases List.mem_cons.1 member with rfl | behind
    · rfl
    · exact all c behind
  · rcases List.mem_cons.1 member with rfl | behind
    · rfl
    · exact all c behind
  · exact all c member

theorem isNumeral_of_natural {n : Nat} (read : natural? cs = some n) :
    ∀ c ∈ cs, isNumeral c = true := by
  rw [natural?] at read
  split at read
  · next digits =>
    rw [Bool.and_eq_true, List.all_eq_true] at digits
    exact fun c member => isNumeral_of_isDigit (digits.2 c member)
  · cases read

theorem isNumeral_of_integer {interval : Interval} {text : String} {n : Int}
    (read : integer? interval text = some n) : ∀ c ∈ text.toList, isNumeral c = true := by
  obtain ⟨n, digits, -⟩ := Option.bind_eq_some_iff.1 read
  exact isNumeral_of_signed (isNumeral_of_natural digits)

theorem contains_of_integer {interval : Interval} {text : String} {n : Int}
    (read : integer? interval text = some n) : interval.contains n = true := by
  obtain ⟨digits, -, fitting⟩ := Option.bind_eq_some_iff.1 read
  obtain ⟨within, same⟩ := Option.ite_none_right_eq_some.1 fitting
  cases same
  exact within

theorem isNumeral_of_exponent {e : Int} (read : exponent? cs = some e) :
    ∀ c ∈ cs, isNumeral c = true := by
  cases cs with
  | nil => nofun
  | cons first rest =>
    rw [exponent?] at read
    split at read
    · next mark =>
      obtain ⟨_, whole, -⟩ := Option.map_eq_some_iff.1 read
      obtain ⟨_, digits, -⟩ := Option.bind_eq_some_iff.1 whole
      have behind : ∀ c ∈ rest, isNumeral c = true := isNumeral_of_signed (isNumeral_of_natural digits)
      intro c member
      rcases List.mem_cons.1 member with rfl | inside
      · rw [Bool.or_eq_true, beq_iff_eq, beq_iff_eq] at mark
        rcases mark with rfl | rfl <;> rfl
      · exact behind c inside
    · cases read

theorem isNumeral_of_digits (behind : ∀ c ∈ cs.drop (cs.takeWhile Char.isDigit).length,
    isNumeral c = true) : ∀ c ∈ cs, isNumeral c = true := by
  intro c member
  rw [← List.take_append_drop (cs.takeWhile Char.isDigit).length cs, List.mem_append] at member
  rcases member with digit | rest
  · rw [← List.prefix_iff_eq_take.1 (List.takeWhile_prefix _)] at digit
    exact isNumeral_of_isDigit (List.mem_takeWhile_imp digit)
  · exact behind c rest

theorem isNumeral_of_decimal {negative : Bool} {x : Real} (read : decimal? negative cs = some x) :
    ∀ c ∈ cs, isNumeral c = true := by
  rw [decimal?] at read
  refine isNumeral_of_digits ?_
  generalize cs.drop (cs.takeWhile Char.isDigit).length = rest at read
  split at read
  next fraction behind divided =>
    split at read
    · cases read
    · obtain ⟨_, exponent, -⟩ := Option.bind_eq_some_iff.1 read
      have numeral := isNumeral_of_exponent exponent
      split at divided
      · cases divided
        intro c member
        rcases List.mem_cons.1 member with rfl | inside
        · rfl
        · exact isNumeral_of_digits numeral c inside
      · cases divided
        exact numeral

theorem isNumeral_of_word {word : String} (same : String.ofList (cs.map Char.toLower) = word)
    (letters : word.toList.all Char.isAlphanum = true) : ∀ c ∈ cs, isNumeral c = true := by
  intro c member
  refine isNumeral_of_isAlphanum ?_
  rw [← isAlphanum_toLower]
  refine List.all_eq_true.1 letters _ ?_
  rw [← same, String.toList_ofList]
  exact List.mem_map_of_mem member

theorem isNumeral_of_real {text : String} {x : Real} (read : real? text = some x) :
    ∀ c ∈ text.toList, isNumeral c = true := by
  rw [real?] at read
  refine isNumeral_of_signed ?_
  dsimp only at read
  split at read
  · next same => exact isNumeral_of_word same (by decide +kernel)
  · next same => exact isNumeral_of_word same (by decide +kernel)
  · next same => exact isNumeral_of_word same (by decide +kernel)
  · exact isNumeral_of_decimal read

end

end Number.Numeral

/-! ### A table around one of its entries -/

theorem Table.exists_entries_of_get? {κ β : Type} [DecidableEq κ] {table : Table κ β} {key : κ}
    {value : β} (held : table.get? key = some value) :
    ∃ before behind, table.entries = before ++ (key, value) :: behind ∧
      (table.erase key).entries = before ++ behind ∧
      ∀ entry ∈ before ++ behind, entry.1 ≠ key := by
  obtain ⟨before, behind, whole, -⟩ := List.lookup_eq_some_iff.1 held
  have distinct := table.distinct
  rw [whole, List.map_append, List.map_cons, List.nodup_middle, List.nodup_cons,
    ← List.map_append] at distinct
  have others : ∀ entry ∈ before ++ behind, entry.1 ≠ key := fun entry member same =>
    distinct.1 (List.mem_map.2 ⟨entry, member, same⟩)
  refine ⟨before, behind, whole, ?_, others⟩
  show table.entries.filter (fun entry => entry.1 != key) = _
  rw [whole, List.filter_append, List.filter_cons_of_neg (by simp), ← List.filter_append]
  exact List.filter_eq_self.2 fun entry member => bne_iff_ne.2 (others entry member)

namespace Configuration

open Document
open Layer (Apart Differs Settled grafted members)
open Number.Numeral (integer? real? isNumeral)

/-! ### What a text is taken for -/

def IsTruth (text : String) : Prop :=
  text.toLower = "true" ∨ text.toLower = "false"

/-- Everything that a text can be taken for, and when. -/
inductive Guessed (text : String) : Value → Prop
  | truth (b : Bool) : text.toLower = toString b → Guessed text (.boolean b)
  | integer (n : Int) : ¬IsTruth text → integer? .int64 text = some n → Guessed text (.integer n)
  | fraction (x : Number.Real) : ¬IsTruth text → integer? .int64 text = none → real? text = some x →
      Guessed text (.float x)
  | plain : ¬IsTruth text → integer? .int64 text = none → real? text = none →
      Guessed text (.string text)

theorem guessed (text : String) : Guessed text (guess text) := by
  rw [guess]
  split
  · next same => exact .truth true same
  · next same => exact .truth false same
  · next notTrue notFalse =>
    have untrue : ¬IsTruth text := not_or.2 ⟨notTrue, notFalse⟩
    cases whole : integer? .int64 text with
    | some n => exact .integer n untrue whole
    | none =>
      cases fraction : real? text with
      | some x => exact .fraction x untrue whole fraction
      | none => exact .plain untrue whole fraction

def writtenOut : Value → String
  | .boolean b => toString b
  | .integer n => toString n
  | .float x => x.plainText
  | .string text => text
  | _ => ""

/-- A text that is written as it would be written out. -/
structure Verbatim (text : String) : Prop where
  truth : IsTruth text → text.toLower = text
  integer : ¬IsTruth text → ∀ n, integer? .int64 text = some n → toString n = text
  fraction : ¬IsTruth text → integer? .int64 text = none → ∀ x, real? text = some x →
    x.plainText = text

section
variable {text : String} {value : Value}

theorem Guessed.writtenOut_eq_iff (guessed : Guessed text value) :
    writtenOut value = text ↔ Verbatim text := by
  cases guessed with
  | truth b same =>
    have isTruth : IsTruth text := by
      cases b
      · exact .inr same
      · exact .inl same
    rw [writtenOut, ← same]
    exact ⟨fun lower => ⟨fun _ => lower, fun untrue => absurd isTruth untrue,
      fun untrue => absurd isTruth untrue⟩, fun verbatim => verbatim.truth isTruth⟩
  | integer n untrue whole =>
    refine ⟨fun lower => ⟨fun isTruth => absurd isTruth untrue, fun _ other read => ?_,
      fun _ none => ?_⟩, fun verbatim => verbatim.integer untrue n whole⟩
    · cases whole.symm.trans read
      exact lower
    · cases whole.symm.trans none
  | fraction x untrue whole fraction =>
    refine ⟨fun lower => ⟨fun isTruth => absurd isTruth untrue, fun _ other read => ?_,
      fun _ _ other read => ?_⟩, fun verbatim => verbatim.fraction untrue whole x fraction⟩
    · cases whole.symm.trans read
    · cases fraction.symm.trans read
      exact lower
  | plain untrue whole fraction =>
    refine ⟨fun _ => ⟨fun isTruth => absurd isTruth untrue, fun _ n read => ?_,
      fun _ _ x read => ?_⟩, fun _ => rfl⟩
    · cases whole.symm.trans read
    · cases fraction.symm.trans read

instance (text : String) : Decidable (Verbatim text) :=
  decidable_of_iff (writtenOut (guess text) = text) (guessed text).writtenOut_eq_iff

theorem Guessed.text_eq (guessed : Guessed text value) :
    Conversion.text value = .ok (writtenOut value) := by
  cases guessed with
  | truth b _ => rfl
  | integer n _ whole =>
    rw [Conversion.text, Conversion.plain, if_pos (Number.Numeral.contains_of_integer whole)]
    rfl
  | fraction x => rfl
  | plain => rfl

theorem Guessed.nullable_text_eq (guessed : Guessed text value) :
    Conversion.nullable Conversion.text value = .ok (some (writtenOut value)) := by
  have present : value ≠ .null := by
    rintro rfl
    cases guessed
  rw [Conversion.nullable]
  · rw [guessed.text_eq]
    rfl
  · exact present

theorem Guessed.grafted_eq (guessed : Guessed text value) (old : Option Value) :
    grafted value [] old = value := by
  cases guessed <;> rfl

/-- A text with a character that no number and no truth value has is taken for itself. -/
theorem verbatim_of_mem {c : Char} (member : c ∈ text.toList) (other : isNumeral c = false) :
    Verbatim text := by
  have foreign : ¬∀ c ∈ text.toList, isNumeral c = true := fun all =>
    Bool.false_ne_true (other.symm.trans (all c member))
  refine ⟨fun isTruth => absurd ?_ foreign, fun _ n read => absurd ?_ foreign,
    fun _ _ x read => absurd ?_ foreign⟩
  · have word (word : String) (same : text.toLower = word)
        (letters : word.toList.all Char.isAlphanum = true) : ∀ c ∈ text.toList, isNumeral c = true := by
      refine Number.Numeral.isNumeral_of_word ?_ letters
      rw [← same, ← String.ofList_toList (s := text.toLower)]
      exact congrArg String.ofList String.toList_map.symm
    rcases isTruth with same | same
    · exact word "true" same (by decide +kernel)
    · exact word "false" same (by decide +kernel)
  · exact Number.Numeral.isNumeral_of_integer read
  · exact Number.Numeral.isNumeral_of_real read

example : Verbatim "s3cret" ∧ Verbatim "-5" ∧ ¬Verbatim "+5" ∧ ¬Verbatim "1.0" ∧ ¬Verbatim "True" := by
  decide +kernel

end

/-! ### Variables as members of a layer -/

theorem mem_of_mem_pointed {cs : List Char} {c : Char} (member : c ∈ pointed cs) :
    c = '.' ∨ c ∈ cs := by
  induction cs using pointed.induct with
  | case1 rest ih =>
    rw [pointed] at member
    rcases List.mem_cons.1 member with point | behind
    · exact .inl point
    · exact (ih behind).imp_right fun inside => List.mem_cons_of_mem _ (List.mem_cons_of_mem _ inside)
  | case2 first rest other ih =>
    rw [pointed] at member
    · rcases List.mem_cons.1 member with same | behind
      · exact .inr (same ▸ List.mem_cons_self)
      · exact (ih behind).imp_right (List.mem_cons_of_mem _)
    · exact other
  | case3 => exact .inr member

theorem isLasting_of_ofVariable {name text : String} {member : Member}
    (counts : ofVariable name text = some member) : Path.IsLasting member.1 := by
  obtain ⟨-, made⟩ := Option.ite_none_right_eq_some.1 counts
  cases made
  refine Path.isLasting_of_lower (Layer.lowered_eq_self fun c inside => ?_)
  rw [String.toList_ofList] at inside
  rcases mem_of_mem_pointed inside with rfl | inside
  · decide
  · exact Layer.low_of_mem_lowered (List.mem_of_mem_drop inside)

/-! ### Reading a configuration that differs in one setting -/

namespace Conversion

section
variable {α : Type} {read : Value → Except Fault α} {name : String} {position : Nat} {default x : α}

theorem field_object (name : String) (position : Nat) (read : Value → Except Fault α) (default : α)
    (entries : List Member) : field name position read default (.object entries) =
      match entries.lookup name with
      | some value => read value
      | none => .ok default := rfl

def Readable (name : String) (read : Value → Except Fault α) (table : Value) : Prop :=
  ∀ value, (members table).lookup name = some value → ∃ x, read value = .ok x

theorem readable_of_field {table : Value} (ok : field name position read default table = .ok x) :
    Readable name read table := by
  intro value held
  cases table with
  | object entries =>
    rw [field_object, show entries.lookup name = some value from held] at ok
    exact ⟨x, ok⟩
  | _ => cases held

theorem exists_field {table : Value} {entries : List Member} (readable : Readable name read table)
    (same : entries.lookup name = (members table).lookup name) :
    ∃ x, field name position read default (.object entries) = .ok x := by
  rw [field_object, same]
  cases held : (members table).lookup name with
  | none => exact ⟨default, rfl⟩
  | some value => exact readable value held

theorem field_of_lookup {entries : List Member} {value : Value}
    (held : entries.lookup name = some value) :
    field name position read default (.object entries) = read value := by
  rw [field_object, held]

theorem field_eq_of_lookup {first second : List Member} (same : second.lookup name = first.lookup name) :
    field name position read default (.object second) =
      field name position read default (.object first) := by
  rw [field_object, field_object, same]

end

theorem logging_eq_ok_iff {value : Value} {result : Logging} : logging value = .ok result ↔
    field "level" 0 text ({} : Logging).level value = .ok result.level ∧
    field "format" 1 format ({} : Logging).format value = .ok result.format := by
  simp only [logging, bind_eq_ok_iff]
  constructor
  · rintro ⟨_, level, _, format, done⟩
    cases done
    exact ⟨level, format⟩
  · rintro ⟨level, format⟩
    exact ⟨_, level, _, format, rfl⟩

theorem notifications_eq_ok_iff {value : Value} {result : Notifications} :
    notifications value = .ok result ↔
      field "webhook_url" 0 (nullable text) none value = .ok result.webhookUrl ∧
      field "webhook_secret" 1 (nullable text) none value = .ok result.webhookSecret ∧
      field "timeout_secs" 2 uint64 ({} : Notifications).timeoutSeconds value =
        .ok result.timeoutSeconds := by
  simp only [notifications, bind_eq_ok_iff]
  constructor
  · rintro ⟨_, url, _, secret, _, seconds, done⟩
    cases done
    exact ⟨url, secret, seconds⟩
  · rintro ⟨url, secret, seconds⟩
    exact ⟨_, url, _, secret, _, seconds, rfl⟩

theorem configuration_eq_ok_iff {value : Value} {result : Configuration} :
    configuration value = .ok result ↔
      field "logging" 0 logging {} value = .ok result.logging ∧
      field "executor" 1 executor {} value = .ok result.executor ∧
      field "notifications" 2 notifications {} value = .ok result.notifications ∧
      field "retention" 3 retention {} value = .ok result.retention := by
  simp only [configuration, bind_eq_ok_iff]
  constructor
  · rintro ⟨_, logging, _, executor, _, notifications, _, retention, done⟩
    cases done
    exact ⟨logging, executor, notifications, retention⟩
  · rintro ⟨logging, executor, notifications, retention⟩
    exact ⟨_, logging, _, executor, _, notifications, _, retention, rfl⟩

section
variable {first second inner : List Member} {others : Configuration}

theorem readable_inside {α β : Type} {table name : String} {position : Nat}
    {read : Value → Except Fault α} {readField : Value → Except Fault β} {default x : α}
    (ok : field table position read default (.object first) = .ok x)
    (needed : ∀ value x, read value = .ok x → Readable name readField value) :
    Readable name readField ((first.lookup table).getD .null) := by
  rw [field_object] at ok
  cases held : first.lookup table with
  | none => nofun
  | some value =>
    rw [held] at ok
    exact needed value x ok

theorem configuration_with_logging {result : Logging}
    (ok : configuration (.object first) = .ok others)
    (elsewhere : ∀ other, other ≠ "logging" → second.lookup other = first.lookup other)
    (found : second.lookup "logging" = some (.object inner))
    (read : logging (.object inner) = .ok result) :
    configuration (.object second) = .ok { others with logging := result } := by
  obtain ⟨-, executor, notifications, retention⟩ := configuration_eq_ok_iff.1 ok
  refine configuration_eq_ok_iff.2 ⟨(field_of_lookup found).trans read, ?_, ?_, ?_⟩
  · rwa [field_eq_of_lookup (elsewhere "executor" (by decide))]
  · rwa [field_eq_of_lookup (elsewhere "notifications" (by decide))]
  · rwa [field_eq_of_lookup (elsewhere "retention" (by decide))]

theorem configuration_with_notifications {result : Notifications}
    (ok : configuration (.object first) = .ok others)
    (elsewhere : ∀ other, other ≠ "notifications" → second.lookup other = first.lookup other)
    (found : second.lookup "notifications" = some (.object inner))
    (read : notifications (.object inner) = .ok result) :
    configuration (.object second) = .ok { others with notifications := result } := by
  obtain ⟨logging, executor, -, retention⟩ := configuration_eq_ok_iff.1 ok
  refine configuration_eq_ok_iff.2 ⟨?_, ?_, (field_of_lookup found).trans read, ?_⟩
  · rwa [field_eq_of_lookup (elsewhere "logging" (by decide))]
  · rwa [field_eq_of_lookup (elsewhere "executor" (by decide))]
  · rwa [field_eq_of_lookup (elsewhere "retention" (by decide))]

end

end Conversion

inductive TextSetting where
  | level
  | webhookUrl
  | webhookSecret
  deriving DecidableEq, Repr

namespace TextSetting

def table : TextSetting → String
  | .level => "logging"
  | .webhookUrl => "notifications"
  | .webhookSecret => "notifications"

def name : TextSetting → String
  | .level => "level"
  | .webhookUrl => "webhook_url"
  | .webhookSecret => "webhook_secret"

def variableName : TextSetting → String
  | .level => "NETOPS__LOGGING__LEVEL"
  | .webhookUrl => "NETOPS__NOTIFICATIONS__WEBHOOK_URL"
  | .webhookSecret => "NETOPS__NOTIFICATIONS__WEBHOOK_SECRET"

def value : TextSetting → Configuration → Option String
  | .level, configuration => some configuration.logging.level
  | .webhookUrl, configuration => configuration.notifications.webhookUrl
  | .webhookSecret, configuration => configuration.notifications.webhookSecret

def path (setting : TextSetting) : String :=
  setting.table ++ "." ++ setting.name

theorem steps_path (setting : TextSetting) :
    (Path.ofText setting.path).steps = [.member setting.table, .member setting.name] := by
  cases setting <;> decide +kernel

theorem lowered_table (setting : TextSetting) : Layer.lowered setting.table = setting.table := by
  cases setting <;> decide +kernel

theorem lowered_name (setting : TextSetting) : Layer.lowered setting.name = setting.name := by
  cases setting <;> decide +kernel

theorem ofVariable_variableName (setting : TextSetting) (text : String) :
    ofVariable setting.variableName text = some (setting.path, guess text) := by
  have start : (Layer.lowered setting.variableName).startsWith variableStart = true := by
    cases setting <;> decide +kernel
  have behind : String.ofList (pointed ((Layer.lowered setting.variableName).toList.drop
      variableStart.length)) = setting.path := by
    cases setting <;> decide +kernel
  rw [ofVariable, if_pos start, behind]

theorem exists_configuration (setting : TextSetting) {value : Value} {text : String}
    {first second : List Member} {others : Configuration} (guessed : Guessed text value)
    (differs : Differs setting.table setting.name value (.object first) (.object second))
    (ok : Conversion.configuration (.object first) = .ok others) :
    ∃ result, Conversion.configuration (.object second) = .ok result ∧
      setting.value result = some (writtenOut value) := by
  obtain ⟨elsewhere, inner, found, held, inside⟩ := differs
  obtain ⟨logging, -, notifications, -⟩ := Conversion.configuration_eq_ok_iff.1 ok
  -- The other fields are read as before, unless they came by position, out of an array: now they are not
  -- there, and have their defaults.
  cases setting with
  | level =>
    obtain ⟨format, formatRead⟩ := Conversion.exists_field
      (Conversion.readable_inside logging fun _ _ ok =>
        Conversion.readable_of_field (Conversion.logging_eq_ok_iff.1 ok).2)
      (inside "format" (by decide))
    have read : Conversion.logging (.object inner) = .ok ⟨writtenOut value, format⟩ :=
      Conversion.logging_eq_ok_iff.2 ⟨(Conversion.field_of_lookup held).trans guessed.text_eq, formatRead⟩
    exact ⟨_, Conversion.configuration_with_logging ok elsewhere found read, rfl⟩
  | webhookUrl =>
    obtain ⟨secret, secretRead⟩ := Conversion.exists_field
      (Conversion.readable_inside notifications fun _ _ ok =>
        Conversion.readable_of_field (Conversion.notifications_eq_ok_iff.1 ok).2.1)
      (inside "webhook_secret" (by decide))
    obtain ⟨seconds, secondsRead⟩ := Conversion.exists_field
      (Conversion.readable_inside notifications fun _ _ ok =>
        Conversion.readable_of_field (Conversion.notifications_eq_ok_iff.1 ok).2.2)
      (inside "timeout_secs" (by decide))
    have read : Conversion.notifications (.object inner) =
        .ok ⟨some (writtenOut value), secret, seconds⟩ :=
      Conversion.notifications_eq_ok_iff.2
        ⟨(Conversion.field_of_lookup held).trans guessed.nullable_text_eq, secretRead, secondsRead⟩
    exact ⟨_, Conversion.configuration_with_notifications ok elsewhere found read, rfl⟩
  | webhookSecret =>
    obtain ⟨url, urlRead⟩ := Conversion.exists_field
      (Conversion.readable_inside notifications fun _ _ ok =>
        Conversion.readable_of_field (Conversion.notifications_eq_ok_iff.1 ok).1)
      (inside "webhook_url" (by decide))
    obtain ⟨seconds, secondsRead⟩ := Conversion.exists_field
      (Conversion.readable_inside notifications fun _ _ ok =>
        Conversion.readable_of_field (Conversion.notifications_eq_ok_iff.1 ok).2.2)
      (inside "timeout_secs" (by decide))
    have read : Conversion.notifications (.object inner) =
        .ok ⟨url, some (writtenOut value), seconds⟩ :=
      Conversion.notifications_eq_ok_iff.2
        ⟨urlRead, (Conversion.field_of_lookup held).trans guessed.nullable_text_eq, secondsRead⟩
    exact ⟨_, Conversion.configuration_with_notifications ok elsewhere found read, rfl⟩

end TextSetting

/-! ### The environment over the files -/

theorem load_eq_ok_iff {read : Files.Reader} {environment : Bindings} {result : Configuration} :
    load read environment = .ok result ↔ ∃ general special,
      ofSource read "config/default" = .ok general ∧ ofSource read "config/local" = .ok special ∧
      Conversion.configuration (Layer.combine [general, special, ofEnvironment environment]) =
        .ok result := by
  have converted (outcome : Except Conversion.Fault Configuration) :
      outcome.mapError Fault.conversion = .ok result ↔ outcome = .ok result := by
    cases outcome <;> simp [Except.mapError]
  simp only [load, bind_eq_ok_iff, converted, exists_and_left]

/-- No other variable leads to a setting, to its table, or through the setting. -/
def Undisputed (setting : TextSetting) (environment : Bindings) : Prop :=
  ∀ member ∈ ofEnvironment (environment.erase setting.variableName),
    Layer.Apart setting.table setting.name (Path.ofText member.1).steps

instance (setting : TextSetting) (environment : Bindings) : Decidable (Undisputed setting environment) :=
  inferInstanceAs (Decidable (∀ member ∈ ofEnvironment (environment.erase setting.variableName), _))

/-- The outermost names in a source stay what they are, paths or none, in lower case. -/
def Lasting (read : Files.Reader) (source : String) : Prop :=
  ∀ members, ofSource read source = .ok members → ∀ member ∈ members, Path.IsLasting member.1

instance (read : Files.Reader) (source : String) : Decidable (Lasting read source) :=
  match said : ofSource read source with
  | .ok members =>
    decidable_of_iff (∀ member ∈ members, Path.IsLasting member.1)
      ⟨fun lasting _ same => by cases said.symm.trans same; exact lasting,
        fun lasting => lasting members said⟩
  | .error _ => .isTrue fun _ same => by cases said.symm.trans same

section
variable {setting : TextSetting} {read : Files.Reader} {environment : Bindings} {text : String}

/-- The environment is a layer with one member more than without the variable. -/
theorem exists_ofEnvironment (held : environment.get? setting.variableName = some text) :
    ∃ before behind, ofEnvironment environment = before ++ (setting.path, guess text) :: behind ∧
      ofEnvironment (environment.erase setting.variableName) = before ++ behind := by
  obtain ⟨before, behind, whole, without, -⟩ := Table.exists_entries_of_get? held
  let said (entry : String × String) : Option Member := ofVariable entry.1 entry.2
  have counts : said (setting.variableName, text) = some (setting.path, guess text) :=
    setting.ofVariable_variableName text
  refine ⟨before.filterMap said, behind.filterMap said, ?_, ?_⟩
  · rw [ofEnvironment, whole, List.filterMap_append, List.filterMap_cons_some counts]
  · rw [ofEnvironment, without, List.filterMap_append]

theorem isLasting_of_mem_layers {generals specials : List Member}
    (generalRead : ofSource read "config/default" = .ok generals)
    (specialRead : ofSource read "config/local" = .ok specials)
    (general : Lasting read "config/default") (special : Lasting read "config/local") :
    ∀ member ∈ [generals, specials, ofEnvironment environment].flatten, Path.IsLasting member.1 := by
  intro member among
  obtain ⟨layer, chosen, inside⟩ := List.mem_flatten.1 among
  simp only [List.mem_cons, List.not_mem_nil, or_false] at chosen
  rcases chosen with rfl | rfl | rfl
  · exact general _ generalRead member inside
  · exact special _ specialRead member inside
  · obtain ⟨_, -, counts⟩ := List.mem_filterMap.1 inside
    exact isLasting_of_ofVariable counts

/-- Whatever the files say, a setting that the environment has a text for is that text, written out as
what it was taken for: the text itself just where it was written in that way. -/
theorem text_setting_eq_iff {others : Configuration}
    (held : environment.get? setting.variableName = some text)
    (undisputed : Undisputed setting environment)
    (general : Lasting read "config/default") (special : Lasting read "config/local")
    (valid : load read (environment.erase setting.variableName) = .ok others) :
    ∃ result, load read environment = .ok result ∧
      setting.value result = some (writtenOut (guess text)) ∧
      (setting.value result = some text ↔ Verbatim text) ∧
      ((∃ c ∈ text.toList, isNumeral c = false) → setting.value result = some text) := by
  obtain ⟨generals, specials, generalRead, specialRead, ok⟩ := load_eq_ok_iff.1 valid
  obtain ⟨before, behind, more, less⟩ := exists_ofEnvironment held
  have lasting (environment : Bindings) :
      ∀ member ∈ [generals, specials, ofEnvironment environment].flatten, Path.IsLasting member.1 :=
    isLasting_of_mem_layers generalRead specialRead general special
  -- What comes before the variable it overwrites, what comes behind it leads elsewhere.
  have apart : ∀ member ∈ behind,
      Layer.Apart setting.table setting.name (Path.ofText member.1).steps := by
    intro member inside
    refine undisputed member ?_
    rw [less]
    exact List.mem_append_right before inside
  have differs : Differs setting.table setting.name (guess text)
      (Layer.combine [generals, specials, ofEnvironment (environment.erase setting.variableName)])
      (Layer.combine [generals, specials, ofEnvironment environment]) := by
    have lastingMore := lasting environment
    rw [more] at lastingMore ⊢
    rw [less]
    exact Layer.differs_combine [generals, specials] setting.steps_path setting.lowered_table
      setting.lowered_name (guessed text).grafted_eq lastingMore apart
  obtain ⟨first, firstForm⟩ := Layer.exists_object_of_combine _
    (lasting (environment.erase setting.variableName))
  obtain ⟨second, secondForm⟩ := Layer.exists_object_of_combine _ (lasting environment)
  rw [firstForm, secondForm] at differs
  rw [firstForm] at ok
  obtain ⟨result, resultRead, arrived⟩ := setting.exists_configuration (guessed text) differs ok
  have verbatim : setting.value result = some text ↔ Verbatim text := by
    rw [arrived, Option.some_inj]
    exact (guessed text).writtenOut_eq_iff
  refine ⟨result, ?_, arrived, verbatim, ?_⟩
  · exact load_eq_ok_iff.2 ⟨generals, specials, generalRead, specialRead, secondForm ▸ resultRead⟩
  · rintro ⟨c, member, other⟩
    exact verbatim.2 (verbatim_of_mem member other)

end

def onlyFile (path text : String) : Files.Reader := fun other =>
  if other = path then .ok text else .error .missing

theorem text_setting_eq_iff_over_a_file :
    let setting := TextSetting.webhookSecret
    let read := onlyFile "config/local.json" "\x7b\"Notifications\":\x7b\"webhook_secret\":\"old\"\x7d\x7d"
    let environment : Bindings := .ofList [("PATH", "/bin"), (setting.variableName, "s3cret!"),
      (TextSetting.level.variableName, "warn")]
    (environment.get? setting.variableName = some "s3cret!" ∧ Undisputed setting environment ∧
      Lasting read "config/default" ∧ Lasting read "config/local" ∧
      load read (environment.erase setting.variableName) =
        .ok { logging := { level := "warn" }, notifications := { webhookSecret := some "old" } }) ∧
      ∃ result, load read environment = .ok result ∧ setting.value result = some "s3cret!" := by
  intro setting read environment
  have held : environment.get? setting.variableName = some "s3cret!" := by decide +kernel
  have undisputed : Undisputed setting environment := by decide +kernel
  have general : Lasting read "config/default" := by decide +kernel
  have special : Lasting read "config/local" := by decide +kernel
  have valid : load read (environment.erase setting.variableName) =
      .ok { logging := { level := "warn" }, notifications := { webhookSecret := some "old" } } := by
    decide +kernel
  obtain ⟨result, loaded, -, -, arrives⟩ := text_setting_eq_iff held undisputed general special valid
  have exclamation : '!' ∈ "s3cret!".toList := by decide +kernel
  exact ⟨⟨held, undisputed, general, special, valid⟩, result, loaded, arrives ⟨_, exclamation, rfl⟩⟩

/-- What a file says of the secret arrives as it is, and what the environment says does not. -/
theorem webhook_secret_loses_zeros :
    let setting := TextSetting.webhookSecret
    let read := onlyFile "config/local.json" "\x7b\"notifications\":\x7b\"webhook_secret\":\"007\"\x7d\x7d"
    let environment : Bindings := .ofList [(setting.variableName, "007")]
    environment.get? setting.variableName = some "007" ∧
      (load read .empty).map setting.value = .ok (some "007") ∧
      (load read environment).map setting.value = .ok (some "7") := by
  refine ⟨?_, ?_, ?_⟩
  all_goals decide +kernel

end Configuration

end Runbook
