import Runbook.Proofs.Document.Conveyance

/-! What follows from a record having been read.

A record is put together from its fields in one of three ways, and whatever holds of the readers of its
fields is followed through these. So what a record has taken from a document, its fields have taken from
the members of that name or the items in that place.
-/

set_option autoImplicit false

namespace Runbook.Document

variable {α β : Type} {format : Format}

/-- A value has a field as a member of this name, or as an item in its place among these names. -/
inductive Value.HasField (names : List String) : Value → String → Value → Prop where
  | named {members : List Member} {name : String} {inner : Value} (inside : (name, inner) ∈ members) :
    HasField names (.object members) name inner
  | placed {items : List Value} {index : Nat} {name : String} {inner : Value}
    (place : names[index]? = some name) (inside : items[index]? = some inner) :
    HasField names (.array items) name inner

def Value.HasOnly (names : List String) : Value → Prop
  | .object members => ∀ member ∈ members, member.1 ∈ names
  | .array items => items.length ≤ names.length
  | _ => False

/-- Whatever is read of JSON has a property. -/
def Decoder.Admits (decode : Decoder α) (accepts : Value → Prop) : Prop :=
  ∀ (value : Value) (a : α), decode .json value = .ok a → accepts value

namespace Decoder.Admits

variable {decode : Decoder α} {accepts : Value → Prop}

theorem nullable (admits : decode.Admits accepts) :
    (Decoder.nullable decode).Admits fun value => value = .null ∨ accepts value := by
  intro value content read
  unfold Decoder.nullable at read
  split at read
  · exact .inl rfl
  · cases inner : decode .json value with
    | error fault => rw [inner] at read; cases read
    | ok a => exact .inr (admits value a inner)

theorem list (admits : decode.Admits accepts) :
    (Decoder.list decode).Admits fun value =>
      ∃ items, value = .array items ∧ ∀ item ∈ items, accepts item := by
  intro value results read
  cases value with
  | array items =>
    refine ⟨items, rfl, ?_⟩
    have paired := mapM_eq_ok_iff.1 read
    clear read
    induction paired with
    | nil => nofun
    | cons first _ ih => exact List.forall_mem_cons.2 ⟨admits _ _ first, ih⟩
  | _ => cases read

end Decoder.Admits

namespace Record

def names (record : Record α) : List String :=
  record.fields.map Field.name

theorem names_seq (first : Record (α → β)) (second : Record α) :
    (first <*> second).names = first.names ++ second.names :=
  List.map_append

theorem allows_of_check {fields : List Field} {strict : Bool} {members : List Member}
    {seen : List String} (checked : check fields strict format seen members = .ok ()) :
    ∀ member ∈ members, Allows fields strict format member := by
  induction members generalizing seen with
  | nil => nofun
  | cons first rest ih =>
    obtain ⟨name, value⟩ := first
    rw [check] at checked
    cases found : fields.find? (·.name == name) with
    | none =>
      simp only [found] at checked
      cases strict with
      | true => cases checked
      | false =>
        refine List.forall_mem_cons.2 ⟨?_, ih checked⟩
        simp only [Allows, found]
    | some field =>
      simp only [found] at checked
      by_cases again : name ∈ seen
      · rw [if_pos again] at checked
        cases checked
      · rw [if_neg again] at checked
        cases own : field.check format value with
        | error fault => rw [own] at checked; cases checked
        | ok =>
          rw [own] at checked
          refine List.forall_mem_cons.2 ⟨?_, ih checked⟩
          simp only [Allows, found]
          exact own

theorem decodeMembers_eq_ok_iff {record : Record α} {strict : Bool} {members : List Member} {a : α} :
    record.decodeMembers strict format members = .ok a ↔
      check record.fields strict format [] members = .ok () ∧ record.ofMembers format members = .ok a :=
  bind_eq_ok_iff.trans ⟨fun ⟨_, parts⟩ => parts, fun parts => ⟨(), parts⟩⟩

/-- An array is taken up entirely; how its shape is worded does not matter to that. -/
theorem exists_decodeItems_iff (record : Record α) (shape : String) :
    ∃ wording, ∀ (items : List Value) (a : α), record.decodeItems shape .json items = .ok a ↔
      ∃ position, record.ofItems .json wording 0 items = .ok (a, position, []) := by
  let count := record.fields.length
  let elements := if count = 1 then "1 element" else s!"{count} elements"
  refine ⟨s!"{shape} with {elements}", fun items a => bind_eq_ok_iff.trans ?_⟩
  constructor
  · rintro ⟨⟨b, position, rest⟩, read, done⟩
    cases rest with
    | nil => cases done; exact ⟨position, read⟩
    | cons item others => cases done
  · rintro ⟨position, read⟩
    exact ⟨_, read, rfl⟩

/-- Put together from fields whose readers all have a property. -/
inductive Assembled (each : (α : Type) → String → Decoder α → Prop) : {α : Type} → Record α → Prop where
  | pure {α : Type} (a : α) : Assembled each (Record.pure a)
  | field {α : Type} {name : String} {decode : Decoder α} {absent cut : Option α}
    (own : each α name decode) : Assembled each (Record.field name decode absent cut)
  | seq {α β : Type} {first : Record (α → β)} {second : Record α} (left : Assembled each first)
    (right : Assembled each second) : Assembled each (first <*> second)

namespace Assembled

variable {each : (α : Type) → String → Decoder α → Prop} {record : Record α}

theorem map (f : α → β) (assembled : Assembled each record) : Assembled each (f <$> record) :=
  .seq (.pure f) assembled

theorem exists_decoder (assembled : Assembled each record) {field : Field}
    (inside : field ∈ record.fields) :
    ∃ (α : Type) (decode : Decoder α), each α field.name decode ∧
      ∀ format value, field.check format value = (decode format value).map fun _ => () := by
  induction assembled with
  | pure a => cases inside
  | field own =>
    cases List.mem_singleton.1 inside
    exact ⟨_, _, own, fun _ _ => rfl⟩
  | seq _ _ left right => exact (List.mem_append.1 inside).elim left right

theorem ofItems_eq_ok (assembled : Assembled each record) {shape : String} {position after : Nat}
    {items rest : List Value} {a : α}
    (read : record.ofItems format shape position items = .ok (a, after, rest)) :
    rest = items.drop record.names.length ∧
      ∀ (index : Nat) (name : String) (inner : Value), record.names[index]? = some name →
        items[index]? = some inner →
        ∃ (α : Type) (decode : Decoder α) (b : α), each α name decode ∧ decode format inner = .ok b := by
  induction assembled generalizing position after items rest with
  | pure a =>
    cases read
    exact ⟨rfl, nofun⟩
  | @field α name decode absent cut own =>
    cases items with
    | nil =>
      refine ⟨?_, nofun⟩
      simp only [Record.field] at read
      cases cut with
      | none => cases read
      | some cut => cases read; rfl
    | cons value others =>
      cases first : decode format value with
      | error fault =>
        simp only [Record.field, first] at read
        cases read
      | ok b =>
        simp only [Record.field, first] at read
        cases read
        refine ⟨rfl, fun index name' inner place inside => ?_⟩
        cases index with
        | zero =>
          cases place
          cases inside
          exact ⟨_, _, _, own, first⟩
        | succ index => cases place
  | @seq α β first second _ _ left right =>
    obtain ⟨⟨f, between, others⟩, some, later⟩ := bind_eq_ok_iff.1 read
    obtain ⟨⟨b, after, last⟩, more, done⟩ := bind_eq_ok_iff.1 later
    cases done
    -- The second record goes on with the items that the first has left.
    obtain ⟨rfl, ahead⟩ := left some
    obtain ⟨rfl, behind⟩ := right more
    constructor
    · rw [List.drop_drop, names_seq, List.length_append]
    · intro index name inner place inside
      rw [names_seq] at place
      by_cases early : index < first.names.length
      · rw [List.getElem?_append_left early] at place
        exact ahead index name inner place inside
      · have late : first.names.length ≤ index := Nat.le_of_not_lt early
        rw [List.getElem?_append_right late] at place
        refine behind (index - first.names.length) name inner place ?_
        rw [List.getElem?_drop, Nat.add_sub_cancel' late]
        exact inside

theorem decode_eq_ok (assembled : Assembled each record) {name : String} {strict : Bool} {value : Value}
    {a : α} (read : record.decode name strict .json value = .ok a) {own : String} {inner : Value}
    (known : own ∈ record.names) (has : value.HasField record.names own inner) :
    ∃ (α : Type) (decode : Decoder α) (b : α), each α own decode ∧ decode .json inner = .ok b := by
  cases has with
  | named inside =>
    obtain ⟨checked, -⟩ := decodeMembers_eq_ok_iff.1 read
    have allowed := allows_of_check checked _ inside
    cases found : record.fields.find? (·.name == own) with
    | none =>
      obtain ⟨field, listed, same⟩ := List.mem_map.1 known
      have absent := List.find?_eq_none.1 found field listed
      exact absurd (beq_iff_eq.2 same) absent
    | some field =>
      simp only [Allows, found] at allowed
      have same : field.name = own := by simpa using List.find?_some found
      obtain ⟨α, decode, fits, checks⟩ := assembled.exists_decoder (List.mem_of_find?_eq_some found)
      rw [checks] at allowed
      cases taken : decode .json inner with
      | error fault => rw [taken] at allowed; cases allowed
      | ok b => exact ⟨α, decode, b, same ▸ fits, taken⟩
  | placed place inside =>
    obtain ⟨wording, taken⟩ := exists_decodeItems_iff record ("struct " ++ name)
    obtain ⟨position, items⟩ := (taken _ a).1 read
    exact (assembled.ofItems_eq_ok items).2 _ own inner place inside

theorem other {own name : String} {accepts : Value → Prop} {decode : Decoder α} {absent cut : Option α}
    (differ : name ≠ own) : Assembled (fun _ name decode => name = own → decode.Admits accepts)
      (Record.field name decode absent cut) :=
  .field fun same => absurd same differ

theorem accepts {own : String} {accepts : Value → Prop}
    (assembled : Assembled (fun _ name decode => name = own → decode.Admits accepts) record)
    (known : own ∈ record.names) {name : String} {strict : Bool} {value inner : Value} {a : α}
    (read : record.decode name strict .json value = .ok a) (has : value.HasField record.names own inner) :
    accepts inner := by
  obtain ⟨β, decode, b, admits, taken⟩ := assembled.decode_eq_ok read known has
  exact admits rfl inner b taken

theorem hasOnly (assembled : Assembled each record) {name : String} {value : Value} {a : α}
    (read : record.decode name true .json value = .ok a) :
    value.HasOnly record.names ∨ ∃ text, value = .moment text := by
  cases value with
  | object members =>
    refine .inl fun member inside => ?_
    obtain ⟨checked, -⟩ := decodeMembers_eq_ok_iff.1 read
    have allowed := allows_of_check checked member inside
    cases found : record.fields.find? (·.name == member.1) with
    | none => simp [Allows, found] at allowed
    | some field =>
      have same : field.name = member.1 := by simpa using List.find?_some found
      exact same ▸ List.mem_map_of_mem (List.mem_of_find?_eq_some found)
  | array items =>
    obtain ⟨wording, taken⟩ := exists_decodeItems_iff record ("struct " ++ name)
    obtain ⟨position, all⟩ := (taken items a).1 read
    exact .inl (List.drop_eq_nil_iff.1 (assembled.ofItems_eq_ok all).1.symm)
  | moment text => exact .inr ⟨text, rfl⟩
  | _ => cases read

end Assembled

end Record

end Runbook.Document
