import Mathlib.Data.List.Forall2
import Mathlib.Data.List.Nodup
import Runbook.Document.Decoder
import Runbook.Document.Encoder

/-! What is written as a document and read from it again.

The members of a record are a list of slots, some of them empty; a reader takes such a list when it
finds each of its fields in the slot of the same name. This is settled field by field, in the order
in which the reader is put together, and needs no look at the members of any particular record.
-/

set_option autoImplicit false

namespace Runbook.Document

open Number

variable {α β : Type} {format : Format} {levels : Nat}

theorem bind_eq_ok_iff {ε : Type} {first : Except ε α} {next : α → Except ε β} {b : β} :
    first >>= next = .ok b ↔ ∃ a, first = .ok a ∧ next a = .ok b := by
  cases first <;> simp [bind, Except.bind]

theorem mapM_eq_ok_iff {ε : Type} {f : α → Except ε β} {items : List α} {results : List β} :
    items.mapM f = .ok results ↔ List.Forall₂ (fun item result => f item = .ok result) items results := by
  induction items generalizing results with
  | nil => cases results <;> simp [pure, Except.pure]
  | cons item rest ih =>
    simp only [List.mapM_cons, bind_eq_ok_iff]
    constructor
    · rintro ⟨result, first, more, others, done⟩
      cases done
      exact .cons first (ih.1 others)
    · rintro (_ | ⟨first, others⟩)
      exact ⟨_, first, _, ih.2 others, rfl⟩

/-- Values that need no more than text, truth values, integers of a machine and containers, nested
no deeper than `levels`. -/
inductive Value.IsPlain : Nat → Value → Prop where
  | null {levels : Nat} : IsPlain levels .null
  | boolean {levels : Nat} (b : Bool) : IsPlain levels (.boolean b)
  | integer {levels : Nat} {n : Int} (machine : isMachineInteger n = true) :
    IsPlain levels (.integer n)
  | string {levels : Nat} (text : String) : IsPlain levels (.string text)
  | array {levels : Nat} {items : List Value} (each : ∀ item ∈ items, IsPlain levels item) :
    IsPlain (levels + 1) (.array items)
  | object {levels : Nat} {members : List Member}
    (each : ∀ member ∈ members, IsPlain levels member.2) : IsPlain (levels + 1) (.object members)

theorem Value.isMachineInteger_toInt (n : Int32) : isMachineInteger n.toInt = true := by
  have low := n.le_toInt
  have high := n.toInt_lt
  have inside : Interval.int64.contains n.toInt = true :=
    Interval.contains_iff.2 (by simp only [Interval.int64]; omega)
  simp [isMachineInteger, inside]

/-- A value is read as `a`, and is nothing that a notation could not tell. Null is left out, since
it stands for no value at all where one may be missing. -/
structure Conveys (decode : Decoder α) (format : Format) (levels : Nat) (value : Value) (a : α) :
    Prop where
  read : decode format value = .ok a
  plain : value.IsPlain levels
  given : value ≠ .null

namespace Conveys

theorem string (text : String) : Conveys Decoder.string format levels (.string text) text :=
  ⟨rfl, .string text, nofun⟩

theorem boolean (b : Bool) : Conveys Decoder.boolean format levels (.boolean b) b :=
  ⟨rfl, .boolean b, nofun⟩

theorem integer {what : String} {interval : Interval} {n : Int}
    (inside : interval.contains n = true) (machine : Value.isMachineInteger n = true) :
    Conveys (Decoder.integer what interval) format levels (.integer n) n :=
  ⟨by simp [Decoder.integer, inside], .integer machine, nofun⟩

theorem int32 (n : Int32) : Conveys Decoder.int32 format levels (Encoder.int32 n) n := by
  have low := n.le_toInt
  have high := n.toInt_lt
  have inside : Interval.int32.contains n.toInt = true :=
    Interval.contains_iff.2 (by simp only [Interval.int32]; omega)
  have number := (integer inside (Value.isMachineInteger_toInt n) :
    Conveys (Decoder.integer "i32" .int32) format levels _ _)
  refine ⟨?_, number.plain, number.given⟩
  simp [Decoder.int32, Encoder.int32, number.read]

theorem unsigned {what : String} {n : Nat} (fits : n < UInt64.size) :
    Conveys (Decoder.integer what .uint64) format levels (.integer n) n := by
  rw [UInt64.size] at fits
  have inside : Interval.uint64.contains n = true :=
    Interval.contains_iff.2 (by simp only [Interval.uint64]; omega)
  exact integer inside (by simp [Value.isMachineInteger, inside])

theorem uint64 (n : UInt64) : Conveys Decoder.uint64 format levels (Encoder.uint64 n) n := by
  have number := (unsigned n.toNat_lt_size : Conveys (Decoder.integer "u64" .uint64) format levels _ _)
  refine ⟨?_, number.plain, number.given⟩
  simp [Decoder.uint64, Encoder.uint64, number.read]

theorem index {n : Nat} (fits : n < UInt64.size) :
    Conveys Decoder.index format levels (Encoder.natural n) n := by
  have number := (unsigned fits : Conveys (Decoder.integer "usize" .uint64) format levels _ _)
  refine ⟨?_, number.plain, number.given⟩
  simp [Decoder.index, Encoder.natural, number.read]

theorem choice {known : List String} {ofName? : String → Option α} {name : String} {a : α}
    (named : ofName? name = some a) :
    Conveys (Decoder.choice known ofName?) format levels (.string name) a := by
  refine ⟨?_, .string name, nofun⟩
  simp [Decoder.choice, Decoder.constant, named]

theorem checked {check : String → Except String α} {text : String} {a : α}
    (passes : check text = .ok a) :
    Conveys (Decoder.checked check) format levels (.string text) a := by
  refine ⟨?_, .string text, nofun⟩
  simp only [Decoder.checked, Decoder.string, bind, Except.bind, passes]
  rfl

theorem nullable {decode : Decoder α} {value : Value} {a : α}
    (conveys : Conveys decode format levels value a) :
    Conveys (Decoder.nullable decode) format levels value (some a) := by
  refine ⟨?_, conveys.plain, conveys.given⟩
  unfold Decoder.nullable
  split
  · exact absurd rfl conveys.given
  · rw [conveys.read]; rfl

theorem list {decode : Decoder α} {encode : α → Value} {items : List α}
    (each : ∀ a ∈ items, Conveys decode format levels (encode a) a) :
    Conveys (Decoder.list decode) format (levels + 1) (Encoder.list encode items) items := by
  refine ⟨?_, .array fun item member => ?_, nofun⟩
  · refine mapM_eq_ok_iff.2 (List.forall₂_map_left_iff.2 (List.forall₂_same.2 fun a inside => ?_))
    exact (each a inside).read
  · obtain ⟨a, inside, rfl⟩ := List.mem_map.1 member
    exact (each a inside).plain

end Conveys

namespace Encoder

/-- A name with what is written under it, if anything. -/
abbrev Slot := String × Option Value

def present (slots : List Slot) : List Member :=
  slots.filterMap fun slot => slot.2.map fun value => (slot.1, value)

@[simp] theorem present_nil : present [] = [] := rfl

@[simp] theorem present_cons_some (name : String) (value : Value) (slots : List Slot) :
    present ((name, some value) :: slots) = (name, value) :: present slots := rfl

theorem present_cons_map (name : String) (encode : α → Value) (value : Option α)
    (slots : List Slot) :
    present ((name, value.map encode) :: slots) = optional name encode value ++ present slots := by
  cases value <;> rfl

theorem mem_present {slots : List Slot} {member : Member} :
    member ∈ present slots ↔ (member.1, some member.2) ∈ slots := by
  simp only [present, List.mem_filterMap, Option.map_eq_some_iff]
  constructor
  · rintro ⟨slot, inside, value, filled, rfl⟩
    rw [← filled]
    exact inside
  · intro inside
    exact ⟨_, inside, member.2, rfl, rfl⟩

theorem nodup_present {slots : List Slot} (distinct : (slots.map Prod.fst).Nodup) :
    ((present slots).map Prod.fst).Nodup := by
  refine distinct.sublist ?_
  induction slots with
  | nil => exact .slnil
  | cons slot rest ih =>
    have shorter := ih (List.nodup_cons.1 distinct).2
    obtain ⟨name, _ | value⟩ := slot
    · exact shorter.cons name
    · exact shorter.cons_cons name

theorem lookup_of_mem {members : List Member} (distinct : (members.map Prod.fst).Nodup)
    {member : Member} (inside : member ∈ members) :
    members.lookup member.1 = some member.2 := by
  obtain ⟨name, value⟩ := member
  cases found : members.lookup name with
  | none =>
    have absent := List.lookup_eq_none_iff.1 found (name, value) inside
    simp at absent
  | some other =>
    obtain ⟨before, behind, split, -⟩ := List.lookup_eq_some_iff.1 found
    have among : (name, other) ∈ members := split ▸ List.mem_append_right before List.mem_cons_self
    exact congrArg (some ∘ Prod.snd) (List.inj_on_of_nodup_map distinct among inside rfl)

theorem lookup_present {slots : List Slot} (distinct : (slots.map Prod.fst).Nodup) {slot : Slot}
    (inside : slot ∈ slots) : (present slots).lookup slot.1 = slot.2 := by
  obtain ⟨name, _ | value⟩ := slot
  · refine List.lookup_eq_none_iff.2 fun member found => bne_iff_ne.2 fun same => ?_
    -- A member of this name would come from another slot of it.
    have among := mem_present.1 found
    cases congrArg Prod.snd (List.inj_on_of_nodup_map distinct among inside same.symm)
  · have found : (name, value) ∈ present slots := mem_present.2 inside
    exact lookup_of_mem (nodup_present distinct) found

end Encoder

namespace Record

open Encoder

/-- Slots as a record can read them: one for each field, in the order of these, nothing in them that
the field would refuse, and together they make `a` wherever they are found among members. -/
structure Takes (record : Record α) (format : Format) (levels : Nat) (slots : List Slot) (a : α) :
    Prop where
  fields : List.Forall₂ (fun field slot => field.name = slot.1 ∧ ∀ value, slot.2 = some value →
    field.check format value = .ok () ∧ value.IsPlain levels) record.fields slots
  value : ∀ members : List Member, (∀ slot ∈ slots, members.lookup slot.1 = slot.2) →
    record.ofMembers format members = .ok a

namespace Takes

theorem seq {first : Record (α → β)} {second : Record α} {before behind : List Slot} {f : α → β}
    {a : α} (left : Takes first format levels before f)
    (right : Takes second format levels behind a) :
    Takes (first <*> second) format levels (before ++ behind) (f a) where
  fields := List.rel_append left.fields right.fields
  value members found := by
    have ahead := left.value members fun slot inside =>
      found slot (List.mem_append_left behind inside)
    have rest := right.value members fun slot inside =>
      found slot (List.mem_append_right before inside)
    show (do return (← first.ofMembers format members) (← second.ofMembers format members)) = _
    rw [ahead, rest]
    rfl

theorem map {record : Record α} {slots : List Slot} {a : α} (f : α → β)
    (takes : Takes record format levels slots a) :
    Takes (f <$> record) format levels slots (f a) :=
  seq (show Takes (Record.pure f) format levels [] f from ⟨.nil, fun _ _ => rfl⟩) takes

theorem given {name : String} {decode : Decoder α} {absent cut : Option α} {value : Value} {a : α}
    (conveys : Conveys decode format levels value a) :
    Takes (field name decode absent cut) format levels [(name, some value)] a where
  fields := by
    refine .cons ⟨rfl, fun other same => ?_⟩ .nil
    cases same
    exact ⟨by simp [conveys.read, Except.map], conveys.plain⟩
  value members found := by
    have here := found _ List.mem_cons_self
    simp only [field, here]
    exact conveys.read

theorem maybe {name : String} {decode : Decoder α} {encode : α → Value} {cut : Option (Option α)}
    (content : Option α) (each : ∀ a ∈ content, Conveys decode format levels (encode a) a) :
    Takes (field name (Decoder.nullable decode) (some none) cut) format levels
      [(name, content.map encode)] content := by
  cases content with
  | some a => exact given (each a rfl).nullable
  | none =>
    refine ⟨.cons ⟨rfl, nofun⟩ .nil, fun members found => ?_⟩
    have here := found _ List.mem_cons_self
    simp only [field, here, Option.map_none]

theorem names {record : Record α} {slots : List Slot} {a : α}
    (takes : Takes record format levels slots a) :
    record.fields.map Field.name = slots.map Prod.fst := by
  have paired := takes.fields
  generalize record.fields = fields at paired
  clear takes
  induction paired with
  | nil => rfl
  | cons here _ ih => rw [List.map_cons, List.map_cons, here.1, ih]

theorem exists_field {record : Record α} {slots : List Slot} {a : α}
    (takes : Takes record format levels slots a) {slot : Slot} (inside : slot ∈ slots) :
    ∃ field ∈ record.fields, field.name = slot.1 ∧ ∀ value, slot.2 = some value →
      field.check format value = .ok () ∧ value.IsPlain levels := by
  have paired := takes.fields
  generalize record.fields = fields at paired
  clear takes
  induction paired with
  | nil => cases inside
  | cons here _ ih =>
    rcases List.mem_cons.1 inside with rfl | later
    · exact ⟨_, List.mem_cons_self, here⟩
    · obtain ⟨field, among, suits⟩ := ih later
      exact ⟨field, List.mem_cons_of_mem _ among, suits⟩

end Takes

theorem find?_of_mem {fields : List Field} (distinct : (fields.map Field.name).Nodup)
    {field : Field} (inside : field ∈ fields) :
    fields.find? (·.name == field.name) = some field := by
  cases found : fields.find? (·.name == field.name) with
  | none => simpa using List.find?_eq_none.1 found field inside
  | some other =>
    have same : other.name = field.name := by simpa using List.find?_some found
    rw [List.inj_on_of_nodup_map distinct (List.mem_of_find?_eq_some found) inside same]

/-- What lets a member stand: a field that takes its value, or no field and a reader that lets
unknown names pass. -/
def Allows (fields : List Field) (strict : Bool) (format : Format) (member : Member) : Prop :=
  match fields.find? (·.name == member.1) with
  | none => strict = false
  | some field => field.check format member.2 = .ok ()

theorem check_eq_ok {fields : List Field} {strict : Bool} {members : List Member}
    {seen : List String} (distinct : (members.map Prod.fst).Nodup)
    (fresh : ∀ member ∈ members, member.1 ∉ seen)
    (allowed : ∀ member ∈ members, Allows fields strict format member) :
    check fields strict format seen members = .ok () := by
  induction members generalizing seen with
  | nil => rfl
  | cons member rest ih =>
    obtain ⟨alone, others⟩ := List.nodup_cons.1 distinct
    have unseen := fun other inside => fresh other (List.mem_cons_of_mem member inside)
    have later := fun other inside => allowed other (List.mem_cons_of_mem member inside)
    have here := allowed member List.mem_cons_self
    rw [check]
    cases found : fields.find? (·.name == member.1) with
    | none =>
      have lax : strict = false := by simpa only [Allows, found] using here
      simp only [lax, Bool.false_eq_true, if_false]
      exact lax ▸ ih others unseen later
    | some field =>
      have suits : field.check format member.2 = .ok () := by simpa only [Allows, found] using here
      simp only [fresh member List.mem_cons_self, if_false, suits]
      refine ih others (fun other inside => ?_) later
      refine List.not_mem_cons_of_ne_of_not_mem (fun same => alone ?_) (unseen other inside)
      exact List.mem_map.2 ⟨other, inside, same⟩

namespace Takes

theorem allows {record : Record α} {slots : List Slot} {a : α} {strict : Bool} {member : Member}
    (takes : Takes record format levels slots a) (separate : (slots.map Prod.fst).Nodup)
    (filled : (member.1, some member.2) ∈ slots) : Allows record.fields strict format member := by
  obtain ⟨field, among, named, suits⟩ := takes.exists_field filled
  have listed := find?_of_mem (takes.names ▸ separate) among
  rw [named] at listed
  rw [Allows, listed]
  exact (suits member.2 rfl).1

theorem decodeMembers {record : Record α} {slots : List Slot} {a : α} {strict : Bool}
    {members : List Member} (takes : Takes record format levels slots a)
    (separate : (slots.map Prod.fst).Nodup) (distinct : (members.map Prod.fst).Nodup)
    (found : ∀ slot ∈ slots, members.lookup slot.1 = slot.2)
    (known : strict = true → ∀ member ∈ members, member.1 ∈ slots.map Prod.fst) :
    record.decodeMembers strict format members = .ok a := by
  have allowed : ∀ member ∈ members, Allows record.fields strict format member := by
    intro member inside
    by_cases among : member.1 ∈ slots.map Prod.fst
    · obtain ⟨⟨name, content⟩, inSlots, rfl⟩ := List.mem_map.1 among
      have filled : content = some member.2 :=
        (found _ inSlots).symm.trans (lookup_of_mem distinct inside)
      exact takes.allows separate (filled ▸ inSlots)
    · have lax : strict = false := Bool.eq_false_iff.2 fun on => among (known on member inside)
      have unlisted : record.fields.find? (·.name == member.1) = none := by
        refine List.find?_eq_none.2 fun field listed => ?_
        simpa using fun same : field.name = member.1 =>
          among (takes.names ▸ List.mem_map.2 ⟨field, listed, same⟩)
      rw [Allows, unlisted]
      exact lax
  have checked : check record.fields strict format [] members = .ok () :=
    check_eq_ok distinct (fun _ _ => List.not_mem_nil) allowed
  rw [Record.decodeMembers, checked]
  exact takes.value members found

theorem decode_present {record : Record α} {slots : List Slot} {a : α} (strict : Bool)
    (takes : Takes record format levels slots a) (distinct : (slots.map Prod.fst).Nodup) :
    record.decodeMembers strict format (present slots) = .ok a := by
  refine takes.decodeMembers distinct (nodup_present distinct)
    (fun slot inside => lookup_present distinct inside) fun _ member inside => ?_
  exact List.mem_map.2 ⟨_, mem_present.1 inside, rfl⟩

theorem plain {record : Record α} {slots : List Slot} {a : α}
    (takes : Takes record format levels slots a) {member : Member}
    (inside : member ∈ present slots) : member.2.IsPlain levels := by
  obtain ⟨field, -, -, suits⟩ := takes.exists_field (mem_present.1 inside)
  exact (suits member.2 rfl).2

theorem conveys {record : Record α} {slots : List Slot} {a : α}
    (takes : Takes record format levels slots a) (name : String) (strict : Bool)
    (distinct : (slots.map Prod.fst).Nodup) :
    Conveys (record.decode name strict) format (levels + 1) (.object (present slots)) a where
  read := takes.decode_present strict distinct
  plain := .object fun _ inside => takes.plain inside
  given := nofun

end Takes

end Record

end Runbook.Document
