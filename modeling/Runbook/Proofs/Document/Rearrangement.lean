import Mathlib.Data.List.Perm.Basic
import Mathlib.Logic.Relation
import Runbook.Document.Reading
import Runbook.Proofs.Document.Assembly

/-! Documents that differ in the order of their members only.

Where no object repeats a name, a member is found by its name wherever it stands. A reader is orderless if
what it makes of a value it makes of every other that differs from it in this way; so are the readers of
values without members, and whatever is put together from orderless readers.
-/

set_option autoImplicit false

namespace Runbook.Document

namespace Value

/-- The members of one object within a value in another order. -/
inductive Shuffle : Value → Value → Prop where
  | members {members others : List Member} (same : members.Perm others) :
    Shuffle (.object members) (.object others)
  | member {before behind : List Member} {name : String} {value other : Value}
    (inner : Shuffle value other) :
    Shuffle (.object (before ++ (name, value) :: behind)) (.object (before ++ (name, other) :: behind))
  | item {before behind : List Value} {value other : Value} (inner : Shuffle value other) :
    Shuffle (.array (before ++ value :: behind)) (.array (before ++ other :: behind))

/-- The members of any objects within a value in any other order. -/
def Shuffled : Value → Value → Prop :=
  Relation.ReflTransGen Shuffle

def repeatsName (value : Value) : Bool :=
  value.anyWithin fun
    | .object members => !decide (members.map Prod.fst).Nodup
    | _ => false

theorem Shuffle.symm {value other : Value} (shuffle : Shuffle value other) : Shuffle other value := by
  induction shuffle with
  | members same => exact .members same.symm
  | member _ ih => exact .member ih
  | item _ ih => exact .item ih

theorem anyItemWithin_eq (test : Value → Bool) (items : List Value) :
    anyItemWithin test items = items.any (anyWithin test) := by
  induction items with
  | nil => rfl
  | cons item rest ih => rw [anyItemWithin, List.any_cons, ih]

theorem anyMemberWithin_eq (test : Value → Bool) (members : List Member) :
    anyMemberWithin test members = members.any fun member => member.2.anyWithin test := by
  induction members with
  | nil => rfl
  | cons member rest ih => rw [anyMemberWithin, List.any_cons, ih]

/-- A test that sees no more of an object than its names and no more of an array than its length. -/
structure IsShallow (test : Value → Bool) : Prop where
  object {members others : List Member} : (members.map Prod.fst).Perm (others.map Prod.fst) →
    test (.object members) = test (.object others)
  array {items others : List Value} : items.length = others.length →
    test (.array items) = test (.array others)

theorem Shuffle.anyWithin_eq {test : Value → Bool} (shallow : IsShallow test) {value other : Value}
    (shuffle : Shuffle value other) : value.anyWithin test = other.anyWithin test := by
  induction shuffle with
  | members same =>
    simp only [anyWithin, anyMemberWithin_eq, shallow.object (same.map Prod.fst), same.any_eq]
  | @member before behind name value other _ ih =>
    have names : test (.object (before ++ (name, value) :: behind)) =
        test (.object (before ++ (name, other) :: behind)) := shallow.object (by simp)
    simp only [anyWithin, anyMemberWithin_eq, names, List.any_append, List.any_cons, ih]
  | @item before behind value other _ ih =>
    have length : test (.array (before ++ value :: behind)) = test (.array (before ++ other :: behind)) :=
      shallow.array (by simp)
    simp only [anyWithin, anyItemWithin_eq, length, List.any_append, List.any_cons, ih]

theorem Shuffle.repeatsName_eq {value other : Value} (shuffle : Shuffle value other) :
    value.repeatsName = other.repeatsName :=
  shuffle.anyWithin_eq ⟨fun same => by simp only [same.nodup_iff], fun _ => rfl⟩

theorem repeatsName_array {items : List Value} :
    (Value.array items).repeatsName = false ↔ ∀ item ∈ items, item.repeatsName = false := by
  simp [repeatsName, anyWithin, anyItemWithin_eq]

theorem repeatsName_object {members : List Member} :
    (Value.object members).repeatsName = false ↔
      (members.map Prod.fst).Nodup ∧ ∀ member ∈ members, member.2.repeatsName = false := by
  simp [repeatsName, anyWithin, anyMemberWithin_eq]

/-- Equal but for the order of the members in one of the objects, none of which repeats a name. -/
structure Alike (value other : Value) : Prop where
  plain : value.repeatsName = false
  same : value = other ∨ Shuffle value other

namespace Alike

variable {value other : Value}

theorem refl (plain : value.repeatsName = false) : Alike value value :=
  ⟨plain, .inl rfl⟩

theorem symm (alike : Alike value other) : Alike other value := by
  obtain ⟨plain, rfl | shuffle⟩ := alike
  · exact refl plain
  · exact ⟨shuffle.repeatsName_eq ▸ plain, .inr shuffle.symm⟩

theorem anyWithin_eq {test : Value → Bool} (shallow : IsShallow test) (alike : Alike value other) :
    value.anyWithin test = other.anyWithin test := by
  obtain ⟨-, rfl | shuffle⟩ := alike
  · rfl
  · exact shuffle.anyWithin_eq shallow

theorem items {items : List Value} (alike : Alike (.array items) other) :
    ∃ others, other = .array others ∧ List.Forall₂ Alike items others := by
  obtain ⟨plain, same⟩ := alike
  have each := repeatsName_array.1 plain
  obtain rfl | shuffle := same
  · exact ⟨items, rfl, List.forall₂_same.2 fun item inside => refl (each item inside)⟩
  · cases shuffle with
    | @item before behind value other inner =>
      have ahead := fun item inside => refl (each item (List.mem_append_left _ inside))
      have here : Alike value other := ⟨each value (by simp), .inr inner⟩
      have rest := fun item inside =>
        refl (each item (List.mem_append_right _ (List.mem_cons_of_mem _ inside)))
      exact ⟨_, rfl, List.rel_append (List.forall₂_same.2 ahead) (.cons here (List.forall₂_same.2 rest))⟩

end Alike

/-- The same names, none of them twice, with values that are alike. -/
structure AlikeMembers (members others : List Member) : Prop where
  distinct : (members.map Prod.fst).Nodup
  names : (members.map Prod.fst).Perm (others.map Prod.fst)
  there (member : Member) : member ∈ members → ∃ other, (member.1, other) ∈ others ∧ Alike member.2 other

namespace AlikeMembers

variable {members others : List Member}

theorem symm (alike : AlikeMembers members others) : AlikeMembers others members where
  distinct := alike.names.nodup_iff.1 alike.distinct
  names := alike.names.symm
  there member inside := by
    have named : member.1 ∈ members.map Prod.fst :=
      alike.names.mem_iff.2 (List.mem_map_of_mem inside)
    obtain ⟨value, there, same⟩ := List.mem_map.1 named
    obtain ⟨other, back, likeness⟩ := alike.there value there
    -- A name leads to one member only, so the way there and back ends where it has begun.
    have only : (value.1, other) = member :=
      List.inj_on_of_nodup_map (alike.names.nodup_iff.1 alike.distinct) back inside same
    exact ⟨value.2, same ▸ there, only ▸ likeness.symm⟩

theorem lookup_eq_some (alike : AlikeMembers members others) {name : String} {value : Value}
    (found : members.lookup name = some value) :
    ∃ other, others.lookup name = some other ∧ Alike value other := by
  obtain ⟨before, behind, split, -⟩ := List.lookup_eq_some_iff.1 found
  obtain ⟨other, there, likeness⟩ := alike.there (name, value) (by simp [split])
  exact ⟨other, Encoder.lookup_of_mem alike.symm.distinct there, likeness⟩

theorem lookup_eq_none (alike : AlikeMembers members others) {name : String}
    (absent : members.lookup name = none) : others.lookup name = none := by
  cases found : others.lookup name with
  | none => rfl
  | some other =>
    obtain ⟨value, there, -⟩ := alike.symm.lookup_eq_some found
    cases absent.symm.trans there

theorem singleton {member : Member} (alike : AlikeMembers [member] others) :
    ∃ other, others = [(member.1, other)] ∧ Alike member.2 other := by
  obtain ⟨other, there, likeness⟩ := alike.there member List.mem_cons_self
  have one : others.length = 1 := by simpa using alike.names.length_eq.symm
  obtain ⟨only, rfl⟩ := List.length_eq_one_iff.1 one
  cases List.mem_singleton.1 there
  exact ⟨other, rfl, likeness⟩

theorem filter (alike : AlikeMembers members others) (keep : String → Bool) :
    AlikeMembers (members.filter fun member => keep member.1)
      (others.filter fun member => keep member.1) where
  distinct := alike.distinct.sublist (List.filter_sublist.map Prod.fst)
  names := by
    have names (members : List Member) : (members.filter fun member => keep member.1).map Prod.fst =
        (members.map Prod.fst).filter keep := List.filter_map.symm
    rw [names, names]
    exact alike.names.filter keep
  there member inside := by
    obtain ⟨within, kept⟩ := List.mem_filter.1 inside
    obtain ⟨other, there, likeness⟩ := alike.there member within
    exact ⟨other, List.mem_filter.2 ⟨there, kept⟩, likeness⟩

theorem anyMemberWithin_eq_true {test : Value → Bool} (shallow : IsShallow test)
    (alike : AlikeMembers members others) (any : anyMemberWithin test members = true) :
    anyMemberWithin test others = true := by
  rw [anyMemberWithin_eq, List.any_eq_true] at any ⊢
  obtain ⟨member, inside, holds⟩ := any
  obtain ⟨other, there, likeness⟩ := alike.there member inside
  exact ⟨_, there, likeness.anyWithin_eq shallow ▸ holds⟩

theorem anyWithin_eq {test : Value → Bool} (shallow : IsShallow test)
    (alike : AlikeMembers members others) :
    (Value.object members).anyWithin test = (Value.object others).anyWithin test := by
  have within : anyMemberWithin test members = anyMemberWithin test others :=
    Bool.eq_iff_iff.2 ⟨alike.anyMemberWithin_eq_true shallow, alike.symm.anyMemberWithin_eq_true shallow⟩
  rw [anyWithin, anyWithin, shallow.object alike.names, within]

theorem isBroken_eq (alike : AlikeMembers members others) :
    (Value.object members).isBroken = (Value.object others).isBroken :=
  alike.anyWithin_eq ⟨fun _ => rfl, fun _ => rfl⟩

theorem hasWideInteger_eq (alike : AlikeMembers members others) :
    (Value.object members).hasWideInteger = (Value.object others).hasWideInteger :=
  alike.anyWithin_eq ⟨fun _ => rfl, fun _ => rfl⟩

end AlikeMembers

theorem Alike.members {members : List Member} {other : Value} (alike : Alike (.object members) other) :
    ∃ others, other = .object others ∧ AlikeMembers members others := by
  obtain ⟨plain, same⟩ := alike
  obtain ⟨distinct, each⟩ := repeatsName_object.1 plain
  obtain rfl | shuffle := same
  · exact ⟨members, rfl, distinct, .refl _, fun member inside => ⟨_, inside, .refl (each member inside)⟩⟩
  · cases shuffle with
    | @members _ others same =>
      exact ⟨others, rfl, distinct, same.map Prod.fst,
        fun member inside => ⟨_, same.mem_iff.1 inside, .refl (each member inside)⟩⟩
    | @member before behind name value other inner =>
      refine ⟨_, rfl, distinct, .of_eq (by simp), fun member inside => ?_⟩
      have own := each member inside
      rcases List.mem_append.1 inside with ahead | here
      · exact ⟨member.2, List.mem_append_left _ ahead, .refl own⟩
      · rcases List.mem_cons.1 here with rfl | later
        · exact ⟨other, List.mem_append_right _ List.mem_cons_self, own, .inr inner⟩
        · exact ⟨member.2, List.mem_append_right _ (List.mem_cons_of_mem _ later), .refl own⟩

end Value

/-- What is made of a value is made of every value that is like it. -/
def Decoder.Orderless {α : Type} (decode : Decoder α) : Prop :=
  ∀ (value other : Value) (a : α), value.Alike other → decode .json value = .ok a →
    decode .json other = .ok a

namespace Decoder.Orderless

variable {α : Type} {decode : Decoder α}

theorem of_scalar (array : ∀ items a, decode .json (.array items) ≠ .ok a)
    (object : ∀ members a, decode .json (.object members) ≠ .ok a) : Orderless decode := by
  rintro value other a ⟨-, rfl | shuffle⟩ read
  · exact read
  · cases shuffle with
    | members => cases object _ a read
    | member => cases object _ a read
    | item => cases array _ a read

theorem string : Orderless Decoder.string :=
  of_scalar nofun nofun

theorem int32 : Orderless Decoder.int32 :=
  of_scalar nofun nofun

theorem uint64 : Orderless Decoder.uint64 :=
  of_scalar nofun nofun

theorem checked (check : String → Except String α) : Orderless (Decoder.checked check) :=
  of_scalar nofun nofun

/-- Beside a text, a constant can only be written as the one name of an object. -/
theorem members_of_choice {known : List String} {ofName? : String → Option α} {members : List Member}
    {a : α} (read : Decoder.choice known ofName? .json (.object members) = .ok a) :
    ∃ name, members = [(name, .null)] := by
  match members with
  | [] => cases read
  | (name, inner) :: rest =>
    obtain ⟨found, -, alone⟩ := bind_eq_ok_iff.1 read
    cases inner with
    | null =>
      cases rest with
      | nil => exact ⟨name, rfl⟩
      | cons second rest => cases alone
    | _ => cases alone

theorem choice (known : List String) (ofName? : String → Option α) :
    Orderless (Decoder.choice known ofName?) := by
  rintro value other a ⟨-, rfl | shuffle⟩ read
  · exact read
  · cases shuffle with
    | members same =>
      obtain ⟨name, rfl⟩ := members_of_choice read
      cases List.singleton_perm.1 same
      exact read
    | member inner =>
      obtain ⟨name, only⟩ := members_of_choice read
      rcases List.append_eq_singleton_iff.1 only with ⟨-, here⟩ | ⟨-, none⟩
      · cases here
        cases inner
      · cases none
    | item => cases read

theorem nullable (orderless : Orderless decode) : Orderless (Decoder.nullable decode) := by
  intro value other content alike read
  have same := alike.same
  obtain rfl | shuffle := same
  · exact read
  · have given {value other : Value} (shuffle : value.Shuffle other) :
        Decoder.nullable decode .json value = some <$> decode .json value := by
      cases shuffle <;> rfl
    rw [given shuffle] at read
    rw [given shuffle.symm]
    cases inner : decode .json value with
    | error fault => rw [inner] at read; cases read
    | ok a => rwa [orderless value other a alike inner, ← inner]

theorem list (orderless : Orderless decode) : Orderless (Decoder.list decode) := by
  intro value other results alike read
  cases value with
  | array items =>
    obtain ⟨others, rfl, paired⟩ := alike.items
    have each := mapM_eq_ok_iff.1 read
    refine mapM_eq_ok_iff.2 ?_
    clear read alike
    induction paired generalizing results with
    | nil => cases each; exact .nil
    | cons here _ ih =>
      cases each with
      | cons first rest => exact .cons (orderless _ _ _ here first) (ih _ rest)
  | _ => cases read

theorem toOption_eq (orderless : Orderless decode) {value other : Value} (alike : value.Alike other) :
    (decode .json value).toOption = (decode .json other).toOption := by
  cases first : decode .json value with
  | ok a => rw [orderless value other a alike first]
  | error fault =>
    cases second : decode .json other with
    | ok a => cases first.symm.trans (orderless other value a alike.symm second)
    | error => rfl

/-- However many objects are put in another order, a reader takes the same from both values or refuses
both. -/
theorem toOption_shuffled (orderless : Orderless decode) {value other : Value}
    (plain : value.repeatsName = false) (shuffled : value.Shuffled other) :
    (decode .json value).toOption = (decode .json other).toOption := by
  have kept : other.repeatsName = false ∧
      (decode .json value).toOption = (decode .json other).toOption := by
    induction shuffled with
    | refl => exact ⟨plain, rfl⟩
    | tail _ shuffle ih =>
      obtain ⟨plain, same⟩ := ih
      exact ⟨shuffle.repeatsName_eq ▸ plain, same.trans (orderless.toOption_eq ⟨plain, .inr shuffle⟩)⟩
  exact kept.2

end Decoder.Orderless

theorem toOption_readWith {α : Type} {decode : Decoder α} {format : Format} {text : String} {value : Value}
    (told : parse? format text = some value) :
    (readWith decode format text).toOption = (decode format value).toOption := by
  rw [readWith, told]
  cases read : decode format value <;> simp only [read] <;> rfl

namespace Record

variable {α : Type} {record : Record α}

def IsOrderless (record : Record α) : Prop :=
  record.Assembled fun _ _ decode => decode.Orderless

namespace IsOrderless

theorem ofMembers (orderless : record.IsOrderless) {members others : List Member} {a : α}
    (alike : Value.AlikeMembers members others) (read : record.ofMembers .json members = .ok a) :
    record.ofMembers .json others = .ok a := by
  induction orderless with
  | pure => exact read
  | @field α name decode absent cut own =>
    simp only [field] at read ⊢
    cases found : members.lookup name with
    | none =>
      rw [found] at read
      rw [alike.lookup_eq_none found]
      exact read
    | some value =>
      obtain ⟨other, there, likeness⟩ := alike.lookup_eq_some found
      rw [found] at read
      rw [there]
      exact own value other a likeness read
  | seq _ _ left right =>
    obtain ⟨f, first, later⟩ := bind_eq_ok_iff.1 read
    obtain ⟨b, second, done⟩ := bind_eq_ok_iff.1 later
    exact bind_eq_ok_iff.2 ⟨f, left first, bind_eq_ok_iff.2 ⟨b, right second, done⟩⟩

theorem ofItems (orderless : record.IsOrderless) {shape : String} {position after : Nat}
    {items others rest : List Value} {a : α} (paired : List.Forall₂ Value.Alike items others)
    (read : record.ofItems .json shape position items = .ok (a, after, rest)) :
    ∃ left, record.ofItems .json shape position others = .ok (a, after, left) ∧
      List.Forall₂ Value.Alike rest left := by
  induction orderless generalizing position after items others rest with
  | pure =>
    cases read
    exact ⟨others, rfl, paired⟩
  | @field α name decode absent cut own =>
    cases paired with
    | nil =>
      cases cut with
      | none => cases read
      | some cut =>
        cases read
        exact ⟨[], rfl, .nil⟩
    | @cons value other items others here later =>
      simp only [field] at read ⊢
      cases first : decode .json value with
      | error fault =>
        rw [first] at read
        cases read
      | ok b =>
        rw [first] at read
        cases read
        rw [own value other _ here first]
        exact ⟨others, rfl, later⟩
  | seq _ _ left right =>
    obtain ⟨⟨f, between, later⟩, first, more⟩ := bind_eq_ok_iff.1 read
    obtain ⟨⟨b, after, last⟩, second, done⟩ := bind_eq_ok_iff.1 more
    cases done
    obtain ⟨_, firstOther, still⟩ := left paired first
    obtain ⟨left, secondOther, remaining⟩ := right still second
    exact ⟨left, bind_eq_ok_iff.2 ⟨_, firstOther, bind_eq_ok_iff.2 ⟨_, secondOther, rfl⟩⟩, remaining⟩

theorem allows (orderless : record.IsOrderless) {strict : Bool} {name : String} {value other : Value}
    (alike : value.Alike other) (allowed : Allows record.fields strict .json (name, value)) :
    Allows record.fields strict .json (name, other) := by
  unfold Allows at allowed ⊢
  cases found : record.fields.find? (·.name == name) with
  | none => simpa only [found] using allowed
  | some field =>
    simp only [found] at allowed ⊢
    obtain ⟨β, decode, own, checks⟩ := orderless.exists_decoder (List.mem_of_find?_eq_some found)
    rw [checks] at allowed ⊢
    cases read : decode .json value with
    | error fault => rw [read] at allowed; cases allowed
    | ok b => rw [own value other b alike read]; rfl

theorem decodeMembers (orderless : record.IsOrderless) {strict : Bool} {members others : List Member}
    {a : α} (alike : Value.AlikeMembers members others)
    (read : record.decodeMembers strict .json members = .ok a) :
    record.decodeMembers strict .json others = .ok a := by
  obtain ⟨checked, made⟩ := decodeMembers_eq_ok_iff.1 read
  refine decodeMembers_eq_ok_iff.2 ⟨?_, orderless.ofMembers alike made⟩
  refine check_eq_ok alike.symm.distinct (fun _ _ => List.not_mem_nil) fun other inside => ?_
  obtain ⟨value, there, likeness⟩ := alike.symm.there other inside
  exact orderless.allows likeness.symm (allows_of_check checked _ there)

theorem decode (orderless : record.IsOrderless) (name : String) (strict : Bool) :
    (record.decode name strict).Orderless := by
  intro value other a alike read
  cases value with
  | object members =>
    obtain ⟨others, rfl, within⟩ := alike.members
    exact orderless.decodeMembers within read
  | array items =>
    obtain ⟨others, rfl, paired⟩ := alike.items
    obtain ⟨wording, taken⟩ := exists_decodeItems_iff record ("struct " ++ name)
    obtain ⟨position, all⟩ := (taken items a).1 read
    obtain ⟨left, allOther, nothing⟩ := orderless.ofItems paired all
    cases nothing
    exact (taken others a).2 ⟨position, allOther⟩
  | moment text =>
    obtain ⟨-, rfl | shuffle⟩ := alike
    · exact read
    · cases shuffle
  | _ => cases read

end IsOrderless

end Record

end Runbook.Document
