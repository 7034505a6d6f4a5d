import Mathlib.Data.List.TakeDrop
import Mathlib.Data.List.TakeWhile
import Runbook.Configuration.Layer

/-! What is found in a configuration after layers have been put over each other.

To put a value where a path leads to looks at one outermost member and changes no other. So two
configurations that differ in one setting go on differing in it alone, whatever is put elsewhere in both.
-/

set_option autoImplicit false

namespace Runbook

/-! ### Lower case -/

namespace Text.LowerCase

theorem toNat_toLower (c : Char) :
    c.toLower.toNat = if 65 ≤ c.toNat ∧ c.toNat ≤ 90 then c.toNat + 32 else c.toNat := by
  show (dite (c.val ≥ 'A'.val ∧ c.val ≤ 'Z'.val) _ _ : Char).toNat = _
  have same : (c.val ≥ 'A'.val ∧ c.val ≤ 'Z'.val) ↔ 65 ≤ c.toNat ∧ c.toNat ≤ 90 := Iff.rfl
  by_cases upper : 65 ≤ c.toNat ∧ c.toNat ≤ 90
  · rw [dif_pos (same.2 upper), if_pos upper]
    have small : c.toNat + 32 < 2 ^ 32 := by omega
    show (c.val.toNat + 32) % 2 ^ 32 = _
    exact Nat.mod_eq_of_lt small
  · rw [dif_neg (fun inside => upper (same.1 inside)), if_neg upper]

theorem toLower_of_not_upper {c : Char} (lower : ¬(65 ≤ c.toNat ∧ c.toNat ≤ 90)) : c.toLower = c := by
  apply Char.toNat_inj.1
  rw [toNat_toLower, if_neg lower]

theorem toLower_toLower (c : Char) : c.toLower.toLower = c.toLower := by
  refine toLower_of_not_upper ?_
  rw [toNat_toLower]
  split <;> omega

theorem isAlphanum_iff (c : Char) : c.isAlphanum = true ↔
    65 ≤ c.toNat ∧ c.toNat ≤ 90 ∨ 97 ≤ c.toNat ∧ c.toNat ≤ 122 ∨ 48 ≤ c.toNat ∧ c.toNat ≤ 57 := by
  have upper : c.isUpper = true ↔ 65 ≤ c.toNat ∧ c.toNat ≤ 90 := decide_eq_true_iff
  have lower : c.isLower = true ↔ 97 ≤ c.toNat ∧ c.toNat ≤ 122 :=
    Bool.and_eq_true_iff.trans (and_congr decide_eq_true_iff decide_eq_true_iff)
  have digit : c.isDigit = true ↔ 48 ≤ c.toNat ∧ c.toNat ≤ 57 :=
    Bool.and_eq_true_iff.trans (and_congr decide_eq_true_iff decide_eq_true_iff)
  rw [← upper, ← lower, ← digit, ← or_assoc, ← Bool.or_eq_true_iff, ← Bool.or_eq_true_iff]
  exact Iff.rfl

theorem isAlphanum_toLower (c : Char) : c.toLower.isAlphanum = c.isAlphanum := by
  rw [Bool.eq_iff_iff, isAlphanum_iff, isAlphanum_iff, toNat_toLower]
  split <;> omega

end Text.LowerCase

namespace Configuration

open Document
open Text.LowerCase

namespace Layer

def low (c : Char) : Char :=
  if c = '\u212a' then 'k' else c.toLower

theorem low_low (c : Char) : low (low c) = low c := by
  rw [low.eq_1 c]
  by_cases kelvin : c = '\u212a'
  · rw [if_pos kelvin]
    decide
  · rw [if_neg kelvin, low, toLower_toLower]
    refine if_neg fun same => ?_
    -- No letter has the Kelvin sign for its lower case, and what is no letter is its own.
    by_cases upper : 65 ≤ c.toNat ∧ c.toNat ≤ 90
    · have number := congrArg Char.toNat same
      rw [toNat_toLower, if_pos upper] at number
      have sign : '\u212a'.toNat = 8490 := by decide
      omega
    · exact kelvin ((toLower_of_not_upper upper).symm.trans same)

theorem toList_lowered (name : String) : (lowered name).toList = name.toList.map low :=
  String.toList_map

theorem lowered_eq_self {name : String} (lower : ∀ c ∈ name.toList, low c = c) :
    lowered name = name := by
  apply String.toList_inj.1
  rw [toList_lowered]
  exact (List.map_congr_left lower).trans (List.map_id _)

theorem low_of_mem_lowered {name : String} {c : Char} (member : c ∈ (lowered name).toList) :
    low c = c := by
  rw [toList_lowered, List.mem_map] at member
  obtain ⟨first, -, rfl⟩ := member
  exact low_low first

theorem lowered_lowered (name : String) : lowered (lowered name) = lowered name :=
  lowered_eq_self fun _ member => low_of_mem_lowered member

end Layer

/-! ### Names that are no paths -/

namespace Path

open Layer (low lowered)

theorem isNameChar_low {c : Char} (name : isNameChar c = true) : isNameChar (low c) = true := by
  have plain : c ≠ '\u212a' := by
    rintro rfl
    revert name
    decide
  rw [low, if_neg plain]
  simp only [isNameChar, Bool.or_eq_true, beq_iff_eq] at name ⊢
  rcases name with ((letter | rfl) | rfl) | rfl
  · exact .inl (.inl (.inl (isAlphanum_toLower c ▸ letter)))
  · decide
  · decide
  · decide

def IsName (name : String) : Prop :=
  name.toList ≠ [] ∧ ∀ c ∈ name.toList, isNameChar c = true

theorem isName_of_name? {cs rest : List Char} {name : String}
    (read : name? cs = some (name, rest)) : IsName name := by
  rw [name?, List.span_eq_takeWhile_dropWhile] at read
  cases front : cs.takeWhile isNameChar with
  | nil =>
    rw [front] at read
    cases read
  | cons first more =>
    rw [front] at read
    cases read
    rw [IsName, String.toList_ofList, ← front]
    exact ⟨by rw [front]; exact List.cons_ne_nil first more,
      fun c member => List.mem_takeWhile_imp member⟩

theorem parse?_of_isName {name : String} (isName : IsName name) :
    parse? name = some ⟨name, []⟩ := by
  obtain ⟨some, all⟩ := isName
  have whole : name? name.toList = .some (name, []) := by
    rw [name?, List.span_eq_takeWhile_dropWhile, List.takeWhile_eq_self_iff.2 all,
      List.dropWhile_eq_nil_iff.2 all]
    cases form : name.toList with
    | nil => exact absurd form some
    | cons first more => simp only [← form, String.ofList_toList]
  rw [parse?, whole]
  rfl

theorem isName_lowered {name : String} (isName : IsName name) : IsName (lowered name) := by
  obtain ⟨some, all⟩ := isName
  rw [IsName, Layer.toList_lowered]
  refine ⟨fun none => some (List.map_eq_nil_iff.1 none), fun c member => ?_⟩
  obtain ⟨first, inside, rfl⟩ := List.mem_map.1 member
  exact isNameChar_low (all first inside)

/-- A text that stays what it is, a path or none, when it is written in lower case. Only the Kelvin sign
can make a path of a text that is none. -/
def IsLasting (text : String) : Prop :=
  parse? text = none → parse? (lowered text) = none

instance (text : String) : Decidable (IsLasting text) :=
  inferInstanceAs (Decidable (parse? text = none → parse? (lowered text) = none))

theorem isLasting_of_lower {text : String} (lower : lowered text = text) : IsLasting text := by
  intro none
  rwa [lower]

theorem steps_lowered_first {text : String} (lasting : IsLasting text) :
    (ofText (lowered (ofText text).first)).steps = [.member (lowered (ofText text).first)] := by
  cases parsed : parse? text with
  | none =>
    have same : ofText text = ⟨text, []⟩ := by rw [ofText, parsed]; rfl
    rw [same, ofText, lasting parsed]
    rfl
  | some path =>
    have same : ofText text = path := by rw [ofText, parsed]; rfl
    obtain ⟨first, rest⟩ := path
    obtain ⟨⟨name, behind⟩, read, more⟩ := Option.bind_eq_some_iff.1 parsed
    obtain ⟨steps, -, made⟩ := Option.bind_eq_some_iff.1 more
    cases made
    have isName : IsName first := isName_of_name? read
    rw [same, ofText, parse?_of_isName (isName_lowered isName)]
    rfl

end Path

/-! ### Look-ups -/

namespace Layer

def grafted (value : Value) (rest : List Step) (old : Option Value) : Value :=
  match rest, value with
  | [], .object incoming => merge (old.getD (.object [])) incoming
  | [], value => value
  | step :: rest, value => putAt value (step :: rest) (old.getD .null)

section
variable {root value : Value} {name other : String} {rest : List Step}

theorem members_object (entries : List Member) : members (.object entries) = entries := rfl

theorem put_eq (root : Value) (name : String) (value : Value) :
    put root name value =
      .object (Table.put (lowered name) (grafted value [] ((members root).lookup (lowered name)))
        (members root)) := by
  cases value with
  | object incoming => rw [put]; rfl
  | _ =>
    rw [put]
    · rfl
    · nofun

/-- Wherever a path leads to, only its outermost member is looked at and changed. -/
theorem putAt_member (value : Value) (name : String) (rest : List Step) (root : Value) :
    putAt value (.member name :: rest) root =
      .object (Table.put (lowered name) (grafted value rest ((members root).lookup (lowered name)))
        (members root)) := by
  cases rest with
  | nil => exact put_eq root name value
  | cons step rest => rfl

theorem lookup_putAt (value : Value) (name : String) (rest : List Step) (root : Value)
    (other : String) :
    (members (putAt value (.member name :: rest) root)).lookup other =
      if other = lowered name then
        some (grafted value rest ((members root).lookup (lowered name)))
      else (members root).lookup other := by
  rw [putAt_member]
  exact Table.lookup_put ..

/-- The names of a table are in lower case, and none comes twice. -/
structure Tidy (root : Value) : Prop where
  distinct : ((members root).map Prod.fst).Nodup
  lower : ∀ name ∈ (members root).map Prod.fst, lowered name = name

theorem tidy_of_members_eq_nil (none : members root = []) : Tidy root where
  distinct := by rw [none]; exact .nil
  lower := by rw [none]; nofun

theorem Tidy.putAt (tidy : Tidy root) (value : Value) (name : String) (rest : List Step) :
    Tidy (putAt value (.member name :: rest) root) := by
  rw [putAt_member]
  constructor
  case distinct => exact Table.nodup_keys_put tidy.distinct
  case lower =>
    intro other member
    rcases Table.mem_keys_put.1 member with rfl | before
    · exact lowered_lowered name
    · exact tidy.lower other before

theorem Tidy.merge (tidy : Tidy root) (incoming : List Member) : Tidy (merge root incoming) := by
  induction incoming generalizing root with
  | nil => exact tidy
  | cons member incoming ih =>
    rw [Layer.merge]
    exact ih (tidy.putAt member.2 member.1 [])

theorem tidy_grafted {old : Option Value} (before : ∀ value, old = some value → Tidy value)
    (value : Value) (rest : List Step) : Tidy (grafted value rest old) := by
  have given (default : Value) (none : members default = []) : Tidy (old.getD default) := by
    cases old with
    | none => exact tidy_of_members_eq_nil none
    | some value => exact before value rfl
  cases rest with
  | nil =>
    cases value with
    | object incoming => exact (given (.object []) rfl).merge incoming
    | _ => exact tidy_of_members_eq_nil rfl
  | cons step rest =>
    cases step with
    | member name => exact (given .null rfl).putAt value name rest
    | item index =>
      rw [grafted, Layer.putAt]
      split
      · exact tidy_of_members_eq_nil rfl
      · exact given .null rfl

theorem lookup_merge (root : Value) {incoming : List Member}
    (distinct : (incoming.map Prod.fst).Nodup)
    (lower : ∀ name ∈ incoming.map Prod.fst, lowered name = name) (name : String) :
    (members (merge root incoming)).lookup name =
      match incoming.lookup name with
      | some value => some (grafted value [] ((members root).lookup name))
      | none => (members root).lookup name := by
  induction incoming generalizing root with
  | nil => rfl
  | cons member incoming ih =>
    obtain ⟨first, value⟩ := member
    obtain ⟨absent, others⟩ := List.nodup_cons.1 distinct
    have self : lowered first = first := lower first List.mem_cons_self
    rw [merge, ih _ others fun name inside => lower name (List.mem_cons_of_mem first inside), put_eq,
      members_object, Table.lookup_put, self]
    by_cases same : name = first
    · subst same
      have behind : incoming.lookup name = none :=
        List.lookup_eq_none_iff.2 fun entry inside => bne_iff_ne.2 fun same =>
          absent (List.mem_map.2 ⟨entry, inside, same.symm⟩)
      rw [behind, List.lookup_cons_self, if_pos rfl]
    · have differ : (name == first) = false := beq_eq_false_iff_ne.2 same
      rw [if_neg same, List.lookup_cons, differ]

theorem exists_object_of_merge (entries incoming : List Member) :
    ∃ result, merge (.object entries) incoming = .object result := by
  induction incoming generalizing entries with
  | nil => exact ⟨entries, rfl⟩
  | cons member incoming ih =>
    rw [merge, put_eq]
    exact ih _

end

/-! ### Layers -/

/-- A configuration as layers leave it behind: whatever they said, its outermost names are in lower case
and no paths. -/
structure Settled (root : Value) : Prop where
  tidy : Tidy root
  named : ∀ name ∈ (members root).map Prod.fst, (Path.ofText name).steps = [.member name]
  inside : ∀ name value, (members root).lookup name = some value → Tidy value

section
variable {root : Value} {layer : List Member}

theorem settled_empty : Settled (.object []) where
  tidy := tidy_of_members_eq_nil rfl
  named := nofun
  inside := nofun

theorem Settled.putAt (settled : Settled root) {text : String} (lasting : Path.IsLasting text)
    (value : Value) : Settled (putAt value (Path.ofText text).steps root) := by
  rw [Path.steps]
  constructor
  case tidy => exact settled.tidy.putAt ..
  case named =>
    intro name member
    rw [putAt_member] at member
    rcases Table.mem_keys_put.1 member with rfl | before
    · exact Path.steps_lowered_first lasting
    · exact settled.named name before
  case inside =>
    intro name inner found
    rw [lookup_putAt] at found
    split at found
    · cases found
      exact tidy_grafted (fun value held => settled.inside _ value held) value _
    · exact settled.inside name inner found

theorem overlay_cons (root : Value) (member : Member) (rest : List Member) :
    overlay root (member :: rest) =
      overlay (putAt member.2 (Path.ofText member.1).steps root) rest := rfl

theorem Settled.overlay (settled : Settled root)
    (lasting : ∀ member ∈ layer, Path.IsLasting member.1) : Settled (overlay root layer) := by
  induction layer generalizing root with
  | nil => exact settled
  | cons member rest ih =>
    rw [overlay_cons]
    exact ih (settled.putAt (lasting member List.mem_cons_self) member.2)
      fun other inside => lasting other (List.mem_cons_of_mem member inside)

theorem overlay_eq_merge (root : Value)
    (named : ∀ name ∈ layer.map Prod.fst, (Path.ofText name).steps = [.member name]) :
    overlay root layer = merge root layer := by
  induction layer generalizing root with
  | nil => rfl
  | cons member rest ih =>
    obtain ⟨name, value⟩ := member
    rw [overlay_cons, named name List.mem_cons_self, merge]
    exact ih _ fun other inside => named other (List.mem_cons_of_mem name inside)

theorem overlay_append (root : Value) (layer more : List Member) :
    overlay root (layer ++ more) = overlay (overlay root layer) more :=
  List.foldl_append

theorem overlay_flatten (root : Value) (layers : List (List Member)) :
    layers.foldl overlay root = overlay root layers.flatten := by
  induction layers generalizing root with
  | nil => rfl
  | cons layer rest ih => rw [List.foldl_cons, ih, List.flatten_cons, overlay_append]

theorem combine_eq (layers : List (List Member))
    (lasting : ∀ member ∈ layers.flatten, Path.IsLasting member.1) :
    combine layers = merge (.object []) (members (overlay (.object []) layers.flatten)) := by
  rw [combine, overlay_flatten]
  exact overlay_eq_merge _ (settled_empty.overlay lasting).named

theorem exists_object_of_combine (layers : List (List Member))
    (lasting : ∀ member ∈ layers.flatten, Path.IsLasting member.1) :
    ∃ entries, combine layers = .object entries := by
  rw [combine_eq layers lasting]
  exact exists_object_of_merge [] _

end

/-! ### One setting more -/

/-- Where steps lead elsewhere than to a setting, neither to the table that it is in nor through it. -/
def Apart (table name : String) : List Step → Prop
  | .member first :: .member second :: _ => lowered first = table → lowered second ≠ name
  | .member first :: _ => lowered first ≠ table
  | _ => True

instance (table name : String) : ∀ steps, Decidable (Apart table name steps)
  | .member first :: .member second :: _ =>
    inferInstanceAs (Decidable (lowered first = table → lowered second ≠ name))
  | [.member first] => inferInstanceAs (Decidable (lowered first ≠ table))
  | .member first :: .item _ :: _ => inferInstanceAs (Decidable (lowered first ≠ table))
  | .item _ :: _ => .isTrue trivial
  | [] => .isTrue trivial

/-- The second configuration has a value for a setting, in which it differs from the first at most. What
was no table in the first is an empty one in the second. -/
structure Differs (table name : String) (value : Value) (first second : Value) : Prop where
  elsewhere : ∀ other, other ≠ table → (members second).lookup other = (members first).lookup other
  inside : ∃ inner, (members second).lookup table = some (.object inner) ∧
    inner.lookup name = some value ∧ ∀ other, other ≠ name →
      inner.lookup other = (members (((members first).lookup table).getD .null)).lookup other

section
variable {table name : String} {value first second : Value}

theorem differs_putAt (root : Value) (tables : lowered table = table) (names : lowered name = name)
    (scalar : ∀ old, grafted value [] old = value) :
    Differs table name value root (putAt value [.member table, .member name] root) where
  elsewhere other away := by rw [lookup_putAt, tables, if_neg away]
  inside := by
    rw [lookup_putAt, tables, if_pos rfl, grafted, putAt_member, names, scalar]
    refine ⟨_, rfl, ?_, fun other away => ?_⟩
    · rw [Table.lookup_put, if_pos rfl]
    · rw [Table.lookup_put, if_neg away]

theorem Differs.putAt (differs : Differs table name value first second) {head : String}
    {rest : List Step} (apart : Apart table name (.member head :: rest)) (more : Value) :
    Differs table name value (putAt more (.member head :: rest) first)
      (putAt more (.member head :: rest) second) := by
  obtain ⟨elsewhere, inner, found, held, others⟩ := differs
  by_cases same : lowered head = table
  · -- Within the table in question the way goes on, to another name than the one that differs.
    obtain ⟨next, behind, rfl, away⟩ : ∃ next behind, rest = .member next :: behind ∧
        lowered next ≠ name := by
      match rest, apart with
      | .member next :: behind, apart => exact ⟨next, behind, rfl, apart same⟩
      | [], apart => exact absurd same apart
      | .item _ :: _, apart => exact absurd same apart
    constructor
    case elsewhere =>
      intro other elsewhereToo
      have unlike : other ≠ lowered head := same ▸ elsewhereToo
      rw [lookup_putAt, lookup_putAt, if_neg unlike, if_neg unlike]
      exact elsewhere other elsewhereToo
    case inside =>
      rw [lookup_putAt, lookup_putAt, same, if_pos rfl, if_pos rfl, found, grafted, grafted,
        Option.getD_some, Option.getD_some, putAt_member]
      refine ⟨_, rfl, ?_, fun other unlike => ?_⟩
      · rw [Table.lookup_put, if_neg away.symm]
        exact held
      · rw [Table.lookup_put, lookup_putAt, members_object, others _ away, others other unlike]
  · constructor
    case elsewhere =>
      intro other unlike
      rw [lookup_putAt, lookup_putAt, elsewhere _ same, elsewhere other unlike]
    case inside =>
      have unlike : table ≠ lowered head := fun equal => same equal.symm
      rw [lookup_putAt, lookup_putAt, if_neg unlike, if_neg unlike]
      exact ⟨inner, found, held, others⟩

theorem Differs.overlay (differs : Differs table name value first second) {layer : List Member}
    (apart : ∀ member ∈ layer, Apart table name (Path.ofText member.1).steps) :
    Differs table name value (overlay first layer) (overlay second layer) := by
  induction layer generalizing first second with
  | nil => exact differs
  | cons member rest ih =>
    rw [overlay_cons, overlay_cons]
    exact ih (differs.putAt (apart member List.mem_cons_self) member.2)
      fun other inside => apart other (List.mem_cons_of_mem member inside)

theorem lookup_merge_empty {root : Value} (tidy : Tidy root) (other : String) :
    (members (merge (.object []) (members root))).lookup other =
      ((members root).lookup other).map fun value => grafted value [] none := by
  rw [lookup_merge _ tidy.distinct tidy.lower]
  cases (members root).lookup other <;> rfl

theorem Differs.merge (differs : Differs table name value first second)
    (settledFirst : Settled first) (settledSecond : Settled second)
    (scalar : ∀ old, grafted value [] old = value) :
    Differs table name value (merge (.object []) (members first))
      (merge (.object []) (members second)) := by
  obtain ⟨elsewhere, inner, found, held, others⟩ := differs
  constructor
  case elsewhere =>
    intro other away
    rw [lookup_merge_empty settledFirst.tidy, lookup_merge_empty settledSecond.tidy,
      elsewhere other away]
  case inside =>
    rw [lookup_merge_empty settledFirst.tidy, lookup_merge_empty settledSecond.tidy, found,
      Option.map_some]
    obtain ⟨result, merged⟩ := exists_object_of_merge [] inner
    -- The inner table is laid over an empty one in its turn, which changes none of its scalars.
    have lookups (other : String) :
        result.lookup other = (inner.lookup other).map fun value => grafted value [] none := by
      have inTable := lookup_merge_empty (settledSecond.inside table _ found) other
      rwa [members_object, merged] at inTable
    refine ⟨result, congrArg some merged, ?_, fun other away => ?_⟩
    · rw [lookups, held, Option.map_some, scalar]
    · rw [lookups, others other away]
      cases before : (members first).lookup table with
      | none => rfl
      | some old =>
        rw [Option.getD_some, Option.map_some, Option.getD_some]
        cases old with
        | object entries =>
          exact (lookup_merge_empty (settledFirst.inside table _ before) other).symm
        | _ => rfl

/-- A member more in the last layer makes the difference that it says, unless it is said elsewhere behind
it in the same layer. -/
theorem differs_combine (files : List (List Member)) {before behind : List Member} {text : String}
    (leads : (Path.ofText text).steps = [.member table, .member name])
    (tables : lowered table = table) (names : lowered name = name)
    (scalar : ∀ old, grafted value [] old = value)
    (lasting : ∀ member ∈ (files ++ [before ++ (text, value) :: behind]).flatten,
      Path.IsLasting member.1)
    (apart : ∀ member ∈ behind, Apart table name (Path.ofText member.1).steps) :
    Differs table name value (combine (files ++ [before ++ behind]))
      (combine (files ++ [before ++ (text, value) :: behind])) := by
  have lastingLess : ∀ member ∈ (files ++ [before ++ behind]).flatten, Path.IsLasting member.1 := by
    intro member inside
    refine lasting member ?_
    simp only [List.flatten_append, List.flatten_singleton, List.mem_append, List.mem_cons] at inside ⊢
    exact inside.imp_right fun own => own.imp_right .inr
  rw [combine_eq _ lastingLess, combine_eq _ lasting]
  refine Differs.merge ?_ (settled_empty.overlay lastingLess) (settled_empty.overlay lasting) scalar
  rw [List.flatten_append, List.flatten_append, List.flatten_singleton, List.flatten_singleton,
    ← List.append_assoc, ← List.append_assoc, overlay_append, overlay_append _ (_ ++ _),
    overlay_cons, leads]
  exact (differs_putAt _ tables names scalar).overlay apart

end

end Layer

end Configuration

end Runbook
