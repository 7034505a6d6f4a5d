/-! Values under keys, in the order in which the keys came.

A table never holds a key twice; `insert` overwrites. The invariant is part of the type, so a table is
the same as the function that it looks keys up with, plus an order.
-/

set_option autoImplicit false

namespace Runbook

namespace Table

variable {κ β : Type} [DecidableEq κ]

/-- Overwrites in place, appends a new key. -/
def put (key : κ) (value : β) : List (κ × β) → List (κ × β)
  | [] => [(key, value)]
  | (other, old) :: rest =>
    if other = key then (key, value) :: rest else (other, old) :: put key value rest

theorem mem_keys_put {key other : κ} {value : β} {entries : List (κ × β)} :
    other ∈ (put key value entries).map Prod.fst ↔
      other = key ∨ other ∈ entries.map Prod.fst := by
  induction entries with
  | nil => simp [put]
  | cons entry rest ih =>
    obtain ⟨first, old⟩ := entry
    by_cases same : first = key
    · subst same; simp [put]
    · simp only [put, same, if_false, List.map_cons, List.mem_cons, ih]
      constructor
      · rintro (h | h | h) <;> simp [h]
      · rintro (h | h | h) <;> simp [h]

theorem nodup_keys_put {key : κ} {value : β} {entries : List (κ × β)}
    (distinct : (entries.map Prod.fst).Nodup) : ((put key value entries).map Prod.fst).Nodup := by
  induction entries with
  | nil => simp [put]
  | cons entry rest ih =>
    obtain ⟨first, old⟩ := entry
    have parts := List.nodup_cons.1 distinct
    by_cases same : first = key
    · subst same; simpa [put] using parts
    · simp only [put, same, if_false, List.map_cons, List.nodup_cons]
      refine ⟨fun inside => ?_, ih parts.2⟩
      rcases mem_keys_put.1 inside with h | h
      · exact same h
      · exact parts.1 h

theorem lookup_put (key other : κ) (value : β) (entries : List (κ × β)) :
    (put key value entries).lookup other =
      if other = key then some value else entries.lookup other := by
  induction entries with
  | nil =>
    by_cases h : other = key
    · simp [put, h]
    · have differ : (other == key) = false := by simpa using h
      simp [put, List.lookup_cons, differ, h]
  | cons entry rest ih =>
    obtain ⟨first, old⟩ := entry
    by_cases same : first = key
    · subst same
      by_cases h : other = first
      · simp [put, h]
      · have differ : (other == first) = false := by simpa using h
        simp [put, List.lookup_cons, differ, h]
    · by_cases h : other = first
      · subst h; simp [put, same]
      · have differ : (other == first) = false := by simpa using h
        simp [put, same, List.lookup_cons, differ, ih]

end Table

structure Table (κ β : Type) [DecidableEq κ] where
  entries : List (κ × β) := []
  distinct : (entries.map Prod.fst).Nodup := by exact .nil
  deriving Repr

namespace Table

variable {κ β : Type} [DecidableEq κ]

theorem ext_entries {a b : Table κ β} (same : a.entries = b.entries) : a = b := by
  cases a; cases b; cases same; rfl

instance [DecidableEq β] : DecidableEq (Table κ β) := fun a b =>
  if same : a.entries = b.entries then .isTrue (ext_entries same)
  else .isFalse fun equal => same (congrArg entries equal)

instance : Inhabited (Table κ β) := ⟨{}⟩

def empty : Table κ β := {}

def get? (table : Table κ β) (key : κ) : Option β :=
  table.entries.lookup key

def contains (table : Table κ β) (key : κ) : Bool :=
  (table.get? key).isSome

def insert (table : Table κ β) (key : κ) (value : β) : Table κ β :=
  ⟨put key value table.entries, nodup_keys_put table.distinct⟩

def filter (table : Table κ β) (keep : κ → β → Bool) : Table κ β :=
  ⟨table.entries.filter fun entry => keep entry.1 entry.2,
    table.distinct.sublist (List.filter_sublist.map Prod.fst)⟩

def erase (table : Table κ β) (key : κ) : Table κ β :=
  table.filter fun other _ => other != key

def ofList (entries : List (κ × β)) : Table κ β :=
  entries.foldl (fun table entry => table.insert entry.1 entry.2) {}

def union (table other : Table κ β) : Table κ β :=
  other.entries.foldl (fun table entry => table.insert entry.1 entry.2) table

def keys (table : Table κ β) : List κ :=
  table.entries.map Prod.fst

def values (table : Table κ β) : List β :=
  table.entries.map Prod.snd

def size (table : Table κ β) : Nat :=
  table.entries.length

@[simp] theorem get?_empty (key : κ) : (empty : Table κ β).get? key = none := rfl

theorem get?_insert (table : Table κ β) (key other : κ) (value : β) :
    (table.insert key value).get? other =
      if other = key then some value else table.get? other :=
  lookup_put key other value table.entries

theorem lookup_filter {entries : List (κ × β)} (distinct : (entries.map Prod.fst).Nodup)
    (keep : κ → β → Bool) (key : κ) :
    (entries.filter fun entry => keep entry.1 entry.2).lookup key =
      (entries.lookup key).filter (keep key) := by
  induction entries with
  | nil => rfl
  | cons entry rest ih =>
    obtain ⟨other, value⟩ := entry
    obtain ⟨absent, others⟩ := List.nodup_cons.1 distinct
    rw [List.filter_cons]
    by_cases same : key = other
    · subst same
      rw [List.lookup_cons_self]
      by_cases kept : keep key value = true
      · rw [if_pos kept, List.lookup_cons_self, Option.filter_some_pos kept]
      · -- No entry behind the first has its key, so without it there is none.
        have behind : rest.lookup key = none := by
          refine List.lookup_eq_none_iff.2 fun entry member => bne_iff_ne.2 fun same => ?_
          exact absent (List.mem_map.2 ⟨entry, member, same.symm⟩)
        rw [if_neg kept, ih others, behind, Option.filter_some_neg (Bool.eq_false_iff.2 kept)]
        rfl
    · have differ : (key == other) = false := beq_eq_false_iff_ne.2 same
      by_cases kept : keep other value = true
      · rw [if_pos kept, List.lookup_cons, List.lookup_cons, differ]
        exact ih others
      · rw [if_neg kept, List.lookup_cons, differ]
        exact ih others

theorem get?_filter (table : Table κ β) (keep : κ → β → Bool) (key : κ) :
    (table.filter keep).get? key = (table.get? key).filter (keep key) :=
  lookup_filter table.distinct keep key

theorem get?_erase (table : Table κ β) (key other : κ) :
    (table.erase key).get? other = if other = key then none else table.get? other := by
  rw [erase, get?_filter]
  by_cases same : other = key
  · rw [if_pos same, same]
    cases table.get? key <;> simp [Option.filter]
  · rw [if_neg same]
    cases table.get? other <;> simp [Option.filter, same]

/-- All values that entries have for a key, in order. -/
def valuesOf (key : κ) (entries : List (κ × β)) : List β :=
  entries.filterMap fun entry => if entry.1 = key then some entry.2 else none

theorem valuesOf_cons (key : κ) (entry : κ × β) (rest : List (κ × β)) :
    valuesOf key (entry :: rest) =
      if entry.1 = key then entry.2 :: valuesOf key rest else valuesOf key rest := by
  by_cases same : entry.1 = key <;> simp [valuesOf, same]

theorem get?_insertAll (entries : List (κ × β)) (table : Table κ β) (key : κ) :
    (entries.foldl (fun table entry => table.insert entry.1 entry.2) table).get? key =
      (valuesOf key entries).getLast?.or (table.get? key) := by
  induction entries generalizing table with
  | nil => rfl
  | cons entry rest ih =>
    rw [List.foldl_cons, ih, get?_insert, valuesOf_cons]
    by_cases same : entry.1 = key
    · rw [if_pos same.symm, if_pos same, List.getLast?_cons]
      cases (valuesOf key rest).getLast? <;> rfl
    · rw [if_neg (Ne.symm same), if_neg same]

theorem get?_ofList (entries : List (κ × β)) (key : κ) :
    (ofList entries).get? key = (valuesOf key entries).getLast? :=
  (get?_insertAll entries {} key).trans Option.or_none

theorem contains_iff {table : Table κ β} {key : κ} :
    table.contains key = true ↔ ∃ value, table.get? key = some value :=
  Option.isSome_iff_exists

theorem eq_empty_of_get?_eq_none {table : Table κ β} (absent : ∀ key, table.get? key = none) :
    table = .empty := by
  refine ext_entries (List.eq_nil_iff_forall_not_mem.2 fun entry member => ?_)
  have missing := List.lookup_eq_none_iff.1 (absent entry.1) entry member
  simp at missing

end Table

end Runbook
