import Mathlib.Data.List.Basic
import Runbook.Store.Runs

/-! A store of runs is a map from identifiers to runs.

Whatever it has been asked before, it answers as a map would after the same queries: with the last run put
under each identifier, as long as no deletion took it out. Its lists are views of this map.
-/

set_option autoImplicit false

namespace Runbook

namespace Table

variable {κ β : Type} [DecidableEq κ]

theorem mem_entries_iff {table : Table κ β} {key : κ} {value : β} :
    (key, value) ∈ table.entries ↔ table.get? key = some value := by
  obtain ⟨entries, distinct⟩ := table
  show _ ↔ entries.lookup key = some value
  induction entries with
  | nil => simp
  | cons entry rest ih =>
    obtain ⟨other, first⟩ := entry
    obtain ⟨absent, others⟩ := List.nodup_cons.1 distinct
    by_cases same : key = other
    · subst same
      have behind : (key, value) ∉ rest := fun inside => absent (List.mem_map.2 ⟨_, inside, rfl⟩)
      simp [behind, eq_comm]
    · have differ : (key == other) = false := beq_eq_false_iff_ne.2 same
      simp [List.lookup_cons, differ, same, ih others]

end Table

namespace Time.Instant

theorem le_trans {first second third : Instant} (before : first.le second = true)
    (behind : second.le third = true) : first.le third = true := by
  simp only [le, Bool.or_eq_true, Bool.and_eq_true, decide_eq_true_eq, beq_iff_eq] at *
  omega

theorem le_total (first second : Instant) : (first.le second || second.le first) = true := by
  simp only [le, Bool.or_eq_true, Bool.and_eq_true, decide_eq_true_eq, beq_iff_eq]
  omega

end Time.Instant

namespace Store

inductive Query where
  | create (run : Run)
  | update (run : Run)
  | deleteExpired (before : Time.Instant)
  | get (id : RunId)
  | withStatus (status : Run.Status)
  | ofWorkflow (id : WorkflowId)

inductive Answer where
  | stored
  | refused (error : Error)
  | deleted (count : Nat)
  | found (run : Option Run)
  | listed (runs : List Run)

namespace Runs

def settle (store : Runs) : Except Error Runs → Answer × Runs
  | .ok runs => (.stored, runs)
  | .error error => (.refused error, store)

def answer (store : Runs) : Query → Answer × Runs
  | .create run => store.settle (store.create run)
  | .update run => store.settle (store.update run)
  | .deleteExpired before =>
    let (kept, count) := store.deleteExpired before
    (.deleted count, kept)
  | .get id => (.found (store.get? id), store)
  | .withStatus status => (.listed (store.withStatus status), store)
  | .ofWorkflow id => (.listed (store.ofWorkflow id), store)

theorem isExpired_iff (before : Time.Instant) (run : Run) :
    isExpired before run = true ↔ run.isTerminal = true ∧ run.createdAt.lt before = true := by
  rw [isExpired, Bool.and_eq_true]

theorem get?_deleteExpired (store : Runs) (before : Time.Instant) (id : RunId) :
    (store.deleteExpired before).1.get? id =
      (store.get? id).filter fun run => !isExpired before run :=
  Table.get?_filter ..

theorem count_deleteExpired (store : Runs) (before : Time.Instant) :
    (store.deleteExpired before).2 = (store.table.values.filter (isExpired before)).length := by
  have split := List.length_eq_length_filter_add (l := store.table.entries)
    fun entry => isExpired before entry.2
  rw [Table.values, List.filter_map, List.length_map]
  exact Nat.sub_eq_of_eq_add split

theorem exists_deleted (store : Runs) (before : Time.Instant) :
    ∃ gone : List RunId, (store.deleteExpired before).2 = gone.length ∧ gone.Nodup ∧
      ∀ id, id ∈ gone ↔ ∃ run, store.get? id = some run ∧ run.isTerminal = true ∧
        run.createdAt.lt before = true := by
  refine ⟨(store.table.entries.filter fun entry => isExpired before entry.2).map Prod.fst, ?_, ?_, ?_⟩
  · rw [count_deleteExpired, Table.values, List.filter_map, List.length_map, List.length_map]
    rfl
  · exact store.table.distinct.sublist (List.filter_sublist.map Prod.fst)
  · intro id
    simp only [List.mem_map, List.mem_filter, isExpired_iff, Prod.exists, exists_and_right,
      exists_eq_right, Table.mem_entries_iff, get?]

def after (store : Runs) (queries : List Query) : Runs :=
  queries.foldl (fun store query => (store.answer query).2) store

end Runs

/-- A map from identifiers to runs. -/
abbrev Contents := RunId → Option Run

namespace Contents

def empty : Contents := fun _ => none

def put (held : Contents) (run : Run) : Contents :=
  fun id => if id = run.id then some run else held id

/-- What a query leaves in the map: a run is created only under a new identifier, updated only under one
that is in use, and taken out when it is over. -/
def next (held : Contents) : Query → Contents
  | .create run => if held run.id = none then held.put run else held
  | .update run => if held run.id = none then held else held.put run
  | .deleteExpired before => fun id => (held id).filter fun run =>
    !(run.isTerminal && run.createdAt.lt before)
  | .get _ | .withStatus _ | .ofWorkflow _ => held

def after (held : Contents) (queries : List Query) : Contents :=
  queries.foldl next held

/-- The runs of the map that are wanted, each of them once, in the order of their creation. -/
structure Lists (held : Contents) (wanted : Run → Prop) (runs : List Run) : Prop where
  mem_iff : ∀ run, run ∈ runs ↔ (∃ id, held id = some run) ∧ wanted run
  distinct : (runs.map Run.id).Nodup
  ordered : runs.Pairwise fun first second => first.createdAt.le second.createdAt = true

/-- Which answers to a query agree with the map. Where runs were created at one moment, lists in
different orders do. -/
def Allows (held : Contents) : Query → Answer → Prop
  | .create run, answer =>
    answer = if held run.id = none then .stored
      else .refused (.conflict s!"Run '{run.id}' already exists")
  | .update run, answer =>
    answer = if held run.id = none then .refused (.notFound s!"Run '{run.id}' not found")
      else .stored
  | .deleteExpired before, answer =>
    ∃ gone : List RunId, answer = .deleted gone.length ∧ gone.Nodup ∧
      ∀ id, id ∈ gone ↔ ∃ run, held id = some run ∧ run.isTerminal = true ∧
        run.createdAt.lt before = true
  | .get id, answer => answer = .found (held id)
  | .withStatus status, answer =>
    ∃ runs, answer = .listed runs ∧ held.Lists (fun run => run.status = status) runs
  | .ofWorkflow id, answer =>
    ∃ runs, answer = .listed runs ∧ held.Lists (fun run => run.workflowId = id) runs

end Contents

/-- A store that holds the runs of a map, each of them under its own identifier. -/
structure Runs.Holds (store : Runs) (held : Contents) : Prop where
  look : ∀ id, store.get? id = held id
  own : ∀ id run, held id = some run → run.id = id

namespace Runs.Holds

theorem empty : Runs.empty.Holds Contents.empty where
  look _ := rfl
  own _ _ found := by cases found

section
variable {store : Runs} {held : Contents}

theorem contains_iff (holds : store.Holds held) (id : RunId) :
    store.table.contains id = true ↔ held id ≠ none := by
  rw [← holds.look, Table.contains, Option.isSome_iff_ne_none]
  rfl

theorem create_eq (holds : store.Holds held) (run : Run) :
    store.create run =
      if held run.id = none then .ok ⟨store.table.insert run.id run⟩
      else .error (.conflict s!"Run '{run.id}' already exists") := by
  simp only [Runs.create, holds.contains_iff, ite_not]

theorem update_eq (holds : store.Holds held) (run : Run) :
    store.update run =
      if held run.id = none then .error (.notFound s!"Run '{run.id}' not found")
      else .ok ⟨store.table.insert run.id run⟩ := by
  simp only [Runs.update, holds.contains_iff, ite_not]

theorem put (holds : store.Holds held) (run : Run) :
    Holds ⟨store.table.insert run.id run⟩ (held.put run) where
  look id := by
    rw [Runs.get?, Table.get?_insert, Contents.put]
    split
    · rfl
    · exact holds.look id
  own id other found := by
    rw [Contents.put] at found
    split at found
    · next same => cases found; exact same.symm
    · exact holds.own id other found

theorem deleteExpired (holds : store.Holds held) (before : Time.Instant) :
    (store.deleteExpired before).1.Holds (held.next (.deleteExpired before)) where
  look id := by
    rw [get?_deleteExpired, Contents.next, holds.look]
    rfl
  own id run found := by
    rw [Contents.next, Option.filter_eq_some_iff] at found
    exact holds.own id run found.1

theorem answer (holds : store.Holds held) (query : Query) :
    (store.answer query).2.Holds (held.next query) := by
  cases query with
  | create run =>
    rw [Runs.answer, holds.create_eq, Contents.next]
    split
    · exact holds.put run
    · exact holds
  | update run =>
    rw [Runs.answer, holds.update_eq, Contents.next]
    split
    · exact holds
    · exact holds.put run
  | deleteExpired before => exact holds.deleteExpired before
  | get id => exact holds
  | withStatus status => exact holds
  | ofWorkflow id => exact holds

theorem after (holds : store.Holds held) (queries : List Query) :
    (store.after queries).Holds (held.after queries) := by
  induction queries generalizing store held with
  | nil => exact holds
  | cons query rest ih => exact ih (holds.answer query)

/-! ### Answers -/

theorem mem_entries_iff (holds : store.Holds held) (id : RunId) (run : Run) :
    (id, run) ∈ store.table.entries ↔ held id = some run := by
  rw [Table.mem_entries_iff, ← holds.look]
  rfl

theorem mem_values_iff (holds : store.Holds held) (run : Run) :
    run ∈ store.table.values ↔ ∃ id, held id = some run := by
  simp only [Table.values, List.mem_map, Prod.exists, exists_eq_right, holds.mem_entries_iff]

theorem map_id_values (holds : store.Holds held) :
    store.table.values.map Run.id = store.table.entries.map Prod.fst := by
  rw [Table.values, List.map_map]
  refine List.map_congr_left fun entry member => ?_
  exact holds.own entry.1 entry.2 ((holds.mem_entries_iff entry.1 entry.2).1 member)

theorem oldestFirst (holds : store.Holds held) {test : Run → Bool} {wanted : Run → Prop}
    (tests : ∀ run, test run = true ↔ wanted run) :
    held.Lists wanted (Runs.oldestFirst (store.table.values.filter test)) where
  mem_iff run := by
    rw [Runs.oldestFirst, List.mem_mergeSort, List.mem_filter, holds.mem_values_iff, tests]
  distinct := by
    have sorted := (List.mergeSort_perm (store.table.values.filter test)
      fun first second => first.createdAt.le second.createdAt).map Run.id
    refine sorted.nodup_iff.2 ?_
    refine List.Nodup.sublist (List.filter_sublist.map Run.id) ?_
    rw [holds.map_id_values]
    exact store.table.distinct
  ordered := by
    refine List.pairwise_mergeSort (fun _ _ _ before behind => ?_) (fun first second => ?_) _
    · exact Time.Instant.le_trans before behind
    · exact Time.Instant.le_total first.createdAt second.createdAt

theorem allows (holds : store.Holds held) (query : Query) :
    held.Allows query (store.answer query).1 := by
  cases query with
  | create run =>
    rw [Contents.Allows, Runs.answer, holds.create_eq]
    split <;> rfl
  | update run =>
    rw [Contents.Allows, Runs.answer, holds.update_eq]
    split <;> rfl
  | deleteExpired before =>
    obtain ⟨gone, counted, distinct, mem_iff⟩ := store.exists_deleted before
    simp only [holds.look] at mem_iff
    exact ⟨gone, congrArg Answer.deleted counted, distinct, mem_iff⟩
  | get id => exact congrArg Answer.found (holds.look id)
  | withStatus status => exact ⟨_, rfl, holds.oldestFirst fun _ => beq_iff_eq⟩
  | ofWorkflow id => exact ⟨_, rfl, holds.oldestFirst fun _ => beq_iff_eq⟩

end

end Runs.Holds

theorem Runs.unchanged_of_refused {store : Runs} {query : Query} {error : Error}
    (refused : (store.answer query).1 = .refused error) : (store.answer query).2 = store := by
  have settled (result : Except Error Runs) (refused : (store.settle result).1 = .refused error) :
      (store.settle result).2 = store := by
    cases result with
    | ok runs => cases refused
    | error _ => rfl
  cases query with
  | create run => exact settled _ refused
  | update run => exact settled _ refused
  | deleteExpired before => cases refused
  | get id => rfl
  | withStatus status => rfl
  | ofWorkflow id => rfl

/-- After any queries every answer agrees with what a map holds after them, and a refused one leaves the
store as it was. The map has finitely many runs, each of them under its own identifier. -/
theorem Runs.answers_like_map (queries : List Query) :
    let store := Runs.empty.after queries
    let held := Contents.empty.after queries
    (∀ query, held.Allows query (store.answer query).1 ∧
      ∀ error, (store.answer query).1 = .refused error → (store.answer query).2 = store) ∧
    (∀ id run, held id = some run → run.id = id) ∧
    ∃ ids : List RunId, ids.Nodup ∧ ∀ id, id ∈ ids ↔ held id ≠ none := by
  intro store held
  have holds : store.Holds held := Holds.empty.after queries
  refine ⟨fun query => ⟨holds.allows query, fun _ => unchanged_of_refused⟩, holds.own, ?_⟩
  refine ⟨store.table.keys, store.table.distinct, fun id => ?_⟩
  simp only [Table.keys, List.mem_map, Prod.exists, exists_and_right, exists_eq_right,
    holds.mem_entries_iff, Option.ne_none_iff_exists']

end Store

end Runbook
