import Runbook.Proofs.Service.Bookkeeping
import Runbook.Proofs.Time.Calendar

/-! Cleaning up never touches a run in progress, whenever it happens.

A deletion takes out records that have ended, and a run gives the store nothing after such a record. So
whichever updates a deletion falls between, none of them misses its record.

Which records these are goes by a moment that lies some days back. Where it would lie before the first
year of the calendar nothing is so old, but there is no answer at all.
-/

set_option autoImplicit false

namespace Runbook

namespace Service

open Execution (Quiet latest)
open Store.Runs (isExpired)

section
variable {start : Service}

/-- However cleanings up fall between the steps of the calls: no update of a run fails, the store holds
the latest record of every run that has not ended, and no record that has not ended is taken out. A
cleaning up deletes and counts just the records that have ended and were created before its cutoff, and
leaves everything else as it is. -/
theorem cleanup_spares_runs_in_progress (idle : start.Idle)
    (reliable : start.store.outages = .none) (events : List Event) :
    let history := start.history events
    (∀ index, Quiet (history.dialogue index)) ∧
    (∀ index run, history.run? index = some run →
      (latest run (history.dialogue index)).isTerminal = false →
      history.service.getRun run.id = some (latest run (history.dialogue index))) ∧
    (∀ id run event, history.service.getRun id = some run → run.isTerminal = false →
      ∃ kept, (history.service.react event).getRun id = some kept) ∧
    (∀ before,
      (∀ id, (history.service.react (.deleteExpired before)).getRun id =
        (history.service.getRun id).filter fun run => !isExpired before run) ∧
      (history.service.store.runs.deleteExpired before).2 =
        (history.service.store.runs.table.values.filter (isExpired before)).length) ∧
    ∀ days cutoff, history.service.now.1.subDays days = some cutoff →
      history.service.cleanUp days =
        some ((history.service.store.runs.deleteExpired cutoff).2,
          { history.service with
            readings := history.service.readings + 1
            store := { history.service.store with
              runs := (history.service.store.runs.deleteExpired cutoff).1 } }) := by
  intro history
  have kept : Kept (·.isTerminal = false) history :=
    kept_history idle reliable (fun _ unfinished => unfinished) events
      (.inl fun _ unfinished => unfinished)
  refine ⟨kept.quiet, fun index run recorded => kept.stored recorded, ?_, fun before => ⟨?_, ?_⟩, ?_⟩
  · exact fun id run event held unfinished => exists_record_of_react _ event held (.inr unfinished)
  · exact fun id => Store.Runs.get?_deleteExpired _ before id
  · exact Store.Runs.count_deleteExpired _ before
  · intro days cutoff representable
    rw [cleanUp_eq, representable]
    rfl

end

/-! Two cleanings up while a run is in progress, of a store that holds a run from long ago. -/

def bygone : Run :=
  { Run.new (.ofSerial 100) probeCore.workflowId ⟨"edge"⟩ .empty ⟨0, 0⟩ with status := .completed }

def retaining : Service :=
  { probing with store := { runs := ⟨Table.empty.insert bygone.id bygone⟩ } }

theorem cleanup_spares_runs_in_progress_midway :
    Quiet ((retaining.history midway).dialogue 0) ∧
    ((retaining.history midway).service.react (.deleteExpired ⟨1700000000, 0⟩)).getRun bygone.id =
      none ∧
    (∃ kept, ((retaining.history midway).service.react (.deleteExpired ⟨1800000000, 0⟩)).getRun
      (.ofSerial 0) = some kept) ∧
    ((retaining.history midway).service.store.runs.deleteExpired ⟨1700000000, 0⟩).2 = 1 := by
  have idle : retaining.Idle := ⟨rfl, rfl, rfl, rfl⟩
  obtain ⟨quiet, -, spared, deleted, -⟩ := cleanup_spares_runs_in_progress idle rfl midway
  obtain ⟨run, held, unfinished⟩ : ∃ run,
      (retaining.history midway).service.getRun (.ofSerial 0) = some run ∧ run.isTerminal = false :=
    ⟨_, by rfl, by decide +kernel⟩
  refine ⟨quiet 0, ?_, spared _ run (.deleteExpired ⟨1800000000, 0⟩) held unfinished, ?_⟩
  · rw [(deleted ⟨1700000000, 0⟩).1]
    decide +kernel
  · rw [(deleted ⟨1700000000, 0⟩).2]
    decide +kernel

/-! ### Days and the calendar -/

open Time (Date)

/-- Cleaning up at any time between 1970 and 9999. Unless so many days ago lies before the calendar, it
takes out exactly the runs that have ended and were created before then, and answers how many those were.
Where it does lie before the calendar there is no answer: never up to one number of days, and always from
another one on. -/
theorem cleanup_answers_iff (service : Service) (days : UInt32)
    (era : 1970 ≤ (Date.ofDays service.now.1.days).year ∧
      (Date.ofDays service.now.1.days).year ≤ 9999) :
    let cutoff := service.now.1.daysBefore days.toNat
    (cutoff.lt .earliest = false → ∃ count after,
      service.cleanUp days.toNat = some (count, after) ∧
      (∀ id, after.getRun id =
        (service.getRun id).filter fun run => !(run.isTerminal && run.createdAt.lt cutoff)) ∧
      ∃ gone : List RunId, count = gone.length ∧ gone.Nodup ∧
        ∀ id, id ∈ gone ↔ ∃ run, service.getRun id = some run ∧ run.isTerminal = true ∧
          run.createdAt.lt cutoff = true) ∧
    (cutoff.lt .earliest = true → service.cleanUp days.toNat = none) ∧
    (days.toNat ≤ 96465292 → cutoff.lt .earliest = false) ∧
    (99398189 ≤ days.toNat → cutoff.lt .earliest = true) := by
  intro cutoff
  obtain ⟨since, till⟩ := era
  rw [← Int.not_lt, Date.year_lt_iff, Int.not_lt] at since
  rw [← Int.lt_add_one_iff, Date.year_lt_iff] at till
  -- The years as numbers of days, so that only arithmetic is left.
  have first : Date.toDays ⟨1970, 1, 1⟩ = 0 := by decide
  have last : Date.toDays ⟨9999 + 1, 1, 1⟩ = 2932897 := by decide
  have start : Date.toDays ⟨Date.minYear, 1, 1⟩ = -96465292 := by decide
  have stop : Date.toDays ⟨Date.maxYear + 1, 1, 1⟩ = 95026237 := by decide
  have kept : service.now.1.inRange = true := by
    rw [Time.Instant.inRange_iff]
    omega
  have answer := Time.Instant.subDays_eq kept days.toNat
  have place : cutoff.lt .earliest = true ↔ service.now.1.days - days.toNat < -96465292 := by
    rw [Time.Instant.lt_earliest_iff, Time.Instant.days_daysBefore, start]
  refine ⟨fun late => ?_, fun early => ?_, fun few => ?_, fun many => ?_⟩
  · obtain ⟨gone, counted, distinct, mem_iff⟩ := service.store.runs.exists_deleted cutoff
    rw [if_neg (Bool.eq_false_iff.1 late)] at answer
    refine ⟨_, _, by rw [cleanUp_eq, answer]; rfl, fun id => ?_, gone, counted, distinct, mem_iff⟩
    exact Store.Runs.get?_deleteExpired service.store.runs cutoff id
  · rw [if_pos early] at answer
    rw [cleanUp_eq, answer]
    rfl
  · rw [Bool.eq_false_iff, ne_eq, place]
    omega
  · rw [place]
    omega

/-! The store with the run from long ago, when no call has been made. -/

def aged : Service :=
  { store := { runs := ⟨Table.empty.insert bygone.id bygone⟩ } }

theorem cleanup_answers_iff_after_a_month :
    (1970 ≤ (Date.ofDays aged.now.1.days).year ∧ (Date.ofDays aged.now.1.days).year ≤ 9999) ∧
    ∃ count after, aged.cleanUp (30 : UInt32).toNat = some (count, after) ∧
      after.getRun bygone.id = none ∧ 0 < count := by
  have era : 1970 ≤ (Date.ofDays aged.now.1.days).year ∧
      (Date.ofDays aged.now.1.days).year ≤ 9999 := by decide +kernel
  obtain ⟨answered, -, recent, -⟩ := cleanup_answers_iff aged 30 era
  obtain ⟨count, after, cleaned, kept, gone, rfl, -, mem_iff⟩ := answered (recent (by decide))
  refine ⟨era, _, after, cleaned, ?_, List.length_pos_of_mem ((mem_iff bygone.id).2 ?_)⟩
  · rw [kept]
    decide +kernel
  · exact ⟨bygone, by decide +kernel, by decide +kernel, by decide +kernel⟩

/-- No run is so old as the greatest number of days, but instead of deleting none there is no answer. -/
theorem cleanup_unanswered_beyond_calendar :
    (1970 ≤ (Date.ofDays aged.now.1.days).year ∧ (Date.ofDays aged.now.1.days).year ≤ 9999) ∧
    (∀ run ∈ aged.store.runs.table.values,
      run.createdAt.lt (aged.now.1.daysBefore (4294967295 : UInt32).toNat) = false) ∧
    aged.cleanUp (4294967295 : UInt32).toNat = none := by
  refine ⟨by decide +kernel, fun run member => ?_, ?_⟩
  · rw [List.mem_singleton.1 member]
    decide +kernel
  · rw [cleanUp, Option.map_eq_none_iff]
    decide +kernel

end Service

end Runbook
