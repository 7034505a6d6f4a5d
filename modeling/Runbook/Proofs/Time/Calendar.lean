import Mathlib.Tactic.IntervalCases
import Runbook.Time.Instant

/-! The date of a day leads back to this day, and is one that the calendar has.

Four hundred years are taken apart into centuries, cycles of four years, years and days. In these
terms each division of the conversion has a known quotient. So the instants that are kept are those
between two days, and what lies days before one of them is kept unless it lies before the first.
-/

set_option autoImplicit false

namespace Runbook.Time.Date

/-- A day of an era by centuries, cycles, years and days of the year, all of them counted from zero.
Years end with February, so the last day of a year with 366 days is the leap day. -/
structure Counted (dayOfEra century cycle year day : Int) : Prop where
  total : dayOfEra = 36524 * century + 1461 * cycle + 365 * year + day
  centuries : 0 ≤ century ∧ century ≤ 3
  cycles : 0 ≤ cycle ∧ cycle ≤ 24
  years : 0 ≤ year ∧ year ≤ 3
  days : 0 ≤ day ∧ day ≤ 365
  /-- The fourth year of a cycle is a leap year, of the last cycle only in the last century. -/
  leap : day = 365 → year = 3 ∧ (cycle = 24 → century = 3)

section
variable {dayOfEra century cycle year day : Int}

theorem exists_counted (low : 0 ≤ dayOfEra) (high : dayOfEra < 146097) :
    ∃ century cycle year day, Counted dayOfEra century cycle year day := by
  -- The last century has one day more than the others.
  obtain ⟨century, inCentury, total, centuries, bounds, long⟩ : ∃ century inCentury : Int,
      dayOfEra = 36524 * century + inCentury ∧ (0 ≤ century ∧ century ≤ 3) ∧
        (0 ≤ inCentury ∧ inCentury ≤ 36524) ∧ (inCentury = 36524 → century = 3) := by
    by_cases last : dayOfEra = 146096
    · exact ⟨3, 36524, by omega, by omega, by omega, by omega⟩
    · exact ⟨dayOfEra / 36524, dayOfEra % 36524, by omega, by omega, by omega, by omega⟩
  obtain ⟨cycle, inCycle, split, cycles, within, full⟩ : ∃ cycle inCycle : Int,
      inCentury = 1461 * cycle + inCycle ∧ (0 ≤ cycle ∧ cycle ≤ 24) ∧
        (0 ≤ inCycle ∧ inCycle ≤ 1460) ∧ (inCycle = 1460 → cycle = 24 → inCentury = 36524) :=
    ⟨inCentury / 1461, inCentury % 1461, by omega, by omega, by omega, by omega⟩
  -- The last year of a cycle has one day more than the others.
  obtain ⟨year, day, rest, years, days, leap⟩ : ∃ year day : Int,
      inCycle = 365 * year + day ∧ (0 ≤ year ∧ year ≤ 3) ∧ (0 ≤ day ∧ day ≤ 365) ∧
        (day = 365 → inCycle = 1460) := by
    by_cases last : inCycle = 1460
    · exact ⟨3, 365, by omega, by omega, by omega, by omega⟩
    · exact ⟨inCycle / 365, inCycle % 365, by omega, by omega, by omega, by omega⟩
  refine ⟨century, cycle, year, day, by omega, centuries, cycles, years, days, fun last => ?_⟩
  exact ⟨by omega, fun lastCycle => long (full (leap last) lastCycle)⟩

theorem Counted.bounds (counted : Counted dayOfEra century cycle year day) :
    0 ≤ dayOfEra ∧ dayOfEra ≤ 146096 := by
  obtain ⟨total, ⟨_, _⟩, ⟨_, _⟩, ⟨_, _⟩, ⟨_, _⟩, leap⟩ := counted
  omega

theorem Counted.yearOfEra (counted : Counted dayOfEra century cycle year day) :
    (dayOfEra - dayOfEra / 1460 + dayOfEra / 36524 - dayOfEra / 146096) / 365 =
      100 * century + 4 * cycle + year := by
  obtain ⟨total, ⟨_, _⟩, ⟨_, _⟩, ⟨_, _⟩, ⟨_, _⟩, leap⟩ := counted
  -- Only the very last day lies in a fifth century, and only it is taken off again.
  have centuries : dayOfEra / 36524 - dayOfEra / 146096 = century := by
    by_cases last : dayOfEra = 146096
    · omega
    · have none : dayOfEra / 146096 = 0 := by omega
      omega
  have cycles : dayOfEra / 1460 =
      25 * century + cycle + (24 * century + cycle + 365 * year + day) / 1460 := by omega
  have above : day - (24 * century + cycle + 365 * year + day) / 1460 ≤ 364 := by omega
  have below : 0 ≤ day - (24 * century + cycle + 365 * year + day) / 1460 := by omega
  omega

theorem Counted.dayOfYear (counted : Counted dayOfEra century cycle year day) :
    dayOfEra - (365 * (100 * century + 4 * cycle + year) +
      (100 * century + 4 * cycle + year) / 4 - (100 * century + 4 * cycle + year) / 100) = day := by
  obtain ⟨total, ⟨_, _⟩, ⟨_, _⟩, ⟨_, _⟩, ⟨_, _⟩, leap⟩ := counted
  omega

theorem Counted.isLeap (counted : Counted dayOfEra century cycle year day) (last : day = 365)
    (era : Int) : Date.isLeap (100 * century + 4 * cycle + year + era * 400 + 1) = true := by
  obtain ⟨rfl, leap⟩ := counted.leap last
  obtain ⟨-, ⟨_, _⟩, ⟨_, _⟩, -, -, -⟩ := counted
  simp only [Date.isLeap, Bool.or_eq_true, Bool.and_eq_true, beq_iff_eq, bne_iff_ne]
  omega

end

section
variable {era dayOfEra century cycle year day days : Int}

/-- The month of a day of the year, with March as zero. -/
def monthOf (day : Int) : Int :=
  (5 * day + 2) / 153

theorem monthOf_bounds (low : 0 ≤ day) (high : day ≤ 365) : 0 ≤ monthOf day ∧ monthOf day ≤ 11 := by
  rw [monthOf]
  omega

theorem ofDays_eq (counted : Counted dayOfEra century cycle year day)
    (total : days + 719468 = 146097 * era + dayOfEra) :
    ofDays days =
      ⟨100 * century + 4 * cycle + year + era * 400 + (if monthOf day < 10 then 0 else 1),
        (if monthOf day < 10 then monthOf day + 3 else monthOf day - 9).toNat,
        (day - (153 * monthOf day + 2) / 5 + 1).toNat⟩ := by
  obtain ⟨low, high⟩ := counted.bounds
  have inEra : (days + 719468) / 146097 = era := by omega
  have rest : days + 719468 - era * 146097 = dayOfEra := by omega
  have month := monthOf_bounds counted.days.1 counted.days.2
  have fdiv (n : Int) {d : Int} (positive : 0 ≤ d) : Int.fdiv n d = n / d :=
    Int.fdiv_eq_ediv_of_nonneg n positive
  simp only [ofDays, fdiv, Int.reduceLE, inEra, rest, counted.yearOfEra, counted.dayOfYear]
  rw [← monthOf]
  congr 2
  split <;> split <;> omega

theorem exists_era (days : Int) : ∃ era dayOfEra century cycle year day,
    days + 719468 = 146097 * era + dayOfEra ∧ Counted dayOfEra century cycle year day := by
  obtain ⟨century, cycle, year, day, counted⟩ :=
    exists_counted (show 0 ≤ (days + 719468) % 146097 by omega) (by omega)
  exact ⟨(days + 719468) / 146097, _, century, cycle, year, day, by omega, counted⟩

theorem dayOfMonth_bounds (day : Int) :
    0 ≤ day - (153 * monthOf day + 2) / 5 ∧ day - (153 * monthOf day + 2) / 5 ≤ 30 := by
  rw [monthOf]
  omega

theorem toDays_ofDays (days : Int) : (ofDays days).toDays = days := by
  obtain ⟨era, dayOfEra, century, cycle, year, day, total, counted⟩ := exists_era days
  rw [ofDays_eq counted total]
  obtain ⟨split, ⟨_, _⟩, ⟨_, _⟩, ⟨_, _⟩, ⟨low, high⟩, leap⟩ := counted
  have month := monthOf_bounds low high
  have first := dayOfMonth_bounds day
  have fdiv (n : Int) {d : Int} (positive : 0 ≤ d) : Int.fdiv n d = n / d :=
    Int.fdiv_eq_ediv_of_nonneg n positive
  have inEra : (100 * century + 4 * cycle + year + era * 400) / 400 = era := by omega
  have ofEra : 100 * century + 4 * cycle + year + era * 400 - era * 400 =
      100 * century + 4 * cycle + year := by omega
  have cycles : (100 * century + 4 * cycle + year) / 4 = 25 * century + cycle := by omega
  have centuries : (100 * century + 4 * cycle + year) / 100 = century := by omega
  generalize monthOf day = m at month first ⊢
  by_cases early : m < 10
  · have late : ¬(m + 3).toNat ≤ 2 := by omega
    have back : ((m + 3).toNat : Int) - 3 = m := by omega
    simp only [toDays, early, if_true, late, if_false, back, fdiv, Int.reduceLE, Int.add_zero,
      inEra, ofEra, cycles, centuries]
    omega
  · have late : (m - 9).toNat ≤ 2 := by omega
    have back : ((m - 9).toNat : Int) + 9 = m := by omega
    simp only [toDays, early, if_false, late, if_true, back, fdiv, Int.reduceLE,
      Int.add_sub_cancel, inEra, ofEra, cycles, centuries]
    omega

theorem year_lt_iff (days year : Int) :
    (ofDays days).year < year ↔ days < toDays ⟨year, 1, 1⟩ := by
  obtain ⟨era, dayOfEra, century, cycle, inCycle, day, total, counted⟩ := exists_era days
  rw [ofDays_eq counted total]
  obtain ⟨split, ⟨_, _⟩, ⟨_, _⟩, ⟨_, _⟩, ⟨low, high⟩, leap⟩ := counted
  have fdiv (n : Int) {d : Int} (positive : 0 ≤ d) : Int.fdiv n d = n / d :=
    Int.fdiv_eq_ediv_of_nonneg n positive
  -- January is the eleventh month of a year that starts in March.
  have early : monthOf day < 10 ↔ day < 306 := by rw [monthOf]; omega
  simp only [early, toDays, fdiv, Int.reduceLE, Nat.reduceLeDiff, if_true]
  split <;> omega

theorem isValid_ofDays (days : Int)
    (kept : minYear ≤ (ofDays days).year ∧ (ofDays days).year ≤ maxYear) :
    (ofDays days).isValid = true := by
  obtain ⟨era, dayOfEra, century, cycle, year, day, total, counted⟩ := exists_era days
  have leap := fun last => counted.isLeap last era
  obtain ⟨low, high⟩ := counted.days
  have month := monthOf_bounds low high
  have place : monthOf day = (5 * day + 2) / 153 := rfl
  rw [ofDays_eq counted total] at kept ⊢
  simp only [isValid, kept, decide_true, Bool.true_and, Bool.and_eq_true, decide_eq_true_eq]
  generalize monthOf day = m at month place ⊢
  obtain ⟨least, greatest⟩ := month
  interval_cases m
  case «11» =>
    -- February: it has a 29th day only in a leap year.
    refine ⟨⟨by decide, by omega⟩, ?_⟩
    show _ ≤ if isLeap (100 * century + 4 * cycle + year + era * 400 + 1) then 29 else 28
    by_cases last : day = 365
    · rw [if_pos (leap last)]
      omega
    · split <;> omega
  all_goals
    refine ⟨⟨by decide, by omega⟩, ?_⟩
    simp [monthLength]
    omega

end

end Runbook.Time.Date

/-! ### Days ago -/

namespace Runbook.Time.Instant

/-- Earlier by whole days, without a first day. -/
def daysBefore (t : Instant) (days : Nat) : Instant :=
  { t with seconds := t.seconds - 86400 * (days : Int) }

def earliest : Instant :=
  ⟨86400 * Date.toDays ⟨Date.minYear, 1, 1⟩, 0⟩

section
variable {t : Instant}

theorem days_eq (t : Instant) : t.days = t.seconds / 86400 :=
  Int.fdiv_eq_ediv_of_nonneg t.seconds (by decide)

theorem days_daysBefore (t : Instant) (days : Nat) : (t.daysBefore days).days = t.days - days := by
  rw [days_eq, days_eq]
  show (t.seconds - 86400 * (days : Int)) / 86400 = t.seconds / 86400 - days
  omega

theorem inRange_iff :
    t.inRange = true ↔ Date.toDays ⟨Date.minYear, 1, 1⟩ ≤ t.days ∧
      t.days < Date.toDays ⟨Date.maxYear + 1, 1, 1⟩ := by
  have first := Date.year_lt_iff t.days Date.minYear
  have last := Date.year_lt_iff t.days (Date.maxYear + 1)
  simp only [inRange, Bool.and_eq_true, decide_eq_true_eq]
  omega

theorem lt_earliest_iff : t.lt earliest = true ↔ t.days < Date.toDays ⟨Date.minYear, 1, 1⟩ := by
  have seconds : earliest.seconds = 86400 * Date.toDays ⟨Date.minYear, 1, 1⟩ := rfl
  have nanos : earliest.nanos = 0 := rfl
  simp only [lt, Bool.or_eq_true, Bool.and_eq_true, decide_eq_true_eq, beq_iff_eq]
  rw [seconds, nanos, days_eq]
  omega

/-- What lies before an instant that is kept is itself kept, unless it lies before all of them. -/
theorem subDays_eq (kept : t.inRange = true) (days : Nat) :
    t.subDays days =
      if (t.daysBefore days).lt earliest then none else some (t.daysBefore days) := by
  have inCalendar : (t.daysBefore days).inRange = true ↔ ¬(t.daysBefore days).lt earliest = true := by
    rw [inRange_iff] at kept
    rw [inRange_iff, lt_earliest_iff, days_daysBefore]
    omega
  show (if (t.daysBefore days).inRange then some (t.daysBefore days) else none) = _
  by_cases early : (t.daysBefore days).lt earliest = true
  · rw [if_pos early, if_neg fun inside => inCalendar.1 inside early]
  · rw [if_neg early, if_pos (inCalendar.2 early)]

end

end Runbook.Time.Instant
