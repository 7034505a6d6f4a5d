import Runbook.Proofs.Number.Decimal
import Runbook.Proofs.Time.Calendar
import Runbook.Time.Rfc3339

/-! Date and time text that was written for a moment is read as this moment, to the nanosecond.

The reader is followed field by field; each field ends at a character that is no digit, so padding
and the number of digits after the point do not matter to it.
-/

set_option autoImplicit false

namespace Runbook.Time

/-- Moments that have a text: in the years that are kept, with a nanosecond of their second, or of
the leap second behind the last one of a minute. -/
structure Instant.IsKept (t : Instant) : Prop where
  inRange : t.inRange = true
  nanos : t.nanos < 1000000000 ∨ t.nanos < 2000000000 ∧ t.secondOfDay % 60 = 59

namespace Rfc3339

open Number

/-! ## Fields -/

theorem padded_digits (width n : Nat) :
    (∀ c ∈ (padded width n).toList, c.isDigit = true) ∧ (padded width n).toList ≠ [] ∧
      numberOf (padded width n).toList = n := by
  have written : (padded width n).toList =
      List.replicate (width - (toString n).length) '0' ++ Nat.toDigits 10 n := by
    simp [padded]
  have zeros (k : Nat) (digits : List Char) :
      numberOf (List.replicate k '0' ++ digits) = numberOf digits := by
    induction k with
    | zero => rfl
    | succ k ih => exact ih
  rw [written]
  refine ⟨fun c inside => ?_, by simp [Nat.toDigits_ne_nil], ?_⟩
  · rcases List.mem_append.1 inside with zero | digit
    · rw [List.eq_of_mem_replicate zero]
      rfl
    · exact Decimal.isDigit_of_mem digit
  · rw [zeros]
    exact Nat.ofDigitChars_ten_toDigits

theorem length_padded {width n : Nat} (positive : 0 < width) (small : n < 10 ^ width) :
    (padded width n).toList.length = width := by
  have short := Nat.toDigits_length 10 n width positive small
  have digits : (toString n).toList = Nat.toDigits 10 n := Nat.toList_repr
  have same : (toString n).length = (Nat.toDigits 10 n).length := by
    rw [← digits, String.length_toList]
  simp only [padded, String.toList_append, String.toList_ofList, List.length_append,
    List.length_replicate, digits, same]
  omega

def Ends (rest : List Char) : Prop :=
  ∀ c ∈ rest.head?, c.isDigit = false

theorem ends_cons {c : Char} {rest : List Char} (other : c.isDigit = false) :
    Ends (c :: rest) := by
  rintro _ ⟨⟩
  exact other

theorem number_padded {width places n : Nat} {rest : List Char}
    (room : (padded places n).toList.length ≤ width) (fits : n < 10 ^ 18) (ends : Ends rest) :
    number width ((padded places n).toList ++ rest) = .ok (n, rest) := by
  obtain ⟨digits, filled, value⟩ := padded_digits places n
  generalize (padded places n).toList = text at room digits filled value
  have ahead : ((text ++ rest).take width).takeWhile Char.isDigit = text := by
    rw [List.take_append, List.take_of_length_le room]
    refine Decimal.takeWhile_digits digits fun c first => ends c ?_
    rw [List.head?_take] at first
    split at first
    · cases first
    · exact first
  have inside : Interval.int64.contains (n : Int) = true :=
    Interval.contains_iff.2 (by simp only [Interval.int64]; omega)
  obtain ⟨c, tail, rfl⟩ := List.exists_cons_of_ne_nil filled
  rw [List.cons_append] at ahead ⊢
  simp [number, ahead, value, inside]

theorem dropBlank_cons {c : Char} {rest : List Char} (solid : Text.isBlank c = false) :
    Text.dropBlank (c :: rest) = c :: rest :=
  List.dropWhile_cons_of_neg (by simp [solid])

theorem dropBlank_padded (places n : Nat) (rest : List Char) :
    Text.dropBlank ((padded places n).toList ++ rest) = (padded places n).toList ++ rest := by
  obtain ⟨digits, filled, -⟩ := padded_digits places n
  obtain ⟨c, tail, split⟩ := List.exists_cons_of_ne_nil filled
  have digit := digits c (split ▸ List.mem_cons_self)
  rw [split, List.cons_append]
  refine dropBlank_cons (Bool.eq_false_iff.2 fun blank => ?_)
  have low : 48 ≤ c.toNat := (Char.isDigit_iff_toNat.1 digit).1
  have high : c.toNat ≤ 57 := (Char.isDigit_iff_toNat.1 digit).2
  simp only [Text.isBlank, Bool.or_eq_true, Bool.and_eq_true, decide_eq_true_eq,
    beq_iff_eq] at blank
  omega

theorem field_padded {low high n : Nat} {rest : List Char} (within : low ≤ n ∧ n ≤ high)
    (small : n < 100) (ends : Ends rest) :
    field 2 low high ((padded 2 n).toList ++ rest) = .ok (n, rest) := by
  have room := length_padded (show 0 < 2 by decide) small
  rw [field, dropBlank_padded, number_padded (by omega) (by omega) ends]
  simp [bind, Except.bind, within, pure, Except.pure]

theorem mark_cons {c : Char} {rest : List Char} (solid : Text.isBlank c = false) :
    mark c (c :: rest) = .ok rest := by
  rw [mark, dropBlank_cons solid]
  simp

theorem year_yearText {y : Int} {rest : List Char} (low : Date.minYear ≤ y)
    (high : y ≤ Date.maxYear) : year ((yearText y).toList ++ '-' :: rest) = .ok (y, '-' :: rest) := by
  rw [Date.minYear] at low
  rw [Date.maxYear] at high
  have inside : Interval.int32.contains y = true :=
    Interval.contains_iff.2 (by simp only [Interval.int32]; omega)
  have ends : Ends ('-' :: rest) := ends_cons rfl
  rw [yearText]
  split
  next plain =>
    have small : y.toNat < 10 ^ 4 := by omega
    have read : number 4 ((padded 4 y.toNat).toList ++ '-' :: rest) = .ok (y.toNat, '-' :: rest) :=
      number_padded (Nat.le_of_eq (length_padded (by decide) small)) (by omega) ends
    have same : (y.toNat : Int) = y := by omega
    rw [year, dropBlank_padded]
    obtain ⟨digits, filled, -⟩ := padded_digits 4 y.toNat
    obtain ⟨c, tail, split⟩ := List.exists_cons_of_ne_nil filled
    have digit := digits c (split ▸ List.mem_cons_self)
    -- Four digits are read as such unless a sign stands in front.
    have unsigned : c ≠ '-' ∧ c ≠ '+' := by
      constructor <;> rintro rfl <;> cases digit
    rw [split, List.cons_append] at read ⊢
    simp [unsigned, read, same, inside, bind, Except.bind, pure, Except.pure]
  next signed =>
    have room : (padded 4 y.natAbs).toList.length ≤
        ((padded 4 y.natAbs).toList ++ '-' :: rest).length := by simp
    have read := number_padded room (by omega) ends
    rw [String.toList_append, List.append_assoc]
    generalize (padded 4 y.natAbs).toList ++ '-' :: rest = tail at read
    by_cases negative : y < 0
    · have same : -(y.natAbs : Int) = y := by omega
      have sign : (if y < 0 then "-" else "+").toList = ['-'] := by rw [if_pos negative]; rfl
      rw [sign, List.singleton_append, year, dropBlank_cons rfl]
      simp only [read, bind, Except.bind, pure, Except.pure, same, inside, if_true]
    · have same : (y.natAbs : Int) = y := by omega
      have sign : (if y < 0 then "-" else "+").toList = ['+'] := by rw [if_neg negative]; rfl
      rw [sign, List.singleton_append, year, dropBlank_cons rfl]
      simp only [read, bind, Except.bind, pure, Except.pure, same, inside, if_true]

theorem fraction_padded {places n : Nat} (positive : 0 < places) (most : places ≤ 9)
    (small : n < 10 ^ places) :
    fraction ('.' :: ((padded places n).toList ++ ['Z'])) = .ok (n * 10 ^ (9 - places), ['Z']) := by
  have length := length_padded positive small
  have below : n < 10 ^ 18 := Nat.lt_of_lt_of_le small (Nat.pow_le_pow_right (by decide) (by omega))
  have zone : Ends ['Z'] := ends_cons rfl
  have read := number_padded (by omega : (padded places n).toList.length ≤ 9) below zone
  rw [fraction, read]
  simp [bind, Except.bind, pure, Except.pure, length]

theorem fraction_fractionText {nanos : Nat} (small : nanos < 1000000000) :
    fraction ((fractionText nanos).toList ++ ['Z']) = .ok (nanos, ['Z']) := by
  have point (places n : Nat) : ("." ++ padded places n).toList ++ ['Z'] =
      '.' :: ((padded places n).toList ++ ['Z']) := by simp
  rw [fractionText]
  split
  next zero =>
    subst zero
    rfl
  next =>
    split
    next millis =>
      rw [point, fraction_padded (by decide) (by decide) (by omega)]
      have exact : nanos / 1000000 * 10 ^ (9 - 3) = nanos := by omega
      rw [exact]
    next =>
      split
      next micros =>
        rw [point, fraction_padded (by decide) (by decide) (by omega)]
        have exact : nanos / 1000 * 10 ^ (9 - 6) = nanos := by omega
        rw [exact]
      next =>
        rw [point, fraction_padded (by decide) (by decide) (by omega)]
        rw [Nat.sub_self, Nat.pow_zero, Nat.mul_one]

theorem ends_fractionText (nanos : Nat) : Ends ((fractionText nanos).toList ++ ['Z']) := by
  have point (text : String) : ("." ++ text).toList ++ ['Z'] = '.' :: (text.toList ++ ['Z']) := by
    simp
  rw [fractionText]
  split
  next => exact ends_cons rfl
  next =>
    split
    next => exact point _ ▸ ends_cons rfl
    next => split <;> exact point _ ▸ ends_cons rfl

/-! ## The whole text -/

theorem parseChars_fields {date : Date} {hour minute second nanos : Nat}
    (valid : date.isValid = true) (hours : hour ≤ 23) (minutes : minute ≤ 59)
    (seconds : second ≤ 60) (small : nanos < 1000000000) :
    parseChars ((yearText date.year).toList ++ '-' :: ((padded 2 date.month).toList ++ '-' ::
      ((padded 2 date.day).toList ++ 'T' :: ((padded 2 hour).toList ++ ':' ::
        ((padded 2 minute).toList ++ ':' :: ((padded 2 second).toList ++
          ((fractionText nanos).toList ++ ['Z']))))))) =
      let instant : Instant := ⟨date.toDays * 86400 + 3600 * hour + 60 * minute +
        (if second = 60 then 59 else second : Nat),
        if second = 60 then nanos + 1000000000 else nanos⟩
      if instant.inRange then .ok instant else .error .impossible := by
  have bounds := valid
  simp only [Date.isValid, Bool.and_eq_true, decide_eq_true_eq] at bounds
  obtain ⟨⟨⟨⟨⟨low, high⟩, month1⟩, month12⟩, day1⟩, dayLast⟩ := bounds
  -- Two digits are enough for the day, whatever the month.
  have short : date.day ≤ 31 := by
    refine Nat.le_trans dayLast ?_
    unfold Date.monthLength
    split
    · split <;> decide
    all_goals decide
  have hyphen (rest : List Char) : Ends ('-' :: rest) := ends_cons rfl
  have colon (rest : List Char) : Ends (':' :: rest) := ends_cons rfl
  have letter (rest : List Char) : Ends ('T' :: rest) := ends_cons rfl
  have zone : offset (Text.dropBlank ['Z']) = .ok (0, []) := rfl
  have nothing : (Text.dropBlank []).isEmpty = true := rfl
  rw [parseChars]
  simp only [bind, Except.bind, year_yearText low high, mark_cons (c := '-') rfl,
    mark_cons (c := ':') rfl,
    field_padded ⟨month1, month12⟩ (by omega) (hyphen _),
    field_padded ⟨day1, short⟩ (by omega) (letter _),
    field_padded ⟨Nat.zero_le hour, hours⟩ (by omega) (colon _),
    field_padded ⟨Nat.zero_le minute, minutes⟩ (by omega) (colon _),
    field_padded ⟨Nat.zero_le second, seconds⟩ (by omega) (ends_fractionText nanos),
    fraction_fractionText small, pure, Except.pure, zone, nothing, valid, Bool.not_true,
    Bool.false_eq_true, if_false, Int.natAbs_zero, Nat.reduceLeDiff, Int.sub_zero, beq_iff_eq]
  rfl

theorem toList_text (t : Instant) :
    (text t).toList =
      (yearText (Date.ofDays t.days).year).toList ++ '-' ::
        ((padded 2 (Date.ofDays t.days).month).toList ++ '-' ::
        ((padded 2 (Date.ofDays t.days).day).toList ++ 'T' ::
        ((padded 2 (t.secondOfDay.toNat / 3600)).toList ++ ':' ::
        ((padded 2 (t.secondOfDay.toNat / 60 % 60)).toList ++ ':' ::
        ((padded 2 (t.secondOfDay.toNat % 60 +
          if 1000000000 ≤ t.nanos then 1 else 0)).toList ++
        ((fractionText (if 1000000000 ≤ t.nanos then t.nanos - 1000000000 else t.nanos)).toList ++
          ['Z'])))))) := by
  simp [text, textWith]

/-- A moment is read from its text. A leap second is written as the sixtieth of its minute, which no
other second is. -/
theorem parse_text {t : Instant} (kept : t.IsKept) : parse (text t) = .ok t := by
  obtain ⟨inRange, nanos⟩ := kept
  have years := inRange
  simp only [Instant.inRange, Bool.and_eq_true, decide_eq_true_eq] at years
  have days : t.days = t.seconds / 86400 := Int.fdiv_eq_ediv_of_nonneg _ (by decide)
  have second : t.secondOfDay = t.seconds % 86400 := Int.fmod_eq_emod_of_nonneg _ (by decide)
  have whole : t.secondOfDay.toNat < 86400 := by omega
  have leap : 1000000000 ≤ t.nanos → t.secondOfDay.toNat % 60 = 59 := by omega
  rw [parse, toList_text, parseChars_fields (Date.isValid_ofDays t.days years) (by omega) (by omega)
    (by split <;> omega) (by split <;> omega), Date.toDays_ofDays]
  generalize counted : t.secondOfDay.toNat = s at *
  have time : t.days * 86400 + 3600 * (s / 3600 : Nat) + 60 * (s / 60 % 60 : Nat) +
      (s % 60 : Nat) = t.seconds := by omega
  rcases Nat.lt_or_ge t.nanos 1000000000 with early | late
  · have plain : s % 60 ≠ 60 := by omega
    simp only [Nat.not_le.2 early, if_false, Nat.add_zero, plain, time, inRange, if_true]
  · have sixtieth : s % 60 + 1 = 60 := by omega
    have fiftyNinth := leap late
    rw [fiftyNinth] at time
    simp only [late, if_true, sixtieth, time, Nat.sub_add_cancel late, inRange]

end Rfc3339

end Runbook.Time
