import Mathlib.Data.Int.Order.Basic
import Mathlib.Order.Monotone.Basic
import RiskScreen.Proofs.Text.Digits
import RiskScreen.Timestamp

/-!
# Points in time that there are

The parts of a point in time have bounds, and there is a first year and a last one. Whatever is
read as a point keeps to them. A point that is a number of seconds after the start of 1970 does so
as long as the seconds end before the years do.

## Implementation notes

For the years, days are counted from the start of the calendar. The next day has the next number,
and the first day of a year comes no later than a day exactly if the year is no later than that of
the day.
-/

namespace RiskScreen

namespace Date

variable {date : Date} {year : Int}

/-- There is such a month, and such a day in it. -/
structure Proper (date : Date) : Prop where
  month_pos : 1 ≤ date.month
  month_le : date.month ≤ 12
  day_pos : 1 ≤ date.day
  day_le : date.day ≤ monthLength date.year date.month

/-- The number of days before a year. -/
def daysBeforeYear (year : Int) : Int :=
  365 * (year - 1) + (year - 1) / 4 - (year - 1) / 100 + (year - 1) / 400

/-- The number of days of a year before a month of it. -/
def daysBeforeMonth (year : Int) : Nat → Nat
  | 0 => 0
  | 1 => 0
  | month + 2 => daysBeforeMonth year (month + 1) + monthLength year (month + 1)

/-- The number of a day. -/
def number (date : Date) : Int :=
  daysBeforeYear date.year + daysBeforeMonth date.year date.month + date.day

@[simp]
theorem daysBeforeMonth_one (year : Int) : daysBeforeMonth year 1 = 0 := rfl

theorem daysBeforeMonth_succ (year : Int) {month : Nat} (h : 1 ≤ month) :
    daysBeforeMonth year (month + 1) = daysBeforeMonth year month + monthLength year month := by
  obtain ⟨earlier, rfl⟩ := Nat.exists_eq_add_of_le' h
  rfl

theorem daysBeforeYear_succ (year : Int) :
    daysBeforeYear (year + 1) = daysBeforeYear year + daysBeforeMonth year 13 := by
  have months : daysBeforeMonth year 13 = if isLeapYear year then 366 else 365 := by
    cases leap : isLeapYear year <;> simp [daysBeforeMonth, monthLength, leap]
  rw [months, daysBeforeYear, daysBeforeYear, isLeapYear]
  split
  · rename_i leap
    simp only [Bool.or_eq_true, Bool.and_eq_true, decide_eq_true_eq] at leap
    omega
  · rename_i common
    simp only [Bool.or_eq_true, Bool.and_eq_true, decide_eq_true_eq] at common
    omega

theorem daysBeforeYear_mono {first second : Int} (h : first ≤ second) :
    daysBeforeYear first ≤ daysBeforeYear second := by
  unfold daysBeforeYear
  omega

theorem daysBeforeMonth_le (year : Int) {month : Nat} (pos : 1 ≤ month) (le : month ≤ 12) :
    daysBeforeMonth year month + monthLength year month ≤ daysBeforeMonth year 13 := by
  rw [← daysBeforeMonth_succ year pos]
  have step (earlier : Nat) : daysBeforeMonth year (earlier + 1) ≤
      daysBeforeMonth year (earlier + 2) := Nat.le_add_right _ _
  exact monotone_nat_of_le_succ (f := fun m => daysBeforeMonth year (m + 1)) step le

theorem monthLength_pos (year : Int) (month : Nat) : 1 ≤ monthLength year month := by
  unfold monthLength
  split
  · split <;> omega
  · split <;> omega

theorem Proper.next (proper : date.Proper) : date.next.Proper := by
  obtain ⟨pos, le, dayPos, dayLe⟩ := proper
  unfold Date.next
  split
  · rename_i earlier
    exact ⟨pos, le, by simp, earlier⟩
  · split
    · rename_i earlier
      exact ⟨by simp, earlier, le_rfl, monthLength_pos _ _⟩
    · exact ⟨le_rfl, by simp, le_rfl, monthLength_pos _ _⟩

/-- The following day has the following number. -/
theorem number_next (proper : date.Proper) : date.next.number = date.number + 1 := by
  obtain ⟨pos, le, dayPos, dayLe⟩ := proper
  unfold Date.next
  split
  · simp only [number]
    omega
  · rename_i last
    split
    · simp only [number, daysBeforeMonth_succ date.year pos]
      omega
    · rename_i december
      have month : date.month = 12 := by omega
      have year := daysBeforeMonth_succ date.year pos
      simp only [month, Nat.reduceAdd] at dayLe last year
      simp only [number, daysBeforeYear_succ, daysBeforeMonth_one, month]
      omega

theorem addDays_spec (proper : date.Proper) (days : Nat) :
    (date.addDays days).Proper ∧ (date.addDays days).number = date.number + days := by
  induction days generalizing date with
  | zero => exact ⟨proper, (Int.add_zero _).symm⟩
  | succ days ih =>
    obtain ⟨properLater, number⟩ := ih proper.next
    refine ⟨properLater, ?_⟩
    rw [addDays, number, number_next proper]
    omega

/-- The days from the start of a year on are those of this year and of later ones. -/
theorem number_start_le_iff (proper : date.Proper) :
    number ⟨year, 1, 1⟩ ≤ date.number ↔ year ≤ date.year := by
  have dayPos := proper.day_pos
  have dayLe := proper.day_le
  have months := daysBeforeMonth_le date.year proper.month_pos proper.month_le
  constructor
  · intro le
    rw [← not_lt]
    intro earlier
    have years := daysBeforeYear_mono (Int.add_one_le_of_lt earlier)
    rw [daysBeforeYear_succ] at years
    simp only [number, daysBeforeMonth_one] at le
    omega
  · intro le
    have years := daysBeforeYear_mono le
    simp only [number, daysBeforeMonth_one]
    omega

theorem isValid_iff : date.isValid = true ↔
    date.Proper ∧ minYear ≤ date.year ∧ date.year ≤ maxYear := by
  simp only [isValid, Bool.and_eq_true, decide_eq_true_eq]
  constructor
  · rintro ⟨⟨⟨⟨⟨least, most⟩, pos⟩, le⟩, dayPos⟩, dayLe⟩
    exact ⟨⟨pos, le, dayPos, dayLe⟩, least, most⟩
  · rintro ⟨⟨pos, le, dayPos, dayLe⟩, least, most⟩
    exact ⟨⟨⟨⟨⟨least, most⟩, pos⟩, le⟩, dayPos⟩, dayLe⟩

end Date

namespace Timestamp

variable {t : Timestamp}

/-- There is such a point: its date and its time of day exist, and a second is inserted only after
the last one of a minute. -/
structure Proper (t : Timestamp) : Prop where
  date : t.date.Proper
  year_ge : Date.minYear ≤ t.date.year
  year_le : t.date.year ≤ Date.maxYear
  hour : t.hour < 24
  minute : t.minute < 60
  second : t.second < 60
  nano : t.nano < 2 * nanosPerSecond
  inserted : nanosPerSecond ≤ t.nano → t.second = 59

/-! ### Points by the clock -/

/-- The seconds from the start of 1970 to the last one of the last year. -/
def lastSecond : Nat := 8210266876799

theorem proper_ofEpochSeconds {count : Nat} (le : count ≤ lastSecond) :
    (ofEpochSeconds count).Proper := by
  have start : Date.Proper ⟨1970, 1, 1⟩ := ⟨by decide, by decide, by decide, by decide⟩
  have first : Date.number ⟨1970, 1, 1⟩ = 719163 := by decide
  have least : Date.number ⟨Date.minYear, 1, 1⟩ = -95746129 := by decide
  have past : Date.number ⟨Date.maxYear + 1, 1, 1⟩ = 95745400 := by decide
  obtain ⟨date, number⟩ := Date.addDays_spec start (count / 86400)
  rw [first] at number
  rw [lastSecond] at le
  refine ⟨date, ?_, ?_, ?_, ?_, ?_, ?_, ?_⟩
  · apply (Date.number_start_le_iff date).mp
    omega
  · have before := (Date.number_start_le_iff date).not.mp (by omega :
      ¬ Date.number ⟨Date.maxYear + 1, 1, 1⟩ ≤ _)
    exact Int.lt_add_one_iff.mp (not_le.mp before)
  · simp only [ofEpochSeconds]
    omega
  · simp only [ofEpochSeconds]
    omega
  · simp only [ofEpochSeconds]
    omega
  · change 0 < 2 * nanosPerSecond
    decide
  · intro inserted
    exact absurd inserted (by simp only [ofEpochSeconds]; decide)

/-! ### Points that are read -/

theorem number_bounds {width n : Nat} {text rest : List Char}
    (h : number width text = some (n, rest)) :
    text.length - rest.length ≤ width ∧ n < 10 ^ (text.length - rest.length) := by
  unfold number at h
  dsimp only at h
  split at h
  · contradiction
  · obtain ⟨rfl, rfl⟩ := Prod.mk.inj (Option.some.inj h)
    have front : (text.take width).takeWhile Char.isDigit <+: text :=
      (List.takeWhile_prefix _).trans (List.take_prefix _ _)
    have count : text.length - (text.drop
        ((text.take width).takeWhile Char.isDigit).length).length =
          ((text.take width).takeWhile Char.isDigit).length := by
      have := front.length_le
      rw [List.length_drop]
      omega
    rw [count]
    refine ⟨?_, Text.digitsValue_lt ?_⟩
    · exact (List.takeWhile_prefix _).length_le.trans (List.length_take_le _ _)
    · exact List.all_eq_true.mp List.all_takeWhile

theorem readFraction_lt {n : Nat} {text rest : List Char}
    (h : readFraction text = some (n, rest)) : n < nanosPerSecond := by
  unfold readFraction at h
  split at h
  · rename_i digits
    split at h
    · contradiction
    · rename_i part after found
      obtain ⟨rfl, rfl⟩ := Prod.mk.inj (Option.some.inj h)
      obtain ⟨short, less⟩ := number_bounds found
      calc part * 10 ^ (9 - (digits.length - after.length))
          < 10 ^ (digits.length - after.length) * 10 ^ (9 - (digits.length - after.length)) :=
            Nat.mul_lt_mul_of_pos_right less (Nat.pow_pos (by decide))
        _ = nanosPerSecond := by
            rw [← Nat.pow_add, Nat.add_sub_cancel' short]
            rfl
  · obtain ⟨rfl, rfl⟩ := Prod.mk.inj (Option.some.inj h)
    decide

theorem readTwo_le {low high n : Nat} {text rest : List Char}
    (h : readTwo low high text = some (n, rest)) : n ≤ high := by
  unfold readTwo at h
  split at h
  · split at h
    · rename_i inside
      obtain ⟨rfl, rfl⟩ := Prod.mk.inj (Option.some.inj h)
      simp only [Bool.and_eq_true, decide_eq_true_eq] at inside
      exact inside.2
    · contradiction
  · contradiction

theorem isValid_readDate {date : Date} {text rest : List Char}
    (h : readDate text = some (date, rest)) : date.isValid = true := by
  simp only [readDate, Option.bind_eq_bind, Option.bind_eq_some_iff] at h
  obtain ⟨⟨year, _⟩, -, _, -, ⟨month, _⟩, -, _, -, ⟨day, _⟩, -, found⟩ := h
  dsimp only at found
  split at found
  · rename_i valid
    obtain ⟨rfl, rfl⟩ := Prod.mk.inj (Option.some.inj found)
    exact valid
  · contradiction

theorem proper_readTime {date : Date} {text rest : List Char} (valid : date.isValid = true)
    (h : readTime date text = some (t, rest)) : t.Proper := by
  obtain ⟨proper, least, most⟩ := Date.isValid_iff.mp valid
  simp only [readTime, Option.bind_eq_bind, Option.bind_eq_some_iff] at h
  obtain ⟨⟨hour, _⟩, hourRead, _, -, ⟨minute, _⟩, minuteRead, _, -, ⟨second, _⟩, secondRead,
    ⟨nano, _⟩, nanoRead, found⟩ := h
  have hourLt := Nat.lt_succ_of_le (readTwo_le hourRead)
  have minuteLt := Nat.lt_succ_of_le (readTwo_le minuteRead)
  have secondLe := readTwo_le secondRead
  have nanoLt := readFraction_lt nanoRead
  dsimp only at found
  split at found
  · obtain ⟨rfl, rfl⟩ := Prod.mk.inj (Option.some.inj found)
    exact ⟨proper, least, most, hourLt, minuteLt, by dsimp only; omega, by dsimp only; omega,
      fun _ => rfl⟩
  · obtain ⟨rfl, rfl⟩ := Prod.mk.inj (Option.some.inj found)
    exact ⟨proper, least, most, hourLt, minuteLt, by dsimp only; omega, by dsimp only; omega,
      fun inserted => absurd nanoLt (Nat.not_lt.mpr inserted)⟩

/-- Taking off an offset changes neither the second nor its fraction. -/
theorem proper_toUtc {u : Timestamp} {offset : Int} (proper : t.Proper)
    (h : toUtc offset t = some u) : u.Proper := by
  unfold toUtc at h
  dsimp only at h
  split at h
  · exact Option.some.inj h ▸ proper
  · rw [Option.ite_none_left_eq_some, Option.ite_none_right_eq_some, Option.some_inj] at h
    obtain ⟨-, valid, rfl⟩ := h
    obtain ⟨date, least, most⟩ := Date.isValid_iff.mp valid
    exact ⟨date, least, most, by dsimp only; omega, by dsimp only; omega, proper.second,
      proper.nano, proper.inserted⟩

/-- A point that is read is a proper one. -/
theorem proper_read {text : List Char} (h : read text = some t) : t.Proper := by
  simp only [read, Option.bind_eq_bind, Option.bind_eq_some_iff] at h
  obtain ⟨⟨date, _⟩, dateRead, _, -, ⟨time, _⟩, timeRead, ⟨offset, _⟩, -, found⟩ := h
  dsimp only at found timeRead
  split at found
  · exact proper_toUtc (proper_readTime (isValid_readDate dateRead) timeRead) found
  · contradiction

end Timestamp

end RiskScreen
