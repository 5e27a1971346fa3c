import RiskScreen.Proofs.Text.Padded
import RiskScreen.Proofs.Timestamp

/-!
# Points in time are read back

The text of a point in time has numbers of fixed width with marks between them, and a fraction with
as many digits as are needed. A year that does not have four digits has a sign in front, after which
all digits belong to it. Reading takes each number for itself, so the text of a point gives that
point back. An inserted second is shown with the number sixty, which only the last second of a
minute can be followed by.
-/

namespace RiskScreen.Timestamp

open Text (EndsDigits padded)

variable {width n low high : Nat} {rest : List Char} {c mark : Char}

/-! ### Numbers of fixed width -/

theorem isBlank_of_isDigit (digit : c.isDigit = true) : Text.isBlank c = false := by
  have range : 48 ≤ c.toNat ∧ c.toNat ≤ 57 := by
    simp only [Char.isDigit, Bool.and_eq_true, decide_eq_true_eq] at digit
    exact digit
  have all : ∀ code ≤ 57, 48 ≤ code → Text.isBlank (Char.ofNat code) = false := by decide
  have known := all c.toNat range.2 range.1
  rwa [Char.ofNat_toNat] at known

theorem skipBlank_cons (solid : Text.isBlank c = false) (rest : List Char) :
    skipBlank (c :: rest) = c :: rest :=
  List.dropWhile_cons_of_neg (by simp [solid])

theorem exists_first_padded (pos : 0 < width) (n : Nat) :
    ∃ first others, padded width n = first :: others ∧ first.isDigit = true := by
  have long := Text.le_length_padded width n
  have nonempty : padded width n ≠ [] := by
    rw [← List.length_pos_iff]
    omega
  obtain ⟨first, others, split⟩ := List.exists_cons_of_ne_nil nonempty
  exact ⟨first, others, split, Text.isDigit_of_mem_padded (split ▸ List.mem_cons_self)⟩

/-- There is no white space in front of a number. -/
theorem skipBlank_padded (pos : 0 < width) (n : Nat) (rest : List Char) :
    skipBlank (padded width n ++ rest) = padded width n ++ rest := by
  obtain ⟨first, others, split, digit⟩ := exists_first_padded pos n
  rw [split, List.cons_append]
  exact skipBlank_cons (isBlank_of_isDigit digit) _

/-- A number that fills its width, or ends where the digits end, is read whole. -/
theorem number_padded {most : Nat} (pos : 0 < width) (fits : n < 10 ^ width) (short : width ≤ most)
    (ends : width = most ∨ EndsDigits rest) :
    number most (padded width n ++ rest) = some (n, rest) := by
  have length := Text.length_padded pos fits
  have all : ∀ c ∈ padded width n, c.isDigit = true := fun c => Text.isDigit_of_mem_padded
  have front : ((padded width n ++ rest).take most).takeWhile Char.isDigit = padded width n := by
    rw [List.take_append, length, List.take_of_length_le ((Nat.le_of_eq length).trans short)]
    apply EndsDigits.takeWhile _ all
    rcases ends with rfl | ends
    · rw [Nat.sub_self]
      exact nofun
    · exact ends.take _
  have nonempty : (padded width n).isEmpty = false := by
    rw [List.isEmpty_eq_false_iff, ← List.length_pos_iff, length]
    exact pos
  rw [number]
  simp only [front, nonempty, Bool.false_eq_true, if_false, Text.digitsValue_padded,
    List.drop_left]

/-- What stands between two numbers is passed. -/
theorem expect_cons (solid : Text.isBlank mark = false) (rest : List Char) :
    expect mark (mark :: rest) = some rest := by
  rw [expect, skipBlank_cons solid]
  exact if_pos rfl

theorem readTwo_padded (least : low ≤ n) (most : n ≤ high) (fits : high < 100) :
    readTwo low high (padded 2 n ++ rest) = some (n, rest) := by
  have whole : number 2 (padded 2 n ++ rest) = some (n, rest) :=
    number_padded (by decide) (by omega) (Nat.le_refl 2) (Or.inl rfl)
  have inside : (low ≤ n && n ≤ high) = true := by simp [least, most]
  rw [readTwo, skipBlank_padded (by decide), whole]
  exact if_pos inside

/-! ### The parts of a point -/

theorem monthLength_le (year : Int) (month : Nat) : Date.monthLength year month ≤ 31 := by
  unfold Date.monthLength
  split
  · split <;> omega
  · split <;> omega

/-- A number after a sign is read to the end of its digits. -/
theorem longNumber_padded (pos : 0 < width) (fits : n < 10 ^ 18) (ends : EndsDigits rest) :
    longNumber (padded width n ++ rest) = some (n, rest) := by
  have all : ∀ c ∈ padded width n, c.isDigit = true := fun c => Text.isDigit_of_mem_padded
  have digits : (padded width n ++ rest).takeWhile Char.isDigit = padded width n :=
    ends.takeWhile all
  obtain ⟨first, others, split, -⟩ := exists_first_padded pos n
  have nonempty : (padded width n).isEmpty = false := by rw [split, List.isEmpty_cons]
  have short : ¬ 9223372036854775808 ≤ n := by omega
  rw [longNumber]
  simp only [digits, nonempty, Text.digitsValue_padded, decide_eq_false short, Bool.or_self,
    Bool.false_eq_true, if_false, List.drop_left]

theorem readYear_yearText {year : Int} (least : Date.minYear ≤ year) (most : year ≤ Date.maxYear)
    (rest : List Char) :
    readYear (yearText year ++ '-' :: rest) = some (year, '-' :: rest) := by
  have ends : EndsDigits ('-' :: rest) := by
    intro c same
    obtain rfl := Option.some.inj same
    decide
  rw [Date.minYear] at least
  rw [Date.maxYear] at most
  have whole : longNumber (padded 4 year.natAbs ++ '-' :: rest) = some (year.natAbs, '-' :: rest) :=
    longNumber_padded (by decide) (by omega) ends
  unfold yearText
  split
  · rename_i short
    obtain ⟨nonneg, le⟩ : 0 ≤ year ∧ year ≤ 9999 := by simpa using short
    have whole : number 4 (padded 4 year.toNat ++ '-' :: rest) = some (year.toNat, '-' :: rest) :=
      number_padded (by decide) (by omega) (Nat.le_refl 4) (Or.inl rfl)
    obtain ⟨first, others, split, digit⟩ := exists_first_padded (by decide : 0 < 4) year.toNat
    have value : (year.toNat : Int) = year := Int.toNat_of_nonneg nonneg
    rw [readYear, skipBlank_padded (by decide)]
    rw [split, List.cons_append] at whole ⊢
    split
    · rename_i same
      rw [(List.cons.inj same).1] at digit
      contradiction
    · rename_i same
      rw [(List.cons.inj same).1] at digit
      contradiction
    · rw [whole, Option.map_some, value]
  · rw [List.cons_append, readYear]
    by_cases nonneg : 0 ≤ year
    · have value : (year.natAbs : Int) = year := Int.natAbs_of_nonneg nonneg
      rw [if_pos nonneg, skipBlank_cons (by decide)]
      simp only [whole, Option.map_some, value]
    · have value : -(year.natAbs : Int) = year := by omega
      rw [if_neg nonneg, skipBlank_cons (by decide)]
      simp only [whole, Option.map_some, value]

theorem readDate_chars {date : Date} (valid : date.isValid = true) (rest : List Char) :
    readDate (yearText date.year ++
      '-' :: (padded 2 date.month ++ '-' :: (padded 2 date.day ++ rest))) = some (date, rest) := by
  obtain ⟨proper, least, most⟩ := Date.isValid_iff.mp valid
  have dayLe := proper.day_le.trans (monthLength_le date.year date.month)
  simp only [readDate, readYear_yearText least most,
    expect_cons (by decide : Text.isBlank '-' = false),
    readTwo_padded proper.month_pos proper.month_le (by decide),
    readTwo_padded proper.day_pos dayLe (by decide), Option.bind_eq_bind, Option.bind_some, valid,
    if_true]

/-- The digits of a fraction are as many as are needed, and lack only zeros. -/
theorem readFraction_digits {digits part : Nat} (pos : 0 < digits) (le : digits ≤ 9)
    (fits : part < 10 ^ digits) :
    readFraction ('.' :: padded digits part ++ ['Z']) = some (part * 10 ^ (9 - digits), ['Z']) := by
  have ends : EndsDigits ['Z'] := by
    intro c same
    obtain rfl := Option.some.inj same
    decide
  have whole := number_padded pos fits le (Or.inr ends)
  have length : (padded digits part ++ ['Z']).length - ['Z'].length = digits := by
    rw [List.length_append, Nat.add_sub_cancel, Text.length_padded pos fits]
  rw [List.cons_append, readFraction, whole]
  simp only [length]
  rfl

theorem readFraction_fractionText {nano : Nat} (fits : nano < nanosPerSecond) :
    readFraction (fractionText nano ++ ['Z']) = some (nano, ['Z']) := by
  rw [nanosPerSecond] at fits
  unfold fractionText
  split
  · rename_i zero
    rw [zero]
    rfl
  split
  · rename_i whole
    rw [readFraction_digits (by decide) (by decide) (by omega)]
    have value : nano / 1000000 * 10 ^ (9 - 3) = nano := by omega
    rw [value]
  split
  · rename_i whole
    rw [readFraction_digits (by decide) (by decide) (by omega)]
    have value : nano / 1000 * 10 ^ (9 - 6) = nano := by omega
    rw [value]
  · rw [readFraction_digits (by decide) (by decide) (by omega)]
    have value : nano * 10 ^ (9 - 9) = nano := by omega
    rw [value]

/-- The second and the fraction that are shown are in range, and tell whether a second is
inserted. -/
theorem Proper.shown {t : Timestamp} (proper : t.Proper) :
    t.shownSecond ≤ 60 ∧ t.shownNano < nanosPerSecond ∧
      (if t.shownSecond = 60 then ⟨t.date, t.hour, t.minute, 59, t.shownNano + nanosPerSecond⟩
        else ⟨t.date, t.hour, t.minute, t.shownSecond, t.shownNano⟩ : Timestamp) = t := by
  have second := proper.second
  have nano := proper.nano
  rw [shownSecond, shownNano]
  by_cases inserted : nanosPerSecond ≤ t.nano
  · have last := proper.inserted inserted
    simp only [if_pos inserted, last, if_true, Nat.sub_add_cancel inserted]
    exact ⟨by decide, by omega, by rw [← last]⟩
  · simp only [if_neg inserted]
    rw [if_neg (by omega)]
    exact ⟨by omega, by omega, rfl⟩

theorem readTime_chars {t : Timestamp} (proper : t.Proper) :
    readTime t.date (padded 2 t.hour ++ ':' :: (padded 2 t.minute ++
      ':' :: (padded 2 t.shownSecond ++ (fractionText t.shownNano ++ ['Z'])))) =
      some (t, ['Z']) := by
  have hour := proper.hour
  have minute := proper.minute
  obtain ⟨secondLe, nanoLt, same⟩ := proper.shown
  simp only [readTime,
    readTwo_padded (Nat.zero_le t.hour) (by omega : t.hour ≤ 23) (by decide),
    expect_cons (by decide : Text.isBlank ':' = false),
    readTwo_padded (Nat.zero_le t.minute) (by omega : t.minute ≤ 59) (by decide),
    readTwo_padded (Nat.zero_le t.shownSecond) secondLe (by decide),
    readFraction_fractionText nanoLt, Option.bind_eq_bind, Option.bind_some]
  split at same <;> rename_i sixty
  · rw [if_pos sixty, same]
  · rw [if_neg sixty, same]

/-- The text of a point is read as that point. -/
theorem read_text {t : Timestamp} (proper : t.Proper) : read t.text.toList = some t := by
  have date := readDate_chars (Date.isValid_iff.mpr ⟨proper.date, proper.year_ge, proper.year_le⟩)
  have time := readTime_chars proper
  have offset : readOffset (skipBlank ['Z']) = some (0, []) := by decide
  simp only [text, String.toList_ofList, chars, List.append_assoc, List.cons_append, read, date,
    afterDateMark, time, offset, Option.bind_eq_bind, Option.bind_some, List.all_nil, if_true]
  exact if_pos rfl

end RiskScreen.Timestamp
