import RiskScreen.Number.Decimal
import RiskScreen.Proofs.Text.Padded

/-!
# Amounts are read back

The text of an amount has all digits of its mantissa, with the point before as many of them as its
scale says. Reading puts the mantissa together again and counts the digits after the point. No
digit lacks room on the way, since what was read of a mantissa is no larger than the whole of it.
-/

namespace RiskScreen.Decimal

/-- The amount without the sign that a zero may have. -/
def unsignedZero (amount : Decimal) : Decimal :=
  { amount with negative := amount.negative && amount.mantissa ≠ 0 }

variable {negative seen : Bool} {mantissa scale : Nat} {digits : List Char}

theorem ofParts?_eq_some (amount : Decimal) :
    ofParts? amount.negative amount.mantissa amount.scale = some amount.unsignedZero :=
  dif_pos ⟨amount.mantissa_lt, amount.scale_le⟩

/-- A digit before the point is taken as long as there is room for what it is part of. -/
theorem readFrom_digits (all : ∀ c ∈ digits, c.isDigit = true) (nonempty : digits ≠ [])
    (room : Text.digitsValueFrom mantissa digits < mantissaLimit) (rest : List Char) :
    readFrom negative false seen mantissa scale (digits ++ rest) =
      readFrom negative false true (Text.digitsValueFrom mantissa digits) scale rest := by
  induction digits generalizing mantissa seen with
  | nil => exact absurd rfl nonempty
  | cons c digits ih =>
    obtain ⟨digit, others⟩ := List.forall_mem_cons.mp all
    rw [Text.digitsValueFrom_cons] at room ⊢
    have fits := Nat.lt_of_le_of_lt (Text.le_digitsValueFrom _ digits) room
    have step : readFrom negative false seen mantissa scale (c :: digits ++ rest) =
        readFrom negative false true (10 * mantissa + Text.digitValue c) scale
          (digits ++ rest) := by
      rw [List.cons_append, readFrom]
      simp only [digit, if_true, if_neg (Nat.not_le.mpr fits), Bool.false_and, Bool.false_eq_true,
        if_false]
    rw [step]
    cases digits with
    | nil => rfl
    | cons next digits => exact ih others (List.cons_ne_nil next digits) room

/-- A digit after the point is a decimal, and the last one there is room for is the last one. -/
theorem readFrom_decimals (all : ∀ c ∈ digits, c.isDigit = true)
    (room : Text.digitsValueFrom mantissa digits < mantissaLimit)
    (short : scale + digits.length ≤ maxScale) :
    readFrom negative true true mantissa scale digits =
      ofParts? negative (Text.digitsValueFrom mantissa digits) (scale + digits.length) := by
  induction digits generalizing mantissa scale with
  | nil => rfl
  | cons c digits ih =>
    obtain ⟨digit, others⟩ := List.forall_mem_cons.mp all
    rw [Text.digitsValueFrom_cons] at room ⊢
    rw [List.length_cons] at short ⊢
    have fits := Nat.lt_of_le_of_lt (Text.le_digitsValueFrom _ digits) room
    have further : scale + (digits.length + 1) = scale + 1 + digits.length := by omega
    rw [readFrom]
    simp only [digit, if_true, if_neg (Nat.not_le.mpr fits), Bool.true_and, decide_eq_true_eq]
    by_cases last : maxScale ≤ scale + 1
    · have none : digits = [] := List.eq_nil_of_length_eq_zero (by omega)
      subst none
      rw [if_pos last]
      rfl
    · rw [if_neg last, ih others room (by omega), further]

/-- The point is passed once. -/
theorem readFrom_point (text : List Char) :
    readFrom negative false true mantissa scale ('.' :: text) =
      readFrom negative true true mantissa scale text := by
  rw [readFrom]
  rfl

/-- The text of an amount is made of digits that denote its mantissa, as many of them after the
point as its scale says. -/
theorem exists_magnitudeText (amount : Decimal) :
    ∃ whole fraction, whole ≠ [] ∧ (∀ c ∈ whole ++ fraction, c.isDigit = true) ∧
      fraction.length = amount.scale ∧ Text.digitsValue (whole ++ fraction) = amount.mantissa ∧
      amount.magnitudeText = whole ++ if amount.scale = 0 then [] else '.' :: fraction := by
  have long := Text.le_length_padded (amount.scale + 1) amount.mantissa
  have value := Text.digitsValue_padded (amount.scale + 1) amount.mantissa
  have all : ∀ c ∈ Text.padded (amount.scale + 1) amount.mantissa, c.isDigit = true :=
    fun c => Text.isDigit_of_mem_padded
  rw [magnitudeText]
  generalize Text.padded (amount.scale + 1) amount.mantissa = digits at *
  refine ⟨digits.take (digits.length - amount.scale), digits.drop (digits.length - amount.scale),
    ?_, ?_, ?_, ?_, ?_⟩
  · rw [← List.length_pos_iff, List.length_take]
    omega
  · rwa [List.take_append_drop]
  · rw [List.length_drop]
    omega
  · rwa [List.take_append_drop]
  · by_cases unscaled : amount.scale = 0
    · simp [unscaled]
    · simp [unscaled]

/-- The digits of an amount are read as the amount. -/
theorem readFrom_magnitudeText (amount : Decimal) :
    readFrom amount.negative false false 0 0 amount.magnitudeText = some amount.unsignedZero := by
  obtain ⟨whole, fraction, nonempty, digits, length, value, written⟩ := exists_magnitudeText amount
  obtain ⟨wholeDigits, fractionDigits⟩ := List.forall_mem_append.mp digits
  rw [Text.digitsValue, Text.digitsValueFrom_append] at value
  have room : Text.digitsValueFrom (Text.digitsValueFrom 0 whole) fraction < mantissaLimit :=
    value ▸ amount.mantissa_lt
  have front := Nat.lt_of_le_of_lt (Text.le_digitsValueFrom _ fraction) room
  rw [written, readFrom_digits wholeDigits nonempty front, ← ofParts?_eq_some]
  by_cases unscaled : amount.scale = 0
  · have none : fraction = [] := List.eq_nil_of_length_eq_zero (length.trans unscaled)
    subst none
    rw [if_pos unscaled, readFrom, if_pos rfl, ← value, unscaled]
    rfl
  · have short : 0 + fraction.length ≤ maxScale := by
      rw [Nat.zero_add, length]
      exact amount.scale_le
    rw [if_neg unscaled, readFrom_point, readFrom_decimals fractionDigits room short, value,
      Nat.zero_add, length]

/-- The text of an amount is read as that amount, with its scale, but for the sign of a zero. -/
theorem read_text (amount : Decimal) : read amount.text.toList = some amount.unsignedZero := by
  have magnitude := readFrom_magnitudeText amount
  have plain : readPlain amount.text.toList = some amount.unsignedZero := by
    rw [text, String.toList_ofList]
    cases sign : amount.negative with
    | true =>
      rw [sign] at magnitude
      exact magnitude
    | false =>
      rw [sign] at magnitude
      obtain ⟨whole, fraction, nonempty, digits, _, _, written⟩ := exists_magnitudeText amount
      obtain ⟨first, others, rfl⟩ := List.exists_cons_of_ne_nil nonempty
      have digit : first.isDigit = true := digits first List.mem_cons_self
      rw [if_neg Bool.false_ne_true, ← magnitude, written, List.cons_append, readPlain]
      · rintro _ same
        rw [(List.cons.inj same).1] at digit
        contradiction
      · rintro _ same
        rw [(List.cons.inj same).1] at digit
        contradiction
  rw [read, plain]

end RiskScreen.Decimal
