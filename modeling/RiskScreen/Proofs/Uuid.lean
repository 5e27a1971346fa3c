import Mathlib.Algebra.GroupWithZero.Nat
import RiskScreen.Proofs.Text.Padded
import RiskScreen.Uuid

/-!
# Identifiers are read back

The digits of a number are read as that number as far as there are digits for it, and taking the
hyphens out undoes putting them in.
-/

namespace RiskScreen.Uuid

theorem hexNumber_append (start : Nat) (front back : List Char) :
    hexNumber start (front ++ back) = (hexNumber start front).bind fun n => hexNumber n back := by
  induction front generalizing start with
  | nil => rfl
  | cons c front ih =>
    rw [List.cons_append, hexNumber, hexNumber]
    cases Text.hexValue? c with
    | none => rfl
    | some digit => exact ih _

theorem length_hexDigits (count n : Nat) : (hexDigits count n).length = count := by
  induction count generalizing n with
  | zero => rfl
  | succ count ih => rw [hexDigits, List.length_append, ih, List.length_singleton]

/-- The lowest digits of a number denote it up to multiples of the next power of sixteen. -/
theorem hexNumber_hexDigits (count n : Nat) :
    hexNumber 0 (hexDigits count n) = some (n % 16 ^ count) := by
  induction count generalizing n with
  | zero => rw [hexDigits, hexNumber, Nat.pow_zero, Nat.mod_one]
  | succ count ih =>
    have digit : Text.hexValue? (Text.hexDigit (n % 16)) = some (n % 16) :=
      Text.hexValue?_hexDigit (Nat.mod_lt n (by decide))
    have split : n % 16 ^ (count + 1) = n % 16 + 16 * (n / 16 % 16 ^ count) := by
      rw [Nat.pow_succ, Nat.mul_comm, Nat.mod_mul]
    rw [hexDigits, hexNumber_append, ih, Option.bind_some, hexNumber, digit, split]
    simp only [hexNumber]
    exact congrArg some (by omega)

/-- The identifier with the digits of its number. -/
theorem ofDigits_hexDigits (id : Uuid) : ofDigits (hexDigits 32 id.value) = some id := by
  have whole : id.value % 16 ^ 32 = id.value := Nat.mod_eq_of_lt id.value_lt
  rw [ofDigits, if_pos (length_hexDigits 32 id.value), hexNumber_hexDigits, whole]
  exact dif_pos id.value_lt

/-- Taking out the hyphens that were put between the groups gives the digits back. -/
theorem ungroup_group {lengths : List Nat} {digits : List Char} (nonempty : lengths ≠ [])
    (whole : digits.length = lengths.sum) :
    ungroup lengths (group lengths digits) = some digits := by
  induction lengths generalizing digits with
  | nil => exact absurd rfl nonempty
  | cons first rest ih =>
    cases rest with
    | nil =>
      rw [List.sum_singleton] at whole
      rw [group, ungroup, if_pos whole]
    | cons second rest =>
      rw [List.sum_cons] at whole
      have front : (digits.take first).length = first := by
        rw [List.length_take]
        omega
      have back : ungroup (second :: rest) (group (second :: rest) (digits.drop first)) =
          some (digits.drop first) := by
        apply ih (List.cons_ne_nil second rest)
        rw [List.length_drop, whole]
        omega
      rw [group, ungroup]
      · rw [List.drop_append_of_le_length (Nat.le_of_eq front.symm),
          List.drop_eq_nil_of_le (Nat.le_of_eq front), List.nil_append]
        simp only
        rw [back, Option.map_some, List.take_append_of_le_length (Nat.le_of_eq front.symm),
          List.take_of_length_le (Nat.le_of_eq front), List.take_append_drop]
      · exact List.cons_ne_nil second rest
      · exact List.cons_ne_nil second rest

/-- The text of an identifier is read as that identifier. -/
theorem read_text (id : Uuid) : read id.text.toList = some id := by
  have digits := length_hexDigits 32 id.value
  have length : (group groups (hexDigits 32 id.value)).length = 36 := by
    simp [group, groups, digits]
  have grouped : ungroup groups (group groups (hexDigits 32 id.value)) =
      some (hexDigits 32 id.value) := ungroup_group (by decide) digits
  rw [text, String.toList_ofList, read, length, if_neg (by decide), if_pos rfl, readHyphenated,
    grouped, Option.bind_some, ofDigits_hexDigits]

end RiskScreen.Uuid
