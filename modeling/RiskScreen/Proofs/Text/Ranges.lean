import Mathlib.Data.List.Basic
import RiskScreen.Text.Ranges

/-!
# The difference of two classes

What is left of a class of characters when another is taken out of it is given by ranges again.
So two tables are compared exactly by their ranges, and no code point is looked at on its own.
-/

namespace RiskScreen.Text

/-- What is left of a range when another one is taken out of it. -/
def outside (taken range : Nat × Nat) : Ranges :=
  if range.2 < taken.1 ∨ taken.2 < range.1 then [range]
  else
    (if range.1 < taken.1 then [(range.1, taken.1 - 1)] else []) ++
      if taken.2 < range.2 then [(taken.2 + 1, range.2)] else []

theorem exists_mem_outside_iff {taken range : Nat × Nat} {n : Nat} :
    (∃ part ∈ outside taken range, part.1 ≤ n ∧ n ≤ part.2) ↔
      (range.1 ≤ n ∧ n ≤ range.2) ∧ ¬ (taken.1 ≤ n ∧ n ≤ taken.2) := by
  unfold outside
  split
  · simp only [List.mem_singleton, exists_eq_left]
    omega
  · simp only [List.mem_append, List.mem_ite_nil_right, List.mem_singleton, or_and_right, exists_or,
      and_assoc, exists_and_left, exists_eq_left]
    omega

namespace Ranges

variable {ranges taken : Ranges} {c : Char}

/-- The ranges of the first class without the code points of the second. -/
def minus (ranges taken : Ranges) : Ranges :=
  taken.foldl (fun left range => left.flatMap (outside range)) ranges

theorem contains_flatMap_outside {range : Nat × Nat} :
    contains (ranges.flatMap (outside range)) c = true ↔
      ranges.contains c = true ∧ ¬ (range.1 ≤ c.toNat ∧ c.toNat ≤ range.2) := by
  rw [contains_iff, contains_iff]
  constructor
  · rintro ⟨part, mem, inside⟩
    obtain ⟨whole, wholeMem, partMem⟩ := List.mem_flatMap.mp mem
    obtain ⟨within, free⟩ := exists_mem_outside_iff.mp ⟨part, partMem, inside⟩
    exact ⟨⟨whole, wholeMem, within⟩, free⟩
  · rintro ⟨⟨whole, wholeMem, within⟩, free⟩
    obtain ⟨part, partMem, inside⟩ := exists_mem_outside_iff.mpr ⟨within, free⟩
    exact ⟨part, List.mem_flatMap.mpr ⟨whole, wholeMem, partMem⟩, inside⟩

theorem contains_minus_iff :
    (ranges.minus taken).contains c = true ↔
      ranges.contains c = true ∧ taken.contains c = false := by
  rw [Bool.eq_false_iff, ne_eq, contains_iff taken]
  unfold minus
  induction taken generalizing ranges with
  | nil => simp
  | cons range taken ih =>
    rw [List.foldl_cons, ih, contains_flatMap_outside, List.exists_mem_cons_iff, not_or, and_assoc]

theorem minus_append (ranges front back : Ranges) :
    ranges.minus (front ++ back) = (ranges.minus front).minus back :=
  List.foldl_append

theorem contains_minus_of_contains (h : taken.contains c = true) :
    (ranges.minus taken).contains c = false := by
  rw [Bool.eq_false_iff, ne_eq, contains_minus_iff, h]
  rintro ⟨-, ⟨⟩⟩

/-- What is in a class is in another one exactly if it is not in the difference. -/
theorem contains_iff_of_minus (h : ranges.contains c = true) :
    taken.contains c = true ↔ (ranges.minus taken).contains c = false := by
  rw [Bool.eq_false_iff, ne_eq, contains_minus_iff, Bool.eq_false_iff]
  simp [h]

theorem contains_append (front back : Ranges) (c : Char) :
    contains (front ++ back) c = (front.contains c || back.contains c) :=
  List.any_append

/-- A class that begins above a code point does not have the characters up to it. -/
theorem contains_eq_false_of_lt {bound : Nat} (above : ∀ range ∈ ranges, bound ≤ range.1)
    (h : c.toNat < bound) : ranges.contains c = false := by
  rw [Bool.eq_false_iff, ne_eq, contains_iff]
  rintro ⟨range, mem, low, -⟩
  have := above range mem
  omega

end Ranges

end RiskScreen.Text
