/-!
# Classes of characters given by ranges of code points

A class is a list of closed ranges in ascending order. Membership is a linear search, which
is all that the short names and texts of this library need.
-/

namespace RiskScreen.Text

/-- Closed ranges of code points. -/
abbrev Ranges := List (Nat × Nat)

/-- Whether the code point of `c` lies in one of the ranges. -/
def Ranges.contains (ranges : Ranges) (c : Char) : Bool :=
  ranges.any fun range => range.1 ≤ c.toNat && c.toNat ≤ range.2

/-- Every range of `inner` lies in one of `outer`. -/
def Ranges.Covers (outer inner : Ranges) : Prop :=
  ∀ range ∈ inner, ∃ other ∈ outer, other.1 ≤ range.1 ∧ range.2 ≤ other.2

instance (outer inner : Ranges) : Decidable (outer.Covers inner) :=
  inferInstanceAs <| Decidable <|
    ∀ range ∈ inner, ∃ other ∈ outer, other.1 ≤ range.1 ∧ range.2 ≤ other.2

theorem Ranges.contains_iff (ranges : Ranges) (c : Char) :
    ranges.contains c = true ↔ ∃ range ∈ ranges, range.1 ≤ c.toNat ∧ c.toNat ≤ range.2 := by
  simp [Ranges.contains]

theorem Ranges.Covers.contains {outer inner : Ranges} (covers : outer.Covers inner) {c : Char}
    (h : inner.contains c = true) : outer.contains c = true := by
  obtain ⟨range, mem, low, high⟩ := (contains_iff inner c).mp h
  obtain ⟨other, otherMem, before, after⟩ := covers range mem
  exact (contains_iff outer c).mpr ⟨other, otherMem, Nat.le_trans before low,
    Nat.le_trans high after⟩

end RiskScreen.Text
