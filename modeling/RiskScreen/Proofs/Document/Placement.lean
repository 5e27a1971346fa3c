import RiskScreen.Payload

/-!
# Placements and survivors

An entry whose path can be read asks for a value at the segments of that path. Of several
placements made one after another, those survive that no later one overwrites, by being at
the same place or at a place above.
-/

namespace RiskScreen

open RiskScreen.Path (Segment)

/-- A value at the segments of a path. -/
@[ext]
structure Placement where
  segments : List Segment
  value : Option String
  deriving DecidableEq, Repr

/-- What an entry asks for, if its path can be read. -/
def Entry.placement? (entry : Entry) : Option Placement :=
  match Path.read entry.path with
  | .ok segments => some ⟨segments, entry.value⟩
  | .error _ => none

/-- What entries ask for, in their order. -/
def placements (entries : List Entry) : List Placement :=
  entries.filterMap Entry.placement?

/-- The placements that no later one overwrites. -/
def survivors : List Placement → List Placement
  | [] => []
  | placement :: later =>
      if later.any fun other => other.segments.isPrefixOf placement.segments then survivors later
      else placement :: survivors later

theorem Entry.placement?_eq_some_iff {entry : Entry} {placement : Placement} :
    entry.placement? = some placement ↔
      Path.read entry.path = .ok placement.segments ∧ entry.value = placement.value := by
  unfold placement?
  cases placement
  cases Path.read entry.path <;> simp

theorem placements_cons_of_some {entry : Entry} {placement : Placement}
    (h : entry.placement? = some placement) (entries : List Entry) :
    placements (entry :: entries) = placement :: placements entries :=
  List.filterMap_cons_some h

/-! ### Survivors -/

section Survivors

variable {made : List Placement} {placement other : Placement}

theorem mem_survivors_cons_iff :
    other ∈ survivors (placement :: made) ↔
      (other = placement ∧ ∀ later ∈ made, ¬ later.segments <+: placement.segments) ∨
        other ∈ survivors made := by
  rw [survivors]
  split
  · rename_i overwritten
    obtain ⟨later, mem, above⟩ := List.any_eq_true.mp overwritten
    have gone : ¬ ∀ later ∈ made, ¬ later.segments <+: placement.segments := by
      intro kept
      exact kept later mem (List.isPrefixOf_iff_prefix.mp above)
    simp [gone]
  · rename_i kept
    have stays : ∀ later ∈ made, ¬ later.segments <+: placement.segments := by
      intro later mem above
      exact kept (List.any_eq_true.mpr ⟨later, mem, List.isPrefixOf_iff_prefix.mpr above⟩)
    rw [List.mem_cons, and_iff_left stays]

/-- One more placement survives itself, and removes those at its place and below. -/
theorem mem_survivors_concat_iff :
    other ∈ survivors (made ++ [placement]) ↔
      other = placement ∨
        (other ∈ survivors made ∧ ¬ placement.segments <+: other.segments) := by
  induction made with
  | nil => simp [survivors]
  | cons first made ih =>
    rw [List.cons_append, mem_survivors_cons_iff, ih, mem_survivors_cons_iff]
    constructor
    · rintro (⟨rfl, kept⟩ | rfl | ⟨mem, kept⟩)
      · right
        refine ⟨Or.inl ⟨rfl, ?_⟩, kept placement (by simp)⟩
        intro later mem
        exact kept later (List.mem_append_left [placement] mem)
      · exact Or.inl rfl
      · exact Or.inr ⟨Or.inr mem, kept⟩
    · rintro (rfl | ⟨⟨rfl, kept⟩ | mem, stays⟩)
      · exact Or.inr (Or.inl rfl)
      · left
        refine ⟨rfl, ?_⟩
        intro later mem
        rcases List.mem_append.mp mem with mem | mem
        · exact kept later mem
        · rw [List.mem_singleton.mp mem]
          exact stays
      · exact Or.inr (Or.inr ⟨mem, stays⟩)

/-- A placement survives where no later one is at its place or above. -/
theorem mem_survivors_iff :
    placement ∈ survivors made ↔ ∃ front back, made = front ++ placement :: back ∧
      ∀ later ∈ back, ¬ later.segments <+: placement.segments := by
  induction made with
  | nil => simp [survivors]
  | cons first made ih =>
    rw [mem_survivors_cons_iff, ih]
    constructor
    · rintro (⟨rfl, kept⟩ | ⟨front, back, rfl, kept⟩)
      · exact ⟨[], made, rfl, kept⟩
      · exact ⟨first :: front, back, rfl, kept⟩
    · rintro ⟨front, back, split, kept⟩
      cases front with
      | nil =>
        obtain ⟨rfl, rfl⟩ := List.cons.inj split
        exact Or.inl ⟨rfl, kept⟩
      | cons _ front =>
        obtain ⟨rfl, rfl⟩ := List.cons.inj split
        exact Or.inr ⟨front, back, rfl, kept⟩

/-- A placement survives, or one does that is at its place or above. -/
theorem exists_survivor_of_mem (h : placement ∈ made) :
    ∃ survivor ∈ survivors made, survivor.segments <+: placement.segments := by
  induction made generalizing placement with
  | nil => simp at h
  | cons first made ih =>
    simp only [mem_survivors_cons_iff]
    rcases List.mem_cons.mp h with rfl | mem
    · by_cases overwritten : ∃ later ∈ made, later.segments <+: placement.segments
      · obtain ⟨later, mem, above⟩ := overwritten
        obtain ⟨survivor, stays, higher⟩ := ih mem
        exact ⟨survivor, Or.inr stays, higher.trans above⟩
      · refine ⟨placement, Or.inl ⟨rfl, ?_⟩, List.prefix_rfl⟩
        intro later mem above
        exact overwritten ⟨later, mem, above⟩
    · obtain ⟨survivor, stays, above⟩ := ih mem
      exact ⟨survivor, Or.inr stays, above⟩

/-- Of any placements the last one survives. -/
theorem exists_mem_survivors (h : made ≠ []) : ∃ placement, placement ∈ survivors made := by
  refine ⟨made.getLast h, mem_survivors_iff.mpr ⟨made.dropLast, [], ?_, by simp⟩⟩
  exact (List.dropLast_concat_getLast h).symm

end Survivors

end RiskScreen
