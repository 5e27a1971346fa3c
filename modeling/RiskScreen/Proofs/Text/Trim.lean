import Mathlib.Data.List.TakeWhile
import RiskScreen.Text.Blank

/-!
# Trimmed texts

Trimming takes off both ends what satisfies a class, and nothing else. More of the class at the
ends changes nothing in the result.
-/

namespace RiskScreen.Text

variable {skip : Char → Bool} {front text back : List Char}

/-- A text is what is left of it before what was taken off its end. -/
theorem dropEndWhile_append_takeWhile (skip : Char → Bool) (text : List Char) :
    dropEndWhile skip text ++ (text.reverse.takeWhile skip).reverse = text := by
  rw [dropEndWhile, ← List.reverse_append, List.takeWhile_append_dropWhile, List.reverse_reverse]

/-- A text is what was taken off its ends around what trimming leaves. -/
theorem exists_eq_trimBoth (skip : Char → Bool) (text : List Char) :
    ∃ front back, text = front ++ trimBoth skip text ++ back ∧
      (∀ c ∈ front, skip c = true) ∧ ∀ c ∈ back, skip c = true := by
  let rest := text.dropWhile skip
  refine ⟨text.takeWhile skip, (rest.reverse.takeWhile skip).reverse, ?_, ?_, ?_⟩
  · rw [List.append_assoc, trimBoth, dropEndWhile_append_takeWhile skip rest,
      List.takeWhile_append_dropWhile]
  · intro c mem
    exact List.mem_takeWhile_imp mem
  · intro c mem
    exact List.mem_takeWhile_imp (List.mem_reverse.mp mem)

theorem dropEndWhile_append (h : ∀ c ∈ back, skip c = true) (text : List Char) :
    dropEndWhile skip (text ++ back) = dropEndWhile skip text := by
  rw [dropEndWhile, dropEndWhile, List.reverse_append, List.dropWhile_append_of_pos]
  intro c mem
  exact h c (List.mem_reverse.mp mem)

theorem trimBoth_append_left (h : ∀ c ∈ front, skip c = true) (text : List Char) :
    trimBoth skip (front ++ text) = trimBoth skip text := by
  rw [trimBoth, trimBoth, List.dropWhile_append_of_pos h]

theorem trimBoth_append_right (h : ∀ c ∈ back, skip c = true) (text : List Char) :
    trimBoth skip (text ++ back) = trimBoth skip text := by
  rw [trimBoth, trimBoth, List.dropWhile_append]
  split
  · rename_i blank
    rw [List.isEmpty_iff.mp blank, List.dropWhile_eq_nil_iff.mpr h]
  · exact dropEndWhile_append h _

/-- Nothing is left of a text exactly if all of it is taken off. -/
theorem trimBoth_eq_nil_iff : trimBoth skip text = [] ↔ ∀ c ∈ text, skip c = true := by
  constructor
  · intro empty
    obtain ⟨front, back, whole, before, after⟩ := exists_eq_trimBoth skip text
    rw [empty, List.append_nil] at whole
    rw [whole]
    intro c mem
    exact (List.mem_append.mp mem).elim (before c) (after c)
  · intro all
    have same := trimBoth_append_left all []
    rwa [List.append_nil] at same

/-! ### What trimming leaves -/

/-- The characters at the ends of the text are not of the class. -/
structure IsTight (skip : Char → Bool) (text : List Char) : Prop where
  first : ∀ c, text.head? = some c → skip c = false
  last : ∀ c, text.getLast? = some c → skip c = false

theorem isTight_iff : IsTight skip text ↔
    (text.head?.all fun c => !skip c) = true ∧ (text.getLast?.all fun c => !skip c) = true := by
  simp only [Option.all_eq_true, Bool.not_eq_true']
  exact ⟨fun tight => ⟨tight.first, tight.last⟩, fun ends => ⟨ends.1, ends.2⟩⟩

instance : Decidable (IsTight skip text) :=
  decidable_of_iff' _ isTight_iff

/-- The text is `core` with nothing but characters of the class around it, and `core` has none of
them at its ends. -/
def IsCore (skip : Char → Bool) (core text : List Char) : Prop :=
  IsTight skip core ∧ ∃ front back, text = front ++ core ++ back ∧
    (∀ c ∈ front, skip c = true) ∧ ∀ c ∈ back, skip c = true

theorem head?_dropWhile {c : Char} (h : (text.dropWhile skip).head? = some c) : skip c = false := by
  have first := List.head?_dropWhile_not skip text
  rwa [h] at first

theorem dropWhile_of_head? (h : ∀ c, text.head? = some c → skip c = false) :
    text.dropWhile skip = text := by
  cases text with
  | nil => rfl
  | cons c rest => rw [List.dropWhile_cons_of_neg (by simp [h c rfl])]

theorem isTight_trimBoth (skip : Char → Bool) (text : List Char) :
    IsTight skip (trimBoth skip text) where
  first c h := by
    have kept : (dropEndWhile skip (text.dropWhile skip)).head? = some c := h
    have first : (text.dropWhile skip).head? = some c := by
      rw [← dropEndWhile_append_takeWhile skip (text.dropWhile skip), List.head?_append, kept,
        Option.some_or]
    exact head?_dropWhile first
  last c h := by
    rw [trimBoth, dropEndWhile, List.getLast?_reverse] at h
    exact head?_dropWhile h

theorem IsTight.trimBoth_eq (tight : IsTight skip text) : trimBoth skip text = text := by
  have last : text.reverse.dropWhile skip = text.reverse := by
    apply dropWhile_of_head?
    intro c h
    rw [List.head?_reverse] at h
    exact tight.last c h
  rw [trimBoth, dropWhile_of_head? tight.first, dropEndWhile, last, List.reverse_reverse]

/-- Trimming leaves the core of a text. -/
theorem trimBoth_eq_iff {core : List Char} : trimBoth skip text = core ↔ IsCore skip core text := by
  constructor
  · rintro rfl
    exact ⟨isTight_trimBoth skip text, exists_eq_trimBoth skip text⟩
  · rintro ⟨tight, front, back, rfl, before, after⟩
    rw [trimBoth_append_right after, trimBoth_append_left before, tight.trimBoth_eq]

end RiskScreen.Text
