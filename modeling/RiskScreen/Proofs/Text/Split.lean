import RiskScreen.Text.Split

/-!
# Pieces between marks

Splitting at a mark is undone by joining the pieces with it, and the pieces are the only list
of texts without the mark that joins to the text. The same holds for an arrow of two characters:
no two arrows overlap, so it does not matter that they are found from the left.
-/

namespace RiskScreen.Text

theorem consFirst_eq_modifyHead {pieces : List (List Char)} (h : pieces ≠ []) (c : Char) :
    consFirst c pieces = pieces.modifyHead (List.cons c) := by
  cases pieces with
  | nil => exact absurd rfl h
  | cons piece pieces => rfl

theorem splitOn_eq_list_splitOn (mark : Char) (text : List Char) :
    splitOn mark text = text.splitOn mark := by
  induction text with
  | nil => rfl
  | cons c rest ih =>
    rw [splitOn, List.splitOn_cons_eq_if_modifyHead, ih,
      consFirst_eq_modifyHead (List.splitOn_ne_nil mark rest)]
    by_cases same : c = mark <;> simp [same]

theorem not_mem_of_mem_splitOn {mark : Char} {text piece : List Char}
    (h : piece ∈ splitOn mark text) : mark ∉ piece := by
  induction text generalizing piece with
  | nil =>
    obtain rfl := List.mem_singleton.mp h
    exact List.not_mem_nil
  | cons c rest ih =>
    rw [splitOn] at h
    split at h
    · rcases List.mem_cons.mp h with rfl | mem
      · exact List.not_mem_nil
      · exact ih mem
    · rename_i other
      cases pieces : splitOn mark rest with
      | nil => exact absurd pieces (splitOn_ne_nil mark rest)
      | cons first later =>
        rw [pieces] at h ih
        rcases List.mem_cons.mp h with rfl | mem
        · have free := ih List.mem_cons_self
          simpa [Ne.symm other] using free
        · exact ih (List.mem_cons_of_mem first mem)

/-- The pieces of a text are the texts without the mark that join to it. -/
theorem splitOn_eq_iff {mark : Char} {text : List Char} {pieces : List (List Char)} :
    splitOn mark text = pieces ↔
      pieces ≠ [] ∧ (∀ piece ∈ pieces, mark ∉ piece) ∧ [mark].intercalate pieces = text := by
  constructor
  · rintro rfl
    refine ⟨splitOn_ne_nil mark text, fun piece => not_mem_of_mem_splitOn, ?_⟩
    rw [splitOn_eq_list_splitOn]
    exact List.intercalate_splitOn mark
  · rintro ⟨nonempty, free, rfl⟩
    rw [splitOn_eq_list_splitOn]
    exact List.splitOn_intercalate mark free nonempty

theorem consFirst_append (c : Char) {pieces : List (List Char)} (h : pieces ≠ [])
    (others : List (List Char)) :
    consFirst c (pieces ++ others) = consFirst c pieces ++ others := by
  cases pieces with
  | nil => exact absurd rfl h
  | cons piece pieces => rfl

/-- A mark ends the pieces before it, whatever they are. -/
theorem splitOn_append_mark (mark : Char) (front back : List Char) :
    splitOn mark (front ++ mark :: back) = splitOn mark front ++ splitOn mark back := by
  induction front with
  | nil => exact if_pos rfl
  | cons c front ih =>
    rw [List.cons_append, splitOn, splitOn, ih]
    split
    · rfl
    · exact consFirst_append c (splitOn_ne_nil mark front) (splitOn mark back)

theorem splitOn_of_not_mem {mark : Char} {piece : List Char} (h : mark ∉ piece) :
    splitOn mark piece = [piece] := by
  rw [splitOn_eq_iff]
  exact ⟨List.cons_ne_nil piece [], List.forall_mem_singleton.mpr h, List.intercalate_singleton⟩

/-- The piece stands in the text without a mark in it, and on each side of it is a mark or the end
of the text. -/
def IsPiece (mark : Char) (piece text : List Char) : Prop :=
  mark ∉ piece ∧ ∃ before after, text = before ++ piece ++ after ∧
    (before = [] ∨ ∃ front, before = front ++ [mark]) ∧ (after = [] ∨ ∃ back, after = mark :: back)

theorem isPiece_of_mem {mark : Char} {pieces : List (List Char)} {piece : List Char}
    (free : mark ∉ piece) (mem : piece ∈ pieces) :
    IsPiece mark piece ([mark].intercalate pieces) := by
  refine ⟨free, ?_⟩
  induction pieces with
  | nil => simp at mem
  | cons first pieces ih =>
    cases pieces with
    | nil =>
      obtain rfl := List.mem_singleton.mp mem
      exact ⟨[], [], by simp, Or.inl rfl, Or.inl rfl⟩
    | cons next pieces =>
      rw [List.intercalate_cons_cons]
      rcases List.mem_cons.mp mem with rfl | mem
      · refine ⟨[], mark :: [mark].intercalate (next :: pieces), ?_, Or.inl rfl, Or.inr ⟨_, rfl⟩⟩
        rw [List.nil_append, List.append_assoc, List.singleton_append]
      · obtain ⟨before, after, whole, left, right⟩ := ih mem
        refine ⟨first ++ [mark] ++ before, after, ?_, Or.inr ?_, right⟩
        · simp only [whole, List.append_assoc]
        · rcases left with rfl | ⟨front, rfl⟩
          · exact ⟨first, List.append_nil _⟩
          · exact ⟨first ++ [mark] ++ front, (List.append_assoc _ _ _).symm⟩

/-- Splitting finds the pieces that stand in the text. -/
theorem mem_splitOn_iff {mark : Char} {piece text : List Char} :
    piece ∈ splitOn mark text ↔ IsPiece mark piece text := by
  constructor
  · intro mem
    obtain ⟨-, free, whole⟩ := splitOn_eq_iff.mp (rfl : splitOn mark text = splitOn mark text)
    rw [← whole]
    exact isPiece_of_mem (free piece mem) mem
  · rintro ⟨free, before, after, rfl, left, right⟩
    have first : piece ∈ splitOn mark (piece ++ after) := by
      rcases right with rfl | ⟨back, rfl⟩
      · rw [List.append_nil, splitOn_of_not_mem free]
        exact List.mem_singleton_self piece
      · rw [splitOn_append_mark, splitOn_of_not_mem free]
        exact List.mem_cons_self
    rw [List.append_assoc]
    rcases left with rfl | ⟨front, rfl⟩
    · exact first
    · rw [List.append_assoc, List.singleton_append, splitOn_append_mark]
      exact List.mem_append_right (splitOn mark front) first

/-! ### Pieces between arrows -/

/-- The mark between the segments of a path. -/
def arrow : List Char := ['-', '>']

theorem splitArrow_cons {c : Char} {rest : List Char} (h : ¬ arrow <+: c :: rest) :
    splitArrow (c :: rest) = consFirst c (splitArrow rest) := by
  rw [splitArrow]
  rintro later rfl rfl
  exact h ⟨later, rfl⟩

theorem intercalate_consFirst (c : Char) {pieces : List (List Char)} (h : pieces ≠ []) :
    arrow.intercalate (consFirst c pieces) = c :: arrow.intercalate pieces := by
  cases pieces with
  | nil => exact absurd rfl h
  | cons piece pieces =>
    cases pieces with
    | nil => simp only [consFirst, List.intercalate_singleton]
    | cons next pieces => simp only [consFirst, List.intercalate_cons_cons, List.cons_append]

theorem intercalate_splitArrow (text : List Char) : arrow.intercalate (splitArrow text) = text := by
  fun_induction splitArrow text with
  | case1 => rfl
  | case2 rest ih =>
    rw [List.intercalate_cons_of_ne_nil (splitArrow_ne_nil rest), ih]
    rfl
  | case3 c rest _ ih => rw [intercalate_consFirst c (splitArrow_ne_nil rest), ih]

/-- The first piece stands at the beginning of the text. -/
theorem prefix_of_splitArrow_eq_cons {text piece : List Char} {pieces : List (List Char)}
    (h : splitArrow text = piece :: pieces) : piece <+: text := by
  rw [← intercalate_splitArrow text, h]
  cases pieces with
  | nil =>
    refine ⟨[], ?_⟩
    rw [List.append_nil, List.intercalate_singleton]
  | cons next pieces =>
    rw [List.intercalate_cons_cons, List.append_assoc]
    exact List.prefix_append _ _

theorem not_arrow_infix_of_mem_splitArrow {text piece : List Char} (h : piece ∈ splitArrow text) :
    ¬ arrow <:+: piece := by
  fun_induction splitArrow text generalizing piece with
  | case1 =>
    obtain rfl := List.mem_singleton.mp h
    simp [arrow]
  | case2 rest ih =>
    rcases List.mem_cons.mp h with rfl | mem
    · simp [arrow]
    · exact ih mem
  | case3 c rest noArrow ih =>
    obtain ⟨first, later, pieces⟩ := List.exists_cons_of_ne_nil (splitArrow_ne_nil rest)
    rw [pieces] at h ih
    rcases List.mem_cons.mp h with rfl | mem
    · rw [List.infix_cons_iff]
      rintro (⟨tail, starts⟩ | inside)
      · obtain ⟨rfl, below⟩ := List.cons.inj starts
        obtain ⟨others, split⟩ := prefix_of_splitArrow_eq_cons pieces
        exact noArrow (tail ++ others) rfl (by rw [← split, ← below]; rfl)
      · exact ih List.mem_cons_self inside
    · exact ih (List.mem_cons_of_mem first mem)

/-- A piece ends where the next arrow begins: a dash at its end is its own. -/
theorem splitArrow_append_arrow {piece : List Char} (h : ¬ arrow <:+: piece) (rest : List Char) :
    splitArrow (piece ++ arrow ++ rest) = piece :: splitArrow rest := by
  induction piece with
  | nil => rfl
  | cons c piece ih =>
    rw [List.infix_cons_iff, not_or] at h
    have noArrow : ¬ arrow <+: c :: (piece ++ arrow ++ rest) := by
      rintro ⟨tail, starts⟩
      obtain ⟨rfl, below⟩ := List.cons.inj starts
      cases piece with
      | nil => simp [arrow] at below
      | cons d piece =>
        obtain ⟨rfl, _⟩ := List.cons.inj below
        exact h.1 ⟨piece, rfl⟩
    rw [List.cons_append, List.cons_append, splitArrow_cons noArrow, ih h.2]
    rfl

theorem splitArrow_of_not_infix {piece : List Char} (h : ¬ arrow <:+: piece) :
    splitArrow piece = [piece] := by
  induction piece with
  | nil => rfl
  | cons c piece ih =>
    rw [List.infix_cons_iff, not_or] at h
    rw [splitArrow_cons h.1, ih h.2]
    rfl

/-- The pieces of a text are the texts without an arrow that join to it. -/
theorem splitArrow_eq_iff {text : List Char} {pieces : List (List Char)} :
    splitArrow text = pieces ↔
      pieces ≠ [] ∧ (∀ piece ∈ pieces, ¬ arrow <:+: piece) ∧ arrow.intercalate pieces = text := by
  constructor
  · rintro rfl
    exact ⟨splitArrow_ne_nil text, fun piece => not_arrow_infix_of_mem_splitArrow,
      intercalate_splitArrow text⟩
  · rintro ⟨nonempty, free, rfl⟩
    induction pieces with
    | nil => exact absurd rfl nonempty
    | cons piece pieces ih =>
      obtain ⟨here, below⟩ := List.forall_mem_cons.mp free
      cases pieces with
      | nil => rw [List.intercalate_singleton, splitArrow_of_not_infix here]
      | cons next pieces =>
        rw [List.intercalate_cons_cons, splitArrow_append_arrow here, ih (by simp) below]

end RiskScreen.Text
