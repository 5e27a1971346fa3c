import Mathlib.Data.List.Forall2
import RiskScreen.Proofs.Path.Piece
import RiskScreen.Proofs.Text.Split

/-!
# The grammar of paths

A path is read exactly if it is made of spellings of proper segments with arrows between them, the
first of a field. Names may hold dashes, but no spelling holds the head of an arrow, so the arrows
of a path are those between its segments and the path stands for one list of segments only.
-/

namespace RiskScreen.Path

/-- The first segment is a field, and all are proper. -/
structure WellFormed (segments : List Segment) : Prop where
  begins : ∃ name rest, segments = .field name :: rest
  proper : ∀ segment ∈ segments, segment.Proper

/-- The text is made of spellings of the segments, with arrows between them. -/
def Spells (segments : List Segment) (text : String) : Prop :=
  ∃ pieces, List.Forall₂ Segment.SpelledBy segments pieces ∧
    Text.arrow.intercalate pieces = text.toList

/-- The spelling of a segment without leading zeros. -/
def Segment.chars : Segment → List Char
  | .field name => name.toList
  | .indexed name index => name.toList ++ '[' :: (Text.decimalDigits index ++ [']'])

/-- The path with these segments, spelled without leading zeros. -/
def ofSegments (segments : List Segment) : String :=
  String.ofList (Text.arrow.intercalate (segments.map Segment.chars))

variable {path : String} {position : Nat} {piece : List Char} {pieces : List (List Char)}
  {segment : Segment} {segments : List Segment}

/-! ### Pieces of a path -/

/-- The head of an arrow is in no spelling, so a dash before one is no part of it. -/
theorem Segment.Proper.not_arrow_infix (proper : segment.Proper)
    (spelled : segment.SpelledBy piece) : ¬ Text.arrow <:+: piece := by
  have head : '>' ∉ segment.name.toList := not_mem_of_isElementName (by decide) proper.named
  have outside : '>' ∉ piece := by
    cases spelled with
    | field name => exact head
    | indexed name run =>
      have digits : ∀ c ∈ _, c ≠ '>' := fun c mem same => by
        have digit := run.2 c mem
        simp [same] at digit
      simp only [List.mem_append, List.mem_cons, List.not_mem_nil, or_false, not_or]
      exact ⟨head, by decide, fun mem => digits '>' mem rfl, by decide⟩
  intro inside
  exact outside (inside.subset (by simp [Text.arrow]))

theorem not_arrow_infix_of_spelled (proper : ∀ segment ∈ segments, segment.Proper)
    (spelled : List.Forall₂ Segment.SpelledBy segments pieces) :
    ∀ piece ∈ pieces, ¬ Text.arrow <:+: piece := by
  induction spelled with
  | nil => simp
  | cons first rest ih =>
    obtain ⟨here, below⟩ := List.forall_mem_cons.mp proper
    exact List.forall_mem_cons.mpr ⟨here.not_arrow_infix first, ih below⟩

theorem readPieces_cons_eq_ok_iff :
    readPieces path position (piece :: pieces) = .ok segments ↔
      ∃ segment others, readPiece piece = .ok segment ∧
        readPieces path (position + 1) pieces = .ok others ∧ segments = segment :: others := by
  rw [readPieces]
  cases readPiece piece with
  | error fault => simp
  | ok segment => cases readPieces path (position + 1) pieces <;> simp [eq_comm]

/-- The pieces of a path are read one by one. -/
theorem readPieces_eq_ok_iff :
    readPieces path position pieces = .ok segments ↔
      (∀ segment ∈ segments, segment.Proper) ∧
        List.Forall₂ Segment.SpelledBy segments pieces := by
  rw [← List.forall₂_and_left]
  induction pieces generalizing position segments with
  | nil => rw [readPieces, Except.ok.injEq, List.forall₂_nil_right_iff, eq_comm]
  | cons piece pieces ih =>
    rw [readPieces_cons_eq_ok_iff, List.forall₂_cons_right_iff]
    simp only [ih, readPiece_eq_ok_iff, and_assoc]

/-- A path with pieces is read as these are, unless the first one is an item. -/
theorem read_of_ne_nil (nonempty : path.toList ≠ []) :
    read path =
      match readPieces path 0 (Text.splitArrow path.toList) with
      | .ok (.indexed _ _ :: _) =>
          .error (.danglingIndex path (String.ofList ((Text.splitArrow path.toList).headD [])))
      | result => result := by
  rw [read]
  exact if_neg (by simpa using nonempty)

/-- As many segments are read as there are pieces, and so at least one. -/
theorem ne_nil_of_readPieces {text : List Char}
    (h : readPieces path position (Text.splitArrow text) = .ok segments) : segments ≠ [] := by
  rintro rfl
  have none := List.forall₂_nil_left_iff.mp (readPieces_eq_ok_iff.mp h).2
  exact Text.splitArrow_ne_nil text none

theorem read_eq_ok_iff_readPieces :
    read path = .ok segments ↔ readPieces path 0 (Text.splitArrow path.toList) = .ok segments ∧
      ∃ name rest, segments = .field name :: rest := by
  by_cases nonempty : path.toList = []
  · simp [read, nonempty, Text.splitArrow, readPieces, readPiece]
  · rw [read_of_ne_nil nonempty]
    cases made : readPieces path 0 (Text.splitArrow path.toList) with
    | error e => simp
    | ok others =>
      obtain ⟨first, rest, rfl⟩ := List.exists_cons_of_ne_nil (ne_nil_of_readPieces made)
      cases first with
      | field name =>
        rw [iff_self_and, Except.ok.injEq]
        rintro rfl
        exact ⟨name, rest, rfl⟩
      | indexed name index =>
        refine iff_of_false (by simp) ?_
        rintro ⟨same, key, others, rfl⟩
        simp at same

/-- A path is read as the well-formed segments that it spells. -/
theorem read_eq_ok_iff :
    read path = .ok segments ↔ WellFormed segments ∧ Spells segments path := by
  rw [read_eq_ok_iff_readPieces, readPieces_eq_ok_iff]
  constructor
  · rintro ⟨⟨proper, spelled⟩, begins⟩
    exact ⟨⟨begins, proper⟩, Text.splitArrow path.toList, spelled, Text.intercalate_splitArrow _⟩
  · rintro ⟨⟨begins, proper⟩, pieces, spelled, joined⟩
    have pieces_ne_nil : pieces ≠ [] := by
      obtain ⟨name, rest, rfl⟩ := begins
      rintro rfl
      cases spelled
    have cut : Text.splitArrow path.toList = pieces :=
      Text.splitArrow_eq_iff.mpr ⟨pieces_ne_nil, not_arrow_infix_of_spelled proper spelled, joined⟩
    rw [cut]
    exact ⟨⟨proper, spelled⟩, begins⟩

/-- A path that can be read starts with a field. -/
theorem exists_field_of_read (h : read path = .ok segments) :
    ∃ name rest, segments = .field name :: rest :=
  (read_eq_ok_iff.mp h).1.begins

/-- The names in a path that can be read are element names. -/
theorem isElementName_of_read (h : read path = .ok segments) :
    ∀ segment ∈ segments, isElementName segment.name = true :=
  fun segment mem => ((read_eq_ok_iff.mp h).1.proper segment mem).named

/-! ### One path, one list of segments -/

theorem Segment.spelledBy_chars (segment : Segment) : segment.SpelledBy segment.chars := by
  cases segment with
  | field name => exact .field name
  | indexed name index =>
    have spelled := SpelledBy.indexed name
      (Text.isDigitRun_iff.mp (Text.isDigitRun_decimalDigits index))
    rwa [Text.digitsValue_decimalDigits] at spelled

theorem spells_ofSegments (segments : List Segment) : Spells segments (ofSegments segments) := by
  refine ⟨segments.map Segment.chars, ?_, String.toList_ofList.symm⟩
  rw [List.forall₂_map_right_iff, List.forall₂_same]
  exact fun segment _ => segment.spelledBy_chars

/-- A path is read as the segments that it spells, if the first of them is a field and all have
element names and indices of at most 1000. It is read as them in their plainest spelling, and no
path spells two such lists. -/
theorem read_eq_ok_iff_spells :
    (∀ path segments, read path = .ok segments ↔ WellFormed segments ∧ Spells segments path) ∧
    (∀ segments, WellFormed segments → read (ofSegments segments) = .ok segments) ∧
    ∀ path first second, WellFormed first → WellFormed second →
      Spells first path → Spells second path → first = second := by
  refine ⟨fun path segments => read_eq_ok_iff, ?_, ?_⟩
  · intro segments wellFormed
    exact read_eq_ok_iff.mpr ⟨wellFormed, spells_ofSegments segments⟩
  · intro path first second wellFormed otherWellFormed spelled otherSpelled
    have read := read_eq_ok_iff.mpr ⟨wellFormed, spelled⟩
    have otherRead := read_eq_ok_iff.mpr ⟨otherWellFormed, otherSpelled⟩
    exact Except.ok.inj (read.symm.trans otherRead)

/-- A group and an item with names that end in a dash. -/
def dashed : List Segment := [.field "a-", .indexed "_-" 7]

theorem read_eq_ok_iff_spells_dashed :
    WellFormed dashed ∧ ofSegments dashed = "a-->_-[7]" ∧ read "a-->_-[7]" = .ok dashed ∧
      Spells dashed "a-->_-[007]" ∧ read "a-->_-[007]" = .ok dashed ∧
      ∀ other, read "a-->_-[007]" = .ok other → other = dashed := by
  have wellFormed : WellFormed dashed := by
    refine ⟨⟨"a-", _, rfl⟩, List.forall_mem_cons.mpr ⟨⟨by decide +kernel, by simp⟩,
      List.forall_mem_singleton.mpr ⟨by decide +kernel, ?_⟩⟩⟩
    intro name index same
    obtain ⟨_, rfl⟩ := Segment.indexed.inj same
    decide
  have written : ofSegments dashed = "a-->_-[7]" := by decide +kernel
  have digits : ['0', '0', '7'] ≠ [] ∧ ∀ c ∈ ['0', '0', '7'], c.isDigit = true :=
    Text.isDigitRun_iff.mp (by decide)
  have spelled : Spells dashed "a-->_-[007]" :=
    ⟨_, .cons (.field "a-") (.cons (.indexed "_-" digits) .nil), by decide +kernel⟩
  obtain ⟨reads, plain, unique⟩ := read_eq_ok_iff_spells
  refine ⟨wellFormed, written, written ▸ plain dashed wellFormed, spelled,
    (reads _ _).mpr ⟨wellFormed, spelled⟩, ?_⟩
  intro other read
  obtain ⟨otherWellFormed, otherSpelled⟩ := (reads _ _).mp read
  exact unique _ other dashed otherWellFormed wellFormed otherSpelled spelled

end RiskScreen.Path
