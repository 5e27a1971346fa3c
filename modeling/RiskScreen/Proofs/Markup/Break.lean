import RiskScreen.Proofs.Markup.Item

/-!
# Markup that breaks off

Where a text breaks off in a piece of markup nothing can be read, so that the last piece is a
fault. Where it breaks off in a run of text the run is shorter. All pieces before are the same,
as each of them ends where it did.
-/

namespace RiskScreen.Markup

open Piece

/-- What is left of these pieces when their text breaks off: at a place between two of them, in a
run of text, or in markup. -/
inductive BreaksOff : List Piece → List Piece → Prop
  | here (p : Piece) (ps : List Piece) : BreaksOff (p :: ps) []
  | inText {chars more : List Char} (nonempty : chars ≠ []) (missing : more ≠ [])
      (ps : List Piece) : BreaksOff (.text (chars ++ more) :: ps) [.text chars]
  | inMarkup {p : Piece} (markup : p.isText = false) (cause : MarkupError) (ps : List Piece) :
      BreaksOff (p :: ps) [.fault cause]
  | later (p : Piece) {ps qs : List Piece} (breaks : BreaksOff ps qs) :
      BreaksOff (p :: ps) (p :: qs)

/-- Nothing is left, or a fault alone. -/
def Barren (ps : List Piece) : Prop :=
  ps = [] ∨ ∃ cause, ps = [.fault cause]

variable {piece : Piece} {ps qs others : List Piece} {cut rest : List Char}

/-! ### Where a text breaks off -/

/-- The front of a text comes before the place where it breaks off, or it breaks off itself. -/
theorem append_eq_append_cases {front back : List Char} (h : front ++ back = cut ++ rest) :
    (∃ below, cut = front ++ below ∧ back = below ++ rest) ∨
      ∃ missing, missing ≠ [] ∧ front = cut ++ missing := by
  rcases List.append_eq_append_iff.mp h with before | ⟨missing, split, after⟩
  · exact Or.inl before
  · cases missing with
    | nil => exact Or.inl ⟨[], by simp [split], after.symm⟩
    | cons c missing => exact Or.inr ⟨c :: missing, List.cons_ne_nil c missing, split⟩

/-- Markup that is not complete is a fault. -/
theorem pieces_of_incomplete (formed : piece.WellFormed) (markup : piece.isText = false)
    (split : piece.source = cut ++ rest) (some : cut ≠ []) (short : rest ≠ []) :
    ∃ cause, pieces cut = [.fault cause] := by
  obtain ⟨below, less⟩ : ∃ below, cut = '<' :: below := by
    obtain ⟨c, below, rfl⟩ := List.exists_cons_of_ne_nil some
    have first := head?_source formed markup
    rw [split] at first
    obtain rfl : c = '<' := Option.some.inj first
    exact ⟨below, rfl⟩
  obtain ⟨q, qs, read⟩ : ∃ q qs, pieces cut = q :: qs :=
    List.exists_cons_of_ne_nil (by rw [less, pieces, if_pos rfl]; simp)
  rcases pieces_eq_cons read with ⟨cause, rfl, rfl⟩ | ⟨after, whole, qFormed, -, -⟩
  · exact ⟨cause, read⟩
  · -- A whole piece at this place would be the piece itself, and that is longer.
    have qMarkup : q.isText = false := by
      cases q with
      | text chars =>
        obtain ⟨nonempty, plain⟩ := qFormed
        obtain ⟨d, chars, rfl⟩ := List.exists_cons_of_ne_nil nonempty
        obtain rfl : '<' = d := (List.cons.inj (less.symm.trans whole)).1
        exact absurd List.mem_cons_self plain
      | _ => rfl
    have one := pieces_markup formed markup []
    have two := pieces_markup qFormed qMarkup (after ++ rest)
    rw [List.append_nil, split, whole, List.append_assoc, two] at one
    obtain rfl : q = piece := (List.cons.inj one).1
    rw [whole, List.append_assoc] at split
    exact absurd (List.append_eq_nil_iff.mp (List.self_eq_append_right.mp split)).2 short

/-- A piece that is broken off leaves nothing, a shorter run of text or a fault. -/
theorem breaksOff_piece (formed : piece.WellFormed) (split : piece.source = cut ++ rest)
    (short : rest ≠ []) (ps : List Piece) : BreaksOff (piece :: ps) (pieces cut) := by
  by_cases nothing : cut = []
  · rw [nothing, pieces]
    exact .here piece ps
  · by_cases markup : piece.isText = false
    · obtain ⟨cause, fault⟩ := pieces_of_incomplete formed markup split nothing short
      rw [fault]
      exact .inMarkup markup cause ps
    · cases piece with
      | text chars =>
        obtain ⟨-, plain⟩ := formed
        obtain rfl : chars = cut ++ rest := split
        have left := pieces_text nothing (mt (List.mem_append_left rest) plain) stops_nil
        rw [List.append_nil] at left
        rw [left, pieces]
        exact .inText nothing short ps
      | _ => simp [isText] at markup

/-- A text that breaks off is cut into what is left of its pieces. -/
theorem breaksOff_pieces (formed : ∀ p ∈ ps, p.WellFormed) (apart : ps.IsChain Apart)
    (split : sources ps = cut ++ rest) (short : rest ≠ []) : BreaksOff ps (pieces cut) := by
  induction ps generalizing cut with
  | nil => exact absurd (List.append_eq_nil_iff.mp split.symm).2 short
  | cons p ps ih =>
    obtain ⟨formed, others⟩ := List.forall_mem_cons.mp formed
    rw [sources_cons] at split
    rcases append_eq_append_cases split with ⟨below, rfl, left⟩ | ⟨missing, nonempty, broken⟩
    · have next : p.isText = true → Stops below := by
        intro text
        have stops := stops_sources_append others apart text fun _ => stops_nil
        rw [List.append_nil, left] at stops
        exact stops.left
      rw [pieces_source_append formed next]
      exact .later p (ih others apart.tail left)
    · exact breaksOff_piece formed broken nonempty ps

/-! ### What is left -/

namespace BreaksOff

/-- Pieces break off in their front, or after it. -/
theorem append_cases (breaks : BreaksOff (ps ++ others) qs) :
    BreaksOff ps qs ∨ ∃ below, qs = ps ++ below ∧ BreaksOff others below := by
  induction ps generalizing qs with
  | nil => exact Or.inr ⟨qs, rfl, breaks⟩
  | cons p ps ih =>
    cases breaks with
    | here => exact Or.inl (.here p ps)
    | inText nonempty missing => exact Or.inl (.inText nonempty missing ps)
    | inMarkup markup cause => exact Or.inl (.inMarkup markup cause ps)
    | later _ breaks =>
      rcases ih breaks with inside | ⟨below, rfl, after⟩
      · exact Or.inl (.later p inside)
      · exact Or.inr ⟨below, rfl, after⟩

theorem append_left (front : List Piece) (breaks : BreaksOff ps qs) :
    BreaksOff (front ++ ps) (front ++ qs) := by
  induction front with
  | nil => exact breaks
  | cons p front ih => exact .later p ih

/-- Markup breaks off as a whole, or what follows it breaks off. -/
theorem markup_cases (breaks : BreaksOff (piece :: ps) qs) (markup : piece.isText = false) :
    Barren qs ∨ ∃ below, qs = piece :: below ∧ BreaksOff ps below := by
  cases breaks with
  | here => exact Or.inl (Or.inl rfl)
  | inText => simp [isText] at markup
  | inMarkup _ cause => exact Or.inl (Or.inr ⟨cause, rfl⟩)
  | later _ breaks => exact Or.inr ⟨_, rfl, breaks⟩

theorem barren (breaks : BreaksOff [piece] qs) (markup : piece.isText = false) : Barren qs := by
  rcases breaks.markup_cases markup with barren | ⟨below, -, impossible⟩
  · exact barren
  · cases impossible

/-- Of a run of text nothing is left, or the front of it. -/
theorem text_cases {chars : List Char} (breaks : BreaksOff [.text chars] qs) :
    qs = [] ∨ ∃ front more, front ≠ [] ∧ more ≠ [] ∧ chars = front ++ more ∧
      qs = [.text front] := by
  generalize split : [Piece.text chars] = ps at breaks
  cases breaks with
  | here => exact Or.inl rfl
  | inText nonempty missing =>
    obtain ⟨same, -⟩ := List.cons.inj split
    exact Or.inr ⟨_, _, nonempty, missing, Piece.text.inj same, rfl⟩
  | inMarkup markup =>
    obtain ⟨rfl, -⟩ := List.cons.inj split
    simp [isText] at markup
  | later _ breaks =>
    obtain ⟨-, rfl⟩ := List.cons.inj split
    cases breaks

/-- What is left has the form of its kind, if it is no fault. -/
theorem wellFormed (breaks : BreaksOff ps qs) (formed : ∀ p ∈ ps, p.WellFormed)
    (sound : ∀ cause, Piece.fault cause ∉ qs) : ∀ q ∈ qs, q.WellFormed := by
  induction breaks with
  | here => simp
  | inText nonempty _ ps =>
    obtain ⟨-, plain⟩ := formed _ List.mem_cons_self
    rw [List.forall_mem_singleton]
    exact ⟨nonempty, mt (List.mem_append_left _) plain⟩
  | inMarkup _ cause => exact absurd (List.mem_singleton_self _) (sound cause)
  | later p _ ih =>
    obtain ⟨first, others⟩ := List.forall_mem_cons.mp formed
    refine List.forall_mem_cons.mpr ⟨first, ih others ?_⟩
    intro cause mem
    exact sound cause (List.mem_cons_of_mem p mem)

/-- What is left begins with a run of text only where the pieces did. -/
theorem isText_head (breaks : BreaksOff ps qs) {q : Piece} (first : q ∈ qs.head?)
    (text : q.isText = true) : ∃ p ∈ ps.head?, p.isText = true := by
  cases breaks with
  | here => simp at first
  | inText => exact ⟨_, rfl, rfl⟩
  | inMarkup =>
    obtain rfl := Option.some.inj first
    simp [isText] at text
  | later p =>
    obtain rfl := Option.some.inj first
    exact ⟨p, rfl, text⟩

theorem isChain_apart (breaks : BreaksOff ps qs) (apart : ps.IsChain Apart) :
    qs.IsChain Apart := by
  induction breaks with
  | here => exact List.IsChain.nil
  | inText => exact List.IsChain.singleton _
  | inMarkup => exact List.IsChain.singleton _
  | later p breaks ih =>
    obtain ⟨next, others⟩ := List.isChain_cons.mp apart
    refine List.isChain_cons.mpr ⟨?_, ih others⟩
    rintro q first ⟨front, back⟩
    obtain ⟨p', first', text⟩ := breaks.isText_head first back
    exact next p' first' ⟨front, text⟩

end BreaksOff

/-! ### Items that break off -/

namespace Item

/-- What is left of these items when they break off between two of them, or in a run of text. -/
inductive BreaksOff : List Item → List Item → Prop
  | here (items : List Item) : BreaksOff items []
  | inText {chars more : List Char} (nonempty : chars ≠ []) (missing : more ≠ [])
      (items : List Item) : BreaksOff (.text (chars ++ more) :: items) [.text chars]
  | later (item : Item) {items left : List Item} (breaks : BreaksOff items left) :
      BreaksOff (item :: items) (item :: left)

namespace BreaksOff

variable {items left : List Item}

theorem matchedAll (breaks : BreaksOff items left) (matched : MatchedAll items) :
    MatchedAll left := by
  induction breaks with
  | here => trivial
  | inText => exact ⟨trivial, trivial⟩
  | later _ _ ih => exact ⟨matched.1, ih matched.2⟩

/-- Where items break off before a tag, their pieces do. -/
theorem pieces (breaks : BreaksOff items left) (tag : Piece) :
    Markup.BreaksOff (piecesAll items ++ [tag]) (piecesAll left) := by
  induction breaks with
  | here items =>
    obtain ⟨p, ps, split⟩ : ∃ p ps, piecesAll items ++ [tag] = p :: ps :=
      List.exists_cons_of_ne_nil (by simp)
    rw [split, piecesAll_nil]
    exact .here p ps
  | inText nonempty missing items => exact .inText nonempty missing _
  | later item _ ih =>
    rw [piecesAll_cons, piecesAll_cons, List.append_assoc]
    exact ih.append_left item.pieces

end BreaksOff

end Item

end RiskScreen.Markup
