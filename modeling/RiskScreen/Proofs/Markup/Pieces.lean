import Mathlib.Data.List.Chain
import Mathlib.Data.List.TakeWhile
import RiskScreen.Proofs.Markup.Cut

/-!
# Pieces and their characters

Every piece that is no fault has the form of its kind, no two runs of text stand side by side,
and the characters of the pieces make up the body. Pieces of that form, written one after the
other, are cut into the same pieces again.
-/

namespace RiskScreen.Markup

namespace Piece

/-- Whether the piece is a run of text. -/
def isText : Piece → Bool
  | text _ => true
  | _ => false

/-- The piece has the form of its kind. A fault has none. -/
def WellFormed : Piece → Prop
  | text chars => chars ≠ [] ∧ '<' ∉ chars
  | opening content => IsTag content ∧ content.getLast? ≠ some '/'
  | empty content => IsTag (content ++ ['/'])
  | closing content => Quoting.outside.Encloses content
  | aside content => IsAside content
  | fault _ => False

/-- At most one of two pieces is a run of text. -/
def Apart (front back : Piece) : Prop :=
  ¬ (front.isText = true ∧ back.isText = true)

end Piece

open Piece

/-- The characters that pieces were cut from. -/
def sources (ps : List Piece) : List Char :=
  ps.flatMap Piece.source

@[simp] theorem sources_nil : sources [] = [] := rfl

@[simp] theorem sources_cons (p : Piece) (ps : List Piece) :
    sources (p :: ps) = p.source ++ sources ps := rfl

@[simp] theorem sources_append (front back : List Piece) :
    sources (front ++ back) = sources front ++ sources back :=
  List.flatMap_append

variable {text after content : List Char} {piece : Piece} {ps qs : List Piece}

/-! ### One piece -/

theorem wellFormed_tagPiece (h : IsTag content) :
    (tagPiece content).source = '<' :: content ++ ['>'] ∧ (tagPiece content).WellFormed ∧
      (tagPiece content).isText = false := by
  unfold tagPiece
  split
  · rename_i slash
    obtain ⟨front, rfl⟩ := List.getLast?_eq_some_iff.mp slash
    rw [List.dropLast_concat]
    exact ⟨by simp [source], h, rfl⟩
  · rename_i last
    exact ⟨rfl, ⟨h, last⟩, rfl⟩

/-- What is cut off has the form of its kind, and its characters were those before the rest. -/
theorem wellFormed_of_cutMarkup (h : cutMarkup text = (piece, after)) :
    (∃ cause, piece = .fault cause ∧ after = []) ∨
      '<' :: text = piece.source ++ after ∧ piece.WellFormed ∧ piece.isText = false := by
  unfold cutMarkup at h
  split at h
  · obtain ⟨rfl, rfl⟩ := Prod.mk.inj h
    exact Or.inl ⟨_, rfl, rfl⟩
  · rename_i rest
    rcases cutBang_cases ('!' :: rest) with ⟨cause, cut⟩ | ⟨content, last, cut⟩
    · obtain ⟨rfl, rfl⟩ := Prod.mk.inj (cut.symm.trans h)
      exact Or.inl ⟨cause, rfl, rfl⟩
    · obtain ⟨rfl, rfl⟩ := Prod.mk.inj (cut.symm.trans h)
      obtain ⟨split, formed⟩ := isAside_of_cutBang cut
      exact Or.inr ⟨by simp [split, source], formed, rfl⟩
  · rename_i rest
    rcases cutAside_cases closesInstruction .instructionNotClosed instructionRefusal
      ('?' :: rest) with ⟨cause, cut⟩ | ⟨content, last, cut⟩
    · obtain ⟨rfl, rfl⟩ := Prod.mk.inj (cut.symm.trans h)
      exact Or.inl ⟨cause, rfl, rfl⟩
    · obtain ⟨rfl, rfl⟩ := Prod.mk.inj (cut.symm.trans h)
      obtain ⟨split, formed⟩ := isAside_of_instruction cut
      exact Or.inr ⟨by simp [split, source], formed, rfl⟩
  · split at h
    · obtain ⟨rfl, rfl⟩ := Prod.mk.inj h
      exact Or.inl ⟨_, rfl, rfl⟩
    · rename_i found
      obtain ⟨rfl, rfl⟩ := Prod.mk.inj h
      obtain ⟨rfl, encloses⟩ := eq_append_of_upToTagEnd found
      exact Or.inr ⟨by simp [source], encloses, rfl⟩
  · rename_i nonempty bang question slash
    split at h
    · obtain ⟨rfl, rfl⟩ := Prod.mk.inj h
      exact Or.inl ⟨_, rfl, rfl⟩
    · rename_i content after found
      obtain ⟨rfl, rfl⟩ := Prod.mk.inj h
      obtain ⟨rfl, encloses⟩ := eq_append_of_upToTagEnd found
      have tag : IsTag content := by
        refine ⟨encloses, ?_⟩
        intro c first
        obtain ⟨rest, rfl⟩ := List.head?_eq_some_iff.mp first
        refine ⟨?_, ?_, ?_⟩ <;> rintro rfl
        · exact bang _ rfl
        · exact question _ rfl
        · exact slash _ rfl
      obtain ⟨shape, formed, markup⟩ := wellFormed_tagPiece tag
      exact Or.inr ⟨by rw [shape]; simp, formed, markup⟩

/-- A piece of markup is cut off the front as it is. -/
theorem pieces_markup (formed : piece.WellFormed) (markup : piece.isText = false)
    (rest : List Char) : pieces (piece.source ++ rest) = piece :: pieces rest := by
  cases piece with
  | text chars => simp [isText] at markup
  | opening content =>
    obtain ⟨tag, last⟩ := formed
    have cut := cutMarkup_tag tag rest
    rw [tagPiece, if_neg last] at cut
    have shape : (Piece.opening content).source ++ rest = '<' :: (content ++ '>' :: rest) := by
      simp [source]
    rw [shape, pieces, if_pos rfl, cut]
  | empty content =>
    have cut := cutMarkup_tag formed rest
    rw [tagPiece, List.getLast?_concat, if_pos rfl, List.dropLast_concat] at cut
    have shape : (Piece.empty content).source ++ rest =
        '<' :: (content ++ ['/'] ++ '>' :: rest) := by
      simp [source]
    rw [shape, pieces, if_pos rfl, cut]
  | closing content =>
    have cut := cutMarkup_closing formed rest
    have shape : (Piece.closing content).source ++ rest =
        '<' :: ('/' :: content ++ '>' :: rest) := by
      simp [source]
    rw [shape, pieces, if_pos rfl, cut]
  | aside content =>
    have cut := cutMarkup_aside formed rest
    have shape : (Piece.aside content).source ++ rest = '<' :: (content ++ '>' :: rest) := by
      simp [source]
    rw [shape, pieces, if_pos rfl, cut]
  | fault cause => exact formed.elim

theorem head?_source (formed : piece.WellFormed) (markup : piece.isText = false) :
    piece.source.head? = some '<' := by
  cases piece with
  | text chars => simp [isText] at markup
  | fault cause => exact formed.elim
  | _ => rfl

/-- Nothing follows, or markup does. A run of text goes up to such a place. -/
def Stops (rest : List Char) : Prop :=
  ∀ c ∈ rest.head?, c = '<'

theorem stops_nil : Stops [] := by
  simp [Stops]

theorem Stops.left {front back : List Char} (h : Stops (front ++ back)) : Stops front := by
  cases front with
  | nil => exact stops_nil
  | cons c front => exact h

theorem Stops.of_markup (formed : piece.WellFormed) (markup : piece.isText = false)
    (rest : List Char) : Stops (piece.source ++ rest) := by
  obtain ⟨below, shape⟩ := List.head?_eq_some_iff.mp (head?_source formed markup)
  simp [Stops, shape]

theorem pieces_text {chars rest : List Char} (nonempty : chars ≠ []) (plain : '<' ∉ chars)
    (stops : Stops rest) : pieces (chars ++ rest) = .text chars :: pieces rest := by
  obtain ⟨c, chars, rfl⟩ := List.exists_cons_of_ne_nil nonempty
  obtain ⟨less, others⟩ := not_or.mp (mt List.mem_cons.mpr plain)
  have inside : ∀ d ∈ chars, isTextChar d = true := by
    intro d mem
    have different : d ≠ '<' := fun same => others (same ▸ mem)
    simpa [isTextChar] using different
  rw [List.cons_append, pieces, if_neg (Ne.symm less), List.takeWhile_append_of_pos inside,
    List.dropWhile_append_of_pos inside]
  cases rest with
  | nil => simp
  | cons d rest =>
    obtain rfl : d = '<' := stops d rfl
    simp [isTextChar]

/-- A piece is cut off the front as it is. After a run of text this takes a place to stop at. -/
theorem pieces_source_append {rest : List Char} (formed : piece.WellFormed)
    (stops : piece.isText = true → Stops rest) :
    pieces (piece.source ++ rest) = piece :: pieces rest := by
  by_cases markup : piece.isText = false
  · exact pieces_markup formed markup rest
  · cases piece with
    | text chars =>
      obtain ⟨nonempty, plain⟩ := formed
      exact pieces_text nonempty plain (stops rfl)
    | _ => simp [isText] at markup

/-! ### All pieces -/

/-- A run of text stops before the pieces that may follow it. -/
theorem stops_sources_append {rest : List Char} (formed : ∀ p ∈ ps, p.WellFormed)
    (apart : (piece :: ps).IsChain Apart) (text : piece.isText = true)
    (stops : ps = [] → Stops rest) : Stops (sources ps ++ rest) := by
  cases ps with
  | nil => exact stops rfl
  | cons q ps =>
    have markup : q.isText = false := by
      have := (List.isChain_cons_cons.mp apart).1
      simpa [Apart, text] using this
    rw [sources_cons, List.append_assoc]
    exact Stops.of_markup (formed q List.mem_cons_self) markup _

/-- Pieces of their form, no two runs of text side by side, are cut off as they are. -/
theorem pieces_sources_append {rest : List Char} (formed : ∀ p ∈ ps, p.WellFormed)
    (apart : ps.IsChain Apart) (stops : ∀ p ∈ ps.getLast?, p.isText = true → Stops rest) :
    pieces (sources ps ++ rest) = ps ++ pieces rest := by
  induction ps with
  | nil => rfl
  | cons p ps ih =>
    obtain ⟨formed, others⟩ := List.forall_mem_cons.mp formed
    have below : pieces (sources ps ++ rest) = ps ++ pieces rest := by
      refine ih others apart.tail ?_
      intro last mem
      exact stops last (List.mem_getLast?_cons mem)
    have next : p.isText = true → Stops (sources ps ++ rest) := by
      intro text
      refine stops_sources_append others apart text ?_
      rintro rfl
      exact stops p rfl text
    rw [sources_cons, List.append_assoc, pieces_source_append formed next, below, List.cons_append]

/-- The first piece of a body is a fault, and the only one, or it has the form of its kind and
the other pieces are those of what follows it. -/
theorem pieces_eq_cons (h : pieces text = piece :: ps) :
    (∃ cause, piece = .fault cause ∧ ps = []) ∨
      ∃ after, text = piece.source ++ after ∧ piece.WellFormed ∧
        (piece.isText = true → Stops after) ∧ ps = pieces after := by
  cases text with
  | nil => simp [pieces] at h
  | cons c rest =>
    rw [pieces] at h
    split at h
    · rename_i less
      obtain ⟨rfl, rfl⟩ := List.cons.inj h
      cases cut : cutMarkup rest with
      | mk p after =>
        rcases wellFormed_of_cutMarkup cut with ⟨cause, rfl, rfl⟩ | ⟨split, formed, markup⟩
        · exact Or.inl ⟨cause, rfl, by simp [pieces]⟩
        · exact Or.inr ⟨after, less ▸ split, formed, by simp [markup], rfl⟩
    · rename_i different
      obtain ⟨rfl, rfl⟩ := List.cons.inj h
      refine Or.inr ⟨rest.dropWhile isTextChar, ?_, ⟨by simp, ?_⟩, ?_, rfl⟩
      · simp [source]
      · intro less
        rcases List.mem_cons.mp less with same | less
        · exact different same.symm
        · have kept := List.mem_takeWhile_imp less
          simp [isTextChar] at kept
      · intro _ d first
        have := List.head?_dropWhile_not isTextChar rest
        rw [Option.mem_def.mp first] at this
        simpa [isTextChar] using this

/-- Every piece is a fault or has the form of its kind. -/
theorem wellFormed_of_mem_pieces (mem : piece ∈ pieces text) :
    (∃ cause, piece = .fault cause) ∨ piece.WellFormed := by
  generalize cut : pieces text = ps at mem
  induction ps generalizing text with
  | nil => simp at mem
  | cons p ps ih =>
    rcases pieces_eq_cons cut with ⟨cause, rfl, rfl⟩ | ⟨after, _, formed, _, rfl⟩
    · exact Or.inl ⟨cause, List.mem_singleton.mp mem⟩
    · rcases List.mem_cons.mp mem with rfl | mem
      · exact Or.inr formed
      · exact ih rfl mem

/-- The pieces before some place are faults, or their characters stand before the rest of the
pieces. -/
theorem eq_sources_append (h : pieces text = ps ++ qs)
    (sound : ∀ cause, Piece.fault cause ∉ ps) :
    ∃ rest, text = sources ps ++ rest ∧ qs = pieces rest := by
  induction ps generalizing text with
  | nil => exact ⟨text, rfl, h.symm⟩
  | cons p ps ih =>
    rcases pieces_eq_cons h with ⟨cause, rfl, _⟩ | ⟨after, rfl, _, _, others⟩
    · exact absurd List.mem_cons_self (sound cause)
    · obtain ⟨rest, rfl, rfl⟩ := ih others.symm fun cause mem =>
        sound cause (List.mem_cons_of_mem p mem)
      exact ⟨rest, by simp, rfl⟩

/-- No two runs of text stand side by side. -/
theorem isChain_apart_pieces (text : List Char) : (pieces text).IsChain Apart := by
  generalize cut : pieces text = ps
  induction ps generalizing text with
  | nil => exact List.IsChain.nil
  | cons p ps ih =>
    rcases pieces_eq_cons cut with ⟨cause, rfl, rfl⟩ | ⟨after, _, _, stops, rfl⟩
    · exact List.IsChain.singleton _
    · refine List.isChain_cons.mpr ⟨?_, ih after rfl⟩
      rintro q first ⟨front, back⟩
      obtain ⟨others, cut⟩ := List.head?_eq_some_iff.mp first
      rcases pieces_eq_cons cut with ⟨cause, rfl, _⟩ | ⟨last, split, formed, _, _⟩
      · simp [isText] at back
      · cases q with
        | text chars =>
          obtain ⟨nonempty, plain⟩ := formed
          obtain ⟨c, chars, rfl⟩ := List.exists_cons_of_ne_nil nonempty
          have less : c = '<' := stops front c (by simp [split, source])
          exact plain (less ▸ List.mem_cons_self)
        | _ => simp [isText] at back

end RiskScreen.Markup
