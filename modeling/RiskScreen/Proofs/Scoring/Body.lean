import RiskScreen.Proofs.Scoring.Outline

/-!
# Bodies taken apart

A body is what comes before its first element, that element, and what follows it. The root
element is read item by item. It may lack its end tag, but then nothing follows it. Every body
in which some element is read comes apart in this way, and its outline is that of its root.
-/

namespace RiskScreen.Response

open Markup
open Item (piecesAll MatchedAll piecesAll_cons fault_not_mem_piecesAll)

/-- The first element of a body. -/
inductive Root where
  /-- `<content/>` -/
  | empty (content : List Char)
  /-- `<start>inside</stop>` -/
  | closed (start : List Char) (inside : List Item) (stop : List Char)
  /-- `<start>inside`, where the body ends. -/
  | cutOff (start : List Char) (inside : List Item)

namespace Root

/-- The name in the start tag. -/
def name : Root → List Char
  | empty content => tagName content
  | closed start _ _ => tagName start
  | cutOff start _ => tagName start

/-- What stands directly in the root. -/
def inside : Root → List Item
  | empty _ => []
  | closed _ inside _ => inside
  | cutOff _ inside => inside

/-- The pieces that the root is written as. -/
def pieces : Root → List Piece
  | empty content => [.empty content]
  | closed start inside stop => .opening start :: (piecesAll inside ++ [.closing stop])
  | cutOff start inside => .opening start :: piecesAll inside

/-- Whether the root ends before the body does. -/
def isClosed : Root → Bool
  | empty _ => true
  | closed _ _ _ => true
  | cutOff _ _ => false

/-- Every end tag has the name of its start tag. -/
def Matched : Root → Prop
  | empty _ => True
  | closed start inside stop => closingName stop = tagName start ∧ MatchedAll inside
  | cutOff _ inside => MatchedAll inside

end Root

/-- A body with an element in it. -/
structure Body where
  /-- What comes before the first element. -/
  before : List Item
  /-- The first element. -/
  root : Root
  /-- What follows it. -/
  after : List Char

namespace Body

/-- The pieces up to the end of the root. -/
def pieces (body : Body) : List Piece :=
  piecesAll body.before ++ body.root.pieces

/-- The characters of the body. -/
def text (body : Body) : List Char :=
  sources body.pieces ++ body.after

/-- The body is taken apart as markup is. -/
structure Sound (body : Body) : Prop where
  prolog : ∀ item ∈ body.before, item.isElement = false
  formed : ∀ p ∈ body.pieces, p.WellFormed
  apart : body.pieces.IsChain Piece.Apart
  matched : body.root.Matched
  ended : body.root.isClosed = true ∨ body.after = []

/-- The body is taken apart as markup is, and its root is complete. -/
structure WellFormed (body : Body) : Prop extends body.Sound where
  closed : body.root.isClosed = true

end Body

variable {text : List Char} {last : Outline} {ps : List Piece}

/-! ### Before the root -/

/-- Text before the root is passed over. -/
theorem readProlog_dropWhile (text : List Char) :
    readProlog (pieces (text.dropWhile isTextChar)) = readProlog (pieces text) := by
  cases text with
  | nil => rfl
  | cons c rest =>
    by_cases less : c = '<'
    · rw [List.dropWhile_cons_of_neg (by simp [isTextChar, less])]
    · rw [List.dropWhile_cons_of_pos (by simp [isTextChar, less]), pieces, if_neg less, readProlog]

/-- A byte order mark is text before the root like any other. -/
theorem outline_eq_readProlog (text : List Char) : outline text = readProlog (pieces text) := by
  unfold outline dropByteOrderMark
  split
  · rename_i rest
    rw [← readProlog_dropWhile, ← readProlog_dropWhile ('\uFEFF' :: rest)]
    rfl
  · rfl

/-- What is no element is passed over. -/
theorem readProlog_items {items : List Item} (prolog : ∀ item ∈ items, item.isElement = false)
    (rest : List Piece) : readProlog (piecesAll items ++ rest) = readProlog rest := by
  induction items with
  | nil => simp
  | cons item items ih =>
    obtain ⟨first, others⟩ := List.forall_mem_cons.mp prolog
    rw [piecesAll_cons, List.append_assoc]
    cases item with
    | text chars => exact ih others
    | aside content => exact ih others
    | empty content => simp [Item.isElement] at first
    | element start inside stop => simp [Item.isElement] at first

theorem pieces_eq_nil_iff : pieces text = [] ↔ text = [] := by
  cases text with
  | nil => simp [pieces]
  | cons c rest =>
    rw [pieces]
    split <;> simp

/-! ### The outline of a body -/

namespace Root

theorem exists_getLast?_pieces {root : Root} (closed : root.isClosed = true) :
    ∃ front p, root.pieces = front ++ [p] ∧ p.isText = false := by
  cases root with
  | empty content => exact ⟨[], .empty content, rfl, rfl⟩
  | closed start inside stop =>
    exact ⟨.opening start :: piecesAll inside, .closing stop, rfl, rfl⟩
  | cutOff start inside => simp [isClosed] at closed

/-- The root is read item by item. -/
theorem readProlog_pieces {root : Root} (matched : root.Matched)
    (ended : root.isClosed = true ∨ ps = []) :
    readProlog (root.pieces ++ ps) = Outline.addItems { root := some root.name } root.inside := by
  cases root with
  | empty content => rfl
  | closed start inside stop =>
    obtain ⟨names, below⟩ := matched
    have closes : checkEnd (tagName start) stop = .ok () := checkEnd_eq_ok_iff.mpr names
    rw [pieces, List.cons_append, List.append_assoc, readProlog, readRoot_items below]
    simp only [name, Root.inside]
    cases Outline.addItems { root := some (tagName start) } inside with
    | error e => rfl
    | ok next => simp only [List.singleton_append, readRoot, closes]
  | cutOff start inside =>
    obtain rfl : ps = [] := ended.resolve_left (by simp [isClosed])
    rw [pieces, List.cons_append, readProlog, readRoot_items matched]
    simp only [name, Root.inside]
    cases Outline.addItems { root := some (tagName start) } inside with
    | error e => rfl
    | ok next => simp only [readRoot]

end Root

namespace Body

variable {body : Body}

theorem Sound.pieces_text (sound : body.Sound) :
    Markup.pieces body.text = body.pieces ++ Markup.pieces body.after := by
  refine pieces_sources_append sound.formed sound.apart ?_
  rcases sound.ended with closed | ended
  · obtain ⟨front, p, split, markup⟩ := Root.exists_getLast?_pieces closed
    rw [Body.pieces, split, ← List.append_assoc, List.getLast?_concat]
    intro q same isText
    obtain rfl : p = q := Option.some.inj same
    simp [markup] at isText
  · intro _ _ _
    rw [ended]
    exact stops_nil

/-- The outline of a body is the one that the items in its root add up to. -/
theorem Sound.outline_text (sound : body.Sound) :
    outline body.text = Outline.addItems { root := some body.root.name } body.root.inside := by
  have ended := sound.ended.imp_right pieces_eq_nil_iff.mpr
  calc
    outline body.text = readProlog (body.pieces ++ Markup.pieces body.after) := by
      rw [outline_eq_readProlog, sound.pieces_text]
    _ = readProlog (body.root.pieces ++ Markup.pieces body.after) := by
      rw [Body.pieces, List.append_assoc, readProlog_items sound.prolog]
    _ = Outline.addItems { root := some body.root.name } body.root.inside :=
      Root.readProlog_pieces sound.matched ended

end Body

/-! ### Every body -/

/-- What is read without a fault has no element, or a root with items in it. -/
theorem exists_root_of_readProlog (h : readProlog ps = .ok last) :
    last.root = none ∨ ∃ before, ∃ root : Root, ∃ rest,
      ps = piecesAll before ++ root.pieces ++ rest ∧
      (∀ item ∈ before, item.isElement = false) ∧ root.Matched ∧
      (root.isClosed = true ∨ rest = []) := by
  induction ps with
  | nil =>
    obtain rfl := Except.ok.inj h
    exact Or.inl rfl
  | cons p ps ih =>
    cases p with
    | text chars =>
      rcases ih h with none | ⟨before, root, rest, rfl, prolog, matched, ended⟩
      · exact Or.inl none
      · exact Or.inr ⟨.text chars :: before, root, rest, rfl,
          List.forall_mem_cons.mpr ⟨rfl, prolog⟩, matched, ended⟩
    | aside content =>
      rcases ih h with none | ⟨before, root, rest, rfl, prolog, matched, ended⟩
      · exact Or.inl none
      · exact Or.inr ⟨.aside content :: before, root, rest, rfl,
          List.forall_mem_cons.mpr ⟨rfl, prolog⟩, matched, ended⟩
    | empty content =>
      exact Or.inr ⟨[], .empty content, ps, by simp [Root.pieces], by simp, trivial, Or.inl rfl⟩
    | opening start =>
      rw [readProlog] at h
      obtain ⟨items, rest, rfl, matched, _, rfl | ⟨stop, below, rfl, names⟩⟩ :=
        exists_items_of_readRoot h
      · exact Or.inr ⟨[], .cutOff start items, [], by simp [Root.pieces], by simp, matched,
          Or.inr rfl⟩
      · exact Or.inr ⟨[], .closed start items stop, below, by simp [Root.pieces], by simp,
          ⟨names, matched⟩, Or.inl rfl⟩
    | closing stop => simp [readProlog] at h
    | fault cause => simp [readProlog] at h

theorem fault_not_mem_root (root : Root) (cause : MarkupError) :
    Piece.fault cause ∉ root.pieces := by
  cases root <;> simp [Root.pieces, fault_not_mem_piecesAll]

theorem Body.fault_not_mem_pieces (body : Body) (cause : MarkupError) :
    Piece.fault cause ∉ body.pieces := by
  simp [Body.pieces, fault_not_mem_piecesAll, fault_not_mem_root]

/-- The pieces that a body is cut into are sound by themselves. -/
theorem Body.Sound.of_pieces {body : Body}
    (cut : Markup.pieces body.text = body.pieces ++ Markup.pieces body.after)
    (prolog : ∀ item ∈ body.before, item.isElement = false) (matched : body.root.Matched)
    (ended : body.root.isClosed = true ∨ body.after = []) : body.Sound := by
  refine ⟨prolog, ?_, ?_, matched, ended⟩
  · intro p mem
    have inBody : p ∈ Markup.pieces body.text := by
      rw [cut]
      exact List.mem_append_left _ mem
    rcases wellFormed_of_mem_pieces inBody with ⟨cause, rfl⟩ | formed
    · rcases List.mem_append.mp mem with mem | mem
      · exact absurd mem (fault_not_mem_piecesAll _ _)
      · exact absurd mem (fault_not_mem_root _ _)
    · exact formed
  · have apart := isChain_apart_pieces body.text
    rw [cut] at apart
    exact apart.left_of_append

/-- A body that has an outline with a root comes apart. -/
theorem exists_body (h : outline text = .ok last) (rooted : last.root ≠ none) :
    ∃ body : Body, body.Sound ∧ body.text = text := by
  rw [outline_eq_readProlog] at h
  obtain ⟨before, root, rest, cut, prolog, matched, ended⟩ :=
    (exists_root_of_readProlog h).resolve_left rooted
  obtain ⟨after, rfl, rfl⟩ := eq_sources_append cut (Body.fault_not_mem_pieces ⟨before, root, []⟩)
  let body : Body := ⟨before, root, after⟩
  have cutBody : Markup.pieces body.text = body.pieces ++ Markup.pieces body.after := cut
  exact ⟨body, .of_pieces cutBody prolog matched (ended.imp_right pieces_eq_nil_iff.mp), rfl⟩

end RiskScreen.Response
