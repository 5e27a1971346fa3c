import RiskScreen.Proofs.Markup.Break
import RiskScreen.Proofs.Scoring.Message
import RiskScreen.Proofs.Scoring.Origin

/-!
# Responses that are cut off

A response that ends before its root does is not understood if it ends in markup, in a child of
the root, or before the root. Directly in the root its end is taken for the end of the root, and
the children before it are a verdict.

## Implementation notes

The reader looks at pieces, so a cut-off response is compared with the pieces of the whole one.
What is left of them is a fault at its end, or again the pieces of items: then the response is a
body of its own, with a root that is cut off, and all that is known of such bodies holds for it.
-/

namespace RiskScreen.Response

open Markup
open Item (piecesAll MatchedAll piecesAll_cons)

variable {root name : List Char} {outline : Outline} {opened : List (List Char)}
  {content : List Char} {ps : List Piece} {tag : Piece}

/-! ### In a child -/

theorem readChild_of_barren (barren : Barren ps) :
    ∃ e, readChild root outline name opened content ps = .error e := by
  rcases barren with rfl | ⟨cause, rfl⟩
  · exact ⟨_, by rw [readChild]⟩
  · exact ⟨_, by rw [readChild]⟩

mutual

/-- A child whose content breaks off in an item is not read. -/
theorem readChild_breaksOff {item : Item} {ps : List Piece} (matched : item.Matched)
    (breaks : BreaksOff item.pieces ps) (opened : List (List Char)) (content : List Char) :
    ∃ e, readChild root outline name opened content ps = .error e := by
  cases item with
  | text chars =>
    rcases breaks.text_cases with nothing | ⟨front, more, -, -, -, shorter⟩
    · exact readChild_of_barren (Or.inl nothing)
    · rw [shorter, readChild]
      exact readChild_of_barren (Or.inl rfl)
  | aside inner => exact readChild_of_barren (breaks.barren rfl)
  | empty inner => exact readChild_of_barren (breaks.barren rfl)
  | element start inside stop =>
    rcases breaks.markup_cases rfl with barren | ⟨below, opens, after⟩
    · exact readChild_of_barren barren
    · rw [opens, readChild]
      exact readChild_breaksOff_all matched.2 rfl after _ _

theorem readChild_breaksOff_all {items : List Item} {tag : Piece} {ps : List Piece}
    (matched : MatchedAll items) (markup : tag.isText = false)
    (breaks : BreaksOff (piecesAll items ++ [tag]) ps) (opened : List (List Char))
    (content : List Char) :
    ∃ e, readChild root outline name opened content ps = .error e := by
  cases items with
  | nil => exact readChild_of_barren (breaks.barren markup)
  | cons item items =>
    obtain ⟨first, others⟩ := matched
    rw [piecesAll_cons, List.append_assoc] at breaks
    rcases breaks.append_cases with inside | ⟨below, split, after⟩
    · exact readChild_breaksOff first inside opened content
    · rw [split, readChild_item first]
      exact readChild_breaksOff_all others markup after opened _

end

/-! ### Directly in the root -/

/-- These pieces in the root are items that are left of others, or they are not read. -/
def LeftOrUnread (root : List Char) (items : List Item) (ps : List Piece) : Prop :=
  (∃ left, Item.BreaksOff items left ∧ ps = piecesAll left) ∨
    ∀ outline, ∃ e, readRoot root outline ps = .error e

theorem leftOrUnread_of_barren (items : List Item) (barren : Barren ps) :
    LeftOrUnread root items ps := by
  rcases barren with rfl | ⟨cause, rfl⟩
  · exact Or.inl ⟨[], .here items, Item.piecesAll_nil.symm⟩
  · exact Or.inr fun outline => ⟨_, by rw [readRoot]⟩

theorem readRoot_breaksOff {item : Item} (matched : item.Matched)
    (breaks : BreaksOff item.pieces ps) (items : List Item) :
    LeftOrUnread root (item :: items) ps := by
  cases item with
  | text chars =>
    rcases breaks.text_cases with nothing | ⟨front, more, nonempty, missing, rfl, rfl⟩
    · exact leftOrUnread_of_barren _ (Or.inl nothing)
    · exact Or.inl ⟨[.text front], .inText nonempty missing items, by simp [Item.pieces]⟩
  | aside inner => exact leftOrUnread_of_barren _ (breaks.barren rfl)
  | empty inner => exact leftOrUnread_of_barren _ (breaks.barren rfl)
  | element start inside stop =>
    rcases breaks.markup_cases rfl with barren | ⟨below, rfl, after⟩
    · exact leftOrUnread_of_barren _ barren
    · right
      intro outline
      rw [readRoot]
      exact readChild_breaksOff_all matched.2 rfl after [] []

/-- Where the content of the root breaks off, items are left, or nothing is read. -/
theorem readRoot_breaksOff_all {items : List Item} (matched : MatchedAll items)
    (markup : tag.isText = false) (breaks : BreaksOff (piecesAll items ++ [tag]) ps) :
    LeftOrUnread root items ps := by
  induction items generalizing ps with
  | nil => exact leftOrUnread_of_barren [] (BreaksOff.barren breaks markup)
  | cons item items ih =>
    obtain ⟨first, others⟩ := matched
    rw [piecesAll_cons, List.append_assoc] at breaks
    rcases breaks.append_cases with inside | ⟨below, rfl, after⟩
    · exact readRoot_breaksOff first inside items
    · rcases ih others after with ⟨left, shorter, rfl⟩ | unread
      · exact Or.inl ⟨item :: left, .later item shorter, (piecesAll_cons item left).symm⟩
      · right
        intro outline
        rw [readRoot_item first]
        cases outline.addItem item with
        | error e => exact ⟨e, rfl⟩
        | ok next => exact unread next

/-! ### Before the root -/

/-- No root is read, or nothing at all. -/
def Rootless (ps : List Piece) : Prop :=
  readProlog ps = .ok {} ∨ ∃ e, readProlog ps = .error e

theorem rootless_of_barren (barren : Barren ps) : Rootless ps := by
  rcases barren with rfl | ⟨cause, rfl⟩
  · exact Or.inl rfl
  · exact Or.inr ⟨_, rfl⟩

theorem rootless_of_breaksOff {items : List Item}
    (prolog : ∀ item ∈ items, item.isElement = false) (breaks : BreaksOff (piecesAll items) ps) :
    Rootless ps := by
  induction items generalizing ps with
  | nil =>
    rw [Item.piecesAll_nil] at breaks
    cases breaks
  | cons item items ih =>
    obtain ⟨first, others⟩ := List.forall_mem_cons.mp prolog
    rw [piecesAll_cons] at breaks
    rcases breaks.append_cases with inside | ⟨below, rfl, after⟩
    · cases item with
      | text chars =>
        rcases inside.text_cases with nothing | ⟨front, more, -, -, -, rfl⟩
        · exact rootless_of_barren (Or.inl nothing)
        · exact Or.inl rfl
      | aside inner => exact rootless_of_barren (inside.barren rfl)
      | empty inner => simp [Item.isElement] at first
      | element start inside stop => simp [Item.isElement] at first
    · have passed := readProlog_items (List.forall_mem_singleton.mpr first) below
      rw [piecesAll_cons, Item.piecesAll_nil, List.append_nil] at passed
      rw [Rootless, passed]
      exact ih others after

/-! ### The whole response -/

namespace Body

variable {body : Body} {cut rest : List Char} {left : List Item}

/-- The body with these items in its root, where it ends. -/
def upTo (body : Body) (start : List Char) (left : List Item) : Body where
  before := body.before
  root := .cutOff start left
  after := []

/-- The text ends directly in the root of the body, after these of the items in it. -/
def StopsAfter (body : Body) (cut : List Char) (left : List Item) : Prop :=
  ∃ start inside stop, body.root = .closed start inside stop ∧ Item.BreaksOff inside left ∧
    cut = (body.upTo start left).text

/-- The text ends directly in the root of the body, and what is left passes for a verdict. -/
structure Passes (body : Body) (cut : List Char) (left : List Item) : Prop where
  stops : body.StopsAfter cut left
  readable : Readable left
  faultless : left.findSome? textFault? = none

/-- A text with the pieces of a body, and nothing after it, is the text of that body. -/
theorem eq_text_of_pieces (ended : body.after = []) (pieces : Markup.pieces cut = body.pieces) :
    cut = body.text := by
  rw [← List.append_nil body.pieces] at pieces
  obtain ⟨rest, split, none⟩ := eq_sources_append pieces body.fault_not_mem_pieces
  obtain rfl : rest = [] := pieces_eq_nil_iff.mp none.symm
  rw [split, Body.text, ended]

/-- A text that ends directly in the root is a body of its own. -/
theorem StopsAfter.exists_sound (stops : body.StopsAfter cut left) (formed : body.WellFormed) :
    ∃ found : Body, found.Sound ∧ found.text = cut ∧ found.root.name = body.root.name ∧
      found.root.inside = left := by
  obtain ⟨start, inside, stop, rooted, shorter, rfl⟩ := stops
  have matched := formed.matched
  rw [rooted] at matched
  have breaks : BreaksOff body.pieces (body.upTo start left).pieces := by
    rw [Body.pieces, rooted]
    exact (BreaksOff.later _ (shorter.pieces _)).append_left _
  refine ⟨body.upTo start left, ⟨formed.prolog, ?_, ?_, ?_, Or.inr rfl⟩, rfl, ?_, rfl⟩
  · exact breaks.wellFormed formed.formed (fault_not_mem_pieces _)
  · exact breaks.isChain_apart formed.apart
  · exact shorter.matchedAll matched.2
  · rw [rooted]
    rfl

/-- A well-formed body that is cut off before the end of its root stops directly in the root, or no
root is read of it. -/
theorem WellFormed.stopsAfter_or_rootless (formed : body.WellFormed)
    (split : sources body.pieces = cut ++ rest) (short : rest ≠ []) :
    (∃ left, body.StopsAfter cut left) ∨ Rootless (Markup.pieces cut) := by
  have breaks := breaksOff_pieces formed.formed formed.apart split short
  rw [Body.pieces] at breaks
  rcases breaks.append_cases with inside | ⟨below, whole, after⟩
  · exact Or.inr (rootless_of_breaksOff formed.prolog inside)
  · have passed : readProlog (Markup.pieces cut) = readProlog below := by
      rw [whole, readProlog_items formed.prolog]
    rw [Rootless, passed]
    cases rooted : body.root with
    | empty content =>
      rw [rooted, Root.pieces] at after
      exact Or.inr (rootless_of_barren (after.barren rfl))
    | closed start inside stop =>
      have matched := formed.matched
      rw [rooted] at matched after
      rcases after.markup_cases rfl with barren | ⟨items, opens, after⟩
      · exact Or.inr (rootless_of_barren barren)
      · rw [opens] at whole ⊢
        rcases readRoot_breaksOff_all matched.2 rfl after with ⟨left, shorter, same⟩ | unread
        · refine Or.inl ⟨left, start, inside, stop, rooted, shorter, ?_⟩
          refine eq_text_of_pieces rfl ?_
          rw [whole, same]
          rfl
        · exact Or.inr (Or.inr (unread _))
    | cutOff start inside =>
      have closed := formed.closed
      rw [rooted] at closed
      simp [Root.isClosed] at closed

end Body

theorem readVerdict_of_rootless {text : List Char} (rootless : Rootless (pieces text)) :
    ∃ reason, readVerdict (String.ofList text) = .error (.parse reason) := by
  rw [readVerdict, String.toList_ofList, outline_eq_readProlog]
  rcases rootless with read | ⟨e, read⟩
  · rw [read]
    exact ⟨_, rfl⟩
  · rw [read]
    exact ⟨_, rfl⟩

namespace Body.Sound

variable {body : Body}

/-- A body with the root of a verdict, complete or cut off, gives the verdict that the items in its
root say, if all texts in it unescape. -/
theorem readVerdict_eq_ok_iff (sound : body.Sound)
    (named : String.ofList body.root.name = "transaction-results") {verdict : Verdict} :
    readVerdict (String.ofList body.text) = .ok verdict ↔
      Readable body.root.inside ∧ body.root.inside.findSome? textFault? = none ∧
        verdict = verdictOf body.root.inside := by
  rw [sound.readVerdict_eq, ← findSome?_runFault?_eq_none_iff]
  cases body.root.inside.findSome? runFault? with
  | some e => simp
  | none =>
    simp only [if_pos named]
    cases body.root.inside.findSome? textFault? with
    | some e => simp
    | none => simp [eq_comm]

theorem eq_parse_of_readVerdict_eq_error (sound : body.Sound)
    (named : String.ofList body.root.name = "transaction-results") {e : ScoringError}
    (h : readVerdict (String.ofList body.text) = .error e) : ∃ reason, e = .parse reason := by
  rw [sound.readVerdict_eq] at h
  cases runs : body.root.inside.findSome? runFault? with
  | some fault =>
    rw [runs] at h
    exact ⟨_, (Except.error.inj h).symm⟩
  | none =>
    rw [runs] at h
    simp only [if_pos named] at h
    cases texts : body.root.inside.findSome? textFault? with
    | some fault =>
      rw [texts] at h
      exact ⟨_, (Except.error.inj h).symm⟩
    | none => simp [texts] at h

end Body.Sound

namespace Body.WellFormed

variable {body : Body} {cut rest : List Char}

theorem readVerdict_cutOff_eq_ok_iff (formed : body.WellFormed)
    (named : String.ofList body.root.name = "transaction-results")
    (split : sources body.pieces = cut ++ rest) (short : rest ≠ []) {verdict : Verdict} :
    readVerdict (String.ofList cut) = .ok verdict ↔
      ∃ left, body.Passes cut left ∧ verdict = verdictOf left := by
  constructor
  · intro read
    rcases formed.stopsAfter_or_rootless split short with ⟨left, stops⟩ | rootless
    · obtain ⟨found, sound, rfl, sameName, rfl⟩ := stops.exists_sound formed
      obtain ⟨readable, faultless, said⟩ := (sound.readVerdict_eq_ok_iff (sameName ▸ named)).mp read
      exact ⟨_, ⟨stops, readable, faultless⟩, said⟩
    · obtain ⟨reason, unread⟩ := readVerdict_of_rootless rootless
      simp [unread] at read
  · rintro ⟨left, ⟨stops, readable, faultless⟩, said⟩
    obtain ⟨found, sound, rfl, sameName, rfl⟩ := stops.exists_sound formed
    exact (sound.readVerdict_eq_ok_iff (sameName ▸ named)).mpr ⟨readable, faultless, said⟩

theorem eq_parse_of_cutOff (formed : body.WellFormed)
    (named : String.ofList body.root.name = "transaction-results")
    (split : sources body.pieces = cut ++ rest) (short : rest ≠ []) {e : ScoringError}
    (h : readVerdict (String.ofList cut) = .error e) : ∃ reason, e = .parse reason := by
  rcases formed.stopsAfter_or_rootless split short with ⟨left, stops⟩ | rootless
  · obtain ⟨found, sound, rfl, sameName, rfl⟩ := stops.exists_sound formed
    exact sound.eq_parse_of_readVerdict_eq_error (sameName ▸ named) h
  · obtain ⟨reason, unread⟩ := readVerdict_of_rootless rootless
    exact ⟨reason, Except.error.inj (h.symm.trans unread)⟩

end Body.WellFormed

/-- A text that gives a verdict has a root that is complete, or it ends directly in the root. A
well-formed body that is cut off before the end of its root is not understood, with one exception.
If it ends directly in the root and what is left passes for a verdict, it gives the verdict that
the items say which are left. -/
theorem readVerdict_cutOff (text : String) :
    (∀ verdict, readVerdict text = .ok verdict →
      ∃ body : Body, body.Sound ∧ String.ofList body.text = text ∧
        String.ofList body.root.name = "transaction-results" ∧
        (body.WellFormed ∨
          ∃ start inside, body.root = .cutOff start inside ∧ body.after = [])) ∧
    ∀ body : Body, body.WellFormed → String.ofList body.root.name = "transaction-results" →
      ∀ rest, sources body.pieces = text.toList ++ rest → rest ≠ [] →
        ((∃ reason, readVerdict text = .error (.parse reason)) ↔
          ¬ ∃ left, body.Passes text.toList left) ∧
        ∀ verdict, readVerdict text = .ok verdict ↔
          ∃ left, body.Passes text.toList left ∧ verdict = verdictOf left := by
  refine ⟨?_, ?_⟩
  · intro verdict read
    obtain ⟨body, sound, whole, named, -⟩ := readVerdict_eq_ok_iff.mp read
    refine ⟨body, sound, whole, named, ?_⟩
    cases rooted : body.root with
    | empty content => exact Or.inl ⟨sound, by rw [rooted]; rfl⟩
    | closed start inside stop => exact Or.inl ⟨sound, by rw [rooted]; rfl⟩
    | cutOff start inside =>
      refine Or.inr ⟨start, inside, rfl, sound.ended.resolve_left ?_⟩
      rw [rooted]
      simp [Root.isClosed]
  · intro body formed named rest split short
    have accepted (verdict : Verdict) : readVerdict text = .ok verdict ↔
        ∃ left, body.Passes text.toList left ∧ verdict = verdictOf left := by
      rw [← formed.readVerdict_cutOff_eq_ok_iff named split short, String.ofList_toList]
    refine ⟨⟨?_, ?_⟩, accepted⟩
    · rintro ⟨reason, unread⟩ ⟨left, passes⟩
      have read := (accepted _).mpr ⟨left, passes, rfl⟩
      simp [unread] at read
    · intro fails
      cases read : readVerdict text with
      | ok verdict =>
        obtain ⟨left, passes, -⟩ := (accepted verdict).mp read
        exact absurd ⟨left, passes⟩ fails
      | error e =>
        rw [← @String.ofList_toList text] at read
        obtain ⟨reason, rfl⟩ := formed.eq_parse_of_cutOff named split short read
        exact ⟨reason, rfl⟩

/-! ### A response that ends too soon -/

/-- A response with a recommendation to reject and a remark. -/
def remarked : Body where
  before := []
  root := .closed "transaction-results".toList
    [.element "recommendation-code".toList [.text "REJECT".toList] "recommendation-code".toList,
      .text "\n  ".toList, .element "remarks".toList [.text "stolen".toList] "remarks".toList]
    "transaction-results".toList
  after := "\n".toList

theorem wellFormed_remarked : remarked.WellFormed := by
  have cut : Markup.pieces remarked.text = remarked.pieces ++ Markup.pieces remarked.after := by
    decide +kernel
  have matched : remarked.root.Matched := by
    simp [remarked, Root.Matched, MatchedAll, Item.Matched]
    decide +kernel
  exact ⟨.of_pieces cut (List.forall_mem_nil _) matched (Or.inl rfl), rfl⟩

theorem readVerdict_cutOff_remarked :
    remarked.WellFormed ∧
    readVerdict
        "<transaction-results><recommendation-code>REJECT</recommendation-code>\n  " =
      .ok { recommendationCode := some "REJECT" } ∧
    ¬ ∃ left, remarked.Passes
        "<transaction-results><recommendation-code>REJECT</recommendation-code>\n  <re".toList
        left := by
  have named : String.ofList remarked.root.name = "transaction-results" := by decide +kernel
  refine ⟨wellFormed_remarked, ?_, ?_⟩
  · let front := "<transaction-results><recommendation-code>REJECT</recommendation-code>\n  "
    let left : List Item :=
      [.element "recommendation-code".toList [.text "REJECT".toList] "recommendation-code".toList,
        .text "\n  ".toList]
    have split : sources remarked.pieces =
        front.toList ++ "<remarks>stolen</remarks></transaction-results>".toList := by
      decide +kernel
    have passes : remarked.Passes front.toList left :=
      ⟨⟨_, _, _, rfl, .later _ (.later _ (.here _)), by decide +kernel⟩,
        findSome?_runFault?_eq_none_iff.mp (by decide +kernel), by decide +kernel⟩
    have said : verdictOf left = { recommendationCode := some "REJECT" } := by decide +kernel
    have cutOff := (readVerdict_cutOff front).2 remarked wellFormed_remarked named _ split
      (by decide)
    exact (cutOff.2 _).mpr ⟨left, passes, said.symm⟩
  · let front := "<transaction-results><recommendation-code>REJECT</recommendation-code>\n  <re"
    have split : sources remarked.pieces =
        front.toList ++ "marks>stolen</remarks></transaction-results>".toList := by
      decide +kernel
    have unread : readVerdict front = .error (.parse MarkupError.tagNotClosed.message) := by
      decide +kernel
    have cutOff := (readVerdict_cutOff front).2 remarked wellFormed_remarked named _ split
      (by decide)
    exact cutOff.1.mp ⟨_, unread⟩

/-- A response that ends after the recommendation decides on the payment. -/
theorem readVerdict_rejects_cutOff :
    remarked.WellFormed ∧ String.ofList remarked.root.name = "transaction-results" ∧
    sources remarked.pieces =
      "<transaction-results><recommendation-code>REJECT</recommendation-code>".toList ++
        "\n  <remarks>stolen</remarks></transaction-results>".toList ∧
    ∃ verdict, readVerdict
        "<transaction-results><recommendation-code>REJECT</recommendation-code>" = .ok verdict ∧
      verdict.recommendsRejection = true := by
  refine ⟨wellFormed_remarked, by decide +kernel, by decide +kernel,
    { recommendationCode := some "REJECT" }, by decide +kernel, by decide⟩

end RiskScreen.Response
