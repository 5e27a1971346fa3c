import RiskScreen.Proofs.Scoring.CutOff

/-!
# What follows the root

A response whose first element is complete is read the same whatever follows that element: each
piece up to its end tag ends where it did. And only such a response is: where the root lacks its
end tag, a single `<` after the text makes the response unreadable.

## Implementation notes

That the first element is complete is said of the pieces that the reader is given. They begin with
what is no element, then come the pieces of a root that is closed. So there is no fault in them up
to the end of the root, but a text in the root may still have an entity that is none.
-/

namespace RiskScreen.Response

open Markup
open Item (piecesAll)

variable {text : List Char} {body : Body}

/-- The first element of a text is complete, and there is no fault in the markup up to its end. -/
def ClosesRoot (text : List Char) : Prop :=
  ∃ (before : List Item) (root : Root) (rest : List Piece),
    pieces text = piecesAll before ++ root.pieces ++ rest ∧
      (∀ item ∈ before, item.isElement = false) ∧ root.Matched ∧ root.isClosed = true

theorem Body.WellFormed.closesRoot (formed : body.WellFormed) : ClosesRoot body.text :=
  ⟨body.before, body.root, _, formed.pieces_text, formed.prolog, formed.matched, formed.closed⟩

/-- The texts with a complete first element are those of well-formed bodies. -/
theorem closesRoot_iff : ClosesRoot text ↔ ∃ body : Body, body.WellFormed ∧ body.text = text := by
  constructor
  · rintro ⟨before, root, rest, cut, prolog, matched, closed⟩
    obtain ⟨after, rfl, rfl⟩ := eq_sources_append cut (Body.fault_not_mem_pieces ⟨before, root, []⟩)
    let body : Body := ⟨before, root, after⟩
    have sound : body.Sound := .of_pieces cut prolog matched (Or.inl closed)
    exact ⟨body, ⟨sound, closed⟩, rfl⟩
  · rintro ⟨body, formed, rfl⟩
    exact formed.closesRoot

/-! ### A complete root -/

/-- The body with more text after its root. -/
def Body.followedBy (body : Body) (rest : List Char) : Body :=
  { body with after := body.after ++ rest }

theorem Body.text_followedBy (body : Body) (rest : List Char) :
    (body.followedBy rest).text = body.text ++ rest := by
  simp [Body.followedBy, Body.text, Body.pieces]

theorem Body.WellFormed.followedBy (formed : body.WellFormed) (rest : List Char) :
    (body.followedBy rest).WellFormed :=
  ⟨⟨formed.prolog, formed.formed, formed.apart, formed.matched, Or.inl formed.closed⟩,
    formed.closed⟩

/-! ### A root without its end -/

/-- Where the root lacks its end tag, a `<` after the text is a tag that is not closed. -/
theorem Body.Sound.pieces_less (sound : body.Sound) (ended : body.after = []) :
    Markup.pieces (body.text ++ ['<']) = body.pieces ++ [.fault .tagNotClosed] := by
  have alone : Markup.pieces ['<'] = [.fault .tagNotClosed] := by
    simp [Markup.pieces, cutMarkup, faulty]
  have stops : Stops ['<'] := by
    intro c first
    exact (Option.some.inj first).symm
  rw [Body.text, ended, List.append_nil,
    pieces_sources_append sound.formed sound.apart fun _ _ _ => stops, alone]

theorem Body.Sound.readVerdict_less (sound : body.Sound) (ended : body.after = [])
    (unclosed : body.root.isClosed = false) :
    ∃ reason, readVerdict (String.ofList (body.text ++ ['<'])) = .error (.parse reason) := by
  have read : ∃ e, outline (body.text ++ ['<']) = .error e := by
    rw [outline_eq_readProlog, sound.pieces_less ended, Body.pieces, List.append_assoc,
      readProlog_items sound.prolog]
    have matched := sound.matched
    cases rooted : body.root with
    | empty content => simp [rooted, Root.isClosed] at unclosed
    | closed start inside stop => simp [rooted, Root.isClosed] at unclosed
    | cutOff start inside =>
      rw [rooted] at matched
      rw [Root.pieces, List.cons_append, readProlog, readRoot_items matched]
      cases Outline.addItems { root := some (tagName start) } inside with
      | error e => exact ⟨e, rfl⟩
      | ok next => exact ⟨.markup .tagNotClosed, by simp only [readRoot]⟩
  obtain ⟨e, unread⟩ := read
  rw [readVerdict, String.toList_ofList, unread]
  exact ⟨_, rfl⟩

/-- A text that gives a verdict, or the message of a vendor, is that of a body. -/
theorem exists_body_of_understood {response : String}
    (understood : ∀ reason, readVerdict response ≠ .error (.parse reason)) :
    ∃ body : Body, body.Sound ∧ body.text = response.toList := by
  cases read : outline response.toList with
  | error e => exact absurd (by rw [readVerdict, read]) (understood e.message)
  | ok last =>
    apply exists_body read
    intro rootless
    apply understood "empty response body"
    simp only [readVerdict, read, Outline.verdict, rootless]

/-- A response whose first element is complete gives the same verdict or the same failure with any
text after it. Of the responses that give a verdict or the message of a vendor, no others do. -/
theorem readVerdict_append (response : String) :
    (ClosesRoot response.toList →
      ∀ rest, readVerdict (response ++ rest) = readVerdict response) ∧
    ((∀ reason, readVerdict response ≠ .error (.parse reason)) →
      (∀ rest, readVerdict (response ++ rest) = readVerdict response) →
      ClosesRoot response.toList) := by
  constructor
  · intro closed rest
    obtain ⟨body, formed, whole⟩ := closesRoot_iff.mp closed
    have front : response = String.ofList body.text := by rw [whole, String.ofList_toList]
    have both : response ++ rest = String.ofList (body.followedBy rest.toList).text := by
      rw [Body.text_followedBy, whole, String.ofList_append, String.ofList_toList,
        String.ofList_toList]
    -- The verdict of a body is said by its root alone, and that is the same one.
    calc
      readVerdict (response ++ rest) =
          readVerdict (String.ofList (body.followedBy rest.toList).text) := by rw [both]
      _ = readVerdict (String.ofList body.text) := by
        rw [(formed.followedBy rest.toList).readVerdict_eq, formed.readVerdict_eq]
        rfl
      _ = readVerdict response := by rw [front]
  · intro understood same
    obtain ⟨body, sound, whole⟩ := exists_body_of_understood understood
    cases closed : body.root.isClosed with
    | true => exact closesRoot_iff.mpr ⟨body, ⟨sound, closed⟩, whole⟩
    | false =>
      have ended : body.after = [] := sound.ended.resolve_left (by simp [closed])
      obtain ⟨reason, unread⟩ := sound.readVerdict_less ended closed
      refine absurd ?_ (understood reason)
      rw [← same "<", ← unread, whole, String.ofList_append, String.ofList_toList]

/-- After a complete response, an end tag that nothing opens and a second response that breaks off
are not heard. In a root without its end they are. -/
theorem readVerdict_append_remarked :
    ClosesRoot remarked.text ∧
    readVerdict (String.ofList remarked.text ++
        "</a><transaction-results b=\"><recommendation-code>ACCEPT</recommendation-code>") =
      .ok { recommendationCode := some "REJECT", remarks := some "stolen" } ∧
    ¬ ClosesRoot "<transaction-results>".toList := by
  have closed : ClosesRoot remarked.text := wellFormed_remarked.closesRoot
  have said : readVerdict (String.ofList remarked.text) =
      .ok { recommendationCode := some "REJECT", remarks := some "stolen" } := by
    decide +kernel
  refine ⟨closed, ?_, ?_⟩
  · have front : ClosesRoot (String.ofList remarked.text).toList := by
      rwa [String.toList_ofList]
    exact ((readVerdict_append (String.ofList remarked.text)).1 front _).trans said
  · intro closed
    have same := (readVerdict_append "<transaction-results>").1 closed "<"
    revert same
    decide +kernel

end RiskScreen.Response
