import RiskScreen.Document.Markup
import RiskScreen.Proofs.Markup.Escape
import RiskScreen.Proofs.Markup.Pieces

/-!
# Reading markup as a tree of elements

A text is read piece by piece. A start tag opens an element inside the innermost open one, an
end tag of the same name closes it, and text is unescaped and belongs to the innermost open
element. What is left at the end has to be one closed element with nothing around it.

## Implementation notes

Only bare tags are read, those that hold a name and nothing else. Comments, instructions and
declarations are refused, so that a text that is read has none of them.
-/

namespace RiskScreen

/-- An element: its name, the text directly in it and the elements directly in it. -/
structure Element where
  name : String
  text : String
  children : List Element
  deriving Repr

namespace Element

/-- What has been read of an element that is still open. -/
structure Open where
  name : List Char
  text : List Char := []
  children : List Element := []

namespace Open

/-- The element as it stands when its end tag is reached. -/
def close (opened : Open) : Element :=
  ⟨String.ofList opened.name, String.ofList opened.text, opened.children⟩

/-- One more text directly in the element. -/
def addText (opened : Open) (text : List Char) : Open :=
  { opened with text := opened.text ++ text }

/-- More elements directly in the element. -/
def addChildren (opened : Open) (children : List Element) : Open :=
  { opened with children := opened.children ++ children }

@[simp] theorem addText_nil (opened : Open) : opened.addText [] = opened := by
  simp [addText]

@[simp] theorem addChildren_nil (opened : Open) : opened.addChildren [] = opened := by
  simp [addChildren]

@[simp] theorem addChildren_addChildren (opened : Open) (front back : List Element) :
    (opened.addChildren front).addChildren back = opened.addChildren (front ++ back) := by
  simp [addChildren]

end Open

open Markup

/-- Whether a tag holds a name and nothing else. -/
def isBareTag (content : List Char) : Bool :=
  !content.isEmpty && content.all fun c => !Text.isPlainSpace c

/-- Reads one piece inside the elements `opened`, innermost first. -/
def readPiece : List Open → Piece → Option (List Open)
  | opened, .opening content =>
      if isBareTag content then some ({ name := content } :: opened) else none
  | current :: outer, .empty content =>
      if isBareTag content then
        some (current.addChildren [{ name := content : Open }.close] :: outer)
      else none
  | current :: parent :: outer, .closing content =>
      if content = current.name then some (parent.addChildren [current.close] :: outer) else none
  | current :: outer, .text chars =>
      match unescape chars with
      | .ok text => some (current.addText text :: outer)
      | .error _ => none
  | _, _ => none

/-- Reads on inside the elements `opened`. -/
def readOn (opened : List Open) (text : List Char) : Option (List Open) :=
  (pieces text).foldlM readPiece opened

/-- The only element of a place outside which nothing was read. -/
def sole : List Open → Option Element
  | [⟨_, [], [root]⟩] => some root
  | _ => none

/-- The element that a text consists of. -/
def read (text : List Char) : Option Element :=
  (readOn [{ name := [] }] text).bind sole

@[simp] theorem readOn_nil (opened : List Open) : readOn opened [] = some opened := by
  simp [readOn, pieces]

/-! ### Written tags -/

/-- The character does not end a tag, and does not hide the end of one. -/
def StaysInTag (c : Char) : Prop :=
  c ≠ '>' ∧ c ≠ '\'' ∧ c ≠ '"'

/-- The character stays in a tag and is no part of it but of its name. -/
structure IsTagChar (c : Char) : Prop where
  stays : StaysInTag c
  notMark : c ≠ '/' ∧ c ≠ '!' ∧ c ≠ '?'
  notSpace : Text.isPlainSpace c = false

theorem isTagChar_of_isNamePart {c : Char} (h : Path.isNamePart c = true) : IsTagChar c where
  stays := by refine ⟨?_, ?_, ?_⟩ <;> rintro rfl <;> revert h <;> decide
  notMark := by refine ⟨?_, ?_, ?_⟩ <;> rintro rfl <;> revert h <;> decide
  notSpace := by
    rw [Bool.eq_false_iff]
    intro space
    simp only [Text.isPlainSpace, Bool.or_eq_true, decide_eq_true_eq] at space
    rcases space with ((rfl | rfl) | rfl) | rfl <;> revert h <;> decide

/-- The characters of an element name. -/
theorem exists_tagChars {name : String} (h : Path.isElementName name = true) :
    ∃ first rest, name.toList = first :: rest ∧ ∀ c ∈ first :: rest, IsTagChar c := by
  obtain ⟨first, rest, text⟩ := List.exists_cons_of_ne_nil (Path.ne_nil_of_isNameText h)
  refine ⟨first, rest, text, ?_⟩
  intro c mem
  exact isTagChar_of_isNamePart (Path.isNamePart_of_mem h (text ▸ mem))

theorem encloses_of_staysInTag {content : List Char} (stays : ∀ c ∈ content, StaysInTag c) :
    Quoting.outside.Encloses content := by
  induction content with
  | nil => rfl
  | cons c content ih =>
    obtain ⟨⟨tagEnd, single, double⟩, others⟩ := List.forall_mem_cons.mp stays
    have next : Quoting.next c .outside = .outside := by simp [Quoting.next, single, double]
    refine ⟨fun ends => tagEnd ends.2, ?_⟩
    rw [next]
    exact ih others

/-- A tag that begins with a name character is neither an end tag nor something aside. -/
theorem isTag_of_staysInTag {first : Char} {content : List Char} (begins : IsTagChar first)
    (stays : ∀ c ∈ content, StaysInTag c) : IsTag (first :: content) where
  encloses := encloses_of_staysInTag (List.forall_mem_cons.mpr ⟨begins.stays, stays⟩)
  unmarked := by
    intro c head
    obtain rfl : first = c := Option.some.inj head
    obtain ⟨slash, bang, question⟩ := begins.notMark
    exact ⟨bang, question, slash⟩

variable {name : String} (valid : Path.isElementName name = true)
include valid

theorem isBareTag_name : isBareTag name.toList = true := by
  obtain ⟨first, rest, text, chars⟩ := exists_tagChars valid
  rw [isBareTag, text, Bool.and_eq_true, List.all_eq_true]
  refine ⟨rfl, ?_⟩
  intro c mem
  simp [(chars c mem).notSpace]

theorem pieces_startTag (rest : List Char) :
    pieces (startTag name ++ rest) = .opening name.toList :: pieces rest := by
  obtain ⟨first, others, text, chars⟩ := exists_tagChars valid
  obtain ⟨begins, stays⟩ := List.forall_mem_cons.mp chars
  have tag : IsTag name.toList := text ▸ isTag_of_staysInTag begins fun c mem => (stays c mem).stays
  have last : name.toList.getLast? ≠ some '/' := by
    intro slash
    exact (chars '/' (text ▸ List.mem_of_getLast? slash)).notMark.1 rfl
  have formed : (Piece.opening name.toList).WellFormed := ⟨tag, last⟩
  exact pieces_markup formed rfl rest

theorem pieces_emptyTag (rest : List Char) :
    pieces (emptyTag name ++ rest) = .empty name.toList :: pieces rest := by
  obtain ⟨first, others, text, chars⟩ := exists_tagChars valid
  obtain ⟨begins, stays⟩ := List.forall_mem_cons.mp chars
  have slash : StaysInTag '/' := ⟨by decide, by decide, by decide⟩
  have tag : IsTag (name.toList ++ ['/']) := by
    rw [text]
    refine isTag_of_staysInTag begins fun c mem => ?_
    rcases List.mem_append.mp mem with mem | mem
    · exact (stays c mem).stays
    · exact List.mem_singleton.mp mem ▸ slash
  have formed : (Piece.empty name.toList).WellFormed := tag
  exact pieces_markup formed rfl rest

theorem pieces_endTag (rest : List Char) :
    pieces (endTag name ++ rest) = .closing name.toList :: pieces rest := by
  obtain ⟨first, others, text, chars⟩ := exists_tagChars valid
  have formed : (Piece.closing name.toList).WellFormed :=
    text ▸ encloses_of_staysInTag fun c mem => (chars c mem).stays
  exact pieces_markup formed rfl rest

theorem readOn_startTag (opened : List Open) (rest : List Char) :
    readOn opened (startTag name ++ rest) = readOn ({ name := name.toList } :: opened) rest := by
  rw [readOn, pieces_startTag valid, List.foldlM_cons, readPiece, if_pos (isBareTag_name valid)]
  rfl

theorem readOn_emptyTag (current : Open) (outer : List Open) (rest : List Char) :
    readOn (current :: outer) (emptyTag name ++ rest) =
      readOn (current.addChildren [⟨name, "", []⟩] :: outer) rest := by
  have leaf : ({ name := name.toList : Open }).close = ⟨name, "", []⟩ := by
    simp [Open.close]
  rw [readOn, pieces_emptyTag valid, List.foldlM_cons, readPiece, if_pos (isBareTag_name valid),
    leaf]
  rfl

theorem readOn_endTag (text : List Char) (children : List Element) (parent : Open)
    (outer : List Open) (rest : List Char) :
    readOn (⟨name.toList, text, children⟩ :: parent :: outer) (endTag name ++ rest) =
      readOn (parent.addChildren [⟨name, String.ofList text, children⟩] :: outer) rest := by
  have closed : (Open.mk name.toList text children).close =
      ⟨name, String.ofList text, children⟩ := by
    simp [Open.close]
  rw [readOn, pieces_endTag valid, List.foldlM_cons, readPiece, if_pos rfl, closed]
  rfl

omit valid

/-! ### Written text -/

theorem pieces_escape {text : List Char} (nonempty : text ≠ []) (rest : List Char) :
    pieces (escape text ++ '<' :: rest) = .text (escape text) :: pieces ('<' :: rest) := by
  have plain : '<' ∉ escape text := by
    intro less
    have := List.all_eq_true.mp (all_isTextChar_escape text) '<' less
    simp [isTextChar] at this
  exact pieces_text (escape_ne_nil nonempty) plain (by simp [Stops])

/-- Escaped text up to the next tag is read as the text itself. -/
theorem readOn_escape (current : Open) (outer : List Open) (text rest : List Char) :
    readOn (current :: outer) (escape text ++ '<' :: rest) =
      readOn (current.addText text :: outer) ('<' :: rest) := by
  by_cases nonempty : text = []
  · simp [nonempty]
  · rw [readOn, pieces_escape nonempty, List.foldlM_cons, readPiece, unescape_escape]
    rfl

end Element

end RiskScreen
