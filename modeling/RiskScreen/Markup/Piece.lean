import RiskScreen.Text.Blank

/-!
# Pieces of markup

A body is cut into pieces: runs of text, tags, and what stands aside (comments, character
data sections, processing instructions, declarations). The cutting goes on to the first
place where it cannot; that place is the last piece and carries the reason.
-/

namespace RiskScreen

/-- Why a body is not read as markup. -/
inductive MarkupError where
  | tagNotClosed
  | unknownMarkup
  | instructionNotClosed
  | commentNotClosed
  | doctypeNotClosed
  | dataNotClosed
  | doctypeWithoutName
  | startNotClosed (name : String)
  | endWithoutStart (name : String)
  | endMismatch (expected found : String)
  deriving DecidableEq, Repr

/-- The text shown for a body that is not read. -/
def MarkupError.message : MarkupError → String
  | tagNotClosed => "syntax error: tag not closed: `>` not found before end of input"
  | unknownMarkup => "syntax error: unknown or missed symbol in markup"
  | instructionNotClosed =>
      "syntax error: processing instruction or xml declaration not closed: `?>` not found " ++
        "before end of input"
  | commentNotClosed => "syntax error: comment not closed: `-->` not found before end of input"
  | doctypeNotClosed => "syntax error: DOCTYPE not closed: `>` not found before end of input"
  | dataNotClosed => "syntax error: CDATA not closed: `]]>` not found before end of input"
  | doctypeWithoutName =>
      "ill-formed document: `<!DOCTYPE>` declaration does not contain a name of a document type"
  | startNotClosed name =>
      "ill-formed document: start tag not closed: `</" ++ name ++
        ">` not found before end of input"
  | endWithoutStart name =>
      "ill-formed document: close tag `</" ++ name ++ ">` does not match any open tag"
  | endMismatch expected found =>
      "ill-formed document: expected `</" ++ expected ++ ">`, but `</" ++ found ++
        ">` was found"

namespace Markup

/-- A piece of a body. Tags carry what stands between their delimiters. -/
inductive Piece where
  /-- Characters up to the next `<`. -/
  | text (chars : List Char)
  /-- `<content>` -/
  | opening (content : List Char)
  /-- `<content/>` -/
  | empty (content : List Char)
  /-- `</content>` -/
  | closing (content : List Char)
  /-- `<content>` for a comment, a data section, an instruction or a declaration. -/
  | aside (content : List Char)
  /-- Nothing can be read here. -/
  | fault (cause : MarkupError)
  deriving DecidableEq, Repr

/-- The characters a piece was cut from. -/
def Piece.source : Piece → List Char
  | text chars => chars
  | opening content => '<' :: content ++ ['>']
  | empty content => '<' :: content ++ ['/', '>']
  | closing content => '<' :: '/' :: content ++ ['>']
  | aside content => '<' :: content ++ ['>']
  | fault _ => []

/-- Where the scanning of a tag stands with respect to quotes. -/
inductive Quoting where
  | outside
  | within (quote : Char)
  deriving DecidableEq, Repr

/-- The quoting after `c`. -/
def Quoting.next (c : Char) : Quoting → Quoting
  | outside => if c = '\'' || c = '"' then within c else outside
  | within quote => if c = quote then outside else within quote

/-- What stands before the first `>` outside quotes, and what follows it. -/
def upToTagEnd (quoting : Quoting) : List Char → Option (List Char × List Char)
  | [] => none
  | c :: rest =>
      if quoting = .outside && c = '>' then some ([], rest)
      else
        match upToTagEnd (quoting.next c) rest with
        | none => none
        | some (content, after) => some (c :: content, after)

/-- What stands before the first `>` at which `closes` holds of the reversed characters
before it, and what follows it. `reversed` holds the characters already passed. -/
def upToClose (closes : List Char → Bool) (reversed : List Char) :
    List Char → Option (List Char × List Char)
  | [] => none
  | c :: rest =>
      if c = '>' && closes reversed then some (reversed.reverse, rest)
      else upToClose closes (c :: reversed) rest

/-- Whether a comment may close here: `--` comes right before, and does not overlap the `--`
that opens it. -/
def closesComment : List Char → Bool
  | '-' :: '-' :: _ :: _ :: _ :: _ => true
  | _ => false

/-- Whether a data section may close here. -/
def closesData : List Char → Bool
  | ']' :: ']' :: _ => true
  | _ => false

/-- Whether a document type declaration may close here: every `<` in it has its `>`. -/
def closesDoctype (reversed : List Char) : Bool :=
  reversed.count '<' = reversed.count '>'

/-- Whether an instruction may close here. -/
def closesInstruction : List Char → Bool
  | '?' :: _ => true
  | _ => false

/-- A piece cut off the front, and what follows it. A fault leaves nothing. -/
abbrev Cut := Piece × List Char

/-- The cut at a place where nothing can be read. -/
def faulty (cause : MarkupError) : Cut :=
  (.fault cause, [])

/-- Cuts off what stands aside, up to its close. A content that `accept` refuses gives the
fault it names. -/
def cutAside (closes : List Char → Bool) (unclosed : MarkupError)
    (refusal : List Char → Option MarkupError) (text : List Char) : Cut :=
  match upToClose closes [] text with
  | none => faulty unclosed
  | some (content, after) =>
      match refusal content with
      | some cause => faulty cause
      | none => (.aside content, after)

/-- Why a closed comment is none: it has to begin with `!--`. -/
def commentRefusal (content : List Char) : Option MarkupError :=
  if "!--".toList.isPrefixOf content then none else some .commentNotClosed

/-- Why a closed data section is none: it has to begin with `![CDATA[`. -/
def dataRefusal (content : List Char) : Option MarkupError :=
  if "![CDATA[".toList.isPrefixOf content then none else some .dataNotClosed

/-- Why a closed document type declaration is none: it has to begin with `!doctype` in any
letter case, and name a type. -/
def doctypeRefusal (content : List Char) : Option MarkupError :=
  if (content.take 8).map Char.toLower ≠ "!doctype".toList then some .doctypeNotClosed
  else if (content.drop 8).all Text.isPlainSpace then some .doctypeWithoutName
  else none

/-- Why a closed instruction is none: `<?>` has no room for its two question marks. -/
def instructionRefusal (content : List Char) : Option MarkupError :=
  if content.length < 2 then some .instructionNotClosed else none

/-- Cuts off the markup that `!` begins. -/
def cutBang : List Char → Cut
  | '!' :: '[' :: rest => cutAside closesData .dataNotClosed dataRefusal ('!' :: '[' :: rest)
  | '!' :: '-' :: rest =>
      cutAside closesComment .commentNotClosed commentRefusal ('!' :: '-' :: rest)
  | '!' :: 'D' :: rest =>
      cutAside closesDoctype .doctypeNotClosed doctypeRefusal ('!' :: 'D' :: rest)
  | '!' :: 'd' :: rest =>
      cutAside closesDoctype .doctypeNotClosed doctypeRefusal ('!' :: 'd' :: rest)
  | _ => faulty .unknownMarkup

/-- The piece of a tag with this content. -/
def tagPiece (content : List Char) : Piece :=
  if content.getLast? = some '/' then .empty content.dropLast else .opening content

/-- Cuts off the markup after a `<`. -/
def cutMarkup (text : List Char) : Cut :=
  match text with
  | [] => faulty .tagNotClosed
  | '!' :: _ => cutBang text
  | '?' :: _ =>
      cutAside closesInstruction .instructionNotClosed instructionRefusal text
  | '/' :: rest =>
      match upToTagEnd .outside rest with
      | none => faulty .tagNotClosed
      | some (content, after) => (.closing content, after)
  | _ =>
      match upToTagEnd .outside text with
      | none => faulty .tagNotClosed
      | some (content, after) => (tagPiece content, after)

/-- Whether `c` is part of a run of text. -/
def isTextChar (c : Char) : Bool :=
  c ≠ '<'

theorem length_upToTagEnd {quoting : Quoting} {text content after : List Char}
    (h : upToTagEnd quoting text = some (content, after)) : after.length < text.length := by
  fun_induction upToTagEnd quoting text generalizing content with
  | case1 => simp at h
  | case2 quoting c rest _ => simp_all
  | case3 => simp at h
  | case4 quoting c rest _ content' after' eq ih =>
      simp only [Option.some.injEq, Prod.mk.injEq] at h
      obtain ⟨_, rfl⟩ := h
      have := ih eq
      simp only [List.length_cons]
      omega

theorem length_upToClose {closes : List Char → Bool} {reversed text content after : List Char}
    (h : upToClose closes reversed text = some (content, after)) :
    after.length < text.length := by
  fun_induction upToClose closes reversed text with
  | case1 => simp at h
  | case2 reversed c rest _ => simp_all
  | case3 reversed c rest _ ih =>
      have := ih h
      simp only [List.length_cons]
      omega

theorem length_cutAside (closes : List Char → Bool) (unclosed : MarkupError)
    (refusal : List Char → Option MarkupError) (text : List Char) :
    (cutAside closes unclosed refusal text).2.length ≤ text.length := by
  unfold cutAside
  split
  · simp [faulty]
  · rename_i content after eq
    have := length_upToClose eq
    split
    · simp [faulty]
    · simp only
      omega

theorem length_cutBang (text : List Char) : (cutBang text).2.length ≤ text.length := by
  unfold cutBang
  split <;> first | exact length_cutAside _ _ _ _ | simp [faulty]

theorem length_cutMarkup (text : List Char) : (cutMarkup text).2.length ≤ text.length := by
  unfold cutMarkup
  split
  · simp [faulty]
  · exact length_cutBang _
  · exact length_cutAside _ _ _ _
  · split
    · simp [faulty]
    · rename_i content after eq
      have := length_upToTagEnd eq
      simp only [List.length_cons]
      omega
  · split
    · simp [faulty]
    · rename_i content after eq
      have := length_upToTagEnd eq
      simp only
      omega

/-- The pieces of a body, up to the first fault. -/
def pieces (text : List Char) : List Piece :=
  match text with
  | [] => []
  | c :: rest =>
      if c = '<' then (cutMarkup rest).1 :: pieces (cutMarkup rest).2
      else .text (c :: rest.takeWhile isTextChar) :: pieces (rest.dropWhile isTextChar)
termination_by text.length
decreasing_by
  · have := length_cutMarkup rest
    simp only [List.length_cons]
    omega
  · have := (List.dropWhile_suffix isTextChar (l := rest)).length_le
    simp only [List.length_cons]
    omega

/-- The name at the front of a tag. -/
def tagName (content : List Char) : List Char :=
  content.takeWhile fun c => !Text.isPlainSpace c

/-- The name in a closing tag: white space after it does not count, unless there is nothing
else. -/
def closingName (content : List Char) : List Char :=
  let name := Text.dropEndWhile Text.isPlainSpace content
  if name.isEmpty then content else name

end Markup

end RiskScreen
