import RiskScreen.Markup.Entity
import RiskScreen.Markup.Piece
import RiskScreen.Scoring.Error
import RiskScreen.Scoring.Verdict

/-!
# Reading a scoring response

Of a response body only the first root element counts: its name, its direct children with
their raw content, and the last run of text directly in it. From these a root
`transaction-results` gives a verdict and any other root an error of the vendor.
-/

namespace RiskScreen

namespace Response

open Markup

/-- A direct child of the root. An empty-element tag has no content. -/
structure Child where
  name : List Char
  content : Option (List Char)
  deriving DecidableEq, Repr

/-- What is read of a body. -/
structure Outline where
  /-- The name of the first root element. -/
  root : Option (List Char) := none
  /-- Its direct children, in document order. -/
  children : List Child := []
  /-- The last run of text directly in the root, unescaped and trimmed. -/
  text : Option (List Char) := none
  deriving DecidableEq, Repr

/-- Why a body has no outline. -/
inductive Fault where
  | markup (cause : MarkupError)
  | entity (cause : EntityError)
  deriving DecidableEq, Repr

/-- The text shown for a fault. -/
def Fault.message : Fault → String
  | markup cause => cause.message
  | entity cause => cause.message

/-- Compares the name of an end tag with the one that is expected. -/
def checkEnd (expected content : List Char) : Except Fault Unit :=
  if closingName content = expected then .ok ()
  else .error (.markup (.endMismatch (String.ofList expected)
    (String.ofList (closingName content))))

/-- The outline with one more run of text directly in the root. A run of plain spaces alone
is none. -/
def Outline.addText (outline : Outline) (chars : List Char) : Except Fault Outline :=
  let trimmed := Text.trimPlain chars
  if trimmed.isEmpty then .ok outline
  else
    match unescape trimmed with
    | .error e => .error (.entity e)
    | .ok text => .ok { outline with text := some (Text.trim text) }

/-- The outline with one more child. -/
def Outline.addChild (outline : Outline) (name : List Char) (content : Option (List Char)) :
    Outline :=
  { outline with children := outline.children ++ [⟨name, content⟩] }

mutual

/-- Reads on directly in the root element `root`. -/
def readRoot (root : List Char) (outline : Outline) : List Piece → Except Fault Outline
  | [] => .ok outline
  | .text chars :: rest =>
      match outline.addText chars with
      | .error e => .error e
      | .ok next => readRoot root next rest
  | .opening content :: rest => readChild root outline (tagName content) [] [] rest
  | .empty content :: rest => readRoot root (outline.addChild (tagName content) none) rest
  | .closing content :: _ =>
      match checkEnd root content with
      | .error e => .error e
      | .ok () => .ok outline
  | .aside _ :: rest => readRoot root outline rest
  | .fault cause :: _ => .error (.markup cause)

/-- Reads on in the child `name` of the root, below the elements `opened` (innermost first)
and after the characters `content`. -/
def readChild (root : List Char) (outline : Outline) (name : List Char)
    (opened : List (List Char)) (content : List Char) : List Piece → Except Fault Outline
  | [] => .error (.markup (.startNotClosed (String.ofList name)))
  | .text chars :: rest => readChild root outline name opened (content ++ chars) rest
  | .opening inner :: rest =>
      readChild root outline name (tagName inner :: opened)
        (content ++ (Piece.opening inner).source) rest
  | .empty inner :: rest =>
      readChild root outline name opened (content ++ (Piece.empty inner).source) rest
  | .closing inner :: rest =>
      match opened with
      | [] =>
          match checkEnd name inner with
          | .error e => .error e
          | .ok () => readRoot root (outline.addChild name (some (Text.trim content))) rest
      | innermost :: outer =>
          match checkEnd innermost inner with
          | .error e => .error e
          | .ok () =>
              readChild root outline name outer (content ++ (Piece.closing inner).source) rest
  | .aside inner :: rest =>
      readChild root outline name opened (content ++ (Piece.aside inner).source) rest
  | .fault cause :: _ => .error (.markup cause)

end

/-- Looks for the root element. -/
def readProlog : List Piece → Except Fault Outline
  | [] => .ok {}
  | .text _ :: rest => readProlog rest
  | .opening content :: rest =>
      readRoot (tagName content) { root := some (tagName content) } rest
  | .empty content :: _ => .ok { root := some (tagName content) }
  | .closing content :: _ =>
      .error (.markup (.endWithoutStart (String.ofList (closingName content))))
  | .aside _ :: rest => readProlog rest
  | .fault cause :: _ => .error (.markup cause)

/-- The text without a leading byte order mark. -/
def dropByteOrderMark : List Char → List Char
  | '\uFEFF' :: rest => rest
  | text => text

/-- The outline of a body. -/
def outline (body : List Char) : Except Fault Outline :=
  readProlog (pieces (dropByteOrderMark body))

/-- The name of the root element of a verdict. -/
def verdictRoot : List Char := "transaction-results".toList

/-- The parts of a verdict that a child can set. -/
inductive Part where
  | transactionId
  | crossReference
  | rulesTripped
  | totalScore
  | recommendationCode
  | remarks
  | responseData
  deriving DecidableEq, Repr

/-- The element names of the parts. -/
def Part.names : List (String × Part) :=
  [("transaction-id", .transactionId), ("cross-reference", .crossReference),
    ("rules-tripped", .rulesTripped), ("total-score", .totalScore),
    ("recommendation-code", .recommendationCode), ("remarks", .remarks),
    ("responseData", .responseData)]

/-- The part that a child of this name sets. -/
def Part.ofName? (name : List Char) : Option Part :=
  Part.names.lookup (String.ofList name)

/-- The text of a part: the data of the response as it stands, all else unescaped. -/
def Part.text (part : Part) (content : List Char) : Except EntityError (List Char) :=
  if part = .responseData then .ok content else unescape content

/-- The verdict with one part set. -/
def Part.set (part : Part) (text : String) (verdict : Verdict) : Verdict :=
  match part with
  | .transactionId => { verdict with transactionId := some text }
  | .crossReference => { verdict with crossReference := some text }
  | .rulesTripped => { verdict with rulesTripped := some text }
  | .totalScore => { verdict with totalScore := some text }
  | .recommendationCode => { verdict with recommendationCode := some text }
  | .remarks => { verdict with remarks := some text }
  | .responseData => { verdict with responseData := some text }

/-- The content of a child that has some. -/
def Child.content? (child : Child) : Option (List Char) :=
  child.content.filter fun content => !content.isEmpty

/-- The verdict after one more child. A child without content, or of another name, changes
nothing. -/
def applyChild (verdict : Verdict) (child : Child) : Except EntityError Verdict :=
  match child.content?, Part.ofName? child.name with
  | some content, some part =>
      match part.text content with
      | .error e => .error e
      | .ok text => .ok (part.set (String.ofList text) verdict)
  | _, _ => .ok verdict

/-- The verdict that the children of a root give, starting from `verdict`. -/
def applyChildren (verdict : Verdict) : List Child → Except EntityError Verdict
  | [] => .ok verdict
  | child :: rest =>
      match applyChild verdict child with
      | .error e => .error e
      | .ok next => applyChildren next rest

/-- The name of the child that carries a vendor's message. -/
def messageName : List Char := "message".toList

/-- The message of a root that is no verdict: the content of its first child `message`, or
else its text. -/
def Outline.message (outline : Outline) : Except EntityError (Option (List Char)) :=
  match (outline.children.find? fun child => child.name = messageName).bind Child.content with
  | some content =>
      match unescape content with
      | .error e => .error e
      | .ok text => .ok (some text)
  | none => .ok outline.text

/-- The verdict, or the reason for none, that an outline amounts to. -/
def Outline.verdict (outline : Outline) : Except ScoringError Verdict :=
  match outline.root with
  | none => .error (.parse "empty response body")
  | some root =>
      if root = verdictRoot then
        match applyChildren {} outline.children with
        | .error e => .error (.parse e.message)
        | .ok verdict => .ok verdict
      else
        match outline.message with
        | .error e => .error (.parse e.message)
        | .ok text? =>
            match text?.filter fun text => !text.isEmpty with
            | some text => .error (.vendor (String.ofList text))
            | none =>
                .error (.parse ("unexpected root element `" ++ String.ofList root ++ "`"))

end Response

/-- The verdict in the body of a scoring response. -/
def readVerdict (body : String) : Except ScoringError Verdict :=
  match Response.outline body.toList with
  | .error e => .error (.parse e.message)
  | .ok outline => outline.verdict

end RiskScreen
