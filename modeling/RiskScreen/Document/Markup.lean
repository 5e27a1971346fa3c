import RiskScreen.Document.Basic
import RiskScreen.Markup.Escape
import RiskScreen.Path.Name

/-!
# A request document as markup

The root element `transactions` holds one `transaction` per transaction. An object is an
element around its children, a value an element around its escaped text. A group is an
element around its slots; the children of a slot stand there directly, and an empty slot is
an empty element with the item name. Names are checked where they are written.
-/

namespace RiskScreen

/-- A name that cannot be written as an element. -/
structure NameError where
  name : String
  deriving DecidableEq, Repr

/-- The text shown for a name that cannot be written. -/
def NameError.message (e : NameError) : String :=
  "`" ++ e.name ++ "` is not a valid element name"

namespace Markup

/-- The written form of a start tag. -/
def startTag (name : String) : List Char :=
  '<' :: name.toList ++ ['>']

/-- The written form of an end tag. -/
def endTag (name : String) : List Char :=
  '<' :: '/' :: name.toList ++ ['>']

/-- The written form of an empty element. -/
def emptyTag (name : String) : List Char :=
  '<' :: name.toList ++ ['/', '>']

/-- An empty element, if the name can be written. -/
def emptyElement (name : String) : Except NameError (List Char) :=
  if Path.isElementName name then .ok (emptyTag name) else .error ⟨name⟩

/-- An element around `content`. The name is looked at before the content. -/
def element (name : String) (content : Except NameError (List Char)) :
    Except NameError (List Char) :=
  if Path.isElementName name then
    match content with
    | .error e => .error e
    | .ok inner => .ok (startTag name ++ inner ++ endTag name)
  else .error ⟨name⟩

/-- One piece of content after another. -/
def followedBy (first second : Except NameError (List Char)) : Except NameError (List Char) :=
  match first with
  | .error e => .error e
  | .ok front =>
      match second with
      | .error e => .error e
      | .ok back => .ok (front ++ back)

end Markup

open Markup

mutual

/-- The element `name` with the content of a node. -/
def Node.markup (name : String) : Node → Except NameError (List Char)
  | .value none => emptyElement name
  | .value (some text) => element name (.ok (escape text.toList))
  | .object [] => emptyElement name
  | .object (field :: fields) => element name (Fields.markup (field :: fields))
  | .group _ [] => emptyElement name
  | .group item (slot :: slots) => element name (Slots.markup item (slot :: slots))

/-- The children of an object, one after another. -/
def Fields.markup : List (String × Node) → Except NameError (List Char)
  | [] => .ok []
  | (name, node) :: rest => followedBy (Node.markup name node) (Fields.markup rest)

/-- The slots of a group, one after another. -/
def Slots.markup (item : String) : List (List (String × Node)) → Except NameError (List Char)
  | [] => .ok []
  | [] :: rest => followedBy (emptyElement item) (Slots.markup item rest)
  | (field :: fields) :: rest =>
      followedBy (Fields.markup (field :: fields)) (Slots.markup item rest)

end

namespace Document

/-- The name of the root element. -/
def rootName : String := "transactions"

/-- The name of the element of one transaction. -/
def transactionName : String := "transaction"

/-- The transactions, one after another. -/
def transactionsMarkup : List Fields → Except NameError (List Char)
  | [] => .ok []
  | transaction :: rest =>
      followedBy (Node.markup transactionName (.object transaction)) (transactionsMarkup rest)

/-- The characters of a document. -/
def markup (document : Document) : Except NameError (List Char) :=
  match document.transactions with
  | [] => emptyElement rootName
  | transaction :: rest => element rootName (transactionsMarkup (transaction :: rest))

/-- The text of a document. -/
def render (document : Document) : Except NameError String :=
  match document.markup with
  | .error e => .error e
  | .ok text => .ok (String.ofList text)

end Document

end RiskScreen
