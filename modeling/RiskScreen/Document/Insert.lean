import RiskScreen.Document.Basic
import RiskScreen.Path.Reader

/-!
# Writing a value at a path

A write walks down the first transaction, making objects and groups where none are, and sets
the value at the end. It stops at the first place whose shape the path contradicts; what it
has prepared up to there stays. The result therefore pairs the document as it stands with
the reason for stopping.
-/

namespace RiskScreen

namespace Fields

/-- Stores what a write below `name` left behind. -/
def settle (fields : Fields) (name : String) (wrap : Fields → Node)
    (below : Fields × Option PathError) : Fields × Option PathError :=
  (put name (wrap below.1) fields, below.2)

/-- Writes `value` at `name` and the segments after it. `path` is the text for messages. -/
def insertAt (path : String) (value : Option String) :
    String → List Path.Segment → Fields → Fields × Option PathError
  | name, [], fields => (put name (.value value) fields, none)
  | name, .indexed child index :: rest, fields =>
      match (find? name fields).getD (.group child []) with
      | .group item slots =>
          if item = child then
            let grown := Slots.grow (index + 1) slots
            settle fields name (fun slot => .group item (grown.set index slot))
              (insertAt path value child rest (grown[index]?.getD []))
          else (fields, some (.itemNameConflict path name item child))
      | other => (fields, some (.shapeConflict path name other.shape .group))
  | name, .field child :: rest, fields =>
      match (find? name fields).getD (.object []) with
      | .object inner => settle fields name .object (insertAt path value child rest inner)
      | other => (fields, some (.shapeConflict path name other.shape .object))

end Fields

namespace Document

/-- The first transaction, or an empty one where there is none yet. -/
def firstTransaction (document : Document) : Fields :=
  document.transactions.head?.getD []

/-- The document with its first transaction replaced, or with it as the only one. -/
def setFirstTransaction (document : Document) (fields : Fields) : Document :=
  ⟨fields :: document.transactions.tail⟩

/-- Writes `value` at the segments of a path that has been read. -/
def insertSegments (path : String) (value : Option String) (document : Document) :
    List Path.Segment → Document × Option PathError
  | [] => (document, some .empty)
  | head :: rest =>
      let written := Fields.insertAt path value head.name rest document.firstTransaction
      (document.setFirstTransaction written.1, written.2)

/-- Writes `value` at `path`. A path that cannot be read changes nothing. -/
def insert (document : Document) (path : String) (value : Option String) :
    Document × Option PathError :=
  match Path.read path with
  | .error e => (document, some e)
  | .ok segments => insertSegments path value document segments

end Document

end RiskScreen
