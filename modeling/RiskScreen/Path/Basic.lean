/-!
# Property paths

A path names a place in a scoring request. Its segments are plain fields, or positions in a
repeated group such as `orderDetail[1]`. This file holds the segments and the causes for
which a path, or a write along it, is refused.
-/

namespace RiskScreen

namespace Path

/-- The largest position a group index may name. -/
def maxIndex : Nat := 1000

/-- One step of a path. -/
inductive Segment where
  /-- The child with this name. -/
  | field (name : String)
  /-- The item at this position of the group that the segment before it names. -/
  | indexed (name : String) (index : Nat)
  deriving DecidableEq, Repr, Inhabited

/-- The name a segment carries. -/
def Segment.name : Segment → String
  | .field name => name
  | .indexed name _ => name

/-- The three shapes a place in a request can have. -/
inductive Shape where
  | value
  | object
  | group
  deriving DecidableEq, Repr

/-- The words by which messages call a shape. -/
def Shape.label : Shape → String
  | .value => "value"
  | .object => "object"
  | .group => "repeated group"

end Path

/-- Why a path, or a write along it, is refused. -/
inductive PathError where
  | empty
  | emptySegment (path : String) (position : Nat)
  | malformedSegment (path segment : String)
  | indexTooLarge (path : String) (index : Nat)
  | invalidName (path segment : String)
  | danglingIndex (path segment : String)
  | shapeConflict (path field : String) (found wanted : Path.Shape)
  | itemNameConflict (path field expected found : String)
  deriving DecidableEq, Repr

namespace PathError

/-- The text shown for a refused path. -/
def message : PathError → String
  | empty => "empty path"
  | emptySegment path position =>
      "empty segment at position " ++ toString position ++ " in `" ++ path ++ "`"
  | malformedSegment path segment =>
      "malformed segment `" ++ segment ++ "` in `" ++ path ++ "`"
  | indexTooLarge path index =>
      "index " ++ toString index ++ " in `" ++ path ++ "` exceeds the limit of " ++
        toString Path.maxIndex
  | invalidName path segment =>
      "`" ++ segment ++ "` in `" ++ path ++ "` is not a valid element name"
  | danglingIndex path segment =>
      "indexed segment `" ++ segment ++ "` in `" ++ path ++
        "` is not preceded by a group name"
  | shapeConflict path field found wanted =>
      "`" ++ field ++ "` in `" ++ path ++ "` already holds a " ++ found.label ++
        ", cannot use it as a " ++ wanted.label
  | itemNameConflict path field expected found =>
      "group `" ++ field ++ "` in `" ++ path ++ "` holds `" ++ expected ++
        "` items, not `" ++ found ++ "`"

end PathError

end RiskScreen
