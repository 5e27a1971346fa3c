import RiskScreen.Path.Basic
import RiskScreen.Path.Name
import RiskScreen.Text.Digits
import RiskScreen.Text.Split

/-!
# Reading a path

A path is cut at `->` into pieces, each piece is classified on its own, and the leftmost
faulty piece decides the error. A path whose first segment is indexed is refused last, when
every piece is in order.
-/

namespace RiskScreen.Path

/-- What can be wrong with one piece of a path. -/
inductive PieceFault where
  | empty
  | malformed
  | tooLarge (index : Nat)
  | badName (name : String)
  deriving DecidableEq, Repr

/-- A piece without brackets, or the name before them, as an element name. -/
def checkName (name : List Char) : Except PieceFault String :=
  if isNameText name then .ok (String.ofList name) else .error (.badName (String.ofList name))

/-- The text between `[` and a final `]`, when it has that form. -/
def bracketed (text : List Char) : Option (List Char) :=
  if text.getLast? = some ']' then some text.dropLast else none

/-- Reads the part of a piece after its first `[`. -/
def readIndexed (name afterBracket : List Char) : Except PieceFault Segment :=
  match bracketed afterBracket with
  | none => .error .malformed
  | some digits =>
      if name.isEmpty || !Text.isDigitRun digits then .error .malformed
      else if maxIndex < Text.digitsValue digits then
        .error (.tooLarge (min (Text.digitsValue digits) Text.maxWord64))
      else
        match checkName name with
        | .error fault => .error fault
        | .ok checked => .ok (.indexed checked (Text.digitsValue digits))

/-- Reads one piece between two delimiters. -/
def readPiece (piece : List Char) : Except PieceFault Segment :=
  if piece.isEmpty then .error .empty
  else
    match piece.dropWhile (· ≠ '[') with
    | _ :: afterBracket => readIndexed (piece.takeWhile (· ≠ '[')) afterBracket
    | [] =>
        if piece.contains ']' then .error .malformed
        else
          match checkName piece with
          | .error fault => .error fault
          | .ok name => .ok (.field name)

/-- The error for a faulty piece at `position` of `path`. -/
def PieceFault.toError (path : String) (position : Nat) (piece : List Char) :
    PieceFault → PathError
  | .empty => .emptySegment path position
  | .malformed => .malformedSegment path (String.ofList piece)
  | .tooLarge index => .indexTooLarge path index
  | .badName name => .invalidName path name

/-- Reads the pieces from `position` on; the leftmost faulty one decides. -/
def readPieces (path : String) : Nat → List (List Char) → Except PathError (List Segment)
  | _, [] => .ok []
  | position, piece :: pieces =>
      match readPiece piece with
      | .error fault => .error (fault.toError path position piece)
      | .ok segment =>
          match readPieces path (position + 1) pieces with
          | .error e => .error e
          | .ok segments => .ok (segment :: segments)

/-- Reads a path. -/
def read (path : String) : Except PathError (List Segment) :=
  if path.toList.isEmpty then .error .empty
  else
    let pieces := Text.splitArrow path.toList
    match readPieces path 0 pieces with
    | .ok (.indexed _ _ :: _) => .error (.danglingIndex path (String.ofList (pieces.headD [])))
    | result => result

end RiskScreen.Path
