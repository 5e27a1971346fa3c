import RiskScreen.Json.Token

/-!
# JSON as it is read

A text is read into a draft: a value in which places that cannot be read are marked. A
reader walks over the draft in the order of the text and reports the first mark it comes to,
unless it objects to the shape of the value before.
-/

namespace RiskScreen.Json

/-- How a list of items or members ends. -/
inductive Ending where
  | closed
  /-- The next thing is neither a comma nor the closing bracket. -/
  | broken (cause : TextFault)
  deriving DecidableEq, Repr

/-- A value as it is read. Member names are drafts too. -/
inductive Draft where
  | null
  | bool (b : Bool)
  | number (numeral : Numeral)
  | text (content : Except TextFault String)
  | array (items : List Draft) (ending : Ending)
  | object (members : List (Draft × Draft)) (ending : Ending)
  | broken (place : Break)
  deriving Repr, Inhabited

/-- A list that is being read, with what it holds so far in reverse. -/
inductive Frame where
  | array (items : List Draft)
  | object (members : List (Draft × Draft)) (name : Draft)

/-- The list around a value that is its last part. -/
def Frame.finish (value : Draft) (ending : Ending) : Frame → Draft
  | array items => .array (value :: items).reverse ending
  | object members name => .object ((name, value) :: members).reverse ending

/-- The outermost value, when nothing more can be read inside the innermost. -/
def unwind (value : Draft) (ending : Ending) (frames : List Frame) : Draft :=
  frames.foldl (fun inner frame => frame.finish inner ending) value

/-- The outermost value, when the innermost one is a place that cannot be read. -/
def unwindBreak (place : Break) (frames : List Frame) : Draft :=
  unwind (.broken place) (.broken place.reading) frames

/-- The object around the frames, when its next member has no readable name. -/
def unwindName (place : Break) (members : List (Draft × Draft)) (frames : List Frame) : Draft :=
  unwindBreak place (.object members (.broken place) :: frames)

/-- The value of a word. -/
def wordDraft : Option Bool → Draft
  | none => .null
  | some b => .bool b

mutual

/-- Reads a value inside `frames`. `first` holds right after an opening bracket, where the
list may close. -/
def draftValue (first : Bool) (frames : List Frame) : List Token → Draft × List Token
  | [] => (unwindBreak .cut frames, [])
  | .word value :: rest => draftAfter frames (wordDraft value) rest
  | .number numeral :: rest => draftAfter frames (.number numeral) rest
  | .text content :: rest => draftAfter frames (.text content) rest
  | .openArray :: rest => draftValue true (.array [] :: frames) rest
  | .openObject :: rest => draftName true [] frames rest
  | .closeArray :: rest =>
      match first, frames with
      | true, .array [] :: outer => draftAfter outer (.array [] .closed) rest
      | _, _ => (unwindBreak .malformed frames, [])
  | .openText place :: _ => (unwindBreak place frames, [])
  | .broken place :: _ => (unwindBreak place frames, [])
  | .closeObject :: _ => (unwindBreak .malformed frames, [])
  | .colon :: _ => (unwindBreak .malformed frames, [])
  | .comma :: _ => (unwindBreak .malformed frames, [])

/-- Reads the name of a member, its colon, and on. `first` holds right after the opening
brace, where the object may close. -/
def draftName (first : Bool) (members : List (Draft × Draft)) (frames : List Frame) :
    List Token → Draft × List Token
  | [] => (unwindName .cut members frames, [])
  | .text name :: .colon :: rest =>
      draftValue false (.object members (.text name) :: frames) rest
  | [.text name] => (unwindBreak .cut (.object members (.text name) :: frames), [])
  | .text name :: _ :: _ =>
      (unwindBreak .malformed (.object members (.text name) :: frames), [])
  | .openText place :: _ => (unwindName place members frames, [])
  | .closeObject :: rest =>
      if first then draftAfter frames (.object [] .closed) rest
      else (unwindName .malformed members frames, [])
  | _ :: _ => (unwindName .malformed members frames, [])

/-- Reads on after a value: the next item or member, or the end of the list. -/
def draftAfter : List Frame → Draft → List Token → Draft × List Token
  | [], value, rest => (value, rest)
  | .array items :: outer, value, .comma :: rest =>
      draftValue false (.array (value :: items) :: outer) rest
  | .array items :: outer, value, .closeArray :: rest =>
      draftAfter outer (.array (value :: items).reverse .closed) rest
  | .object members name :: outer, value, .comma :: rest =>
      draftName false ((name, value) :: members) outer rest
  | .object members name :: outer, value, .closeObject :: rest =>
      draftAfter outer (.object ((name, value) :: members).reverse .closed) rest
  | frames, value, [] => (unwind value (.broken .cut) frames, [])
  | frames, value, _ :: _ => (unwind value (.broken .malformed) frames, [])

end

/-- The first value of a text, and the tokens after it. -/
def draft (text : List Char) : Draft × List Token :=
  draftValue false [] (tokens text)

mutual

/-- The first mark in a value that is passed over. What is inside texts and numbers is not
looked at. -/
def Draft.skip : Draft → Option TextFault
  | .null => none
  | .bool _ => none
  | .number _ => none
  | .text _ => none
  | .broken place => some place.skipping
  | .array items ending => skipItems ending items
  | .object members ending => skipMembers ending members

/-- The first mark in items that are passed over, or at their end. -/
def skipItems (ending : Ending) : List Draft → Option TextFault
  | [] =>
      match ending with
      | .closed => none
      | .broken cause => some cause
  | item :: items =>
      match item.skip with
      | some fault => some fault
      | none => skipItems ending items

/-- The first mark in members that are passed over, or at their end. -/
def skipMembers (ending : Ending) : List (Draft × Draft) → Option TextFault
  | [] =>
      match ending with
      | .closed => none
      | .broken cause => some cause
  | (name, value) :: members =>
      match name.skip with
      | some fault => some fault
      | none =>
          match value.skip with
          | some fault => some fault
          | none => skipMembers ending members

end

end RiskScreen.Json
