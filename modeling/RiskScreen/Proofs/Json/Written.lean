import RiskScreen.Json.Draft
import RiskScreen.Proofs.Json.Scan

/-!
# Written values are read back

The text of a value is read as the draft of that value: whole, without marks, and with its members
and items in their order. So nothing in it can be objected to by whoever passes over it.
-/

namespace RiskScreen.Json

mutual

/-- The draft of a value. -/
def Draft.ofJson : Json → Draft
  | .null => .null
  | .bool b => .bool b
  | .number n => .number (Numeral.ofInt n)
  | .text s => .text (.ok s)
  | .array items => .array (Draft.ofItems items) .closed
  | .object members => .object (Draft.ofMembers members) .closed

/-- The drafts of the items of a list. -/
def Draft.ofItems : List Json → List Draft
  | [] => []
  | item :: items => Draft.ofJson item :: Draft.ofItems items

/-- The drafts of the members of an object. -/
def Draft.ofMembers : List (String × Json) → List (Draft × Draft)
  | [] => []
  | (name, value) :: members =>
      (.text (.ok name), Draft.ofJson value) :: Draft.ofMembers members

end

namespace Draft

/-! ### What follows a value in a list -/

theorem endsNumber_writeItems (items : List Json) (rest : List Char) :
    EndsNumber (writeItems items ++ rest) := by
  cases items <;> simp [writeItems, EndsNumber]

theorem endsNumber_writeMembers (members : List (String × Json)) (rest : List Char) :
    EndsNumber (writeMembers members ++ rest) := by
  cases members with
  | nil => simp [writeMembers, EndsNumber]
  | cons member members => simp [writeMembers, EndsNumber]

/-- The name of a member and its colon are read before its value. -/
theorem draftName_member (first : Bool) (name : String) (rest : List Char)
    (earlier : List (Draft × Draft)) (frames : List Frame) :
    draftName first earlier frames (tokens (quoted name.toList ++ ':' :: rest)) =
      draftValue false (.object earlier (.text (.ok name)) :: frames) (tokens rest) := by
  rw [tokens_quoted, tokens_mark ':' rest rfl, draftName]

end Draft

open Draft

mutual

/-- The text of a value is read as the draft of the value, inside whatever lists it stands. -/
theorem draftValue_write (value : Json) (first : Bool) (frames : List Frame) {rest : List Char}
    (ends : EndsNumber rest) :
    draftValue first frames (tokens (value.write ++ rest)) =
      draftAfter frames (ofJson value) (tokens rest) := by
  match value with
  | .null =>
      have word : tokens (write .null ++ rest) = .word none :: tokens rest := tokens_cons rfl rfl
      rw [word, draftValue]
      rfl
  | .bool true =>
      have word : tokens (write (.bool true) ++ rest) = .word (some true) :: tokens rest :=
        tokens_cons rfl rfl
      rw [word, draftValue]
      rfl
  | .bool false =>
      have word : tokens (write (.bool false) ++ rest) = .word (some false) :: tokens rest :=
        tokens_cons rfl rfl
      rw [word, draftValue]
      rfl
  | .number n => rw [write, tokens_wholeNumber n ends, draftValue, ofJson]
  | .text s => rw [write, tokens_quoted, draftValue, ofJson]
  | .array [] =>
      change draftValue first frames (tokens ('[' :: ']' :: rest)) = _
      rw [tokens_mark '[' _ rfl, tokens_mark ']' _ rfl, draftValue, draftValue]
      rfl
  | .array (item :: items) =>
      rw [write, List.cons_append, List.append_assoc, tokens_mark '[' _ rfl, draftValue,
        draftValue_write item true _ (endsNumber_writeItems items rest),
        draftAfter_writeItems items [] (ofJson item) frames ends]
      rfl
  | .object [] =>
      change draftValue first frames (tokens ('\x7b' :: '\x7d' :: rest)) = _
      rw [tokens_mark '\x7b' _ rfl, tokens_mark '\x7d' _ rfl, draftValue, draftName]
      rfl
  | .object ((name, value) :: members) =>
      rw [write, List.cons_append, List.append_assoc, List.cons_append, List.append_assoc,
        tokens_mark '\x7b' _ rfl, draftValue, draftName_member,
        draftValue_write value false _ (endsNumber_writeMembers members rest),
        draftAfter_writeMembers members [] (.text (.ok name)) (ofJson value) frames ends]
      rfl

/-- After an item, the others are read up to the end of the list. -/
theorem draftAfter_writeItems (items : List Json) (earlier : List Draft) (value : Draft)
    (frames : List Frame) {rest : List Char} (ends : EndsNumber rest) :
    draftAfter (.array earlier :: frames) value (tokens (writeItems items ++ rest)) =
      draftAfter frames (.array ((value :: earlier).reverse ++ ofItems items) .closed)
        (tokens rest) := by
  match items with
  | [] =>
      rw [writeItems, List.singleton_append, tokens_mark ']' rest rfl, draftAfter, ofItems,
        List.append_nil]
  | item :: items =>
      rw [writeItems, List.cons_append, List.append_assoc, tokens_mark ',' _ rfl, draftAfter,
        draftValue_write item false _ (endsNumber_writeItems items rest),
        draftAfter_writeItems items (value :: earlier) (ofJson item) frames ends, ofItems,
        List.reverse_cons (a := ofJson item), List.append_assoc, List.singleton_append]

/-- After a member, the others are read up to the end of the object. -/
theorem draftAfter_writeMembers (members : List (String × Json)) (earlier : List (Draft × Draft))
    (name value : Draft) (frames : List Frame) {rest : List Char} (ends : EndsNumber rest) :
    draftAfter (.object earlier name :: frames) value (tokens (writeMembers members ++ rest)) =
      draftAfter frames (.object (((name, value) :: earlier).reverse ++ ofMembers members) .closed)
        (tokens rest) := by
  match members with
  | [] =>
      rw [writeMembers, List.singleton_append, tokens_mark '\x7d' rest rfl, draftAfter, ofMembers,
        List.append_nil]
  | (nextName, next) :: members =>
      rw [writeMembers, List.cons_append, List.append_assoc, List.cons_append, List.append_assoc,
        tokens_mark ',' _ rfl, draftAfter, draftName_member,
        draftValue_write next false _ (endsNumber_writeMembers members rest),
        draftAfter_writeMembers members ((name, value) :: earlier) (.text (.ok nextName))
          (ofJson next) frames ends, ofMembers,
        List.reverse_cons (a := (Draft.text (.ok nextName), ofJson next)), List.append_assoc,
        List.singleton_append]

end

/-- The text of a value is read as the draft of the value, and nothing is left of it. -/
theorem draft_write (value : Json) : draft value.write = (ofJson value, []) := by
  have nothing : EndsNumber [] := by simp [EndsNumber]
  have read := draftValue_write value false [] nothing
  rw [List.append_nil] at read
  have empty : tokens [] = [] := by rw [tokens]
  rw [draft, read, empty, draftAfter]

/-! ### Passing over a value -/

mutual

/-- A value that was written has no marks. -/
theorem skip_ofJson (value : Json) : (ofJson value).skip = none := by
  match value with
  | .null => rfl
  | .bool _ => rfl
  | .number _ => rfl
  | .text _ => rfl
  | .array items => exact skipItems_ofItems items
  | .object members => exact skipMembers_ofMembers members

theorem skipItems_ofItems (items : List Json) : skipItems .closed (ofItems items) = none := by
  match items with
  | [] => rfl
  | item :: items => rw [ofItems, skipItems, skip_ofJson item, skipItems_ofItems items]

theorem skipMembers_ofMembers (members : List (String × Json)) :
    skipMembers .closed (ofMembers members) = none := by
  match members with
  | [] => rfl
  | (name, value) :: members =>
      rw [ofMembers, skipMembers, skip_ofJson value, skipMembers_ofMembers members]
      rfl

end

end RiskScreen.Json
