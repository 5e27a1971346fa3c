import Mathlib.Data.List.TakeWhile
import RiskScreen.Path.Reader
import RiskScreen.Proofs.Text.Digits

/-!
# The pieces of a path

A piece between two arrows is a name, or a name with digits in brackets behind it. Every piece is
of one of a few kinds, by the brackets in it, and each kind is read in its own way. From these
readings follow the spellings of a segment, and the fault of a piece that spells none.
-/

namespace RiskScreen.Path

/-- The piece is a name with digits in brackets behind it. The brackets begin at the first `[`. -/
structure Indexes (piece name digits : List Char) : Prop where
  split : piece = name ++ '[' :: (digits ++ [']'])
  named : name ≠ []
  first : '[' ∉ name
  run : digits ≠ [] ∧ ∀ c ∈ digits, c.isDigit = true

/-- The texts that stand for a segment. An index may have any number of leading zeros. -/
inductive Segment.SpelledBy : Segment → List Char → Prop
  | field (name : String) : SpelledBy (.field name) name.toList
  | indexed (name : String) {digits : List Char}
      (run : digits ≠ [] ∧ ∀ c ∈ digits, c.isDigit = true) :
      SpelledBy (.indexed name (Text.digitsValue digits)) (name.toList ++ '[' :: (digits ++ [']']))

/-- The name of the segment is an element name, and its index is not too large. -/
structure Segment.Proper (segment : Segment) : Prop where
  named : isElementName segment.name = true
  bounded : ∀ name index, segment = .indexed name index → index ≤ 1000

/-- What is wrong with the piece at a position of a path. -/
inductive Faulty (path : String) (position : Nat) : List Char → PathError → Prop
  /-- There is nothing between two arrows. -/
  | empty : Faulty path position [] (.emptySegment path position)
  /-- A bracket is closed and none was opened. -/
  | unopened {piece : List Char} (noOpen : '[' ∉ piece) (closes : ']' ∈ piece) :
      Faulty path position piece (.malformedSegment path (String.ofList piece))
  /-- A bracket is opened, and what is there is no name with digits in brackets. -/
  | broken {piece : List Char} (opens : '[' ∈ piece)
      (form : ∀ name digits, ¬ Indexes piece name digits) :
      Faulty path position piece (.malformedSegment path (String.ofList piece))
  /-- The digits denote too large an index. The name is not looked at. -/
  | tooLarge {piece name digits : List Char} (form : Indexes piece name digits)
      (large : 1000 < Text.digitsValue digits) :
      Faulty path position piece
        (.indexTooLarge path (min (Text.digitsValue digits) (2 ^ 64 - 1)))
  /-- The name of an item is no element name. -/
  | itemName {piece name digits : List Char} (form : Indexes piece name digits)
      (small : Text.digitsValue digits ≤ 1000)
      (invalid : isElementName (String.ofList name) = false) :
      Faulty path position piece (.invalidName path (String.ofList name))
  /-- The piece has no brackets and is no element name. -/
  | fieldName {piece : List Char} (nonempty : piece ≠ []) (noOpen : '[' ∉ piece)
      (noClose : ']' ∉ piece) (invalid : isElementName (String.ofList piece) = false) :
      Faulty path position piece (.invalidName path (String.ofList piece))

variable {piece name digits : List Char} {segment : Segment} {fault : PieceFault}

/-! ### Names -/

theorem isElementName_ofList (text : List Char) :
    isElementName (String.ofList text) = isNameText text := by
  rw [isElementName, String.toList_ofList]

theorem checkName_eq_ok_iff {checked : String} :
    checkName name = .ok checked ↔ isElementName checked = true ∧ checked.toList = name := by
  unfold checkName
  split
  · rename_i valid
    rw [Except.ok.injEq]
    constructor
    · rintro rfl
      exact ⟨by rwa [isElementName_ofList], String.toList_ofList⟩
    · rintro ⟨_, rfl⟩
      exact String.ofList_toList
  · rename_i invalid
    refine iff_of_false (by simp) ?_
    rintro ⟨valid, rfl⟩
    exact invalid valid

theorem checkName_eq_error_iff :
    checkName name = .error fault ↔
      isElementName (String.ofList name) = false ∧ fault = .badName (String.ofList name) := by
  rw [isElementName_ofList, checkName]
  split
  · rename_i valid
    simp [valid]
  · rename_i invalid
    simp [invalid, @eq_comm _ fault]

/-! ### Kinds of pieces -/

theorem bracketed_eq_some_iff {text : List Char} :
    bracketed text = some digits ↔ text = digits ++ [']'] := by
  unfold bracketed
  rw [Option.ite_none_right_eq_some, List.getLast?_eq_some_iff]
  constructor
  · rintro ⟨⟨front, rfl⟩, same⟩
    rw [List.dropLast_concat] at same
    rw [Option.some.inj same]
  · rintro rfl
    exact ⟨⟨digits, rfl⟩, congrArg some List.dropLast_concat⟩

/-- Without an opening bracket a piece is a name, unless there is a closing one. -/
theorem readPiece_of_not_mem (nonempty : piece ≠ []) (noOpen : '[' ∉ piece) :
    readPiece piece =
      if ']' ∈ piece then .error .malformed else (checkName piece).map Segment.field := by
  have whole : piece.dropWhile (· ≠ '[') = [] := by
    rw [List.dropWhile_eq_nil_iff]
    intro c mem
    exact decide_eq_true fun same => noOpen (same ▸ mem)
  rw [readPiece, List.isEmpty_eq_false_iff.mpr nonempty, whole]
  simp only [Bool.false_eq_true, if_false, List.contains_iff_mem]
  cases checkName piece <;> rfl

/-- With an opening bracket a piece is read in two parts, before and after the first one. -/
theorem readPiece_open (noOpen : '[' ∉ name) (after : List Char) :
    readPiece (name ++ '[' :: after) = readIndexed name after := by
  have plain : ∀ c ∈ name, decide (c ≠ '[') = true := by
    intro c mem
    exact decide_eq_true fun same => noOpen (same ▸ mem)
  rw [readPiece, List.dropWhile_append_of_pos plain, List.takeWhile_append_of_pos plain]
  simp

theorem Indexes.readPiece (indexes : Indexes piece name digits) :
    readPiece piece =
      if 1000 < Text.digitsValue digits then
        .error (.tooLarge (min (Text.digitsValue digits) (2 ^ 64 - 1)))
      else (checkName name).map (Segment.indexed · (Text.digitsValue digits)) := by
  have between : bracketed (digits ++ [']']) = some digits := bracketed_eq_some_iff.mpr rfl
  have run : Text.isDigitRun digits = true := Text.isDigitRun_iff.mpr indexes.run
  rw [indexes.split, readPiece_open indexes.first, readIndexed, between]
  simp only [List.isEmpty_eq_false_iff.mpr indexes.named, run]
  cases checkName name <;> rfl

theorem readPiece_of_broken (opens : '[' ∈ piece)
    (form : ∀ name digits, ¬ Indexes piece name digits) : readPiece piece = .error .malformed := by
  obtain ⟨name, after, rfl, noOpen⟩ := List.eq_append_cons_of_mem opens
  rw [readPiece_open noOpen, readIndexed]
  cases between : bracketed after with
  | none => rfl
  | some digits =>
    have incomplete : (name.isEmpty || !Text.isDigitRun digits) = true := by
      by_contra complete
      simp only [Bool.or_eq_true, List.isEmpty_iff, Bool.not_eq_true', not_or,
        Bool.not_eq_false] at complete
      refine form name digits ⟨?_, complete.1, noOpen, Text.isDigitRun_iff.mp complete.2⟩
      rw [bracketed_eq_some_iff.mp between]
    simp only [incomplete, if_true]

/-- Every piece is empty, or without an opening bracket, or has digits in brackets, or is broken. -/
theorem piece_kinds (piece : List Char) :
    piece = [] ∨ (piece ≠ [] ∧ '[' ∉ piece) ∨ (∃ name digits, Indexes piece name digits) ∨
      ('[' ∈ piece ∧ ∀ name digits, ¬ Indexes piece name digits) := by
  by_cases nonempty : piece = []
  · exact Or.inl nonempty
  · by_cases opens : '[' ∈ piece
    · by_cases form : ∃ name digits, Indexes piece name digits
      · exact Or.inr (Or.inr (Or.inl form))
      · refine Or.inr (Or.inr (Or.inr ⟨opens, ?_⟩))
        intro name digits indexes
        exact form ⟨name, digits, indexes⟩
    · exact Or.inr (Or.inl ⟨nonempty, opens⟩)

/-! ### What a piece spells -/

theorem not_mem_of_isElementName {c : Char} (h : isNamePart c = false) {name : String}
    (valid : isElementName name = true) : c ∉ name.toList := by
  intro mem
  rw [isNamePart_of_mem valid mem] at h
  contradiction

/-- The texts that a proper item is spelled by have its index in brackets. -/
theorem Segment.Proper.indexes {name : String} {index : Nat}
    (proper : (Segment.indexed name index).Proper)
    (run : digits ≠ [] ∧ ∀ c ∈ digits, c.isDigit = true) :
    Indexes (name.toList ++ '[' :: (digits ++ [']'])) name.toList digits where
  split := rfl
  named := ne_nil_of_isNameText proper.named
  first := not_mem_of_isElementName (by decide) proper.named
  run := run

/-- A piece is read as a proper segment that it spells, or not read for a fault of its own. -/
theorem readPiece_sound (piece : List Char) :
    (∃ segment, readPiece piece = .ok segment ∧ segment.Proper ∧ segment.SpelledBy piece) ∨
    ∃ fault, readPiece piece = .error fault ∧
      ∀ path position, Faulty path position piece (fault.toError path position piece) := by
  rcases piece_kinds piece with rfl | ⟨nonempty, noOpen⟩ | ⟨name, digits, indexes⟩ | ⟨opens, form⟩
  · exact Or.inr ⟨.empty, rfl, fun path position => .empty⟩
  · rw [readPiece_of_not_mem nonempty noOpen]
    by_cases closes : ']' ∈ piece
    · exact Or.inr ⟨.malformed, if_pos closes, fun path position => .unopened noOpen closes⟩
    · rw [if_neg closes]
      cases checked : checkName piece with
      | ok name =>
        obtain ⟨valid, rfl⟩ := checkName_eq_ok_iff.mp checked
        exact Or.inl ⟨.field name, rfl, ⟨valid, by simp⟩, .field name⟩
      | error fault =>
        obtain ⟨invalid, rfl⟩ := checkName_eq_error_iff.mp checked
        exact Or.inr ⟨_, rfl, fun path position => .fieldName nonempty noOpen closes invalid⟩
  · rw [indexes.readPiece]
    by_cases large : 1000 < Text.digitsValue digits
    · exact Or.inr ⟨_, if_pos large, fun path position => .tooLarge indexes large⟩
    · rw [if_neg large]
      cases checked : checkName name with
      | ok name =>
        obtain ⟨valid, rfl⟩ := checkName_eq_ok_iff.mp checked
        refine Or.inl ⟨.indexed name (Text.digitsValue digits), rfl, ⟨valid, ?_⟩, ?_⟩
        · intro other index same
          obtain ⟨rfl, rfl⟩ := Segment.indexed.inj same
          omega
        · rw [indexes.split]
          exact .indexed name indexes.run
      | error fault =>
        obtain ⟨invalid, rfl⟩ := checkName_eq_error_iff.mp checked
        exact Or.inr ⟨_, rfl, fun path position => .itemName indexes (by omega) invalid⟩
  · exact Or.inr ⟨.malformed, readPiece_of_broken opens form,
      fun path position => .broken opens form⟩

theorem readPiece_of_spelledBy (proper : segment.Proper) (spelled : segment.SpelledBy piece) :
    readPiece piece = .ok segment := by
  cases spelled with
  | field name =>
    have valid : isElementName name = true := proper.named
    have noOpen : '[' ∉ name.toList := not_mem_of_isElementName (by decide) valid
    have noClose : ']' ∉ name.toList := not_mem_of_isElementName (by decide) valid
    rw [readPiece_of_not_mem (ne_nil_of_isNameText valid) noOpen, if_neg noClose,
      checkName_eq_ok_iff.mpr ⟨valid, rfl⟩]
    rfl
  | @indexed name digits run =>
    have valid : isElementName name = true := proper.named
    have small := proper.bounded name _ rfl
    rw [(proper.indexes run).readPiece, if_neg (by omega), checkName_eq_ok_iff.mpr ⟨valid, rfl⟩]
    rfl

theorem readPiece_of_faulty {path : String} {position : Nat} {e : PathError}
    (faulty : Faulty path position piece e) :
    ∃ fault, readPiece piece = .error fault ∧ fault.toError path position piece = e := by
  cases faulty with
  | empty => exact ⟨.empty, rfl, rfl⟩
  | unopened noOpen closes =>
    refine ⟨.malformed, ?_, rfl⟩
    rw [readPiece_of_not_mem (List.ne_nil_of_mem closes) noOpen, if_pos closes]
  | broken opens form => exact ⟨.malformed, readPiece_of_broken opens form, rfl⟩
  | tooLarge indexes large =>
    refine ⟨.tooLarge _, ?_, rfl⟩
    rw [indexes.readPiece, if_pos large]
  | itemName indexes small invalid =>
    refine ⟨.badName _, ?_, rfl⟩
    rw [indexes.readPiece, if_neg (by omega), checkName_eq_error_iff.mpr ⟨invalid, rfl⟩]
    rfl
  | fieldName nonempty noOpen noClose invalid =>
    refine ⟨.badName _, ?_, rfl⟩
    rw [readPiece_of_not_mem nonempty noOpen, if_neg noClose,
      checkName_eq_error_iff.mpr ⟨invalid, rfl⟩]
    rfl

/-- A piece is read as the proper segment that it spells. -/
theorem readPiece_eq_ok_iff :
    readPiece piece = .ok segment ↔ segment.Proper ∧ segment.SpelledBy piece := by
  constructor
  · intro h
    rcases readPiece_sound piece with ⟨found, read, sound⟩ | ⟨fault, unread, _⟩
    · obtain rfl := Except.ok.inj (read.symm.trans h)
      exact sound
    · simp [unread] at h
  · rintro ⟨proper, spelled⟩
    exact readPiece_of_spelledBy proper spelled

/-- A piece is not read where it is faulty, and its fault is the reason. -/
theorem readPiece_eq_error_iff {path : String} {position : Nat} {e : PathError} :
    (∃ fault, readPiece piece = .error fault ∧ fault.toError path position piece = e) ↔
      Faulty path position piece e := by
  constructor
  · rintro ⟨fault, h, rfl⟩
    rcases readPiece_sound piece with ⟨found, read, _⟩ | ⟨other, unread, sound⟩
    · simp [read] at h
    · obtain rfl := Except.error.inj (unread.symm.trans h)
      exact sound path position
  · exact readPiece_of_faulty

end RiskScreen.Path
