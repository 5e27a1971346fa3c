import RiskScreen.Proofs.Path.Grammar

/-!
# The fault of a path

A path that is not read is at fault in one place: the leftmost of its faulty pieces or, where every
piece is in order, the first one if it is an item. The error is the fault of that piece. It speaks
of the path that was given, and never of what a document holds.
-/

namespace RiskScreen

/-- The path that the error speaks of. -/
def PathError.path? : PathError → Option String
  | .empty => none
  | .emptySegment path _ | .malformedSegment path _ | .indexTooLarge path _
  | .invalidName path _ | .danglingIndex path _ | .shapeConflict path _ _ _
  | .itemNameConflict path _ _ _ => some path

/-- The error is about a document that the path does not fit. -/
def PathError.isConflict : PathError → Bool
  | .shapeConflict .. | .itemNameConflict .. => true
  | _ => false

namespace Path

/-- The pieces are the texts between the arrows of the path. -/
structure Cut (path : String) (pieces : List (List Char)) : Prop where
  nonempty : pieces ≠ []
  free : ∀ piece ∈ pieces, ¬ Text.arrow <:+: piece
  joined : Text.arrow.intercalate pieces = path.toList

/-- There is nothing wrong with the piece, at whatever position it stands. -/
def Faultless (piece : List Char) : Prop :=
  ∀ path position e, ¬ Faulty path position piece e

/-- The error is that of the leftmost faulty piece. Positions are counted from the given one. -/
def LeftmostFault (path : String) (position : Nat) (pieces : List (List Char)) (e : PathError) :
    Prop :=
  ∃ front piece back, pieces = front ++ piece :: back ∧ (∀ other ∈ front, Faultless other) ∧
    Faulty path (position + front.length) piece e

/-- What is wrong with a path that has these pieces. -/
inductive Diagnosis (path : String) (pieces : List (List Char)) : PathError → Prop
  | empty (blank : path = "") : Diagnosis path pieces .empty
  | leftmost {e : PathError} (written : path ≠ "") (fault : LeftmostFault path 0 pieces e) :
      Diagnosis path pieces e
  /-- No piece is faulty, but the path begins with an item. -/
  | dangling {first name digits : List Char} {others : List (List Char)} (written : path ≠ "")
      (faultless : ∀ piece ∈ pieces, Faultless piece) (cut : pieces = first :: others)
      (item : Indexes first name digits) :
      Diagnosis path pieces (.danglingIndex path (String.ofList first))

variable {path : String} {position : Nat} {piece : List Char} {pieces : List (List Char)}
  {e : PathError}

theorem cut_iff : Cut path pieces ↔ Text.splitArrow path.toList = pieces := by
  rw [Text.splitArrow_eq_iff]
  exact ⟨fun cut => ⟨cut.nonempty, cut.free, cut.joined⟩, fun ⟨nonempty, free, joined⟩ =>
    ⟨nonempty, free, joined⟩⟩

/-! ### The leftmost faulty piece -/

theorem faultless_iff_readPiece : Faultless piece ↔ ∃ segment, readPiece piece = .ok segment := by
  constructor
  · intro faultless
    cases made : readPiece piece with
    | ok segment => exact ⟨segment, rfl⟩
    | error fault =>
      exact absurd (readPiece_eq_error_iff.mp ⟨fault, made, rfl⟩) (faultless "" 0 _)
  · rintro ⟨segment, made⟩ path position e faulty
    obtain ⟨fault, unread, _⟩ := readPiece_eq_error_iff.mpr faulty
    simp [made] at unread

theorem not_leftmostFault_nil : ¬ LeftmostFault path position [] e := by
  rintro ⟨front, piece, back, cut, _⟩
  simp at cut

theorem leftmostFault_cons_iff :
    LeftmostFault path position (piece :: pieces) e ↔
      Faulty path position piece e ∨
        (Faultless piece ∧ LeftmostFault path (position + 1) pieces e) := by
  constructor
  · rintro ⟨front, faulty, back, cut, before, fault⟩
    rcases List.cons_eq_append_iff.mp cut with ⟨rfl, same⟩ | ⟨front, rfl, rfl⟩
    · obtain ⟨rfl, rfl⟩ := List.cons.inj same
      exact Or.inl fault
    · obtain ⟨here, below⟩ := List.forall_mem_cons.mp before
      rw [List.length_cons, Nat.add_comm front.length, ← Nat.add_assoc] at fault
      exact Or.inr ⟨here, front, faulty, back, rfl, below, fault⟩
  · rintro (fault | ⟨here, front, faulty, back, rfl, below, fault⟩)
    · exact ⟨[], piece, pieces, rfl, by simp, fault⟩
    · rw [Nat.add_assoc, Nat.add_comm 1, ← List.length_cons (a := piece)] at fault
      exact ⟨piece :: front, faulty, back, rfl, List.forall_mem_cons.mpr ⟨here, below⟩, fault⟩

theorem readPieces_cons_eq_error_iff :
    readPieces path position (piece :: pieces) = .error e ↔
      Faulty path position piece e ∨
        (Faultless piece ∧ readPieces path (position + 1) pieces = .error e) := by
  rw [readPieces, faultless_iff_readPiece, ← readPiece_eq_error_iff]
  cases readPiece piece with
  | error fault => simp
  | ok segment => cases readPieces path (position + 1) pieces <;> simp

/-- The pieces are read up to the first faulty one, which decides the error. -/
theorem readPieces_eq_error_iff :
    readPieces path position pieces = .error e ↔ LeftmostFault path position pieces e := by
  induction pieces generalizing position with
  | nil => exact iff_of_false (by simp [readPieces]) not_leftmostFault_nil
  | cons piece pieces ih => rw [readPieces_cons_eq_error_iff, leftmostFault_cons_iff, ih]

/-! ### Pieces in order -/

/-- The pieces are all read if none is faulty. -/
theorem exists_readPieces_iff :
    (∃ segments, readPieces path position pieces = .ok segments) ↔
      ∀ piece ∈ pieces, Faultless piece := by
  induction pieces generalizing position with
  | nil => simp [readPieces]
  | cons piece pieces ih =>
    rw [List.forall_mem_cons, ← @ih (position + 1), faultless_iff_readPiece]
    simp only [readPieces_cons_eq_ok_iff]
    constructor
    · rintro ⟨_, segment, others, made, rest, _⟩
      exact ⟨⟨segment, made⟩, others, rest⟩
    · rintro ⟨⟨segment, made⟩, others, rest⟩
      exact ⟨_, segment, others, made, rest, rfl⟩

theorem exists_indexes_of_readPiece {name : String} {index : Nat}
    (h : readPiece piece = .ok (.indexed name index)) :
    ∃ digits, Indexes piece name.toList digits := by
  obtain ⟨proper, spelled⟩ := readPiece_eq_ok_iff.mp h
  generalize same : Segment.indexed name index = segment at spelled
  cases spelled with
  | field other => simp at same
  | @indexed other digits run =>
    obtain ⟨rfl, rfl⟩ := Segment.indexed.inj same
    exact ⟨digits, proper.indexes run⟩

theorem Indexes.readPiece_ne_field {name digits : List Char} (indexes : Indexes piece name digits)
    (key : String) : Path.readPiece piece ≠ .ok (.field key) := by
  rw [indexes.readPiece]
  split
  · simp
  · cases checkName name <;> simp [Except.map]

/-- A path of pieces in order is refused where it begins with an item. -/
theorem read_eq_error_iff_of_readPieces {segments : List Segment} (written : path ≠ "")
    (cut : Text.splitArrow path.toList = pieces) (made : readPieces path 0 pieces = .ok segments) :
    read path = .error e ↔
      ∃ first others name digits, pieces = first :: others ∧ Indexes first name digits ∧
        e = .danglingIndex path (String.ofList first) := by
  rw [read_of_ne_nil (by simpa using written), cut, made]
  subst cut
  obtain ⟨first, others, cut⟩ := List.exists_cons_of_ne_nil (Text.splitArrow_ne_nil path.toList)
  rw [cut] at made ⊢
  obtain ⟨segment, rest, here, _, rfl⟩ := readPieces_cons_eq_ok_iff.mp made
  cases segment with
  | field key =>
    refine iff_of_false (by simp) ?_
    rintro ⟨_, _, name, digits, same, item, _⟩
    obtain ⟨rfl, rfl⟩ := List.cons.inj same
    exact item.readPiece_ne_field key here
  | indexed name index =>
    obtain ⟨digits, item⟩ := exists_indexes_of_readPiece here
    constructor
    · rintro same
      exact ⟨first, others, _, digits, rfl, item, (Except.error.inj same).symm⟩
    · rintro ⟨_, _, _, _, same, _, rfl⟩
      obtain ⟨rfl, rfl⟩ := List.cons.inj same
      rfl

/-! ### The diagnosis -/

theorem diagnosis_blank_iff (blank : path = "") : Diagnosis path pieces e ↔ e = .empty := by
  constructor
  · rintro (_ | ⟨written, _⟩ | ⟨written, _, _, _⟩)
    · rfl
    · exact absurd blank written
    · exact absurd blank written
  · rintro rfl
    exact .empty blank

theorem diagnosis_written_iff (written : path ≠ "") :
    Diagnosis path pieces e ↔ LeftmostFault path 0 pieces e ∨
      (∀ piece ∈ pieces, Faultless piece) ∧
        ∃ first others name digits, pieces = first :: others ∧ Indexes first name digits ∧
          e = .danglingIndex path (String.ofList first) := by
  constructor
  · rintro (blank | ⟨_, fault⟩ | ⟨_, faultless, cut, item⟩)
    · exact absurd blank written
    · exact Or.inl fault
    · exact Or.inr ⟨faultless, _, _, _, _, cut, item, rfl⟩
  · rintro (fault | ⟨faultless, first, others, name, digits, cut, item, rfl⟩)
    · exact .leftmost written fault
    · exact .dangling written faultless cut item

theorem read_eq_error_iff (cut : Text.splitArrow path.toList = pieces) :
    read path = .error e ↔ Diagnosis path pieces e := by
  by_cases written : path = ""
  · rw [diagnosis_blank_iff written, read, if_pos (by simp [written]), Except.error.injEq, eq_comm]
  · rw [diagnosis_written_iff written, ← readPieces_eq_error_iff,
      ← @exists_readPieces_iff path 0]
    cases made : readPieces path 0 pieces with
    | ok segments => simp [read_eq_error_iff_of_readPieces written cut made]
    | error other => simp [read_of_ne_nil (by simpa using written), cut, made]

/-- The error of a faulty piece speaks of the path that the piece is in. -/
theorem Faulty.of_path (faulty : Faulty path position piece e) :
    e.path? = some path ∧ e.isConflict = false ∧ e ≠ .empty := by
  cases faulty <;> exact ⟨rfl, rfl, by simp⟩

theorem Diagnosis.of_path (diagnosis : Diagnosis path pieces e) :
    (e = .empty ↔ path = "") ∧ (path ≠ "" → e.path? = some path) ∧ e.isConflict = false := by
  cases diagnosis with
  | empty blank => exact ⟨iff_of_true rfl blank, absurd blank, rfl⟩
  | leftmost written fault =>
    obtain ⟨front, piece, back, _, _, faulty⟩ := fault
    obtain ⟨speaks, alone, other⟩ := faulty.of_path
    exact ⟨iff_of_false other written, fun _ => speaks, alone⟩
  | dangling written faultless cut item =>
    exact ⟨iff_of_false (by simp) written, fun _ => rfl, rfl⟩

/-- A path has one cut into pieces, and a path that is not read is diagnosed at the first fault.
Only the empty path is called empty; any other error speaks of the whole path, and no error speaks
of a document. -/
theorem read_eq_error_iff_diagnosis (path : String) :
    (∃! pieces, Cut path pieces) ∧ ∀ pieces, Cut path pieces → ∀ e,
      (read path = .error e ↔ Diagnosis path pieces e) ∧
      (read path = .error e → (e = .empty ↔ path = "") ∧ (path ≠ "" → e.path? = some path) ∧
        e.isConflict = false) := by
  constructor
  · refine ⟨Text.splitArrow path.toList, cut_iff.mpr rfl, ?_⟩
    intro pieces cut
    exact (cut_iff.mp cut).symm
  · intro pieces cut e
    have diagnosed := read_eq_error_iff (e := e) (cut_iff.mp cut)
    exact ⟨diagnosed, fun refused => (diagnosed.mp refused).of_path⟩

/-- A path with three faults of different kinds, and a path that begins with an item. -/
theorem read_eq_error_iff_diagnosis_faults :
    Cut "a->b-[99999999999999999999]->->c]"
      ["a".toList, "b-[99999999999999999999]".toList, [], "c]".toList] ∧
    read "a->b-[99999999999999999999]->->c]" =
      .error (.indexTooLarge "a->b-[99999999999999999999]->->c]" 18446744073709551615) ∧
    Cut "b[02]->c" ["b[02]".toList, "c".toList] ∧
    read "b[02]->c" = .error (.danglingIndex "b[02]->c" "b[02]") := by
  have cut : Cut "a->b-[99999999999999999999]->->c]"
      ["a".toList, "b-[99999999999999999999]".toList, [], "c]".toList] :=
    cut_iff.mpr (by decide +kernel)
  have large : Faulty "a->b-[99999999999999999999]->->c]" 1 "b-[99999999999999999999]".toList
      (.indexTooLarge "a->b-[99999999999999999999]->->c]" 18446744073709551615) := by
    refine readPiece_eq_error_iff.mp ⟨.tooLarge 18446744073709551615, by decide +kernel, rfl⟩
  have named : Faultless "a".toList := faultless_iff_readPiece.mpr ⟨.field "a", by decide +kernel⟩
  have begins : Cut "b[02]->c" ["b[02]".toList, "c".toList] := cut_iff.mpr (by decide +kernel)
  have item : Faultless "b[02]".toList :=
    faultless_iff_readPiece.mpr ⟨.indexed "b" 2, by decide +kernel⟩
  have form : Indexes "b[02]".toList ['b'] ['0', '2'] :=
    ⟨rfl, by decide, by decide, Text.isDigitRun_iff.mp (by decide)⟩
  have field : Faultless "c".toList := faultless_iff_readPiece.mpr ⟨.field "c", by decide +kernel⟩
  refine ⟨cut, ?_, begins, ?_⟩
  · refine ((read_eq_error_iff_diagnosis _).2 _ cut _).1.mpr (.leftmost (by decide) ?_)
    exact ⟨["a".toList], _, _, rfl, List.forall_mem_singleton.mpr named, large⟩
  · refine ((read_eq_error_iff_diagnosis _).2 _ begins _).1.mpr
      (.dangling (by decide) ?_ rfl form)
    exact List.forall_mem_cons.mpr ⟨item, List.forall_mem_singleton.mpr field⟩

end Path

end RiskScreen
