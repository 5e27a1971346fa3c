import RiskScreen.Proofs.Document.Child

/-!
# Writing along a path

A write walks down a node segment by segment, makes what is missing and puts a value at the
end. Whether it can do so depends on the nodes it meets; what it leaves behind differs from
what was there at its own path alone, save that a value has nothing below it.

## Implementation notes

`Node.Accepts` and `Node.write` describe the walk by the child at one segment, for a place that
may be empty. `Fields.insertAt_spec` says that the walk on fields is this one.
-/

namespace RiskScreen

open RiskScreen.Path (Segment)

namespace Node

/-- Whether a value can be written along the segments below a place. -/
def Accepts : Option Node → List Segment → Prop
  | _, [] => True
  | found, segment :: rest =>
      (found.getD (fresh segment)).Admits segment ∧
        Accepts ((found.getD (fresh segment)).child? segment) rest

/-- What is at a place after `value` was written along the segments below it. -/
def write (value : Option String) : Option Node → List Segment → Node
  | _, [] => .value value
  | found, segment :: rest =>
      (found.getD (fresh segment)).withChild segment
        (write value ((found.getD (fresh segment)).child? segment) rest)

/-- What is reached from a place along the segments. -/
def descend? : Option Node → List Segment → Option Node
  | found, [] => found
  | found, segment :: rest => descend? (found.bind fun node => node.child? segment) rest

/-- The text of a value. -/
def text? : Node → Option (Option String)
  | .value text => some text
  | _ => none

/-- The value that is reached from a place along the segments. -/
def leaf? (found : Option Node) (segments : List Segment) : Option (Option String) :=
  (descend? found segments).bind text?

end Node

namespace Path

/-- Whether a path can be written after another one has been written from the same place: it
ends before the other does, or both go on alike as long as they agree. -/
def Fits : List Segment → List Segment → Prop
  | _, [] => True
  | [], _ :: _ => False
  | first :: earlier, second :: later =>
      first.Alike second ∧ (first = second → Fits earlier later)

/-- Paths of which neither goes on where the other ends fit in both orders. -/
theorem Fits.symm {earlier later : List Segment} (h : Fits earlier later)
    (apart : later <+: earlier → later = earlier) : Fits later earlier := by
  induction earlier generalizing later with
  | nil =>
    cases later with
    | nil => trivial
    | cons second later => exact absurd h id
  | cons first earlier ih =>
    cases later with
    | nil => exact absurd (apart (List.nil_prefix)) (by simp)
    | cons second later =>
      obtain ⟨alike, below⟩ := h
      refine ⟨alike.symm, ?_⟩
      rintro rfl
      apply ih (below rfl)
      intro shorter
      exact (List.cons.inj (apart (List.cons_prefix_cons.mpr ⟨rfl, shorter⟩))).2

end Path

namespace Node

open RiskScreen.Path (Fits)

variable {found : Option Node} {segment : Segment} {written segments rest : List Segment}

@[simp] theorem accepts_none (segments : List Segment) : Accepts none segments := by
  induction segments with
  | nil => trivial
  | cons segment rest ih =>
    rw [Accepts, Option.getD_none, child?_fresh]
    exact ⟨admits_fresh_iff.mpr (Segment.Alike.refl segment), ih⟩

@[simp] theorem descend?_none (segments : List Segment) : descend? none segments = none := by
  induction segments with
  | nil => rfl
  | cons segment rest ih => exact ih

@[simp] theorem leaf?_none (segments : List Segment) : leaf? none segments = none := by
  rw [leaf?, descend?_none]
  rfl

theorem leaf?_cons (found : Option Node) (segment : Segment) (rest : List Segment) :
    leaf? found (segment :: rest) =
      leaf? (found.bind fun node => node.child? segment) rest := rfl

theorem leaf?_some_cons (node : Node) (segment : Segment) (rest : List Segment) :
    leaf? (some node) (segment :: rest) = leaf? (node.child? segment) rest := rfl

/-- A node with room for a child is no value. -/
theorem Admits.text? {node : Node} (h : node.Admits segment) : node.text? = none := by
  cases node with
  | value text => exact absurd h (not_admits_value text segment)
  | object fields => rfl
  | group item slots => rfl

/-- Making a node for one segment changes no answer about a place where there is none. -/
theorem child?_getD_fresh (found : Option Node) (segment other : Segment) :
    (found.getD (fresh segment)).child? other = found.bind fun node => node.child? other := by
  cases found with
  | none => exact child?_fresh segment other
  | some node => rfl

/-- Below a node that is there or is made, segments of its kind lead on to its children. -/
theorem accepts_cons_iff {other : Segment} (admits : (found.getD (fresh segment)).Admits segment)
    (alike : segment.Alike other) :
    Accepts found (other :: rest) ↔
      Accepts ((found.getD (fresh segment)).child? other) rest := by
  cases found with
  | none =>
    rw [Option.getD_none, child?_fresh]
    simp
  | some node =>
    rw [Option.getD_some] at admits ⊢
    rw [Accepts, Option.getD_some, admits.iff_alike]
    exact and_iff_right alike

/-- What can be written after a write: what could be before, and fits to what was written. -/
theorem accepts_write_iff (value : Option String) (h : Accepts found written) :
    Accepts (some (write value found written)) segments ↔
      Accepts found segments ∧ Fits written segments := by
  induction written generalizing found segments with
  | nil =>
    cases segments with
    | nil => simp [Accepts, Fits]
    | cons other rest =>
      simp only [write, Accepts, Option.getD_some, Fits, and_false, iff_false, not_and]
      intro admits
      exact absurd admits (not_admits_value value other)
  | cons segment written ih =>
    obtain ⟨admits, below⟩ := h
    cases segments with
    | nil => simp [Accepts, Fits]
    | cons other rest =>
      rw [write, Accepts, Option.getD_some, admits_withChild_iff, admits.iff_alike, Fits]
      by_cases alike : segment.Alike other
      · rw [accepts_cons_iff admits alike]
        by_cases same : other = segment
        · subst same
          rw [child?_withChild_self admits, ih below]
          simp [alike]
        · rw [child?_withChild_of_ne admits same]
          simp [alike, Ne.symm same]
      · simp [alike]

/-- After a write, its path holds the value, nothing is below it, and every other path holds
what it held before. -/
theorem leaf?_write (value : Option String) (h : Accepts found written) :
    leaf? (some (write value found written)) segments =
      if written = segments then some value
      else if written <+: segments then none
      else leaf? found segments := by
  induction written generalizing found segments with
  | nil =>
    cases segments with
    | nil => rfl
    | cons other rest =>
      rw [if_neg (by simp), if_pos List.nil_prefix, leaf?_some_cons]
      exact leaf?_none rest
  | cons segment written ih =>
    obtain ⟨admits, below⟩ := h
    cases segments with
    | nil =>
      have after : (write value found (segment :: written)).Admits segment :=
        admits_withChild_iff.mpr admits
      have before : found.bind text? = none := by
        cases found with
        | none => rfl
        | some node => exact admits.text?
      rw [if_neg (by simp), if_neg (by simp)]
      exact after.text?.trans before.symm
    | cons other rest =>
      rw [write, leaf?_some_cons, leaf?_cons, ← child?_getD_fresh found segment other]
      by_cases same : other = segment
      · subst same
        rw [child?_withChild_self admits, ih below]
        simp only [List.cons.injEq, true_and, List.cons_prefix_cons]
      · rw [child?_withChild_of_ne admits same, if_neg (by simp [Ne.symm same]),
          if_neg (by simp [List.cons_prefix_cons, Ne.symm same])]

end Node

/-! ### The walk on fields -/

open Node

/-- The walk on fields either goes through, and leaves the written node under its name, or
stops at a place that does not accept the path. -/
theorem Fields.insertAt_spec (path : String) (value : Option String) (name : String)
    (rest : List Segment) (fields : Fields) :
    (Accepts (find? name fields) rest ∧
      insertAt path value name rest fields =
        (put name (write value (find? name fields) rest) fields, none)) ∨
    (¬ Accepts (find? name fields) rest ∧
      ∃ e, (insertAt path value name rest fields).2 = some e) := by
  induction rest generalizing name fields with
  | nil => exact Or.inl ⟨trivial, rfl⟩
  | cons segment rest ih =>
    cases segment with
    | field child =>
      rw [insertAt, Accepts, write, fresh]
      cases (find? name fields).getD (.object []) with
      | object inner =>
        rcases ih child inner with ⟨accepts, written⟩ | ⟨refuses, e, stopped⟩
        · refine Or.inl ⟨⟨trivial, accepts⟩, ?_⟩
          simp only [settle, written]
          rfl
        · exact Or.inr ⟨fun h => refuses h.2, e, stopped⟩
      | value text => exact Or.inr ⟨fun h => h.1, _, rfl⟩
      | group item slots => exact Or.inr ⟨fun h => h.1, _, rfl⟩
    | indexed child index =>
      rw [insertAt, Accepts, write, fresh]
      cases (find? name fields).getD (.group child []) with
      | object inner => exact Or.inr ⟨fun h => h.1, _, rfl⟩
      | value text => exact Or.inr ⟨fun h => h.1, _, rfl⟩
      | group item slots =>
        by_cases same : item = child
        · subst same
          have slot : (Slots.grow (index + 1) slots)[index]?.getD [] = slots[index]?.getD [] := by
            rw [Slots.getElem?_grow, if_pos (by omega)]
            rfl
          have grown := Slots.set_grow_eq_modify index
            (put item (write value (find? item (slots[index]?.getD [])) rest)) slots
          simp only [if_true, slot, child?_group_eq] at grown ⊢
          rcases ih item (slots[index]?.getD []) with ⟨accepts, written⟩ | ⟨refuses, e, stopped⟩
          · refine Or.inl ⟨⟨rfl, accepts⟩, ?_⟩
            simp only [settle, written, grown]
            rfl
          · exact Or.inr ⟨fun h => refuses h.2, e, stopped⟩
        · simp only [if_neg same]
          exact Or.inr ⟨fun h => same h.1, _, rfl⟩

end RiskScreen
