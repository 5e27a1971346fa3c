import RiskScreen.Proofs.Document.Built

/-!
# Where paths clash

A path clashes with an earlier one where it goes on from the end of that one, or where both go
on from a common place into nodes of different kinds. What stops a write along a path is a
clash with the path of a value that is there: `Node.refusal?` reads the reason off the nodes,
`Path.clash?` off the two paths, and on nodes that were built they agree.
-/

namespace RiskScreen

namespace Path

/-- The shape of the node that has a child at the segment. -/
def Segment.container : Segment → Shape
  | .field _ => .object
  | .indexed _ _ => .group

/-- Why a node called `name` with a child at the first segment can have none at the second. -/
def Segment.misfit? (path name : String) : Segment → Segment → Option PathError
  | .field _, .field _ => none
  | .indexed item _, .indexed child _ =>
      if item = child then none else some (.itemNameConflict path name item child)
  | other, next => some (.shapeConflict path name other.container next.container)

/-- Two paths do not go together: from some common place, which is not the start, the earlier
one ends and the later one goes on, or both go on into nodes of different kinds. -/
def Incompatible (earlier later : List Segment) : Prop :=
  ∃ common next rest, common ≠ [] ∧ later = common ++ next :: rest ∧
    (earlier = common ∨ ∃ other tail, earlier = common ++ other :: tail ∧ ¬ other.Alike next)

/-- The error with which the later path, of the text `path`, stops at the end of what it has in
common with the earlier one. It names the last common segment. -/
def Clash (path : String) (earlier later : List Segment) (e : PathError) : Prop :=
  ∃ above place next rest, later = above ++ place :: next :: rest ∧
    ((earlier = above ++ [place] ∧
        e = .shapeConflict path place.name .value next.container) ∨
      ∃ other tail, earlier = above ++ place :: other :: tail ∧
        other.misfit? path place.name next = some e)

/-- The first clash of two paths below a place called `name`. -/
def clash? (path : String) : String → List Segment → List Segment → Option PathError
  | _, _, [] => none
  | name, [], next :: _ => some (.shapeConflict path name .value next.container)
  | name, other :: earlier, next :: later =>
      if other = next then clash? path next.name earlier later
      else other.misfit? path name next

variable {path name : String} {earlier later : List Segment} {e : PathError}

theorem Segment.misfit?_eq_none_iff {other next : Segment} :
    other.misfit? path name next = none ↔ other.Alike next := by
  cases other <;> cases next <;> simp [misfit?, Alike]

/-- The paths clash right below a place called `name`. -/
def ClashBelow (path name : String) (earlier later : List Segment) (e : PathError) : Prop :=
  ∃ next rest, later = next :: rest ∧
    ((earlier = [] ∧ e = .shapeConflict path name .value next.container) ∨
      ∃ other tail, earlier = other :: tail ∧ other.misfit? path name next = some e)

theorem clash_cons_cons_iff {first second : Segment} :
    Clash path (first :: earlier) (second :: later) e ↔
      first = second ∧
        (ClashBelow path second.name earlier later e ∨ Clash path earlier later e) := by
  constructor
  · rintro ⟨_ | ⟨segment, above⟩, place, next, rest, split, ends⟩
    · obtain ⟨rfl, rfl⟩ := List.cons.inj split
      rcases ends with ⟨ended, rfl⟩ | ⟨other, tail, parted, misfit⟩
      · obtain ⟨rfl, rfl⟩ := List.cons.inj ended
        exact ⟨rfl, Or.inl ⟨next, rest, rfl, Or.inl ⟨rfl, rfl⟩⟩⟩
      · obtain ⟨rfl, rfl⟩ := List.cons.inj parted
        exact ⟨rfl, Or.inl ⟨next, rest, rfl, Or.inr ⟨other, tail, rfl, misfit⟩⟩⟩
    · obtain ⟨rfl, rfl⟩ := List.cons.inj split
      rcases ends with ⟨ended, rfl⟩ | ⟨other, tail, parted, misfit⟩
      · obtain ⟨rfl, rfl⟩ := List.cons.inj ended
        exact ⟨rfl, Or.inr ⟨above, place, next, rest, rfl, Or.inl ⟨rfl, rfl⟩⟩⟩
      · obtain ⟨rfl, rfl⟩ := List.cons.inj parted
        exact ⟨rfl, Or.inr ⟨above, place, next, rest, rfl, Or.inr ⟨other, tail, rfl, misfit⟩⟩⟩
  · rintro ⟨rfl, ⟨next, rest, rfl, ends⟩ | ⟨above, place, next, rest, rfl, ends⟩⟩
    · refine ⟨[], first, next, rest, rfl, ends.imp ?_ ?_⟩
      · rintro ⟨rfl, same⟩
        exact ⟨rfl, same⟩
      · rintro ⟨other, tail, rfl, misfit⟩
        exact ⟨other, tail, rfl, misfit⟩
    · refine ⟨first :: above, place, next, rest, rfl, ends.imp ?_ ?_⟩
      · rintro ⟨rfl, same⟩
        exact ⟨rfl, same⟩
      · rintro ⟨other, tail, rfl, misfit⟩
        exact ⟨other, tail, rfl, misfit⟩

theorem clash?_eq_some_iff :
    clash? path name earlier later = some e ↔
      ClashBelow path name earlier later e ∨ Clash path earlier later e := by
  fun_induction clash? path name earlier later with
  | case1 name earlier => simp [ClashBelow, Clash]
  | case2 name next rest => simp [ClashBelow, Clash, @eq_comm _ e]
  | case3 name earlier next later ih =>
    have alike : next.misfit? path name next = none :=
      Segment.misfit?_eq_none_iff.mpr (Segment.Alike.refl next)
    rw [ih, clash_cons_cons_iff]
    simp [ClashBelow, alike]
  | case4 name other earlier next later differ =>
    rw [clash_cons_cons_iff]
    simp [ClashBelow, differ]

/-- A later path fits to an earlier one exactly where it does not clash with it. -/
theorem fits_iff_clash?_eq_none (path name : String) :
    Fits earlier later ↔ clash? path name earlier later = none := by
  fun_induction clash? path name earlier later with
  | case1 name earlier => simp [Fits]
  | case2 name next rest => simp [Fits]
  | case3 name earlier next later ih => simp [Fits, Segment.Alike.refl, ih]
  | case4 name other earlier next later differ =>
    simp [Fits, differ, Segment.misfit?_eq_none_iff]

theorem incompatible_iff (path : String) :
    Incompatible earlier later ↔ ∃ e, Clash path earlier later e := by
  constructor
  · rintro ⟨common, next, rest, nonempty, split, ends⟩
    obtain ⟨above, place, rfl⟩ := (List.eq_nil_or_concat' common).resolve_left nonempty
    rw [List.append_assoc] at split
    rcases ends with ended | ⟨other, tail, parted, different⟩
    · exact ⟨_, above, place, next, rest, split, Or.inl ⟨ended, rfl⟩⟩
    · rw [List.append_assoc] at parted
      have refused : other.misfit? path place.name next ≠ none :=
        mt Segment.misfit?_eq_none_iff.mp different
      obtain ⟨e, misfit⟩ := Option.ne_none_iff_exists'.mp refused
      exact ⟨e, above, place, next, rest, split, Or.inr ⟨other, tail, parted, misfit⟩⟩
  · rintro ⟨e, above, place, next, rest, rfl, ends⟩
    refine ⟨above ++ [place], next, rest, by simp, by simp, ends.imp And.left ?_⟩
    rintro ⟨other, tail, rfl, misfit⟩
    refine ⟨other, tail, by simp, ?_⟩
    intro alike
    have fits : other.misfit? path place.name next = none :=
      Segment.misfit?_eq_none_iff.mpr alike
    simp [fits] at misfit

/-- Paths that start with fields do not clash before that. -/
theorem clash?_field_eq_some_iff {first second : String} :
    clash? path name (.field first :: earlier) (.field second :: later) = some e ↔
      Clash path (.field first :: earlier) (.field second :: later) e := by
  rw [clash?_eq_some_iff, or_iff_right_iff_imp]
  rintro ⟨next, rest, split, ⟨ended, _⟩ | ⟨other, tail, parted, misfit⟩⟩
  · simp at ended
  · obtain ⟨rfl, _⟩ := List.cons.inj split
    obtain ⟨rfl, _⟩ := List.cons.inj parted
    simp [Segment.misfit?] at misfit

/-- For paths that start with fields, fitting is not being incompatible. -/
theorem fits_field_iff {first second : String} :
    Fits (.field first :: earlier) (.field second :: later) ↔
      ¬ Incompatible (.field first :: earlier) (.field second :: later) := by
  rw [fits_iff_clash?_eq_none "" "", Option.eq_none_iff_forall_ne_some, incompatible_iff "",
    not_exists]
  simp only [ne_eq, clash?_field_eq_some_iff]

end Path

/-! ### Nodes that refuse a path -/

open RiskScreen.Path (Segment clash?)

namespace Node

/-- Why a node called `name` can have no child at the segment. -/
def misfit? (path name : String) : Node → Segment → Option PathError
  | .object _, .field _ => none
  | .group item _, .indexed child _ =>
      if item = child then none else some (.itemNameConflict path name item child)
  | node, next => some (.shapeConflict path name node.shape next.container)

/-- Why nothing can be written along the segments below a place called `name`. -/
def refusal? (path : String) : String → Option Node → List Segment → Option PathError
  | _, _, [] => none
  | name, found, segment :: rest =>
      match (found.getD (fresh segment)).misfit? path name segment with
      | some e => some e
      | none => refusal? path segment.name ((found.getD (fresh segment)).child? segment) rest

variable {path name : String} {node child : Node} {found : Option Node} {e : PathError}
  {segment other next : Segment} {segments rest : List Segment}

theorem misfit?_eq_none_iff : node.misfit? path name segment = none ↔ node.Admits segment := by
  cases node <;> cases segment <;> simp [misfit?, Admits]

theorem misfit?_fresh (segment : Segment) : (fresh segment).misfit? path name segment = none :=
  misfit?_eq_none_iff.mpr (admits_fresh_iff.mpr (Segment.Alike.refl segment))

/-- What a node admits tells its kind. -/
theorem Admits.misfit?_eq (h : node.Admits other) :
    node.misfit? path name next = other.misfit? path name next := by
  cases node <;> cases other
  case object.field fields key =>
    cases next <;> rfl
  case group.indexed item slots key index =>
    obtain rfl : item = key := h
    cases next <;> rfl
  all_goals exact absurd h id

theorem admits_of_child? (h : node.child? segment = some child) : node.Admits segment := by
  cases node <;> cases segment <;> simp_all [child?, Admits]

theorem refusal?_none (name : String) (segments : List Segment) :
    refusal? path name none segments = none := by
  induction segments generalizing name with
  | nil => rfl
  | cons segment rest ih =>
    rw [refusal?, Option.getD_none, misfit?_fresh, child?_fresh]
    exact ih segment.name

theorem refusal?_some_cons (node : Node) (segment : Segment) (rest : List Segment) :
    refusal? path name (some node) (segment :: rest) =
      (node.misfit? path name segment).or
        (refusal? path segment.name (node.child? segment) rest) := by
  rw [refusal?, Option.getD_some]
  cases node.misfit? path name segment <;> rfl

/-- A value refuses every path that goes on. -/
theorem refusal?_value_eq_some_iff (text : Option String) :
    refusal? path name (some (.value text)) segments = some e ↔
      ∃ earlier value, leaf? (some (.value text)) earlier = some value ∧
        clash? path name earlier segments = some e := by
  constructor
  · intro refused
    refine ⟨[], text, rfl, ?_⟩
    cases segments with
    | nil => simp [refusal?] at refused
    | cons segment rest =>
      rw [refusal?_some_cons] at refused
      cases segment <;> exact refused
  · rintro ⟨earlier, value, leaf, clash⟩
    cases earlier with
    | cons other tail =>
      rw [leaf?_some_cons, child?_value, leaf?_none] at leaf
      simp at leaf
    | nil =>
      cases segments with
      | nil => simp [clash?] at clash
      | cons segment rest =>
        rw [refusal?_some_cons]
        cases segment <;> exact clash

/-- What stops a write at nodes that were built is a clash with the path of a value there. -/
theorem refusal?_eq_some_iff (built : ∀ node, found = some node → node.Built) :
    refusal? path name found segments = some e ↔
      ∃ earlier value, leaf? found earlier = some value ∧
        clash? path name earlier segments = some e := by
  induction segments generalizing found name with
  | nil => simp [refusal?, clash?]
  | cons next rest ih =>
    cases found with
    | none => simp [refusal?_none]
    | some node =>
      have nodeBuilt := built node rfl
      cases text : node.text? with
      | some value =>
        cases node with
        | value held => exact refusal?_value_eq_some_iff held
        | object fields => simp [text?] at text
        | group item slots => simp [text?] at text
      | none =>
        have below : refusal? path next.name (node.child? next) rest = some e ↔
            ∃ earlier value, leaf? (node.child? next) earlier = some value ∧
              clash? path next.name earlier rest = some e :=
          ih fun child found => nodeBuilt.child? found
        rw [refusal?_some_cons]
        constructor
        · intro refused
          rcases Option.or_eq_some_iff.mp refused with misfit | ⟨fits, refused⟩
          · -- Any child shows what kind of node this is.
            obtain ⟨other, child, found⟩ := nodeBuilt.exists_child text
            obtain ⟨tail, value, leaf⟩ := (nodeBuilt.child? found).exists_leaf
            have admits := admits_of_child? found
            have differ : other ≠ next := by
              rintro rfl
              rw [misfit?_eq_none_iff.mpr admits] at misfit
              simp at misfit
            refine ⟨other :: tail, value, ?_, ?_⟩
            · rw [leaf?_some_cons, found]
              exact leaf
            · rw [clash?, if_neg differ, ← admits.misfit?_eq]
              exact misfit
          · obtain ⟨tail, value, leaf, clash⟩ := below.mp refused
            exact ⟨next :: tail, value, leaf, by rw [clash?, if_pos rfl, clash]⟩
        · rintro ⟨earlier, value, leaf, clash⟩
          cases earlier with
          | nil =>
            rw [leaf?, descend?, Option.bind_some, text] at leaf
            simp at leaf
          | cons other tail =>
            rw [leaf?_some_cons] at leaf
            cases found : node.child? other with
            | none =>
              rw [found, leaf?_none] at leaf
              simp at leaf
            | some child =>
              have admits := admits_of_child? found
              by_cases same : other = next
              · subst same
                rw [clash?, if_pos rfl] at clash
                rw [misfit?_eq_none_iff.mpr admits, Option.none_or]
                exact below.mpr ⟨tail, value, leaf, clash⟩
              · rw [clash?, if_neg same, ← admits.misfit?_eq] at clash
                rw [clash, Option.some_or]

end Node

open Node

/-- The walk on fields stops for the reason that the nodes give. -/
theorem Fields.insertAt_refusal (path : String) (value : Option String) (name : String)
    (rest : List Segment) (fields : Fields) :
    (insertAt path value name rest fields).2 = refusal? path name (find? name fields) rest := by
  induction rest generalizing name fields with
  | nil => rfl
  | cons segment rest ih =>
    cases segment with
    | field child =>
      rw [insertAt, refusal?, fresh]
      cases (find? name fields).getD (.object []) with
      | object inner => exact ih child inner
      | value text => rfl
      | group item slots => rfl
    | indexed child index =>
      rw [insertAt, refusal?, fresh]
      cases (find? name fields).getD (.group child []) with
      | object inner => rfl
      | value text => rfl
      | group item slots =>
        by_cases same : item = child
        · subst same
          have slot : (Slots.grow (index + 1) slots)[index]?.getD [] = slots[index]?.getD [] := by
            rw [Slots.getElem?_grow, if_pos (by omega)]
            rfl
          simp only [if_true, slot, misfit?, child?_group_eq]
          exact ih item (slots[index]?.getD [])
        · simp only [if_neg same, misfit?]

end RiskScreen
