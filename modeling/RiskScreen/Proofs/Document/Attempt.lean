import RiskScreen.Proofs.Document.History

/-!
# Attempts to write

A write that is refused leaves the document as it was. The walk makes objects, groups and slots
before it knows whether it will go through, but only where there was nothing, and from there
on nothing stands in its way. So in a run of attempts the refused ones leave no trace, and every
value in the document is that of the last write to its place that none has overwritten.
-/

namespace RiskScreen

open RiskScreen.Path (Segment)
open Node (Accepts leaf?)

/-! ### One attempt -/

/-- The fields of a slot are in order where the group is. -/
theorem Node.Ordered.slot {item : String} {slots : List Fields} {index : Nat}
    (ordered : (Node.group item slots).Ordered) (inside : index < slots.length) :
    (Node.object (slots[index]?.getD [])).Ordered := by
  rw [List.getElem?_eq_getElem inside, Option.getD_some]
  cases ordered with | group ascending below =>
  have mem := List.getElem_mem inside
  exact .object (ascending _ mem) (below _ mem)

namespace Slots

/-- A slot that is there is set to itself without the group growing. -/
theorem set_grow_eq_self {slots : List Fields} {index : Nat} (inside : index < slots.length) :
    (grow (index + 1) slots).set index (slots[index]?.getD []) = slots := by
  have whole : grow (index + 1) slots = slots := by
    rw [grow, Nat.sub_eq_zero_of_le inside, List.replicate_zero, List.append_nil]
  rw [whole, List.getElem?_eq_getElem inside, Option.getD_some, List.set_getElem_self]

end Slots

namespace Fields

variable {path name : String} {value : Option String} {rest : List Segment} {fields : Fields}
  {e : PathError}

/-- A write is refused at nodes that are there. -/
theorem exists_find?_of_refused (h : (insertAt path value name rest fields).2 = some e) :
    ∃ node, find? name fields = some node := by
  cases found : find? name fields with
  | some node => exact ⟨node, rfl⟩
  | none =>
    rcases insertAt_spec path value name rest fields with ⟨_, written⟩ | ⟨refuses, _⟩
    · simp [written] at h
    · rw [found] at refuses
      exact absurd (Node.accepts_none rest) refuses

/-- A slot that is made for a walk is empty, and then the walk is not stopped in it. -/
theorem lt_length_of_refused {slots : List Fields} {index : Nat}
    (h : (insertAt path value name rest (slots[index]?.getD [])).2 = some e) :
    index < slots.length := by
  obtain ⟨node, occupied⟩ := exists_find?_of_refused h
  by_contra outside
  rw [List.getElem?_eq_none (by omega)] at occupied
  simp at occupied

/-- A walk that is stopped leaves the fields as they were. -/
theorem insertAt_of_refused (ordered : (Node.object fields).Ordered)
    (h : (insertAt path value name rest fields).2 = some e) :
    (insertAt path value name rest fields).1 = fields := by
  induction rest generalizing name fields with
  | nil => simp [insertAt] at h
  | cons segment rest ih =>
    obtain ⟨node, found⟩ := exists_find?_of_refused h
    cases ordered with | object ascending below =>
    have nodeOrdered : node.Ordered := below _ (mem_of_find? found)
    cases segment with
    | field child =>
      rw [insertAt, found, Option.getD_some] at h ⊢
      cases node with
      | object inner =>
        simp only [settle] at h ⊢
        rw [ih nodeOrdered h]
        exact ascending.put_eq_self found
      | value text => rfl
      | group item slots => rfl
    | indexed child index =>
      rw [insertAt, found, Option.getD_some] at h ⊢
      cases node with
      | object inner => rfl
      | value text => rfl
      | group item slots =>
        by_cases same : item = child
        · subst same
          have slot : (Slots.grow (index + 1) slots)[index]?.getD [] = slots[index]?.getD [] := by
            rw [Slots.getElem?_grow, if_pos (by omega)]
            rfl
          simp only [if_true, slot, settle] at h ⊢
          have inside : index < slots.length := lt_length_of_refused h
          rw [ih (nodeOrdered.slot inside) h, Slots.set_grow_eq_self inside]
          exact ascending.put_eq_self found
        · simp only [if_neg same]

end Fields

namespace Document

variable {document next : Document} {path : String} {value : Option String} {e : PathError}

/-- A write that is refused leaves a document with its fields in order as it was. -/
theorem insert_of_refused (ordered : document.Ordered)
    (h : document.insert path value = (next, some e)) : next = document := by
  obtain ⟨rfl, h⟩ := Prod.ext_iff.mp h
  rw [insert] at h ⊢
  cases read : Path.read path with
  | error cause => rfl
  | ok segments =>
    cases segments with
    | nil => rfl
    | cons head rest =>
      simp only [read, insertSegments] at h ⊢
      obtain ⟨transactions⟩ := document
      cases transactions with
      | nil =>
        obtain ⟨node, found⟩ := Fields.exists_find?_of_refused h
        simp [firstTransaction] at found
      | cons fields others =>
        have kept := Fields.insertAt_of_refused (ordered fields List.mem_cons_self) h
        exact congrArg (setFirstTransaction ⟨fields :: others⟩) kept

/-! ### Runs of attempts -/

/-- The document after an attempt to write each of the entries. -/
def attemptAll : Document → List Entry → Document
  | document, [] => document
  | document, entry :: rest => attemptAll (document.insert entry.path entry.value).1 rest

/-- The entries that are written in such a run, in their order. -/
def written : Document → List Entry → List Entry
  | _, [] => []
  | document, entry :: rest =>
      match document.insert entry.path entry.value with
      | (next, none) => entry :: written next rest
      | (next, some _) => written next rest

variable {earlier : List Placement}

/-- The attempts that are refused might as well not be made. -/
theorem Holds.insertAll_written (holds : document.Holds earlier) (entries : List Entry) :
    document.insertAll (document.written entries) = .ok (document.attemptAll entries) := by
  induction entries generalizing document earlier with
  | nil => rfl
  | cons entry entries ih =>
    rw [attemptAll, written]
    rcases attempt : document.insert entry.path entry.value with ⟨next, _ | e⟩
    · obtain ⟨placement, _, _, nextHolds⟩ := holds.fits_of_insert attempt
      exact insertAll_cons_eq_ok_iff.mpr ⟨next, attempt, ih nextHolds⟩
    · obtain rfl := insert_of_refused holds.ordered attempt
      exact ih holds

theorem holds_attemptAll (entries : List Entry) :
    (blank.attemptAll entries).Holds (placements (blank.written entries)) :=
  (holds_blank.insertAll (holds_blank.insertAll_written entries)).2

/-- Whatever was attempted before, a write that is refused leaves the document as it was. -/
theorem insert_attemptAll_of_refused {entries : List Entry}
    (h : (blank.attemptAll entries).insert path value = (next, some e)) :
    next = blank.attemptAll entries :=
  insert_of_refused (holds_attemptAll entries).ordered h

/-- Attempts on the items of an order: the second one is refused, and the last one takes the
place of the first. -/
def interrupted : List Entry :=
  [⟨"order->item[2]->sku", some "A"⟩, ⟨"order->line[0]", some "B"⟩, ⟨"order->item[0]", some "C"⟩,
    ⟨"order->item[2]", some "D"⟩]

theorem insert_attemptAll_of_refused_interrupted :
    ∃ next, (blank.attemptAll interrupted).insert "order->item[0]->sku" none =
      (next, some (.shapeConflict "order->item[0]->sku" "item" .value .object)) ∧
      next = blank.attemptAll interrupted := by
  have refused : ((blank.attemptAll interrupted).insert "order->item[0]->sku" none).2 =
      some (.shapeConflict "order->item[0]->sku" "item" .value .object) := by rfl
  exact ⟨_, Prod.ext rfl refused, insert_attemptAll_of_refused (Prod.ext rfl refused)⟩

/-! ### What is held after a run -/

/-- A value survives that an entry asks for, if no later entry asks for one at its place or
above. -/
theorem mem_survivors_placements_iff {entries : List Entry} {segments : List Segment} :
    ⟨segments, value⟩ ∈ survivors (placements entries) ↔
      ∃ front entry back, entries = front ++ entry :: back ∧
        Path.read entry.path = .ok segments ∧ entry.value = value ∧
        ∀ later ∈ back, ∀ above, Path.read later.path = .ok above → ¬ above <+: segments := by
  have keeps (back : List Entry) :
      (∀ later ∈ placements back, ¬ later.segments <+: segments) ↔
        ∀ later ∈ back, ∀ above, Path.read later.path = .ok above → ¬ above <+: segments := by
    constructor
    · intro kept later mem above read
      refine kept ⟨above, later.value⟩ (List.mem_filterMap.mpr ⟨later, mem, ?_⟩)
      exact Entry.placement?_eq_some_iff.mpr ⟨read, rfl⟩
    · intro kept placement mem
      obtain ⟨later, laterMem, found⟩ := List.mem_filterMap.mp mem
      exact kept later laterMem _ (Entry.placement?_eq_some_iff.mp found).1
  rw [mem_survivors_iff]
  constructor
  · rintro ⟨before, after, split, kept⟩
    obtain ⟨front, others, rfl, rfl, rest⟩ := List.filterMap_eq_append_iff.mp split
    obtain ⟨silent, entry, back, rfl, _, found, rfl⟩ := List.filterMap_eq_cons_iff.mp rest
    obtain ⟨read, same⟩ := Entry.placement?_eq_some_iff.mp found
    refine ⟨front ++ silent, entry, back, ?_, read, same, (keeps back).mp kept⟩
    rw [List.append_assoc]
  · rintro ⟨front, entry, back, rfl, read, same, kept⟩
    refine ⟨placements front, placements back, ?_, (keeps back).mpr kept⟩
    have found : entry.placement? = some ⟨segments, value⟩ :=
      Entry.placement?_eq_some_iff.mpr ⟨read, same⟩
    rw [placements, List.filterMap_append, List.filterMap_cons_some found]
    rfl

/-- An attempt leaves alone what is neither at its path nor below. -/
theorem Holds.leaf?_insert (holds : document.Holds earlier) (entry : Entry)
    {segments : List Segment}
    (apart : ∀ above, Path.read entry.path = .ok above → ¬ above <+: segments) :
    leaf? (document.insert entry.path entry.value).1.root? segments =
      leaf? document.root? segments := by
  rcases attempt : document.insert entry.path entry.value with ⟨next, _ | e⟩
  · obtain ⟨placement, found, _, nextHolds⟩ := holds.fits_of_insert attempt
    have beside := apart _ (Entry.placement?_eq_some_iff.mp found).1
    apply Option.ext
    intro held
    rw [nextHolds.leaf, holds.leaf, mem_survivors_concat_iff]
    constructor
    · rintro (same | ⟨mem, _⟩)
      · rw [← same] at beside
        exact absurd List.prefix_rfl beside
      · exact mem
    · intro mem
      exact Or.inr ⟨mem, beside⟩
  · rw [insert_of_refused holds.ordered attempt]

/-- After a run of attempts from blank there is a value at a place exactly if an entry was
written that asks for it, and none was written later at that place or above. So a further
attempt leaves alone whatever is neither at its path nor below. -/
theorem attemptAll_leaf_iff (entries : List Entry) :
    (∀ segments value, leaf? (blank.attemptAll entries).root? segments = some value ↔
      ∃ front entry back, blank.written entries = front ++ entry :: back ∧
        Path.read entry.path = .ok segments ∧ entry.value = value ∧
        ∀ later ∈ back, ∀ above, Path.read later.path = .ok above → ¬ above <+: segments) ∧
    ∀ path value segments,
      (∀ above, Path.read path = .ok above → ¬ above <+: segments) →
      leaf? ((blank.attemptAll entries).insert path value).1.root? segments =
        leaf? (blank.attemptAll entries).root? segments := by
  have holds := holds_attemptAll entries
  constructor
  · intro segments value
    rw [holds.leaf, mem_survivors_placements_iff]
  · intro path value segments apart
    exact holds.leaf?_insert ⟨path, value⟩ apart

theorem attemptAll_leaf_iff_interrupted :
    leaf? (blank.attemptAll interrupted).root? [.field "order", .indexed "item" 2] =
        some (some "D") ∧
      leaf? ((blank.attemptAll interrupted).insert "order->item[5]" none).1.root?
        [.field "order", .indexed "item" 2] = some (some "D") := by
  have written : blank.written interrupted = [interrupted[0], interrupted[2]] ++
      interrupted[3] :: [] := by rfl
  have held : leaf? (blank.attemptAll interrupted).root? [.field "order", .indexed "item" 2] =
      some (some "D") := by
    apply ((attemptAll_leaf_iff interrupted).1 _ _).mpr
    exact ⟨_, _, _, written, by rfl, rfl, List.forall_mem_nil _⟩
  refine ⟨held, Eq.trans ((attemptAll_leaf_iff interrupted).2 _ _ _ ?_) held⟩
  have read : Path.read "order->item[5]" = .ok [.field "order", .indexed "item" 5] := by rfl
  intro above same
  obtain rfl := Except.ok.inj (read.symm.trans same)
  decide

end Document

end RiskScreen
