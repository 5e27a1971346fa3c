import RiskScreen.Proofs.Document.Built
import RiskScreen.Proofs.Document.Reference
import RiskScreen.Proofs.Markup.Address

/-!
# From nodes to elements and back

The element of a node that was built has a child where the node has one, named by the same
segment, and an empty item in each empty slot of a group. So a path that reaches a value leads
to the element of that value, and every element below is met on such a path, or stands for a
slot without an item.
-/

namespace RiskScreen

open RiskScreen.Path (Segment)

namespace Fields

variable {fields : Fields} {name : String} {node : Node}

/-- A name stands at one position only. -/
theorem Ascending.position_unique (ascending : fields.Ascending) {position other : Nat}
    {sibling : Node} (h : fields[position]? = some (name, node))
    (h' : fields[other]? = some (name, sibling)) : other = position := by
  have apart : ∀ {low high : Nat} {first second : Node}, low < high →
      fields[low]? = some (name, first) → fields[high]? = some (name, second) → False := by
    intro low high first second less found found'
    obtain ⟨inside, lowEq⟩ := List.getElem?_eq_some_iff.mp found
    obtain ⟨inside', highEq⟩ := List.getElem?_eq_some_iff.mp found'
    have names := List.pairwise_iff_getElem.mp ascending low high inside inside' less
    rw [lowEq, highEq] at names
    exact Std.lt_irrefl names
  rcases Nat.lt_trichotomy other position with less | same | more
  · exact absurd h (fun found => apart less h' found)
  · exact same
  · exact absurd h (fun found => apart more found h')

end Fields

/-- Each slot of a group that was built stands for its item, or for an empty one. -/
theorem Slots.references_of_single {item : String} {slots : List Fields}
    (single : ∀ slot ∈ slots, slot = [] ∨ ∃ node, slot = [(item, node)]) :
    references item slots = slots.map fun slot =>
      ((Fields.find? item slot).map (Node.reference item)).getD ⟨item, "", []⟩ := by
  induction slots with
  | nil => rfl
  | cons slot slots ih =>
    obtain ⟨here, below⟩ := List.forall_mem_cons.mp single
    rcases here with rfl | ⟨node, rfl⟩
    · rw [references, ih below]
      rfl
    · rw [references, ih below, Fields.references, Fields.references, Element.byName,
        List.mergeSort_singleton, List.map_cons, Fields.find?_cons_self]
      rfl

namespace Node

variable {node child : Node} {segment : Segment} {segments : List Segment} {position : Nat}
  {address : List Nat} {element : Element} {value : Option String}

/-- Whether a group has no item at the index, and has one further on. -/
def GapAt (node : Node) (index : Nat) (item : String) : Prop :=
  (∀ name, node.child? (.indexed name index) = none) ∧
    ∃ larger > index, ∃ child, node.child? (.indexed item larger) = some child

/-! ### One step -/

theorem childAt_object {fields : Fields} (ascending : fields.Ascending) {key : String}
    (h : fields[position]? = some (key, child)) (name : String) :
    ((Node.object fields).reference name).ChildAt (.field key) position (child.reference key) := by
  have children : ((Node.object fields).reference name).children =
      fields.map fun field => field.2.reference field.1 := by
    rw [reference, ascending.byName_references, Fields.references_eq_map]
  refine ⟨?_, name_reference key child, ?_⟩
  · rw [children, List.getElem?_map, h]
    rfl
  · intro other sibling found named
    rw [children, List.getElem?_map] at found
    obtain ⟨⟨otherKey, otherChild⟩, there, rfl⟩ := Option.map_eq_some_iff.mp found
    obtain rfl : otherKey = key := (name_reference otherKey otherChild).symm.trans named
    exact ascending.position_unique h there

theorem childAt_group {item : String} {slots : List Fields}
    (single : ∀ slot ∈ slots, slot = [] ∨ ∃ node, slot = [(item, node)])
    (h : slots[position]? = some [(item, child)]) (name : String) :
    ((Node.group item slots).reference name).ChildAt (.indexed item position) position
      (child.reference item) := by
  refine ⟨rfl, ?_, name_reference item child⟩
  rw [reference, Slots.references_of_single single, List.getElem?_map, h, Option.map_some,
    Fields.find?_cons_self]
  rfl

/-- The child at a segment stands for the child element that the segment names. -/
theorem Built.exists_childAt (built : node.Built) (h : node.child? segment = some child)
    (name : String) :
    ∃ position, (node.reference name).ChildAt segment position (child.reference segment.name) := by
  cases built with
  | value text => cases segment <;> simp [Node.child?] at h
  | object nonempty ascending below =>
    cases segment with
    | field key =>
      obtain ⟨position, there⟩ := List.getElem?_of_mem (Fields.mem_of_find? h)
      exact ⟨position, childAt_object ascending there name⟩
    | indexed key index => simp [Node.child?] at h
  | @group item slots last single below =>
    cases segment with
    | field key => simp [Node.child?] at h
    | indexed key index =>
      rw [child?_group_eq] at h
      obtain ⟨rfl, found⟩ := Option.ite_none_right_eq_some.mp h
      rcases Slots.single_getD single index with empty | ⟨other, slot⟩
      · rw [empty] at found
        simp at found
      · rw [slot, Fields.find?_cons_self] at found
        obtain rfl := Option.some.inj found
        refine ⟨index, childAt_group single ?_ name⟩
        cases there : slots[index]? with
        | none => simp [there] at slot
        | some fields => simpa [there] using slot

/-- An empty slot is not the last one, since that one has an item. -/
theorem gapAt_group {item : String} {slots : List Fields}
    (last : slots[slots.length - 1]?.getD [] ≠ [])
    (single : ∀ slot ∈ slots, slot = [] ∨ ∃ node, slot = [(item, node)])
    (h : slots[position]? = some []) : (Node.group item slots).GapAt position item := by
  refine ⟨?_, slots.length - 1, ?_, exists_child?_last last single⟩
  · intro name
    rw [child?_group_eq, h]
    simp
  · have inside := (List.getElem?_eq_some_iff.mp h).1
    have notLast : position ≠ slots.length - 1 := by
      rintro rfl
      rw [h] at last
      exact last rfl
    omega

/-- Every child element stands for a child, or for a slot without an item. -/
theorem Built.child_or_gap (built : node.Built) {name : String}
    (h : (node.reference name).children[position]? = some element) :
    (∃ segment child, node.child? segment = some child ∧
      (node.reference name).ChildAt segment position (child.reference segment.name) ∧
      element = child.reference segment.name) ∨
    ∃ item, node.GapAt position item ∧ element = ⟨item, "", []⟩ := by
  cases built with
  | value text => simp [reference] at h
  | @object fields nonempty ascending below =>
    left
    rw [reference, ascending.byName_references, Fields.references_eq_map,
      List.getElem?_map] at h
    obtain ⟨⟨key, child⟩, there, rfl⟩ := Option.map_eq_some_iff.mp h
    have found : Fields.find? key fields = some child :=
      ascending.find?_of_mem (List.mem_of_getElem? there)
    exact ⟨.field key, child, found, childAt_object ascending there name, rfl⟩
  | @group item slots last single below =>
    rw [reference, Slots.references_of_single single, List.getElem?_map] at h
    obtain ⟨slot, there, rfl⟩ := Option.map_eq_some_iff.mp h
    rcases single slot (List.mem_of_getElem? there) with rfl | ⟨child, rfl⟩
    · right
      exact ⟨item, gapAt_group last single there, rfl⟩
    · left
      refine ⟨.indexed item position, child, ?_, childAt_group single there name, ?_⟩
      · rw [child?_group_eq, if_pos rfl, there]
        exact Fields.find?_cons_self item child []
      · rw [Fields.find?_cons_self]
        rfl

/-! ### The whole way -/

theorem descend?_some_cons (node : Node) (segment : Segment) (rest : List Segment) :
    descend? (some node) (segment :: rest) = descend? (node.child? segment) rest := rfl

theorem descend?_append (found : Option Node) (front back : List Segment) :
    descend? found (front ++ back) = descend? (descend? found front) back := by
  induction front generalizing found with
  | nil => rfl
  | cons segment front ih => exact ih _

theorem leaf?_append (found : Option Node) (front back : List Segment) :
    leaf? found (front ++ back) = leaf? (descend? found front) back := by
  rw [leaf?, descend?_append]
  rfl

theorem Built.descend? (built : node.Built) (h : descend? (some node) segments = some child) :
    child.Built := by
  induction segments generalizing node with
  | nil =>
    obtain rfl := Option.some.inj h
    exact built
  | cons segment rest ih =>
    rw [descend?_some_cons] at h
    cases found : node.child? segment with
    | none =>
      rw [found, descend?_none] at h
      simp at h
    | some next =>
      rw [found] at h
      exact ih (built.child? found) h

/-- A path that reaches a node leads to an element that the node stands for. -/
theorem Built.exists_leads_of_descend? (built : node.Built)
    (h : Node.descend? (some node) segments = some child) (name : String) :
    ∃ address childName, (node.reference name).Leads segments address
      (child.reference childName) := by
  induction segments generalizing node name with
  | nil =>
    obtain rfl := Option.some.inj h
    exact ⟨[], name, .here _⟩
  | cons segment rest ih =>
    rw [descend?_some_cons] at h
    cases found : node.child? segment with
    | none =>
      rw [found, descend?_none] at h
      simp at h
    | some next =>
      rw [found] at h
      obtain ⟨position, first⟩ := built.exists_childAt found name
      obtain ⟨address, childName, below⟩ := ih (built.child? found) h segment.name
      exact ⟨position :: address, childName, .child first below⟩

/-- A path that reaches a value leads to an element around the text of that value. -/
theorem Built.exists_leads (built : node.Built) (h : leaf? (some node) segments = some value)
    (name : String) :
    ∃ address reached, (node.reference name).Leads segments address reached ∧
      reached.text = value.getD "" ∧ reached.children = [] := by
  obtain ⟨child, down, text⟩ := Option.bind_eq_some_iff.mp h
  obtain ⟨address, childName, leads⟩ := built.exists_leads_of_descend? down name
  refine ⟨address, child.reference childName, leads, ?_⟩
  cases child with
  | value held =>
    obtain rfl : held = value := Option.some.inj text
    exact ⟨rfl, rfl⟩
  | object fields => simp [text?] at text
  | group item slots => simp [text?] at text

/-- Every element below is that of a node on the way along some segments, or is an empty item
in a gap of a group that some segments lead to. -/
theorem Built.leads_or_gap (built : node.Built) {name : String}
    (h : (node.reference name).at? address = some element) :
    (∃ segments child childName, (node.reference name).Leads segments address element ∧
      Node.descend? (some node) segments = some child ∧ element = child.reference childName) ∨
    ∃ above front group child index item, address = front ++ [index] ∧
      (node.reference name).Leads above front group ∧
      Node.descend? (some node) above = some child ∧ child.GapAt index item ∧
      element = ⟨item, "", []⟩ := by
  induction address generalizing node name with
  | nil =>
    obtain rfl := Option.some.inj h
    exact Or.inl ⟨[], node, name, .here _, rfl, rfl⟩
  | cons position address ih =>
    obtain ⟨next, there, below⟩ := Element.at?_cons_eq_some_iff.mp h
    rcases built.child_or_gap there with ⟨segment, child, found, first, rfl⟩ | ⟨item, gap, rfl⟩
    · rcases ih (built.child? found) below with ⟨segments, reached, reachedName, leads, down, rfl⟩ |
        ⟨above, front, group, parent, index, item, rfl, leads, down, gap, rfl⟩
      · left
        refine ⟨segment :: segments, reached, reachedName, .child first leads, ?_, rfl⟩
        rw [descend?_some_cons, found]
        exact down
      · right
        refine ⟨segment :: above, position :: front, group, parent, index, item, rfl,
          .child first leads, ?_, gap, rfl⟩
        rw [descend?_some_cons, found]
        exact down
    · -- An empty item has nothing below it.
      cases address with
      | nil =>
        obtain rfl := Option.some.inj below
        right
        exact ⟨[], [], node.reference name, node, position, item, rfl, .here _, rfl, gap, rfl⟩
      | cons other address => simp [Element.at?] at below

end Node

end RiskScreen
