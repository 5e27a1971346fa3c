import RiskScreen.Proofs.Document.Order
import RiskScreen.Proofs.Document.Write

/-!
# Nodes that were built by writing

Writing makes no object without fields, no group that ends in an empty slot and no slot with
anything but one item. Nodes of this form have a value below them, and are determined by the
values that are reached from them: what was built keeps no trace of the order of the writes
or of what has been overwritten.
-/

namespace RiskScreen

open RiskScreen.Path (Segment)

/-- The form of the nodes that come from writing values. -/
inductive Node.Built : Node → Prop
  | value (text : Option String) : Built (.value text)
  | object {fields : Fields} (nonempty : fields ≠ []) (ascending : fields.Ascending)
      (below : ∀ field ∈ fields, Built field.2) : Built (.object fields)
  | group {item : String} {slots : List Fields}
      (last : slots[slots.length - 1]?.getD [] ≠ [])
      (single : ∀ slot ∈ slots, slot = [] ∨ ∃ node, slot = [(item, node)])
      (below : ∀ slot ∈ slots, ∀ field ∈ slot, Built field.2) : Built (.group item slots)

/-! ### Slots with at most one item -/

namespace Slots

variable {item : String} {slots : List Fields} {slot : Fields} {index : Nat}

theorem getD_eq_nil_or_mem (slots : List Fields) (index : Nat) :
    slots[index]?.getD [] = [] ∨ slots[index]?.getD [] ∈ slots := by
  cases found : slots[index]? with
  | none => exact Or.inl rfl
  | some slot => exact Or.inr (List.mem_of_getElem? found)

theorem mem_modify {change : Fields → Fields} (h : slot ∈ modify index change slots) :
    slot = change (slots[index]?.getD []) ∨ slot = [] ∨ slot ∈ slots := by
  obtain ⟨other, found⟩ := List.mem_iff_getElem?.mp h
  by_cases same : other = index
  · subst same
    rw [getElem?_modify_self] at found
    exact Or.inl (Option.some.inj found).symm
  · rw [getElem?_modify_of_ne index change slots same] at found
    obtain ⟨_, slotFound⟩ := Option.ite_none_right_eq_some.mp found
    rw [← Option.some.inj slotFound]
    exact Or.inr (getD_eq_nil_or_mem slots other)

/-- Every slot, also one that is not there, is empty or holds one item. -/
theorem single_getD (single : ∀ slot ∈ slots, slot = [] ∨ ∃ node, slot = [(item, node)])
    (index : Nat) :
    slots[index]?.getD [] = [] ∨ ∃ node, slots[index]?.getD [] = [(item, node)] := by
  rcases getD_eq_nil_or_mem slots index with empty | mem
  · exact Or.inl empty
  · exact single _ mem

/-- An item takes the place of the one that is there. -/
theorem put_single (h : slot = [] ∨ ∃ node, slot = [(item, node)]) (child : Node) :
    Fields.put item child slot = [(item, child)] := by
  rcases h with rfl | ⟨node, rfl⟩ <;> simp [Fields.put]

/-- Slots with at most one item are equal if they hold the same one. -/
theorem eq_of_find?_eq {other : Fields} (h : slot = [] ∨ ∃ node, slot = [(item, node)])
    (h' : other = [] ∨ ∃ node, other = [(item, node)])
    (same : Fields.find? item slot = Fields.find? item other) : slot = other := by
  rcases h with rfl | ⟨node, rfl⟩ <;> rcases h' with rfl | ⟨otherNode, rfl⟩ <;>
    simp_all [Fields.find?]

/-- Groups that end in a slot with an item are determined by their slots, wherever these are. -/
theorem ext_getD {others : List Fields} (last : slots[slots.length - 1]?.getD [] ≠ [])
    (otherLast : others[others.length - 1]?.getD [] ≠ [])
    (same : ∀ index : Nat, slots[index]?.getD [] = others[index]?.getD []) : slots = others := by
  have inside : ∀ {front back : List Fields}, back[back.length - 1]?.getD [] ≠ [] →
      (∀ index : Nat, front[index]?.getD [] = back[index]?.getD []) →
      back.length ≤ front.length := by
    intro front back last same
    apply Nat.le_of_not_lt
    intro shorter
    rw [← same, List.getElem?_eq_none (by omega)] at last
    exact last rfl
  have lengths : slots.length = others.length :=
    Nat.le_antisymm (inside last fun index => (same index).symm) (inside otherLast same)
  apply List.ext_getElem lengths
  intro index less otherLess
  have slot := same index
  rwa [List.getElem?_eq_getElem less, List.getElem?_eq_getElem otherLess] at slot

end Slots

namespace Node

variable {node child : Node} {segment : Segment} {found : Option Node}

/-- What was built keeps its fields in order. -/
theorem Built.ordered (built : node.Built) : node.Ordered := by
  induction built with
  | value text => exact .value text
  | object nonempty ascending below ih => exact .object ascending ih
  | group last single below ih =>
    refine .group ?_ ih
    intro slot mem
    rcases single slot mem with rfl | ⟨node, rfl⟩
    · exact List.Pairwise.nil
    · exact List.pairwise_singleton _ _

/-! ### Children -/

theorem child?_object_eq_some {fields : Fields}
    (h : (Node.object fields).child? segment = some child) :
    ∃ name, segment = .field name ∧ (name, child) ∈ fields := by
  cases segment with
  | field name => exact ⟨name, rfl, Fields.mem_of_find? h⟩
  | indexed name index => simp [Node.child?] at h

theorem child?_group_eq_some {item : String} {slots : List Fields}
    (h : (Node.group item slots).child? segment = some child) :
    ∃ index, segment = .indexed item index ∧ ∃ slot ∈ slots, (item, child) ∈ slot := by
  cases segment with
  | field name => simp [Node.child?] at h
  | indexed name index =>
    rw [child?_group_eq] at h
    obtain ⟨rfl, found⟩ := Option.ite_none_right_eq_some.mp h
    refine ⟨index, rfl, slots[index]?.getD [], ?_, Fields.mem_of_find? found⟩
    rcases Slots.getD_eq_nil_or_mem slots index with empty | mem
    · rw [empty] at found
      simp at found
    · exact mem

/-- What is in a slot of a group that was built is the child there. -/
theorem child?_of_mem_slot {item : String} {slots : List Fields} {index : Nat} {slot : Fields}
    {field : String × Node} (single : ∀ slot ∈ slots, slot = [] ∨ ∃ node, slot = [(item, node)])
    (there : slots[index]? = some slot) (mem : field ∈ slot) :
    field.1 = item ∧ (Node.group item slots).child? (.indexed item index) = some field.2 := by
  rcases single slot (List.mem_of_getElem? there) with rfl | ⟨child, rfl⟩
  · simp at mem
  · obtain rfl := List.mem_singleton.mp mem
    refine ⟨rfl, ?_⟩
    rw [child?_group_eq, if_pos rfl, there]
    exact Fields.find?_cons_self item child []

theorem exists_child?_of_mem {item : String} {slots : List Fields} {slot : Fields}
    {field : String × Node} (single : ∀ slot ∈ slots, slot = [] ∨ ∃ node, slot = [(item, node)])
    (slotMem : slot ∈ slots) (mem : field ∈ slot) :
    field.1 = item ∧ ∃ index,
      (Node.group item slots).child? (.indexed item index) = some field.2 := by
  obtain ⟨index, there⟩ := List.getElem?_of_mem slotMem
  obtain ⟨named, found⟩ := child?_of_mem_slot single there mem
  exact ⟨named, index, found⟩

/-- The last slot of a group that was built has an item. -/
theorem exists_child?_last {item : String} {slots : List Fields}
    (last : slots[slots.length - 1]?.getD [] ≠ [])
    (single : ∀ slot ∈ slots, slot = [] ∨ ∃ node, slot = [(item, node)]) :
    ∃ child, (Node.group item slots).child? (.indexed item (slots.length - 1)) = some child := by
  rcases Slots.single_getD single (slots.length - 1) with empty | ⟨child, slot⟩
  · exact absurd empty last
  · refine ⟨child, ?_⟩
    rw [child?_group_eq, if_pos rfl, slot]
    exact Fields.find?_cons_self item child []

theorem Built.child? (built : node.Built) (h : node.child? segment = some child) : child.Built := by
  cases built with
  | value text => simp [child?_value] at h
  | object nonempty ascending below =>
    obtain ⟨name, _, mem⟩ := child?_object_eq_some h
    exact below _ mem
  | group last single below =>
    obtain ⟨index, _, slot, mem, field⟩ := child?_group_eq_some h
    exact below slot mem _ field

/-- A node that was built and is no value has a child. -/
theorem Built.exists_child (built : node.Built) (h : node.text? = none) :
    ∃ segment child, node.child? segment = some child := by
  cases built with
  | value text => simp [text?] at h
  | @object fields nonempty ascending below =>
    obtain ⟨⟨name, child⟩, rest, rfl⟩ := List.exists_cons_of_ne_nil nonempty
    exact ⟨.field name, child, Fields.find?_cons_self name child rest⟩
  | @group item slots last single below =>
    obtain ⟨child, found⟩ := exists_child?_last last single
    exact ⟨.indexed item (slots.length - 1), child, found⟩

/-- What holds of a node whenever it holds of its children holds of every node that was
built. -/
theorem Built.induction {motive : ∀ node : Node, node.Built → Prop}
    (step : ∀ (node : Node) (built : node.Built),
      (∀ segment child (found : node.child? segment = some child),
        motive child (built.child? found)) → motive node built)
    {node : Node} (built : node.Built) : motive node built := by
  induction built with
  | value text =>
    apply step _ (.value text)
    intro segment child found
    simp [child?_value] at found
  | object nonempty ascending below ih =>
    apply step _ (.object nonempty ascending below)
    intro segment child found
    obtain ⟨name, _, mem⟩ := child?_object_eq_some found
    exact ih _ mem
  | group last single below ih =>
    apply step _ (.group last single below)
    intro segment child found
    obtain ⟨index, _, slot, mem, field⟩ := child?_group_eq_some found
    exact ih slot mem _ field

/-! ### Writing -/

/-- A group keeps its form when an item is put into one of its slots, be there a slot or not. -/
theorem built_group_modify {item : String} {slots : List Fields} (index : Nat)
    (last : slots ≠ [] → slots[slots.length - 1]?.getD [] ≠ [])
    (single : ∀ slot ∈ slots, slot = [] ∨ ∃ node, slot = [(item, node)])
    (below : ∀ slot ∈ slots, ∀ field ∈ slot, field.2.Built) (built : child.Built) :
    (Node.group item (Slots.modify index (Fields.put item child) slots)).Built := by
  have changed : Fields.put item child (slots[index]?.getD []) = [(item, child)] :=
    Slots.put_single (Slots.single_getD single index) child
  refine .group ?_ ?_ ?_
  · rw [Slots.length_modify]
    by_cases atEnd : max (index + 1) slots.length - 1 = index
    · rw [atEnd, Slots.getElem?_modify_self, changed]
      simp
    · rw [Slots.getD_modify_of_ne index _ slots atEnd]
      have longer : max (index + 1) slots.length = slots.length := by omega
      rw [longer]
      apply last
      rintro rfl
      simp at longer
  · intro slot mem
    rcases Slots.mem_modify mem with rfl | rfl | mem
    · exact Or.inr ⟨child, changed⟩
    · exact Or.inl rfl
    · exact single slot mem
  · intro slot mem field fieldMem
    rcases Slots.mem_modify mem with rfl | rfl | mem
    · rw [changed] at fieldMem
      rw [List.mem_singleton.mp fieldMem]
      exact built
    · simp at fieldMem
    · exact below slot mem field fieldMem

theorem Built.withChild (built : node.Built) (admits : node.Admits segment)
    (childBuilt : child.Built) : (node.withChild segment child).Built := by
  cases built with
  | value text => exact absurd admits (not_admits_value text segment)
  | @object fields nonempty ascending below =>
    cases segment with
    | field name =>
      refine .object (Fields.put_ne_nil name child fields) (ascending.put name child) ?_
      intro field mem
      rcases Fields.mem_put mem with rfl | mem
      · exact childBuilt
      · exact below field mem
    | indexed name index => exact absurd admits id
  | group last single below =>
    cases segment with
    | field name => exact absurd admits id
    | indexed name index =>
      obtain rfl : _ = name := admits
      exact built_group_modify index (fun _ => last) single below childBuilt

theorem built_withChild_fresh (segment : Segment) (childBuilt : child.Built) :
    ((fresh segment).withChild segment child).Built := by
  cases segment with
  | field name =>
    refine .object (by simp [Fields.put]) (List.pairwise_singleton _ _) ?_
    exact List.forall_mem_singleton.mpr childBuilt
  | indexed name index =>
    apply built_group_modify index _ (by simp) (by simp) childBuilt
    intro nonempty
    exact absurd rfl nonempty

/-- Writing keeps the form of what was built, and makes nodes of that form. -/
theorem built_write (value : Option String) {segments : List Segment}
    (built : ∀ node, found = some node → node.Built) (accepts : Accepts found segments) :
    (write value found segments).Built := by
  induction segments generalizing found with
  | nil => exact .value value
  | cons segment rest ih =>
    obtain ⟨admits, below⟩ := accepts
    rw [write]
    cases found with
    | none =>
      refine built_withChild_fresh segment (ih ?_ below)
      intro child found
      rw [Option.getD_none, child?_fresh] at found
      simp at found
    | some node =>
      refine (built node rfl).withChild admits (ih ?_ below)
      intro child found
      exact (built node rfl).child? found

/-! ### What a built node is determined by -/

/-- Below every node that was built there is a value. -/
theorem Built.exists_leaf (built : node.Built) :
    ∃ segments value, leaf? (some node) segments = some value := by
  induction built using Built.induction with | step node built ih =>
  cases text : node.text? with
  | some value => exact ⟨[], value, text⟩
  | none =>
    obtain ⟨segment, child, found⟩ := built.exists_child text
    obtain ⟨segments, value, leaf⟩ := ih segment child found
    refine ⟨segment :: segments, value, ?_⟩
    rw [leaf?_some_cons, found]
    exact leaf

/-- Nodes that were built and are no values are determined by their children. -/
theorem Built.ext_child? {other : Node} (built : node.Built) (otherBuilt : other.Built)
    (h : node.text? = none) (h' : other.text? = none)
    (same : ∀ segment, node.child? segment = other.child? segment) : node = other := by
  obtain ⟨segment, child, found⟩ := built.exists_child h
  have otherFound := found
  rw [same] at otherFound
  cases built with
  | value text => simp [text?] at h
  | @object fields nonempty ascending below =>
    obtain ⟨name, rfl, _⟩ := child?_object_eq_some found
    cases otherBuilt with
    | value text => simp [text?] at h'
    | @object others otherNonempty otherAscending otherBelow =>
      congr 1
      exact ascending.ext otherAscending fun name => same (.field name)
    | group last single otherBelow =>
      obtain ⟨index, kind, _⟩ := child?_group_eq_some otherFound
      simp at kind
  | @group item slots last single below =>
    obtain ⟨index, rfl, _⟩ := child?_group_eq_some found
    cases otherBuilt with
    | value text => simp [text?] at h'
    | object nonempty ascending otherBelow =>
      obtain ⟨name, kind, _⟩ := child?_object_eq_some otherFound
      simp at kind
    | @group otherItem others otherLast otherSingle otherBelow =>
      obtain ⟨otherIndex, kind, _⟩ := child?_group_eq_some otherFound
      obtain ⟨rfl, _⟩ := Segment.indexed.inj kind
      congr 1
      apply Slots.ext_getD last otherLast
      intro other
      apply Slots.eq_of_find?_eq (Slots.single_getD single other)
        (Slots.single_getD otherSingle other)
      have children := same (.indexed item other)
      rwa [child?_group_eq, child?_group_eq, if_pos rfl, if_pos rfl] at children

/-- Where no value is reached there is no node that was built. -/
theorem eq_none_of_leaf? (built : ∀ node, found = some node → node.Built)
    (h : ∀ segments, leaf? found segments = none) : found = none := by
  cases found with
  | none => rfl
  | some node =>
    obtain ⟨segments, value, leaf⟩ := (built node rfl).exists_leaf
    rw [h] at leaf
    simp at leaf

/-- Nodes that were built are determined by the values reached from them. -/
theorem Built.ext_leaf? {other : Node} (built : node.Built) (otherBuilt : other.Built)
    (same : ∀ segments, leaf? (some node) segments = leaf? (some other) segments) :
    node = other := by
  induction built using Built.induction generalizing other with | step node built ih =>
  have here : node.text? = other.text? := same []
  cases text : node.text? with
  | some value =>
    rw [text] at here
    cases node <;> cases other <;> simp_all [text?]
  | none =>
    apply built.ext_child? otherBuilt text (here ▸ text)
    intro segment
    have below (segments : List Segment) : leaf? (node.child? segment) segments =
        leaf? (other.child? segment) segments := same (segment :: segments)
    cases found : node.child? segment with
    | none =>
      symm
      apply eq_none_of_leaf? fun child => otherBuilt.child?
      intro segments
      rw [← below, found, leaf?_none]
    | some child =>
      cases otherFound : other.child? segment with
      | none =>
        rw [← found]
        apply eq_none_of_leaf? fun child => built.child?
        intro segments
        rw [below, otherFound, leaf?_none]
      | some otherChild =>
        rw [found, otherFound] at below
        rw [ih segment child found (otherBuilt.child? otherFound) below]

/-- The same for places where there may be no node. -/
theorem eq_of_leaf? {other : Option Node} (built : ∀ node, found = some node → node.Built)
    (otherBuilt : ∀ node, other = some node → node.Built)
    (same : ∀ segments, leaf? found segments = leaf? other segments) : found = other := by
  cases found with
  | none =>
    symm
    apply eq_none_of_leaf? otherBuilt
    intro segments
    rw [← same, leaf?_none]
  | some node =>
    cases other with
    | none =>
      apply eq_none_of_leaf? built
      intro segments
      rw [same, leaf?_none]
    | some otherNode => rw [(built node rfl).ext_leaf? (otherBuilt otherNode rfl) same]

end Node

end RiskScreen
