import RiskScreen.Proofs.Document.Descent
import RiskScreen.Proofs.Document.Named

/-!
# Nodes inside a node

Every node inside one that was built is where its way says, was built itself, and has names that can
be written if those of the whole can. So each object inside has its fields in the order of the bytes
of their names, and the element of each group inside has one child for each slot.
-/

namespace RiskScreen

open RiskScreen.Path (Segment isElementName)

/-- A node inside another one, and the way to it. All fields of all slots count, whatever names they
have. -/
inductive Node.Within : Node → List Segment → Node → Prop
  | here (node : Node) : Within node [] node
  | field {fields : Fields} {name : String} {child inner : Node} {way : List Segment}
      (mem : (name, child) ∈ fields) (below : Within child way inner) :
      Within (.object fields) (.field name :: way) inner
  | item {item name : String} {slots : List Fields} {index : Nat} {slot : Fields}
      {child inner : Node} {way : List Segment} (there : slots[index]? = some slot)
      (mem : (name, child) ∈ slot) (below : Within child way inner) :
      Within (.group item slots) (.indexed name index :: way) inner

/-- The form of an object that is no slot. -/
structure Fields.Proper (fields : Fields) : Prop where
  nonempty : fields ≠ []
  distinct : (fields.map Prod.fst).Nodup
  ascending : fields.Pairwise fun first second =>
    Text.Utf8.encode first.1.toList < Text.Utf8.encode second.1.toList
  named : ∀ field ∈ fields, isElementName field.1 = true

/-- The element of a group has one child for each slot, and each shows its slot alone. -/
structure Element.ShowsSlots (group : Element) (item : String) (slots : List Fields) : Prop where
  count : group.children.length = slots.length
  named : ∀ child ∈ group.children, child.name = item
  shows : ∀ (index : Nat) (slot : Fields), slots[index]? = some slot →
    ∃ child text, group.children[index]? = some child ∧ Slots.markup item [slot] = .ok text ∧
      Element.read text = some child

/-! ### Fields and slots -/

namespace Fields

variable {fields : Fields}

theorem Ascending.encoded (ascending : fields.Ascending) :
    fields.Pairwise fun first second =>
      Text.Utf8.encode first.1.toList < Text.Utf8.encode second.1.toList :=
  List.Pairwise.imp Text.Utf8.encode_lt_encode ascending

theorem Ascending.nodup (ascending : fields.Ascending) : (fields.map Prod.fst).Nodup := by
  rw [List.Nodup, List.pairwise_map]
  refine List.Pairwise.imp ?_ ascending
  intro first second less same
  rw [same] at less
  exact Std.lt_irrefl less

end Fields

namespace Slots

variable {item : String} {slots : List Fields} {slot : Fields} {index : Nat}

/-- A slot that is written alone is read as the element it stands for among the others. -/
theorem exists_read_slot (single : ∀ slot ∈ slots, slot = [] ∨ ∃ node, slot = [(item, node)])
    (ordered : ∀ slot ∈ slots, ∀ field ∈ slot, field.2.Ordered)
    (written : Markup.IsWritten (markup item slots)) (there : slots[index]? = some slot) :
    ∃ child text, (references item slots)[index]? = some child ∧ markup item [slot] = .ok text ∧
      Element.read text = some child := by
  have mem : slot ∈ slots := List.mem_of_getElem? there
  have alone : ∀ other ∈ [slot], other = [] ∨ ∃ node, other = [(item, node)] :=
    List.forall_mem_singleton.mpr (single slot mem)
  obtain ⟨text, made⟩ : Markup.IsWritten (markup item [slot]) := by
    rw [isWritten_iff] at written ⊢
    exact List.forall_mem_singleton.mpr (written slot mem)
  have ascending : ∀ other ∈ [slot], Fields.Ascending other := by
    intro other otherMem
    rcases alone other otherMem with rfl | ⟨node, rfl⟩
    · exact List.Pairwise.nil
    · exact List.pairwise_singleton _ _
  have below : ∀ other ∈ [slot], ∀ field ∈ other, field.2.Ordered :=
    List.forall_mem_singleton.mpr (ordered slot mem)
  have read := readOn_markup item [slot] ascending below made { name := [] } [] []
  rw [List.append_nil, Element.readOn_nil, references_of_single alone] at read
  refine ⟨((Fields.find? item slot).map (Node.reference item)).getD ⟨item, "", []⟩, text, ?_,
    made, ?_⟩
  · rw [references_of_single single, List.getElem?_map, there, Option.map_some]
  · rw [Element.read, read]
    rfl

end Slots

namespace Node

variable {node inner : Node} {fields : Fields} {item : String} {slots : List Fields}
  {way : List Segment}

/-! ### Ways -/

/-- A node that was built has one node on each way. -/
theorem Built.descend?_of_within (built : node.Built) (within : node.Within way inner) :
    Node.descend? (some node) way = some inner := by
  induction within with
  | here node => rfl
  | field mem below ih =>
    cases built with | object nonempty ascending fieldsBuilt =>
    rw [descend?_some_cons, Node.child?, ascending.find?_of_mem mem]
    exact ih (fieldsBuilt _ mem)
  | @item item name slots index slot child inner way there mem below ih =>
    cases built with | group last single slotsBuilt =>
    obtain ⟨named, found⟩ := child?_of_mem_slot single there mem
    obtain rfl : name = item := named
    rw [descend?_some_cons, found]
    exact ih (slotsBuilt slot (List.mem_of_getElem? there) _ mem)

theorem Named.descend? (named : node.Named) (down : Node.descend? (some node) way = some inner) :
    inner.Named := by
  intro segments value leaf segment mem
  refine named (way ++ segments) value ?_ segment (List.mem_append_right way mem)
  rw [leaf?_append, down]
  exact leaf

/-! ### The form of objects and groups -/

theorem Built.fields_proper (built : (Node.object fields).Built)
    (named : (Node.object fields).Named) : fields.Proper := by
  cases built with | object nonempty ascending below =>
  refine ⟨nonempty, ascending.nodup, ascending.encoded, ?_⟩
  rintro ⟨name, child⟩ mem
  have found : (Node.object fields).child? (.field name) = some child := ascending.find?_of_mem mem
  exact (named.child? (.object nonempty ascending below) found).1

theorem Built.isElementName_item (built : (Node.group item slots).Built)
    (named : (Node.group item slots).Named) : isElementName item = true := by
  cases built with | group last single below =>
  obtain ⟨child, found⟩ := exists_child?_last last single
  exact (named.child? (.group last single below) found).1

theorem Built.showsSlots (built : (Node.group item slots).Built)
    (named : (Node.group item slots).Named) (name : String) :
    ((Node.group item slots).reference name).ShowsSlots item slots := by
  have valid := built.isElementName_item named
  have written := (isWritten_group_iff.mp (built.isWritten named valid)).2
  cases built with | group last single below =>
  refine ⟨?_, ?_, ?_⟩
  · rw [reference, Slots.references_of_single single, List.length_map]
  · intro child mem
    rw [reference, Slots.references_of_single single] at mem
    obtain ⟨slot, slotMem, rfl⟩ := List.mem_map.mp mem
    rcases single slot slotMem with rfl | ⟨node, rfl⟩
    · rfl
    · rw [Fields.find?_cons_self]
      exact name_reference item node
  · intro index slot there
    exact Slots.exists_read_slot single (fun slot mem field fieldMem =>
      (below slot mem field fieldMem).ordered) written there

end Node

end RiskScreen
