import RiskScreen.Proofs.Document.Built
import RiskScreen.Proofs.Document.ReadBack

/-!
# Names in documents that were built

In a node that was built every name is on the path of a value. So a node can be written whose
values are all at paths of element names, and so can every node inside it.
-/

namespace RiskScreen

open RiskScreen.Path (Segment isElementName)
open Markup

/-! ### What can be written -/

theorem Fields.isWritten_iff {fields : Fields} :
    IsWritten (Fields.markup fields) ↔
      ∀ field ∈ fields, IsWritten (field.2.markup field.1) := by
  induction fields with
  | nil => simp [Fields.markup, isWritten_ok]
  | cons field fields ih =>
    rw [Fields.markup, isWritten_followedBy_iff, ih, List.forall_mem_cons]

theorem Slots.isWritten_iff {item : String} {slots : List Fields} :
    IsWritten (Slots.markup item slots) ↔
      ∀ slot ∈ slots, (slot = [] → isElementName item = true) ∧
        ∀ field ∈ slot, IsWritten (field.2.markup field.1) := by
  induction slots with
  | nil => simp [Slots.markup, isWritten_ok]
  | cons slot slots ih =>
    rw [List.forall_mem_cons, ← ih]
    cases slot with
    | nil => simp [Slots.markup, isWritten_followedBy_iff, isWritten_emptyElement_iff]
    | cons field fields =>
      rw [Slots.markup, isWritten_followedBy_iff, Fields.isWritten_iff]
      simp

namespace Node

variable {node child : Node} {segment : Segment}

/-- The names on the paths of all values below the node are element names. -/
def Named (node : Node) : Prop :=
  ∀ segments value, leaf? (some node) segments = some value →
    ∀ segment ∈ segments, isElementName segment.name = true

/-- The child of a node with proper names has one itself, and further proper names below. -/
theorem Named.child? (named : node.Named) (built : node.Built)
    (h : node.child? segment = some child) :
    isElementName segment.name = true ∧ child.Named := by
  have below : ∀ segments value, leaf? (some child) segments = some value →
      ∀ other ∈ segment :: segments, isElementName other.name = true := by
    intro segments value leaf
    apply named (segment :: segments) value
    rw [leaf?_some_cons, h]
    exact leaf
  constructor
  · obtain ⟨segments, value, leaf⟩ := (built.child? h).exists_leaf
    exact below segments value leaf segment List.mem_cons_self
  · intro segments value leaf other mem
    exact below segments value leaf other (List.mem_cons_of_mem segment mem)

/-- A node that was built is written if its names are element names. -/
theorem Built.isWritten (built : node.Built) (named : node.Named) {name : String}
    (valid : isElementName name = true) : IsWritten (node.markup name) := by
  induction built using Built.induction generalizing name with | step node built ih =>
  have children : ∀ segment child, node.child? segment = some child →
      isElementName segment.name = true ∧ IsWritten (child.markup segment.name) := by
    intro segment child found
    obtain ⟨proper, below⟩ := named.child? built found
    exact ⟨proper, ih segment child found below proper⟩
  cases built with
  | value text =>
    cases text with
    | none => exact isWritten_emptyElement_iff.mpr valid
    | some text => exact isWritten_element_iff.mpr ⟨valid, isWritten_ok _⟩
  | object nonempty ascending below =>
    refine isWritten_object_iff.mpr ⟨valid, Fields.isWritten_iff.mpr ?_⟩
    rintro ⟨key, child⟩ mem
    exact (children (.field key) child (ascending.find?_of_mem mem)).2
  | @group item slots last single below =>
    refine isWritten_group_iff.mpr ⟨valid, Slots.isWritten_iff.mpr ?_⟩
    intro slot mem
    constructor
    · intro _
      obtain ⟨child, found⟩ := exists_child?_last last single
      exact (children _ child found).1
    · rintro ⟨key, child⟩ fieldMem
      obtain ⟨rfl, index, found⟩ := exists_child?_of_mem single mem fieldMem
      exact (children _ child found).2

end Node

end RiskScreen
