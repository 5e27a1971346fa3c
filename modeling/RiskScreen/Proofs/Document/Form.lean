import Mathlib.Order.Bounds.Defs
import RiskScreen.Proofs.Document.Attempt
import RiskScreen.Proofs.Document.Within
import RiskScreen.Proofs.Path.Grammar
import RiskScreen.Proofs.Payload
import RiskScreen.Proofs.Refusal

/-!
# The form of a document after attempts

Whatever was attempted, a document has the form that its text relies on. A group is as long as the
writes that went through it need: its last slot is the one with the largest index of them, and what
was written there has not gone, for a value that takes the place of an item leaves the slot filled.
-/

namespace RiskScreen

open RiskScreen.Path (Segment isElementName)
open Node (leaf? descend?)

/-- The indices that writes of a run of attempts used in the group at the end of the way. -/
def Document.indicesAt (entries : List Entry) (way : List Segment) : Set Nat :=
  {index | ∃ entry ∈ blank.written entries, ∃ name rest,
    Path.read entry.path = .ok (way ++ .indexed name index :: rest)}

/-- The form of a group in which these indices were used. -/
structure Slots.Proper (item : String) (slots : List Fields) (indices : Set Nat) : Prop where
  named : isElementName item = true
  few : 1 ≤ slots.length ∧ slots.length ≤ 1001
  single : ∀ slot ∈ slots, slot = [] ∨ ∃ child, slot = [(item, child)]
  last : slots.getLast? ≠ some []
  length : ∃ largest, IsGreatest indices largest ∧ slots.length = largest + 1

/-- The form of a document after attempts to write the entries. -/
structure Document.Formed (document : Document) (entries : List Entry) : Prop where
  transactions : document.transactions = [] ∨
    ∃ fields, document.transactions = [fields] ∧ fields ≠ []
  objects : ∀ fields ∈ document.transactions, ∀ way inner,
    (Node.object fields).Within way (.object inner) → Fields.Proper inner
  groups : ∀ fields ∈ document.transactions, ∀ way item slots,
    (Node.object fields).Within way (.group item slots) →
      Slots.Proper item slots (indicesAt entries way)
  shown : ∃ text, document.render = .ok text ∧ ∀ fields ∈ document.transactions,
    ∃ transaction, Element.read text.toList = some ⟨"transactions", "", [transaction]⟩ ∧
      ∀ way item slots, (Node.object fields).Within way (.group item slots) →
        ∃ address group, transaction.Leads way address group ∧ group.ShowsSlots item slots

/-! ### The indices that were used -/

theorem Node.descend?_value {text : Option String} {node : Node} {way : List Segment}
    (h : descend? (some (.value text)) way = some node) : node = .value text := by
  cases way with
  | nil => exact (Option.some.inj h).symm
  | cons segment rest =>
    rw [descend?_some_cons, child?_value, descend?_none] at h
    simp at h

/-- The slot of a child is one of the slots. -/
theorem Node.lt_length_of_child? {item name : String} {slots : List Fields} {index : Nat}
    {child : Node} (h : (Node.group item slots).child? (.indexed name index) = some child) :
    index < slots.length := by
  by_contra outside
  rw [child?_group_eq, List.getElem?_eq_none (by omega)] at h
  simp at h

namespace Document

variable {document : Document} {earlier : List Placement} {entries : List Entry}
  {way : List Segment} {item name : String} {slots : List Fields} {index : Nat}

theorem mem_indicesAt_iff :
    index ∈ indicesAt entries way ↔ ∃ placement ∈ placements (blank.written entries), ∃ name,
      way ++ [.indexed name index] <+: placement.segments := by
  constructor
  · rintro ⟨entry, mem, name, rest, read⟩
    refine ⟨⟨way ++ .indexed name index :: rest, entry.value⟩, ?_, name, rest, by simp⟩
    exact List.mem_filterMap.mpr ⟨entry, mem, Entry.placement?_eq_some_iff.mpr ⟨read, rfl⟩⟩
  · rintro ⟨placement, mem, name, rest, split⟩
    obtain ⟨entry, entryMem, found⟩ := List.mem_filterMap.mp mem
    refine ⟨entry, entryMem, name, rest, ?_⟩
    rw [(Entry.placement?_eq_some_iff.mp found).1, ← split, List.append_assoc]
    rfl

/-- No value stands on the way to a group. -/
theorem not_prefix_of_leaf? {front : List Segment} {value : Option String}
    (down : descend? document.root? way = some (.group item slots))
    (leaf : leaf? document.root? front = some value) : ¬ front <+: way := by
  rintro ⟨rest, rfl⟩
  obtain ⟨node, reached, text⟩ := Option.bind_eq_some_iff.mp leaf
  cases node with
  | value held =>
    rw [Node.descend?_append, reached] at down
    simpa using Node.descend?_value down
  | object fields => simp [Node.text?] at text
  | group item slots => simp [Node.text?] at text

/-- Where a write went through a group that is still there, an item is still there. The write may
have been taken over by one above it, but not by one above the item. -/
theorem Holds.exists_child?_of_used (holds : document.Holds earlier)
    (down : descend? document.root? way = some (.group item slots)) {placement : Placement}
    (mem : placement ∈ earlier) (used : way ++ [.indexed name index] <+: placement.segments) :
    ∃ child, (Node.group item slots).child? (.indexed name index) = some child := by
  obtain ⟨survivor, stays, above⟩ := exists_survivor_of_mem mem
  have leaf := (holds.leaf survivor.segments survivor.value).mpr stays
  have through : way ++ [.indexed name index] <+: survivor.segments := by
    rcases List.prefix_or_prefix_of_prefix used above with through | higher
    · exact through
    · rcases List.prefix_concat_iff.mp higher with same | higher
      · exact same ▸ List.prefix_rfl
      · exact absurd higher (not_prefix_of_leaf? down leaf)
  cases found : (Node.group item slots).child? (.indexed name index) with
  | some child => exact ⟨child, rfl⟩
  | none => exact absurd through (holds.not_prefix down found stays)

/-- The last slot of a group is that of the largest index that was used. -/
theorem Holds.isGreatest (holds : document.Holds (placements (blank.written entries)))
    (down : descend? document.root? way = some (.group item slots))
    (built : (Node.group item slots).Built) :
    IsGreatest (indicesAt entries way) (slots.length - 1) := by
  constructor
  · have groupBuilt := built
    cases groupBuilt with | group last single below =>
    obtain ⟨child, found⟩ := Node.exists_child?_last last single
    have further : descend? document.root? (way ++ [.indexed item (slots.length - 1)]) =
        some child := by
      rw [Node.descend?_append, down]
      exact found
    obtain ⟨survivor, stays, through, _⟩ := holds.exists_survivor further (built.child? found)
    exact mem_indicesAt_iff.mpr ⟨survivor, mem_of_mem_survivors stays, item, through⟩
  · intro index used
    obtain ⟨placement, mem, name, through⟩ := mem_indicesAt_iff.mp used
    obtain ⟨child, found⟩ := holds.exists_child?_of_used down mem through
    have inside := Node.lt_length_of_child? found
    omega

theorem le_of_mem_indicesAt (h : index ∈ indicesAt entries way) : index ≤ 1000 := by
  obtain ⟨entry, _, name, rest, read⟩ := h
  have proper := (Path.read_eq_ok_iff.mp read).1.proper (.indexed name index) (by simp)
  exact proper.bounded name index rfl

/-! ### The form -/

theorem Holds.slots_proper (holds : document.Holds (placements (blank.written entries)))
    (down : descend? document.root? way = some (.group item slots))
    (built : (Node.group item slots).Built) (named : (Node.group item slots).Named) :
    Slots.Proper item slots (indicesAt entries way) := by
  have greatest := holds.isGreatest down built
  have valid := built.isElementName_item named
  cases built with | group last single below =>
  have some : slots ≠ [] := by
    rintro rfl
    exact last rfl
  have positive : 0 < slots.length := List.length_pos_iff.mpr some
  have bounded : slots.length - 1 ≤ 1000 := le_of_mem_indicesAt greatest.1
  refine ⟨valid, by omega, single, ?_, slots.length - 1, greatest, by omega⟩
  intro blank
  rw [List.getLast?_eq_getElem?] at blank
  rw [blank] at last
  exact last rfl

/-- A document has its form after any attempts. -/
theorem formed_attemptAll (entries : List Entry) : (blank.attemptAll entries).Formed entries := by
  have holds := holds_attemptAll entries
  generalize blank.attemptAll entries = document at holds
  obtain ⟨text, rendered⟩ := holds.exists_render
  have read := read_eq_reference holds.ordered rendered
  obtain ⟨transactions⟩ := document
  cases transactions with
  | nil => exact ⟨Or.inl rfl, by simp, by simp, text, rendered, by simp⟩
  | cons fields rest =>
    obtain rfl : rest = [] := holds.atMostOne
    have built : (Node.object fields).Built := holds.built _ rfl
    have named : (Node.object fields).Named := holds.named rfl
    have inside : ∀ way inner, (Node.object fields).Within way inner →
        descend? (some (.object fields)) way = some inner ∧ inner.Built ∧ inner.Named := by
      intro way inner within
      have down := built.descend?_of_within within
      exact ⟨down, built.descend? down, named.descend? down⟩
    refine ⟨Or.inr ⟨fields, rfl, (built.fields_proper named).nonempty⟩, ?_, ?_, text, rendered, ?_⟩
    · refine List.forall_mem_singleton.mpr ?_
      intro way inner within
      obtain ⟨_, innerBuilt, innerNamed⟩ := inside way _ within
      exact innerBuilt.fields_proper innerNamed
    · refine List.forall_mem_singleton.mpr ?_
      intro way item slots within
      obtain ⟨down, groupBuilt, groupNamed⟩ := inside way _ within
      exact holds.slots_proper down groupBuilt groupNamed
    · refine List.forall_mem_singleton.mpr ⟨(Node.object fields).reference "transaction", read, ?_⟩
      intro way item slots within
      obtain ⟨down, groupBuilt, groupNamed⟩ := inside way _ within
      obtain ⟨address, name, leads⟩ := built.exists_leads_of_descend? down "transaction"
      exact ⟨address, _, leads, groupBuilt.showsSlots groupNamed name⟩

/-- The slots that `interrupted` leaves in the order. -/
def interruptedSlots : List Fields :=
  [[("item", .value (some "C"))], [], [("item", .value (some "D"))]]

theorem formed_attemptAll_interrupted :
    (blank.attemptAll interrupted).transactions = [[("order", .group "item" interruptedSlots)]] ∧
    IsGreatest (indicesAt interrupted [.field "order"]) 2 ∧
    ∃ text transaction address group, (blank.attemptAll interrupted).render = .ok text ∧
      Element.read text.toList = some ⟨"transactions", "", [transaction]⟩ ∧
      transaction.Leads [.field "order"] address group ∧
      group.ShowsSlots "item" interruptedSlots := by
  have left : (blank.attemptAll interrupted).transactions =
      [[("order", .group "item" interruptedSlots)]] := by rfl
  have mem : [("order", .group "item" interruptedSlots)] ∈
      (blank.attemptAll interrupted).transactions := left ▸ List.mem_singleton_self _
  have within : (Node.object [("order", .group "item" interruptedSlots)]).Within [.field "order"]
      (.group "item" interruptedSlots) := .field (List.mem_singleton_self _) (.here _)
  have formed := formed_attemptAll interrupted
  obtain ⟨largest, greatest, length⟩ := (formed.groups _ mem _ _ _ within).length
  obtain rfl : 2 = largest := Nat.succ.inj length
  obtain ⟨text, rendered, shown⟩ := formed.shown
  obtain ⟨transaction, read, groups⟩ := shown _ mem
  obtain ⟨address, group, leads, shows⟩ := groups _ _ _ within
  exact ⟨left, greatest, text, transaction, address, group, rendered, read, leads, shows⟩

end Document

end RiskScreen
