import RiskScreen.Proofs.Document.Attempt
import RiskScreen.Proofs.Document.Size
import RiskScreen.Proofs.Payload
import RiskScreen.Proofs.Refusal

/-!
# How large a payload gets

What a property adds to a payload is bounded by its path alone: an element for every field on it,
and 1001 for every item of a group. Costs are added up and never multiplied, however the groups of
the properties are nested and whatever gaps they leave.
-/

namespace RiskScreen

open RiskScreen.Path (Segment)
open Node (Accepts sizeAt)

/-- How many elements writes may add for placements. -/
def totalCost (made : List Placement) : Nat :=
  (made.map fun placement => Path.cost placement.segments).sum

theorem totalCost_cons (placement : Placement) (made : List Placement) :
    totalCost (placement :: made) = Path.cost placement.segments + totalCost made := by
  rw [totalCost, List.map_cons, List.sum_cons, totalCost]

namespace Document

/-- The document is written, and its text reads back as this number of elements. -/
def ShowsElements (document : Document) (count : Nat) : Prop :=
  ∃ text tree, document.render = .ok text ∧ Element.read text.toList = some tree ∧
    tree.size = count

variable {document next final : Document} {earlier : List Placement} {entries : List Entry}
  {text : String}

/-- The elements of a document are the root and those of its transaction. -/
theorem Holds.size_reference (holds : document.Holds earlier) :
    document.reference.size = sizeAt document.root? + 1 := by
  obtain ⟨transactions⟩ := document
  cases transactions with
  | nil => rfl
  | cons fields rest =>
    obtain rfl : rest = [] := holds.atMostOne
    have transaction := Node.size_reference "transaction" (.object fields)
    rw [Element.size] at transaction
    rw [reference, Element.size_mk, List.map_singleton, Element.namesAll, Element.namesAll,
      List.append_nil, transaction]
    rfl

theorem Holds.size_of_render (holds : document.Holds earlier) (h : document.render = .ok text) :
    ∃ tree, Element.read text.toList = some tree ∧ tree.size = sizeAt document.root? + 1 :=
  ⟨document.reference, read_eq_reference holds.ordered h, holds.size_reference⟩

theorem Holds.showsElements (holds : document.Holds (placements entries)) :
    document.ShowsElements (sizeAt document.root? + 1) := by
  obtain ⟨text, rendered⟩ := holds.exists_render
  obtain ⟨tree, read, size⟩ := holds.size_of_render rendered
  exact ⟨text, tree, rendered, read, size⟩

/-- The segments of a path that can be read have no index that is too large. -/
theorem bounded_of_read {path : String} {segments : List Segment}
    (h : Path.read path = .ok segments) :
    ∀ segment ∈ segments, ∀ name index, segment = .indexed name index → index ≤ 1000 :=
  fun segment mem => ((Path.read_eq_ok_iff.mp h).1.proper segment mem).bounded

/-- An entry that is written adds at most the cost of its path. -/
theorem Holds.sizeAt_insert_le (holds : document.Holds earlier) (entry : Entry)
    (h : document.insert entry.path entry.value = (next, none)) :
    ∃ placement, entry.placement? = some placement ∧ next.Holds (earlier ++ [placement]) ∧
      sizeAt next.root? ≤ max 1 (sizeAt document.root?) + Path.cost placement.segments := by
  obtain ⟨placement, found, accepts⟩ := accepts_of_insert h
  obtain ⟨made, written, tail, root⟩ := insert_of_accepts found accepts
  obtain rfl := (Prod.mk.inj (h.symm.trans written)).1
  refine ⟨placement, found, holds.write accepts tail root, ?_⟩
  rw [root]
  apply Node.size_write_le placement.value (fun node there => (holds.built node there).ordered)
    (bounded_of_read (Entry.placement?_eq_some_iff.mp found).1) accepts

/-- Entries that are written one after another add at most what their paths cost together. -/
theorem Holds.sizeAt_insertAll_le (holds : document.Holds earlier)
    (h : document.insertAll entries = .ok final) :
    sizeAt final.root? ≤ max 1 (sizeAt document.root?) + totalCost (placements entries) := by
  induction entries generalizing document earlier with
  | nil =>
    obtain rfl := Except.ok.inj h
    omega
  | cons entry entries ih =>
    obtain ⟨next, written, rest⟩ := insertAll_cons_eq_ok_iff.mp h
    obtain ⟨placement, found, nextHolds, first⟩ := holds.sizeAt_insert_le entry written
    have others := ih nextHolds rest
    rw [placements_cons_of_some found, totalCost_cons]
    omega

/-- A document without a transaction shows its root alone. -/
theorem sizeAt_root?_of_isBlank (document : Document) :
    max 1 (sizeAt document.root?) =
      sizeAt document.root? + if document.isBlank then 1 else 0 := by
  obtain ⟨transactions⟩ := document
  cases transactions with
  | nil => rfl
  | cons fields rest =>
    have filled := (Node.object fields).one_le_size
    exact Nat.max_eq_right filled

end Document

open Document

/-- A payload that is made has at most two elements more than its marked properties cost: one for
each field on their paths, and 1001 for each item. Whatever was attempted before, a write that
goes through adds at most the cost of its own path, and the transaction where there is none yet. -/
theorem buildPayload_size_le :
    (∀ properties marker text, buildPayload properties marker = .ok text →
      (∀ property ∈ properties, property.IsMarked marker →
        ∃ placement, property.placement? marker = some placement) ∧
      ∃ tree, Element.read text.toList = some tree ∧
        tree.size ≤ 2 + totalCost (Property.placements marker properties)) ∧
    ∀ entries path value next, (blank.attemptAll entries).insert path value = (next, none) →
      ∃ segments before after, Path.read path = .ok segments ∧
        (blank.attemptAll entries).ShowsElements before ∧ next.ShowsElements after ∧
        after ≤ before + Path.cost segments +
          if (blank.attemptAll entries).isBlank then 1 else 0 := by
  constructor
  · intro properties marker text made
    obtain ⟨document, written, rendered⟩ := buildPayload_eq_ok_iff.mp made
    obtain ⟨readable, holds⟩ := holds_blank.insertAll written
    obtain ⟨tree, read, size⟩ := holds.size_of_render rendered
    refine ⟨Property.readable_entries_iff.mp readable, tree, read, ?_⟩
    have whole := holds_blank.sizeAt_insertAll_le written
    have start : sizeAt blank.root? = 0 := rfl
    rw [Property.placements_entries] at whole
    omega
  · intro entries path value next written
    have holds := holds_attemptAll entries
    obtain ⟨placement, found, nextHolds, added⟩ :=
      holds.sizeAt_insert_le ⟨path, value⟩ written
    have split : placements (blank.written entries) ++ [placement] =
        placements (blank.written entries ++ [⟨path, value⟩]) := by
      rw [placements, placements, List.filterMap_append, List.filterMap_cons_some found]
      rfl
    rw [split] at nextHolds
    refine ⟨placement.segments, _, _, (Entry.placement?_eq_some_iff.mp found).1,
      holds.showsElements, nextHolds.showsElements, ?_⟩
    rw [sizeAt_root?_of_isBlank] at added
    omega

/-- Items of groups in the items of a group, with gaps in both. -/
def nestedProperties : List Property :=
  [⟨some "x_a->b[2]->c[1]", some "1"⟩, ⟨some "a->b[9]", none⟩, ⟨some "x_a->b[4]->c[0]", none⟩]

/-- The document that `nestedProperties` make. -/
def nestedDocument : Document :=
  ⟨[[("a", .group "b" [[], [], [("b", .group "c" [[], [("c", .value (some "1"))]])], [],
    [("b", .group "c" [[("c", .value none)]])]])]]⟩

/-- The payload of `nestedProperties`. -/
def nestedPayload : String :=
  "<transactions><transaction><a><b/><b/><b><c/><c>1</c></b><b/><b><c/></b></a></transaction>" ++
    "</transactions>"

set_option maxRecDepth 4000 in
theorem buildPayload_size_le_nested :
    buildPayload nestedProperties "x_" = .ok nestedPayload ∧
      totalCost (Property.placements "x_" nestedProperties) = 4006 ∧
      (∃ tree, Element.read nestedPayload.toList = some tree ∧ tree.size ≤ 4008) ∧
      ∃ next before after, (blank.attemptAll interrupted).insert "order->item[4]->part[1]" none =
          (next, none) ∧
        (blank.attemptAll interrupted).ShowsElements before ∧ next.ShowsElements after ∧
        after ≤ before + 2003 := by
  have entries : Property.entries "x_" nestedProperties =
      [⟨"a->b[2]->c[1]", some "1"⟩, ⟨"a->b[4]->c[0]", none⟩] := by rfl
  have document : blank.insertAll (Property.entries "x_" nestedProperties) =
      .ok nestedDocument := by
    rw [entries]
    rfl
  have rendered : nestedDocument.render = .ok nestedPayload := by rfl
  have made := buildPayload_eq_ok_iff.mpr ⟨nestedDocument, document, rendered⟩
  have cost : totalCost (Property.placements "x_" nestedProperties) = 4006 := by decide +kernel
  obtain ⟨payloads, writes⟩ := buildPayload_size_le
  obtain ⟨_, tree, read, size⟩ := payloads nestedProperties "x_" nestedPayload made
  have written : ((blank.attemptAll interrupted).insert "order->item[4]->part[1]" none).2 =
      none := by rfl
  obtain ⟨segments, before, after, path, shown, otherShown, added⟩ :=
    writes interrupted _ _ _ (Prod.ext rfl written)
  have spelled : Path.read "order->item[4]->part[1]" =
      .ok [.field "order", .indexed "item" 4, .indexed "part" 1] := by rfl
  obtain rfl := Except.ok.inj (spelled.symm.trans path)
  have filled : (blank.attemptAll interrupted).isBlank = false := by rfl
  have own : Path.cost [.field "order", .indexed "item" 4, .indexed "part" 1] = 2003 := by decide
  rw [cost] at size
  rw [filled, own, if_neg Bool.false_ne_true] at added
  exact ⟨made, cost, ⟨tree, read, size⟩, _, before, after, Prod.ext rfl written, shown, otherShown,
    added⟩

end RiskScreen
