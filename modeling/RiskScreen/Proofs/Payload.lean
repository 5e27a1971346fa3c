import RiskScreen.Proofs.Document.Descent
import RiskScreen.Proofs.Document.History
import RiskScreen.Proofs.Document.ReadBack

/-!
# What a payload shows

The properties whose key starts with the marker ask for values at paths. A payload that is made
shows exactly those that survive: each path leads to an element around its value, and every
element of the transaction is on the way to one of them, or fills a gap before an item of a
group.
-/

namespace RiskScreen

open RiskScreen.Path (Segment)
open Node (leaf? descend?)

namespace Property

/-- Whether the key of a property starts with the marker. -/
def IsMarked (marker : String) (property : Property) : Prop :=
  ∃ key, property.key = some key ∧ marker.toList <+: key.toList

/-- What a marked property asks for, if a path can be read after the marker. -/
def placement? (marker : String) (property : Property) : Option Placement :=
  match property.key with
  | none => none
  | some key =>
      if marker.toList <+: key.toList then
        match Path.read (String.ofList (key.toList.drop marker.toList.length)) with
        | .ok segments => some ⟨segments, property.value⟩
        | .error _ => none
      else none

/-- What the marked properties ask for, in their order. -/
def placements (marker : String) (properties : List Property) : List Placement :=
  properties.filterMap (placement? marker)

variable {marker : String} {property : Property}

theorem isMarked_iff :
    property.IsMarked marker ↔ ∃ entry, property.toEntry marker = some entry := by
  constructor
  · rintro ⟨key, named, path, split⟩
    have found := afterMarker_eq_some_iff.mpr split.symm
    refine ⟨⟨String.ofList path, property.value⟩, ?_⟩
    simp only [toEntry, named, found]
  · rintro ⟨entry, h⟩
    unfold toEntry at h
    split at h
    · simp at h
    · rename_i key named
      split at h
      · simp at h
      · rename_i path found
        exact ⟨key, named, path, (afterMarker_eq_some_iff.mp found).symm⟩

/-- A property asks for what its entry asks for. -/
theorem placement?_eq_bind (marker : String) (property : Property) :
    property.placement? marker = (property.toEntry marker).bind Entry.placement? := by
  unfold placement? toEntry
  cases property.key with
  | none => rfl
  | some key =>
    by_cases marked : marker.toList <+: key.toList
    · obtain ⟨path, split⟩ := marked
      have found : afterMarker marker.toList (marker.toList ++ path) = some path :=
        afterMarker_eq_some_iff.mpr rfl
      simp only [← split, found, List.prefix_append, if_true, List.drop_left]
      rfl
    · have missing : afterMarker marker.toList key.toList = none := by
        rw [Option.eq_none_iff_forall_ne_some]
        intro path found
        exact marked ⟨path, (afterMarker_eq_some_iff.mp found).symm⟩
      simp only [missing, if_neg marked]
      rfl

theorem placements_entries (marker : String) (properties : List Property) :
    RiskScreen.placements (entries marker properties) = placements marker properties := by
  rw [RiskScreen.placements, entries, List.filterMap_filterMap, placements]
  congr
  funext property
  exact (placement?_eq_bind marker property).symm

/-- The marked properties have paths exactly if the entries have. -/
theorem readable_entries_iff {properties : List Property} :
    (∀ entry ∈ entries marker properties, ∃ placement, entry.placement? = some placement) ↔
      ∀ property ∈ properties, property.IsMarked marker →
        ∃ placement, property.placement? marker = some placement := by
  constructor
  · intro readable property mem marked
    obtain ⟨entry, found⟩ := isMarked_iff.mp marked
    rw [placement?_eq_bind, found]
    exact readable entry (List.mem_filterMap.mpr ⟨property, mem, found⟩)
  · intro readable entry mem
    obtain ⟨property, propertyMem, found⟩ := List.mem_filterMap.mp mem
    have asked := readable property propertyMem (isMarked_iff.mpr ⟨entry, found⟩)
    rwa [placement?_eq_bind, found] at asked

end Property

namespace Element

/-- The element at the address is on the way of a kept placement, and without text before the
end of it. -/
def OnWay (root : Element) (kept : List Placement) (address : List Nat) (element : Element) :
    Prop :=
  ∃ placement ∈ kept, ∃ way, way <+: placement.segments ∧ root.Leads way address element ∧
    (way = placement.segments ∨ element.text = "")

/-- The element at the address is an empty item of a group, at an index that no kept placement
uses, and before one that a kept placement uses. -/
def FillsGap (root : Element) (kept : List Placement) (address : List Nat) (element : Element) :
    Prop :=
  ∃ above front group item index, address = front ++ [index] ∧ root.Leads above front group ∧
    element = ⟨item, "", []⟩ ∧
    (∀ placement ∈ kept, ∀ name, ¬ above ++ [.indexed name index] <+: placement.segments) ∧
    ∃ placement ∈ kept, ∃ larger > index, above ++ [.indexed item larger] <+: placement.segments

/-- The transaction shows the kept placements and nothing else. -/
structure Shows (transaction : Element) (kept : List Placement) : Prop where
  name : transaction.name = "transaction"
  text : transaction.text = ""
  reaches : ∀ placement ∈ kept, ∃ address reached,
    transaction.Leads placement.segments address reached ∧
      reached.text = placement.value.getD "" ∧ reached.children = []
  nothingElse : ∀ address element, address ≠ [] → transaction.at? address = some element →
    transaction.OnWay kept address element ∨ transaction.FillsGap kept address element

end Element

theorem Node.text_reference {node : Node} (h : node.text? = none) (name : String) :
    (node.reference name).text = "" := by
  cases node with
  | value text => simp [text?] at h
  | object fields => rfl
  | group item slots => rfl

namespace Document

variable {document : Document} {earlier : List Placement} {fields : Fields} {child : Node}
  {segments : List Segment}

/-- A path to a node of a document goes on to a survivor. -/
theorem Holds.exists_survivor (holds : document.Holds earlier)
    (down : descend? document.root? segments = some child) (built : child.Built) :
    ∃ placement ∈ survivors earlier, segments <+: placement.segments ∧
      (segments = placement.segments ∨ child.text? = none) := by
  cases text : child.text? with
  | some value =>
    refine ⟨⟨segments, value⟩, (holds.leaf segments value).mp ?_, List.prefix_rfl, Or.inl rfl⟩
    rw [leaf?, down]
    exact text
  | none =>
    obtain ⟨rest, value, leaf⟩ := built.exists_leaf
    refine ⟨⟨segments ++ rest, value⟩, (holds.leaf (segments ++ rest) value).mp ?_,
      List.prefix_append segments rest, Or.inr rfl⟩
    rw [Node.leaf?_append, down]
    exact leaf

/-- No survivor goes through a place where there is no child. -/
theorem Holds.not_prefix (holds : document.Holds earlier) {segment : Segment}
    (down : descend? document.root? segments = some child)
    (missing : child.child? segment = none) {placement : Placement}
    (mem : placement ∈ survivors earlier) : ¬ segments ++ [segment] <+: placement.segments := by
  rintro ⟨rest, split⟩
  have leaf := (holds.leaf placement.segments placement.value).mpr mem
  rw [← split, List.append_assoc, Node.leaf?_append, down, List.singleton_append,
    Node.leaf?_some_cons, missing, Node.leaf?_none] at leaf
  simp at leaf

/-- A document that holds placements has one transaction. -/
theorem Holds.exists_transaction (holds : document.Holds earlier) (asked : earlier ≠ []) :
    ∃ fields, document = ⟨[fields]⟩ := by
  obtain ⟨transactions⟩ := document
  cases transactions with
  | nil =>
    obtain ⟨placement, mem⟩ := exists_mem_survivors asked
    have leaf := (holds.leaf placement.segments placement.value).mpr mem
    rw [root?, List.head?_nil, Option.map_none, Node.leaf?_none] at leaf
    simp at leaf
  | cons fields rest =>
    obtain rfl : rest = [] := holds.atMostOne
    exact ⟨fields, rfl⟩

/-- The element of the first transaction shows the survivors. -/
theorem Holds.shows (holds : document.Holds earlier)
    (root : document.root? = some (.object fields)) :
    ((Node.object fields).reference "transaction").Shows (survivors earlier) where
  name := rfl
  text := rfl
  reaches placement mem := by
    have leaf := (holds.leaf placement.segments placement.value).mpr mem
    rw [root] at leaf
    exact (holds.built _ root).exists_leads leaf "transaction"
  nothingElse address element nonempty found := by
    have built := holds.built _ root
    rcases built.leads_or_gap found with ⟨segments, child, name, leads, down, rfl⟩ |
      ⟨above, front, group, child, index, item, split, leads, down, gap, rfl⟩
    · left
      have childBuilt := built.descend? down
      rw [← root] at down
      obtain ⟨placement, mem, way, last⟩ := holds.exists_survivor down childBuilt
      refine ⟨placement, mem, segments, way, leads, last.imp_right ?_⟩
      intro text
      exact Node.text_reference text name
    · right
      have childBuilt := built.descend? down
      rw [← root] at down
      obtain ⟨missing, larger, more, next, there⟩ := gap
      refine ⟨above, front, group, item, index, split, leads, rfl, ?_, ?_⟩
      · intro placement mem other
        exact holds.not_prefix down (missing other) mem
      · have further : descend? document.root? (above ++ [.indexed item larger]) = some next := by
          rw [Node.descend?_append, down]
          exact there
        obtain ⟨placement, mem, way, _⟩ :=
          holds.exists_survivor further (childBuilt.child? there)
        exact ⟨placement, mem, larger, more, way⟩

end Document

variable {properties : List Property} {marker text : String}

theorem buildPayload_eq_ok_iff :
    buildPayload properties marker = .ok text ↔ ∃ document,
      Document.blank.insertAll (Property.entries marker properties) = .ok document ∧
        document.render = .ok text := by
  unfold buildPayload
  cases Document.blank.insertAll (Property.entries marker properties) with
  | error e => simp
  | ok document =>
    cases rendered : document.render <;> simp [rendered]

/-- If a payload is made, every marked property has a path. Without marked properties the
payload is an empty root element; with some, it is a root element around one transaction, which
shows the values that survive at their paths, and nothing else. -/
theorem buildPayload_shows (h : buildPayload properties marker = .ok text) :
    (∀ property ∈ properties, property.IsMarked marker →
      ∃ placement, property.placement? marker = some placement) ∧
    ((∀ property ∈ properties, ¬ property.IsMarked marker) → text = "<transactions/>") ∧
    ((∃ property ∈ properties, property.IsMarked marker) →
      ∃ transaction, Element.read text.toList = some ⟨"transactions", "", [transaction]⟩ ∧
        transaction.Shows (survivors (Property.placements marker properties))) := by
  obtain ⟨document, written, rendered⟩ := buildPayload_eq_ok_iff.mp h
  obtain ⟨readable, holds⟩ := Document.holds_blank.insertAll written
  rw [List.nil_append, Property.placements_entries] at holds
  have asks := Property.readable_entries_iff.mp readable
  refine ⟨asks, ?_, ?_⟩
  · intro unmarked
    have noEntries : Property.entries marker properties = [] := by
      rw [Property.entries, List.filterMap_eq_nil_iff]
      intro property mem
      rw [Option.eq_none_iff_forall_ne_some]
      intro entry found
      exact unmarked property mem (Property.isMarked_iff.mpr ⟨entry, found⟩)
    rw [noEntries] at written
    obtain rfl := Except.ok.inj written
    exact (Except.ok.inj rendered).symm
  · rintro ⟨property, mem, marked⟩
    obtain ⟨placement, found⟩ := asks property mem marked
    have asked : Property.placements marker properties ≠ [] :=
      List.ne_nil_of_mem (List.mem_filterMap.mpr ⟨property, mem, found⟩)
    obtain ⟨fields, rfl⟩ := holds.exists_transaction asked
    exact ⟨(Node.object fields).reference "transaction",
      Document.read_eq_reference holds.ordered rendered, holds.shows rfl⟩

/-- A property without the marker, an item that leaves a gap, and a value that is taken back. -/
def gappedProperties : List Property :=
  [⟨some "d", some "4"⟩, ⟨some "x_d", some "4"⟩, ⟨some "x_a->b[1]->c", some "<"⟩,
    ⟨some "x_d", none⟩]

/-- The document that `gappedProperties` make. -/
def gappedDocument : Document :=
  ⟨[[("a", .group "b" [[], [("b", .object [("c", .value (some "<"))])]]), ("d", .value none)]]⟩

/-- The payload of `gappedProperties`. -/
def gappedPayload : String :=
  "<transactions><transaction><a><b/><b><c>&lt;</c></b></a><d/></transaction></transactions>"

set_option maxRecDepth 4000 in
theorem buildPayload_shows_gapped :
    buildPayload gappedProperties "x_" = .ok gappedPayload ∧
    ∃ transaction,
      Element.read gappedPayload.toList = some ⟨"transactions", "", [transaction]⟩ ∧
        transaction.Shows (survivors (Property.placements "x_" gappedProperties)) := by
  have marked : ∃ property ∈ gappedProperties, property.IsMarked "x_" :=
    ⟨⟨some "x_d", none⟩, by simp [gappedProperties], "x_d", rfl, ['d'], rfl⟩
  have entries : Property.entries "x_" gappedProperties =
      [⟨"d", some "4"⟩, ⟨"a->b[1]->c", some "<"⟩, ⟨"d", none⟩] := by rfl
  have written : Document.blank.insertAll (Property.entries "x_" gappedProperties) =
      .ok gappedDocument := by
    rw [entries]
    rfl
  have rendered : gappedDocument.render = .ok gappedPayload := by rfl
  have built := buildPayload_eq_ok_iff.mpr ⟨gappedDocument, written, rendered⟩
  exact ⟨built, (buildPayload_shows built).2.2 marked⟩

end RiskScreen
