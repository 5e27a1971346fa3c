import RiskScreen.Proofs.Document.Written
import RiskScreen.Proofs.Legality
import RiskScreen.Proofs.Markup.XmlName

/-!
# Which names a payload has

Every name in a node that was built is on the path of a value below it, that of an empty item of a
group as well, since a group ends in an item. So apart from the root and the transaction, the
elements of a payload have the names on the paths of what survives.

These names have been checked, but not against the names of XML. An element name is one of those
unless it has a character that is astray, and a payload has names of XML alone exactly if no
character on the paths of what survives is astray.
-/

namespace RiskScreen

open RiskScreen.Path (Segment isElementName)
open Node (leaf?)
open Markup

/-! ### Names of nodes -/

namespace Node

variable {node : Node} {name : String}

/-- The name is on the path of a value below the node. -/
def Bears (node : Node) (name : String) : Prop :=
  ∃ segments value, leaf? (some node) segments = some value ∧
    ∃ segment ∈ segments, segment.name = name

/-- A node that was built bears the names of its children and those that they bear. -/
theorem Built.bears_iff (built : node.Built) :
    node.Bears name ↔ ∃ segment child, node.child? segment = some child ∧
      (segment.name = name ∨ child.Bears name) := by
  constructor
  · rintro ⟨segments, value, leaf, other, mem, named⟩
    obtain ⟨segment, rest, rfl⟩ := List.exists_cons_of_ne_nil (List.ne_nil_of_mem mem)
    rw [leaf?_some_cons] at leaf
    cases found : node.child? segment with
    | none => simp [found] at leaf
    | some child =>
      rw [found] at leaf
      refine ⟨segment, child, found, ?_⟩
      rcases List.mem_cons.mp mem with rfl | below
      · exact Or.inl named
      · exact Or.inr ⟨rest, value, leaf, other, below, named⟩
  · rintro ⟨segment, child, found, named | ⟨rest, value, leaf, other, mem, named⟩⟩
    · obtain ⟨rest, value, leaf⟩ := (built.child? found).exists_leaf
      rw [← found] at leaf
      exact ⟨segment :: rest, value, leaf, segment, List.mem_cons_self, named⟩
    · rw [← found] at leaf
      exact ⟨segment :: rest, value, leaf, other, List.mem_cons_of_mem segment mem, named⟩

/-- The names of the elements below a node that was built are those that it bears. -/
theorem Built.shows_iff_bears (built : node.Built) : node.Shows name ↔ node.Bears name := by
  induction built using Built.induction with | step node built ih =>
  rw [built.bears_iff]
  cases built with
  | value text => simp [not_shows_value, child?_value]
  | @object fields nonempty ascending below =>
    rw [shows_object_iff]
    constructor
    · rintro ⟨⟨key, child⟩, mem, shows⟩
      have found := ascending.find?_of_mem mem
      exact ⟨.field key, child, found, shows.imp Eq.symm (ih (.field key) child found).mp⟩
    · rintro ⟨segment, child, found, bears⟩
      obtain ⟨key, rfl, mem⟩ := child?_object_eq_some found
      exact ⟨(key, child), mem, bears.imp Eq.symm (ih _ child found).mpr⟩
  | @group item slots last single below =>
    rw [shows_group_iff]
    constructor
    · rintro (⟨-, rfl⟩ | ⟨slot, slotMem, shows⟩)
      · obtain ⟨child, found⟩ := exists_child?_last last single
        exact ⟨_, child, found, Or.inl rfl⟩
      · obtain ⟨⟨key, child⟩, mem, shows⟩ := shows_object_iff.mp shows
        obtain ⟨rfl, index, found⟩ := exists_child?_of_mem single slotMem mem
        exact ⟨_, child, found, shows.imp Eq.symm (ih _ child found).mp⟩
    · rintro ⟨segment, child, found, bears⟩
      obtain ⟨index, rfl, slot, slotMem, mem⟩ := child?_group_eq_some found
      refine Or.inr ⟨slot, slotMem, shows_object_iff.mpr ⟨(item, child), mem, ?_⟩⟩
      exact bears.imp Eq.symm (ih _ child found).mpr

end Node

/-! ### Names of documents -/

namespace Document

variable {document : Document} {earlier : List Placement} {text : String}

/-- What holds of the names of the root and of transactions holds of all names in a document if
it holds of those that the document shows. -/
theorem forall_mem_names_reference_iff {p : String → Prop} (root : p rootName)
    (transaction : p transactionName) :
    (∀ name ∈ document.reference.names, p name) ↔ ∀ name, document.Shows name → p name := by
  have names (name : String) : name ∈ document.reference.names ↔ name = rootName ∨
      ∃ fields ∈ document.transactions, name = transactionName ∨
        (Node.object fields).Shows name := by
    rw [reference, Element.names, List.mem_cons, Element.namesAll_eq_flatMap, List.flatMap_map,
      List.mem_flatMap]
    simp only [Node.mem_names_reference_iff]
    rfl
  constructor
  · rintro all name ⟨fields, mem, shows⟩
    exact all name ((names name).mpr (Or.inr ⟨fields, mem, Or.inr shows⟩))
  · intro shown name mem
    rcases (names name).mp mem with rfl | ⟨fields, fieldsMem, rfl | shows⟩
    · exact root
    · exact transaction
    · exact shown name ⟨fields, fieldsMem, shows⟩

/-- The text of a document reads back as elements with element names. They all have names of XML
exactly if no name that the document shows has a character astray. -/
theorem exists_named_tree (ordered : document.Ordered) (h : document.render = .ok text) :
    ∃ tree, Element.read text.toList = some tree ∧
      (∀ name ∈ tree.names, isElementName name = true) ∧
      ((∀ name ∈ tree.names, isXmlName name.toList = true) ↔
        ∀ name, document.Shows name → isRegular name.toList = true) := by
  have valid : ∀ name, document.Shows name → isElementName name = true := by
    intro name shows
    have written := (needs_markup ordered).isWritten_iff.mp ⟨_, render_eq_ok_iff.mp h⟩
    exact written name (mem_names_iff.mpr shows)
  refine ⟨document.reference, read_eq_reference ordered h, ?_, ?_⟩
  · exact (forall_mem_names_reference_iff (by decide +kernel) (by decide +kernel)).mpr valid
  · rw [forall_mem_names_reference_iff (by decide) (by decide)]
    exact forall₂_congr fun name shows => isXmlName_iff_isRegular (valid name shows)

/-- A document shows the names on the paths of what survives. -/
theorem Holds.shows_name_iff (holds : document.Holds earlier) {name : String} :
    document.Shows name ↔
      ∃ placement ∈ survivors earlier, ∃ segment ∈ placement.segments, segment.name = name := by
  have root : document.Shows name ↔ ∃ node, document.root? = some node ∧ node.Shows name := by
    obtain ⟨transactions⟩ := document
    cases transactions with
    | nil => simp [Shows, root?]
    | cons fields rest =>
      obtain rfl : rest = [] := holds.atMostOne
      simp [Shows, root?]
  rw [root]
  constructor
  · rintro ⟨node, there, shows⟩
    obtain ⟨segments, value, leaf, named⟩ := (holds.built node there).shows_iff_bears.mp shows
    rw [← there] at leaf
    exact ⟨⟨segments, value⟩, (holds.leaf segments value).mp leaf, named⟩
  · rintro ⟨⟨segments, value⟩, survives, named⟩
    have leaf := (holds.leaf segments value).mpr survives
    cases there : document.root? with
    | none => simp [there] at leaf
    | some node =>
      rw [there] at leaf
      have bears : node.Bears name := ⟨segments, value, leaf, named⟩
      exact ⟨node, rfl, (holds.built node there).shows_iff_bears.mpr bears⟩

end Document

/-! ### Names of payloads -/

/-- An element name is a name of XML exactly if no character of it is astray. So the elements of
any document that is written have names of XML exactly if no name is shown with a character
astray, and those of a payload if there is none on the paths of what survives. -/
theorem isXmlName_payload_iff (name : String) (document : Document) (properties : List Property)
    (marker text : String) :
    (isElementName name = true → (isXmlName name.toList = true ↔ isRegular name.toList = true)) ∧
    (document.Ordered → document.render = .ok text →
      ∃ tree, Element.read text.toList = some tree ∧
        (∀ shown ∈ tree.names, isElementName shown = true) ∧
        ((∀ shown ∈ tree.names, isXmlName shown.toList = true) ↔
          ∀ shown, document.Shows shown → isRegular shown.toList = true)) ∧
    (buildPayload properties marker = .ok text →
      ∃ tree, Element.read text.toList = some tree ∧
        (∀ shown ∈ tree.names, isElementName shown = true) ∧
        ((∀ shown ∈ tree.names, isXmlName shown.toList = true) ↔
          ∀ placement ∈ survivors (Property.placements marker properties),
            ∀ segment ∈ placement.segments, isRegular segment.name.toList = true)) := by
  refine ⟨isXmlName_iff_isRegular, Document.exists_named_tree, ?_⟩
  intro made
  obtain ⟨built, holds, rendered⟩ := exists_holds_of_buildPayload made
  obtain ⟨tree, read, accepted, named⟩ := Document.exists_named_tree holds.ordered rendered
  refine ⟨tree, read, accepted, ?_⟩
  rw [named]
  simp only [holds.shows_name_iff]
  constructor
  · intro regular placement survives segment mem
    exact regular segment.name ⟨placement, survives, segment, mem, rfl⟩
  · rintro regular shown ⟨placement, survives, segment, mem, rfl⟩
    exact regular placement survives segment mem

/-- A name with a character astray, on a path that is overwritten. -/
def retractedArea : List Property :=
  [⟨some "x_room->m²", some "12"⟩, ⟨some "x_größe", none⟩, ⟨some "x_room", some "small"⟩]

/-- The document that `retractedArea` makes. -/
def areaDocument : Document :=
  ⟨[[("größe", .value none), ("room", .value (some "small"))]]⟩

/-- The payload of `retractedArea`. -/
def areaPayload : String :=
  "<transactions><transaction><größe/><room>small</room></transaction></transactions>"

set_option maxRecDepth 4000 in
theorem isXmlName_payload_iff_retractedArea :
    (isElementName "m²" = true ∧ isXmlName "m²".toList = false) ∧
    ((Document.grouped "größe" "m²").Ordered ∧
      ∃ text tree, (Document.grouped "größe" "m²").render = .ok text ∧
        Element.read text.toList = some tree ∧
        ¬ ∀ name ∈ tree.names, isXmlName name.toList = true) ∧
    buildPayload retractedArea "x_" = .ok areaPayload ∧
      ∃ tree, Element.read areaPayload.toList = some tree ∧
        ∀ name ∈ tree.names, isXmlName name.toList = true := by
  have accepted : isElementName "m²" = true := by decide +kernel
  have astray : isRegular "m²".toList = false := by decide
  have ordered := Document.ordered_grouped "größe" "m²"
  obtain ⟨text, rendered⟩ : ∃ text, (Document.grouped "größe" "m²").render = .ok text := ⟨_, by rfl⟩
  have shown : (Document.grouped "größe" "m²").Shows "m²" :=
    ⟨_, List.mem_cons_self, .inside (List.mem_cons_of_mem _ List.mem_cons_self)
      (.placeholder List.mem_cons_self)⟩
  have entries : Property.entries "x_" retractedArea =
      [⟨"room->m²", some "12"⟩, ⟨"größe", none⟩, ⟨"room", some "small"⟩] := by rfl
  have written : Document.blank.insertAll (Property.entries "x_" retractedArea) =
      .ok areaDocument := by
    rw [entries]
    rfl
  have made := buildPayload_eq_ok_iff.mpr
    ⟨areaDocument, written, (by rfl : areaDocument.render = .ok areaPayload)⟩
  have kept : survivors (Property.placements "x_" retractedArea) =
      [⟨[.field "größe"], none⟩, ⟨[.field "room"], some "small"⟩] := by decide +kernel
  obtain ⟨names, documents, -⟩ :=
    isXmlName_payload_iff "m²" (.grouped "größe" "m²") retractedArea "x_" text
  obtain ⟨-, -, payloads⟩ :=
    isXmlName_payload_iff "m²" (.grouped "größe" "m²") retractedArea "x_" areaPayload
  refine ⟨⟨accepted, ?_⟩, ⟨ordered, text, ?_⟩, made, ?_⟩
  · rw [Bool.eq_false_iff, ne_eq, names accepted, astray]
    exact Bool.false_ne_true
  · obtain ⟨tree, read, -, named⟩ := documents ordered rendered
    refine ⟨tree, rendered, read, fun all => ?_⟩
    have regular := named.mp all "m²" shown
    exact Bool.false_ne_true (astray.symm.trans regular)
  · obtain ⟨tree, read, -, named⟩ := payloads made
    refine ⟨tree, read, named.mpr ?_⟩
    rw [kept]
    decide

/-- The document with an ordinal indicator as its only name. -/
def ordinalDocument : Document :=
  ⟨[[("ª", .value none)]]⟩

/-- Not every element name is a name of XML, and such a name gets into a payload: an ordinal
indicator is alphabetic. -/
theorem isXmlName_fails_ordinal :
    (¬ ∀ name, isElementName name = true → isXmlName name.toList = true) ∧
    ¬ ∀ properties marker text tree, buildPayload properties marker = .ok text →
      Element.read text.toList = some tree →
        ∀ name ∈ tree.names, isXmlName name.toList = true := by
  have astray : isXmlName "ª".toList = false := by decide
  constructor
  · intro all
    have accepted : isElementName "ª" = true := by decide +kernel
    exact Bool.false_ne_true (astray.symm.trans (all "ª" accepted))
  · intro all
    have entries : Property.entries "x_" [⟨some "x_ª", none⟩] = [⟨"ª", none⟩] := by rfl
    have written : Document.blank.insertAll (Property.entries "x_" [⟨some "x_ª", none⟩]) =
        .ok ordinalDocument := by
      rw [entries]
      rfl
    have rendered : ordinalDocument.render =
        .ok "<transactions><transaction><ª/></transaction></transactions>" := by rfl
    have made := buildPayload_eq_ok_iff.mpr ⟨ordinalDocument, written, rendered⟩
    have ordered := (Document.holds_blank.insertAll written).2.ordered
    have named := all _ _ _ _ made (Document.read_eq_reference ordered rendered) "ª"
      (by decide +kernel)
    exact Bool.false_ne_true (astray.symm.trans named)

end RiskScreen
