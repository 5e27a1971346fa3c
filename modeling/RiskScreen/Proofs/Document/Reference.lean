import RiskScreen.Document.Markup
import RiskScreen.Proofs.Document.Order
import RiskScreen.Proofs.Markup.Element
import RiskScreen.Proofs.Text.ByteOrder

/-!
# The elements of a document

Every document stands for a tree of elements, and the text of a document reads back as that
tree. An object is an element around its fields, in the order of the bytes of their names; a
value is an element around its text; a group is an element around its slots, each of which
is written as its own fields, or as an empty item where it has none.

## Implementation notes

The tree sorts the fields of an object itself, so that it does not depend on the order in
which an object happens to keep them. Objects keep them in ascending order of code points
(`Node.Ordered`), which is the order of the bytes.
-/

namespace RiskScreen

namespace Element

/-- Whether the name of an element comes no later than that of another, byte by byte. -/
def nameLe (first second : Element) : Bool :=
  decide (Text.Utf8.encode first.name.toList ≤ Text.Utf8.encode second.name.toList)

/-- The elements in ascending order of the bytes of their names. -/
def byName (elements : List Element) : List Element :=
  elements.mergeSort nameLe

theorem byName_nil : byName [] = [] :=
  List.mergeSort_nil

theorem nameLe_of_lt {first second : Element} (h : first.name < second.name) :
    nameLe first second = true := by
  have less : Text.Utf8.encode first.name.toList < Text.Utf8.encode second.name.toList :=
    Text.Utf8.encode_lt_encode h
  exact decide_eq_true (List.le_of_lt less)

end Element

mutual

/-- The element that a node stands for. -/
def Node.reference (name : String) : Node → Element
  | .value text => ⟨name, text.getD "", []⟩
  | .object fields => ⟨name, "", Element.byName (Fields.references fields)⟩
  | .group item slots => ⟨name, "", Slots.references item slots⟩

/-- The elements that fields stand for. -/
def Fields.references : List (String × Node) → List Element
  | [] => []
  | (name, node) :: rest => Node.reference name node :: Fields.references rest

/-- The elements that the slots of a group stand for. -/
def Slots.references (item : String) : List (List (String × Node)) → List Element
  | [] => []
  | [] :: rest => ⟨item, "", []⟩ :: Slots.references item rest
  | (field :: fields) :: rest =>
      Element.byName (Fields.references (field :: fields)) ++ Slots.references item rest

end

/-- The element that a document stands for. -/
def Document.reference (document : Document) : Element :=
  ⟨"transactions", "", document.transactions.map fun transaction =>
    (Node.object transaction).reference "transaction"⟩

theorem Fields.references_eq_map (fields : Fields) :
    references fields = fields.map fun field => field.2.reference field.1 := by
  induction fields with
  | nil => rfl
  | cons field fields ih => simp only [references, ih, List.map_cons]

theorem Node.name_reference (name : String) (node : Node) : (node.reference name).name = name := by
  cases node <;> rfl

/-- Fields in ascending order need no sorting. -/
theorem Fields.Ascending.byName_references {fields : Fields} (ascending : fields.Ascending) :
    Element.byName (references fields) = references fields := by
  apply List.mergeSort_of_pairwise
  rw [references_eq_map, List.pairwise_map]
  apply List.Pairwise.imp _ ascending
  intro first second less
  apply Element.nameLe_of_lt
  rwa [Node.name_reference, Node.name_reference]

/-! ### What was written, where something was -/

namespace Markup

variable {name : String} {text : List Char}

theorem emptyElement_eq_ok_iff :
    emptyElement name = .ok text ↔ Path.isElementName name = true ∧ text = emptyTag name := by
  unfold emptyElement
  split
  · rename_i valid
    simp [valid, @eq_comm _ text]
  · rename_i invalid
    simp [invalid]

theorem element_eq_ok_iff {content : Except NameError (List Char)} :
    element name content = .ok text ↔ Path.isElementName name = true ∧
      ∃ inner, content = .ok inner ∧ text = startTag name ++ inner ++ endTag name := by
  unfold element
  split
  · rename_i valid
    cases content with
    | error e => simp
    | ok inner => simp [valid, @eq_comm _ text]
  · rename_i invalid
    simp [invalid]

theorem followedBy_eq_ok_iff {first second : Except NameError (List Char)} :
    followedBy first second = .ok text ↔
      ∃ front back, first = .ok front ∧ second = .ok back ∧ text = front ++ back := by
  unfold followedBy
  cases first with
  | error e => simp
  | ok front =>
    cases second with
    | error e => simp
    | ok back => simp [@eq_comm _ text]

end Markup

open Markup Element

/-! ### Reading back -/

section ReadingBack

variable {text : List Char} (current : Open) (outer : List Open) (rest : List Char)

theorem Element.readOn_emptyElement {name : String} (h : emptyElement name = .ok text) :
    readOn (current :: outer) (text ++ rest) =
      readOn (current.addChildren [⟨name, "", []⟩] :: outer) rest := by
  obtain ⟨valid, rfl⟩ := emptyElement_eq_ok_iff.mp h
  exact readOn_emptyTag valid current outer rest

/-- An element around a content that is read as elements. -/
theorem Element.readOn_element {name : String} {content : Except NameError (List Char)}
    {children : List Element} (h : element name content = .ok text)
    (inside : ∀ inner, content = .ok inner → ∀ opened : Open, ∀ others after,
      readOn (opened :: others) (inner ++ after) =
        readOn (opened.addChildren children :: others) after) :
    readOn (current :: outer) (text ++ rest) =
      readOn (current.addChildren [⟨name, "", children⟩] :: outer) rest := by
  obtain ⟨valid, inner, made, rfl⟩ := element_eq_ok_iff.mp h
  rw [List.append_assoc, List.append_assoc, readOn_startTag valid, inside inner made]
  exact readOn_endTag valid [] children current outer rest

/-- An element around a text. -/
theorem Element.readOn_textElement {name value : String}
    (h : element name (.ok (escape value.toList)) = .ok text) :
    readOn (current :: outer) (text ++ rest) =
      readOn (current.addChildren [⟨name, value, []⟩] :: outer) rest := by
  obtain ⟨valid, inner, made, rfl⟩ := element_eq_ok_iff.mp h
  obtain rfl := Except.ok.inj made
  have tag : endTag name ++ rest = '<' :: ('/' :: name.toList ++ ['>'] ++ rest) := rfl
  rw [List.append_assoc, List.append_assoc, readOn_startTag valid, tag, readOn_escape, ← tag]
  have closed := readOn_endTag valid value.toList [] current outer rest
  rw [String.ofList_toList] at closed
  exact closed

end ReadingBack

mutual

/-- The text of a node is read as the element that the node stands for. -/
theorem Node.readOn_markup (name : String) (node : Node) (ordered : node.Ordered)
    {text : List Char} (h : node.markup name = .ok text) (current : Open) (outer : List Open)
    (rest : List Char) :
    readOn (current :: outer) (text ++ rest) =
      readOn (current.addChildren [node.reference name] :: outer) rest := by
  match node, ordered with
  | .value none, _ =>
      rw [Node.markup] at h
      exact readOn_emptyElement current outer rest h
  | .value (some value), _ =>
      rw [Node.markup] at h
      exact readOn_textElement current outer rest h
  | .object [], _ =>
      rw [Node.markup] at h
      rw [Node.reference, Fields.references, byName_nil]
      exact readOn_emptyElement current outer rest h
  | .object (field :: fields), .object ascending below =>
      rw [Node.markup] at h
      rw [Node.reference, ascending.byName_references]
      exact readOn_element current outer rest h fun inner made =>
        Fields.readOn_markup (field :: fields) below made
  | .group _ [], _ =>
      rw [Node.markup] at h
      exact readOn_emptyElement current outer rest h
  | .group item (slot :: slots), .group ascending below =>
      rw [Node.markup] at h
      exact readOn_element current outer rest h fun inner made =>
        Slots.readOn_markup item (slot :: slots) ascending below made

/-- The text of fields is read as their elements. -/
theorem Fields.readOn_markup (fields : List (String × Node))
    (below : ∀ field ∈ fields, field.2.Ordered) {text : List Char}
    (h : Fields.markup fields = .ok text) (current : Open) (outer : List Open)
    (rest : List Char) :
    readOn (current :: outer) (text ++ rest) =
      readOn (current.addChildren (Fields.references fields) :: outer) rest := by
  match fields, below with
  | [], _ =>
      obtain rfl := Except.ok.inj h
      simp [Fields.references]
  | (name, node) :: fields, below =>
      rw [Fields.markup] at h
      obtain ⟨front, back, first, second, rfl⟩ := followedBy_eq_ok_iff.mp h
      have others := fun field mem => below field (List.mem_cons_of_mem (name, node) mem)
      rw [List.append_assoc, Node.readOn_markup name node (below _ List.mem_cons_self) first,
        Fields.readOn_markup fields others second]
      simp [Fields.references]

/-- The text of slots is read as their elements. -/
theorem Slots.readOn_markup (item : String) (slots : List (List (String × Node)))
    (ascending : ∀ slot ∈ slots, Fields.Ascending slot)
    (below : ∀ slot ∈ slots, ∀ field ∈ slot, field.2.Ordered) {text : List Char}
    (h : Slots.markup item slots = .ok text) (current : Open) (outer : List Open)
    (rest : List Char) :
    readOn (current :: outer) (text ++ rest) =
      readOn (current.addChildren (Slots.references item slots) :: outer) rest := by
  match slots, ascending, below with
  | [], _, _ =>
      obtain rfl := Except.ok.inj h
      simp [Slots.references]
  | [] :: slots, ascending, below =>
      rw [Slots.markup] at h
      obtain ⟨front, back, first, second, rfl⟩ := followedBy_eq_ok_iff.mp h
      rw [List.append_assoc, readOn_emptyElement current outer _ first,
        Slots.readOn_markup item slots (fun slot mem => ascending slot (List.mem_cons_of_mem _ mem))
          (fun slot mem => below slot (List.mem_cons_of_mem _ mem)) second]
      simp [Slots.references]
  | (field :: fields) :: slots, ascending, below =>
      rw [Slots.markup] at h
      obtain ⟨front, back, first, second, rfl⟩ := followedBy_eq_ok_iff.mp h
      rw [List.append_assoc,
        Fields.readOn_markup (field :: fields) (below _ List.mem_cons_self) first,
        Slots.readOn_markup item slots (fun slot mem => ascending slot (List.mem_cons_of_mem _ mem))
          (fun slot mem => below slot (List.mem_cons_of_mem _ mem)) second]
      simp [Slots.references, (ascending _ List.mem_cons_self).byName_references]

end

end RiskScreen
