import RiskScreen.Proofs.Document.ReadBack

/-!
# Which documents are written

A document is written if all names in it are element names: those of the fields of its
transactions, objects and slots, and those of the items of a group that has an empty slot. The
first other name, in the order in which the elements stand in the text, is the one that is
refused.

## Implementation notes

Each way to put markup together is looked at once, as a list of names that it needs
(`Markup.Needs`). The elements that a document stands for give these names in order, parents
before their children.
-/

namespace RiskScreen

open RiskScreen.Path (isElementName)

/-! ### Names in order -/

/-- The first of the names that is no element name. -/
def Markup.firstRefused? (names : List String) : Option String :=
  names.find? fun name => !isElementName name

mutual

/-- The names of an element and of all elements in it, in the order of their start tags. -/
def Element.names : Element → List String
  | ⟨name, _, children⟩ => name :: Element.namesAll children

/-- The names of elements and of all elements in them, in the order of their start tags. -/
def Element.namesAll : List Element → List String
  | [] => []
  | element :: rest => element.names ++ Element.namesAll rest

end

/-- The names in the transactions of a document, in the order of their start tags. -/
def Document.names (document : Document) : List String :=
  document.reference.children.flatMap fun transaction => Element.namesAll transaction.children

/-- The name is that of an element below the node: of a field at any depth, or of the items of a
group that has an empty slot. -/
inductive Node.Shows : Node → String → Prop
  | field {fields : Fields} {name : String} {node : Node} (mem : (name, node) ∈ fields) :
      Shows (.object fields) name
  | inside {fields : Fields} {key name : String} {node : Node} (mem : (key, node) ∈ fields)
      (shows : Shows node name) : Shows (.object fields) name
  | slot {item name : String} {slots : List Fields} {slot : Fields} (mem : slot ∈ slots)
      (shows : Shows (.object slot) name) : Shows (.group item slots) name
  | placeholder {item : String} {slots : List Fields} (mem : [] ∈ slots) :
      Shows (.group item slots) item

/-- The name is that of an element in a transaction. -/
def Document.Shows (document : Document) (name : String) : Prop :=
  ∃ transaction ∈ document.transactions, (Node.object transaction).Shows name

namespace Element

theorem namesAll_eq_flatMap (elements : List Element) :
    namesAll elements = elements.flatMap names := by
  induction elements with
  | nil => rfl
  | cons element elements ih => rw [namesAll, ih, List.flatMap_cons]

theorem namesAll_append (front back : List Element) :
    namesAll (front ++ back) = namesAll front ++ namesAll back := by
  simp only [namesAll_eq_flatMap, List.flatMap_append]

theorem names_eq_cons (element : Element) :
    element.names = element.name :: namesAll element.children := by
  cases element
  rw [names]

/-- Sorting elements keeps the names in them. -/
theorem mem_namesAll_byName_iff {name : String} {elements : List Element} :
    name ∈ namesAll (byName elements) ↔ name ∈ namesAll elements := by
  simp only [namesAll_eq_flatMap, List.mem_flatMap, byName, List.mem_mergeSort]

end Element

namespace Node

variable {name item : String} {fields : Fields} {slots : List Fields}

theorem not_shows_value (text : Option String) : ¬ (Node.value text).Shows name := by
  rintro ⟨⟩

theorem shows_object_iff :
    (Node.object fields).Shows name ↔ ∃ field ∈ fields, name = field.1 ∨ field.2.Shows name := by
  constructor
  · rintro (@⟨_, _, node, mem⟩ | ⟨mem, shows⟩)
    · exact ⟨(name, node), mem, Or.inl rfl⟩
    · exact ⟨_, mem, Or.inr shows⟩
  · rintro ⟨⟨key, node⟩, mem, rfl | shows⟩
    · exact .field mem
    · exact .inside mem shows

theorem shows_group_iff :
    (Node.group item slots).Shows name ↔
      ([] ∈ slots ∧ name = item) ∨ ∃ slot ∈ slots, (Node.object slot).Shows name := by
  constructor
  · rintro (_ | _ | ⟨mem, shows⟩ | ⟨mem⟩)
    · exact Or.inr ⟨_, mem, shows⟩
    · exact Or.inl ⟨mem, rfl⟩
  · rintro (⟨mem, rfl⟩ | ⟨slot, mem, shows⟩)
    · exact .placeholder mem
    · exact .slot mem shows

theorem not_shows_object_nil : ¬ (Node.object []).Shows name := by
  simp [shows_object_iff]

/-- One more slot brings in the names of its fields, or that of the items where it is empty. -/
theorem shows_group_cons_iff :
    (Node.group item (fields :: slots)).Shows name ↔
      (fields = [] ∧ name = item) ∨ (Node.object fields).Shows name ∨
        (Node.group item slots).Shows name := by
  simp only [shows_group_iff, List.mem_cons, @eq_comm _ [], or_and_right, exists_or,
    exists_eq_left]
  rw [or_assoc, or_left_comm (b := (Node.object fields).Shows name)]

end Node

open Element

/-! ### Names that are shown -/

mutual

theorem Node.mem_names_reference_iff {name key : String} (node : Node) :
    name ∈ (node.reference key).names ↔ name = key ∨ node.Shows name := by
  match node with
  | .value text => simp [Node.reference, names, namesAll, Node.not_shows_value]
  | .object fields =>
      rw [Node.reference, names, List.mem_cons, mem_namesAll_byName_iff,
        Fields.mem_namesAll_references_iff fields, Node.shows_object_iff]
  | .group item slots =>
      rw [Node.reference, names, List.mem_cons, Slots.mem_namesAll_references_iff item slots]

theorem Fields.mem_namesAll_references_iff {name : String} (fields : List (String × Node)) :
    name ∈ namesAll (Fields.references fields) ↔
      ∃ field ∈ fields, name = field.1 ∨ field.2.Shows name := by
  match fields with
  | [] => simp [Fields.references, namesAll]
  | (key, node) :: rest =>
      rw [Fields.references, namesAll, List.mem_append, Node.mem_names_reference_iff node,
        Fields.mem_namesAll_references_iff rest]
      simp only [List.mem_cons, or_and_right, exists_or, exists_eq_left]

theorem Slots.mem_namesAll_references_iff {name : String} (item : String)
    (slots : List (List (String × Node))) :
    name ∈ namesAll (Slots.references item slots) ↔ (Node.group item slots).Shows name := by
  match slots with
  | [] => simp [Slots.references, namesAll, Node.shows_group_iff]
  | [] :: rest =>
      rw [Slots.references, namesAll, List.mem_append,
        Slots.mem_namesAll_references_iff item rest, Node.shows_group_cons_iff]
      simp [names, namesAll, Node.not_shows_object_nil]
  | (field :: fields) :: rest =>
      rw [Slots.references, namesAll_append, List.mem_append, mem_namesAll_byName_iff,
        Fields.mem_namesAll_references_iff (field :: fields),
        Slots.mem_namesAll_references_iff item rest, Node.shows_group_cons_iff,
        Node.shows_object_iff]
      simp

end

theorem Document.mem_names_iff {document : Document} {name : String} :
    name ∈ document.names ↔ document.Shows name := by
  rw [Document.names, Document.reference, List.flatMap_map, List.mem_flatMap]
  apply exists_congr
  intro transaction
  apply and_congr_right'
  rw [Node.reference, mem_namesAll_byName_iff, Fields.mem_namesAll_references_iff,
    Node.shows_object_iff]

/-! ### Names that are needed -/

namespace Markup

variable {name : String} {names others : List String}
  {content first second : Except NameError (List Char)}

theorem firstRefused?_cons_of_valid (valid : isElementName name = true) (names : List String) :
    firstRefused? (name :: names) = firstRefused? names :=
  List.find?_cons_of_neg (by simp [valid])

theorem firstRefused?_cons_of_invalid (invalid : ¬ isElementName name = true)
    (names : List String) : firstRefused? (name :: names) = some name :=
  List.find?_cons_of_pos (by simp [invalid])

theorem firstRefused?_append (names others : List String) :
    firstRefused? (names ++ others) = (firstRefused? names).or (firstRefused? others) :=
  List.find?_append

theorem firstRefused?_eq_none_iff :
    firstRefused? names = none ↔ ∀ name ∈ names, isElementName name = true := by
  simp [firstRefused?]

/-- The names are those that the markup needs, in order: it is written if all are element names,
and otherwise the first other one is refused. -/
def Needs (written : Except NameError (List Char)) (names : List String) : Prop :=
  match written with
  | .ok _ => firstRefused? names = none
  | .error e => firstRefused? names = some e.name

theorem needs_ok (text : List Char) : Needs (.ok text) [] := rfl

theorem needs_emptyElement (name : String) : Needs (emptyElement name) [name] := by
  unfold emptyElement
  split
  · rename_i valid
    exact firstRefused?_cons_of_valid valid []
  · rename_i invalid
    exact firstRefused?_cons_of_invalid invalid []

/-- An element needs its own name before those of its content. -/
theorem Needs.element (needs : Needs content names) (name : String) :
    Needs (Markup.element name content) (name :: names) := by
  unfold Markup.element
  split
  · rename_i valid
    cases content with
    | error e => exact (firstRefused?_cons_of_valid valid names).trans needs
    | ok inner => exact (firstRefused?_cons_of_valid valid names).trans needs
  · rename_i invalid
    exact firstRefused?_cons_of_invalid invalid names

theorem Needs.followedBy (front : Needs first names) (back : Needs second others) :
    Needs (Markup.followedBy first second) (names ++ others) := by
  cases first with
  | error e =>
    have refused : firstRefused? names = some e.name := front
    change firstRefused? (names ++ others) = some e.name
    rw [firstRefused?_append, refused, Option.some_or]
  | ok text =>
    have faultless : firstRefused? names = none := front
    have rest : firstRefused? (names ++ others) = firstRefused? others := by
      rw [firstRefused?_append, faultless, Option.none_or]
    cases second with
    | error e => exact rest.trans back
    | ok text => exact rest.trans back

theorem Needs.isWritten_iff (needs : Needs content names) :
    IsWritten content ↔ ∀ name ∈ names, isElementName name = true := by
  rw [← firstRefused?_eq_none_iff]
  cases content with
  | error e =>
    have refused : firstRefused? names = some e.name := needs
    simp [IsWritten, refused]
  | ok text => exact iff_of_true ⟨text, rfl⟩ needs

theorem Needs.eq_error_iff (needs : Needs content names) {e : NameError} :
    content = .error e ↔ firstRefused? names = some e.name := by
  cases content with
  | error cause =>
    have refused : firstRefused? names = some cause.name := needs
    rw [refused, Except.error.injEq, Option.some.injEq, NameError.mk.injEq]
  | ok text =>
    have faultless : firstRefused? names = none := needs
    simp [faultless]

end Markup

open Markup

mutual

/-- A node needs the names of the element that it stands for. -/
theorem Node.needs_markup (name : String) (node : Node) (ordered : node.Ordered) :
    Needs (node.markup name) (node.reference name).names := by
  match node, ordered with
  | .value none, _ => exact needs_emptyElement name
  | .value (some text), _ => exact (needs_ok (escape text.toList)).element name
  | .object [], _ =>
      rw [Node.reference, Fields.references, byName_nil]
      exact needs_emptyElement name
  | .object (field :: fields), .object ascending below =>
      rw [Node.markup, Node.reference, ascending.byName_references]
      exact (Fields.needs_markup (field :: fields) below).element name
  | .group _ [], _ => exact needs_emptyElement name
  | .group item (slot :: slots), .group ascending below =>
      rw [Node.markup, Node.reference]
      exact (Slots.needs_markup item (slot :: slots) ascending below).element name

theorem Fields.needs_markup (fields : List (String × Node))
    (below : ∀ field ∈ fields, field.2.Ordered) :
    Needs (Fields.markup fields) (namesAll (Fields.references fields)) := by
  match fields, below with
  | [], _ => exact needs_ok []
  | (name, node) :: fields, below =>
      obtain ⟨first, others⟩ := List.forall_mem_cons.mp below
      rw [Fields.markup, Fields.references, namesAll]
      exact (Node.needs_markup name node first).followedBy (Fields.needs_markup fields others)

theorem Slots.needs_markup (item : String) (slots : List (List (String × Node)))
    (ascending : ∀ slot ∈ slots, Fields.Ascending slot)
    (below : ∀ slot ∈ slots, ∀ field ∈ slot, field.2.Ordered) :
    Needs (Slots.markup item slots) (namesAll (Slots.references item slots)) := by
  match slots, ascending, below with
  | [], _, _ => exact needs_ok []
  | [] :: slots, ascending, below =>
      obtain ⟨-, othersAscending⟩ := List.forall_mem_cons.mp ascending
      obtain ⟨-, others⟩ := List.forall_mem_cons.mp below
      rw [Slots.markup, Slots.references, namesAll]
      exact (needs_emptyElement item).followedBy
        (Slots.needs_markup item slots othersAscending others)
  | (field :: fields) :: slots, ascending, below =>
      obtain ⟨firstAscending, othersAscending⟩ := List.forall_mem_cons.mp ascending
      obtain ⟨first, others⟩ := List.forall_mem_cons.mp below
      rw [Slots.markup, Slots.references, namesAll_append, firstAscending.byName_references]
      exact (Fields.needs_markup (field :: fields) first).followedBy
        (Slots.needs_markup item slots othersAscending others)

end

/-! ### The whole document -/

namespace Document

variable {document : Document}

theorem needs_transactionsMarkup {transactions : List Fields}
    (ordered : ∀ transaction ∈ transactions, (Node.object transaction).Ordered) :
    Needs (transactionsMarkup transactions) (namesAll (transactions.map fun transaction =>
      (Node.object transaction).reference transactionName)) := by
  induction transactions with
  | nil => exact needs_ok []
  | cons transaction transactions ih =>
    obtain ⟨first, others⟩ := List.forall_mem_cons.mp ordered
    rw [transactionsMarkup, List.map_cons, namesAll]
    exact (Node.needs_markup transactionName _ first).followedBy (ih others)

/-- The names of the root and of the transactions can always be written. -/
theorem firstRefused?_names_reference (document : Document) :
    firstRefused? document.reference.names = firstRefused? document.names := by
  have root : isElementName "transactions" = true := by decide +kernel
  have valid : isElementName "transaction" = true := by decide +kernel
  rw [reference, Element.names, firstRefused?_cons_of_valid root, Document.names, reference]
  induction document.transactions with
  | nil => rfl
  | cons transaction rest ih =>
    have first : (Node.reference "transaction" (.object transaction)).name = "transaction" := rfl
    rw [List.map_cons, namesAll, List.flatMap_cons, firstRefused?_append, firstRefused?_append,
      ih, names_eq_cons, first, firstRefused?_cons_of_valid valid]

theorem needs_markup (ordered : document.Ordered) : Needs document.markup document.names := by
  have all : Needs document.markup document.reference.names := by
    obtain ⟨transactions⟩ := document
    cases transactions with
    | nil => exact needs_emptyElement rootName
    | cons transaction rest =>
      rw [markup, reference, Element.names]
      exact (needs_transactionsMarkup ordered).element rootName
  unfold Needs at all ⊢
  rwa [firstRefused?_names_reference] at all

theorem exists_render_iff : (∃ text, document.render = .ok text) ↔ IsWritten document.markup := by
  unfold render
  cases document.markup <;> simp [IsWritten]

theorem render_eq_error_iff {e : NameError} :
    document.render = .error e ↔ document.markup = .error e := by
  unfold render
  cases document.markup <;> simp

/-- A document is written exactly if every name that it shows is an element name: the name of a
field anywhere in a transaction, or of the items of a group that has an empty slot. Otherwise the
first such name that is none, in the order of the text, is refused. -/
theorem render_first_refused (ordered : document.Ordered) :
    ((∃ text, document.render = .ok text) ↔
      ∀ name, document.Shows name → isElementName name = true) ∧
    (∀ e : NameError, document.render = .error e ↔
      document.names.find? (fun name => !isElementName name) = some e.name) ∧
    ∀ name, name ∈ document.names ↔ document.Shows name := by
  have needs := needs_markup ordered
  refine ⟨?_, ?_, fun name => mem_names_iff⟩
  · rw [exists_render_iff, needs.isWritten_iff]
    simp only [mem_names_iff]
  · intro e
    rw [render_eq_error_iff, needs.eq_error_iff, firstRefused?]

/-- A group with a field of the first name in its only slot, and a group with an empty slot and
items of the second name. The items of the first group have no name that could be written. -/
def grouped (field item : String) : Document :=
  ⟨[[("a", .group "no item" [[(field, .value none)]]), ("b", .group item [[]])]]⟩

theorem ordered_grouped (field item : String) : (grouped field item).Ordered := by
  intro transaction mem
  obtain rfl := List.mem_singleton.mp mem
  have less : "a" < "b" := by decide
  refine .object (List.pairwise_pair.mpr less) ?_
  refine List.forall_mem_cons.mpr ⟨?_, List.forall_mem_singleton.mpr ?_⟩
  · refine .group (List.forall_mem_singleton.mpr (List.pairwise_singleton _ _)) ?_
    exact List.forall_mem_singleton.mpr (List.forall_mem_singleton.mpr (.value none))
  · refine .group (List.forall_mem_singleton.mpr List.Pairwise.nil) ?_
    exact List.forall_mem_singleton.mpr (List.forall_mem_nil _)

theorem render_first_refused_grouped :
    (grouped "1st" "2").Ordered ∧ (grouped "1st" "2").render = .error ⟨"1st"⟩ ∧
      (grouped "1st" "2").names.find? (fun name => !isElementName name) = some "1st" ∧
      (grouped "first" "2").names.find? (fun name => !isElementName name) = some "2" ∧
      ∀ name, (grouped "first" "second").Shows name → isElementName name = true := by
  have first : (grouped "1st" "2").render = .error ⟨"1st"⟩ := by rfl
  have second : (grouped "first" "2").render = .error ⟨"2"⟩ := by rfl
  have neither : ∃ text, (grouped "first" "second").render = .ok text := ⟨_, by rfl⟩
  exact ⟨ordered_grouped "1st" "2", first,
    ((render_first_refused (ordered_grouped "1st" "2")).2.1 _).mp first,
    ((render_first_refused (ordered_grouped "first" "2")).2.1 _).mp second,
    (render_first_refused (ordered_grouped "first" "second")).1.mp neither⟩

end Document

end RiskScreen
