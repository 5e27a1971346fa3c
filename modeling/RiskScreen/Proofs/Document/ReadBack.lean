import RiskScreen.Proofs.Document.Reference

/-!
# Reading a document back

The text of a document is one element, and reads back as the tree the document stands for.
The texts of its values do not take part in the shape of that tree: documents that differ in
these texts alone are written or refused alike, and their trees differ in texts alone.
-/

namespace RiskScreen

mutual

/-- The node without the texts of its values. -/
def Node.hollow : Node → Node
  | .value _ => .value none
  | .object fields => .object (Fields.hollow fields)
  | .group item slots => .group item (Slots.hollow slots)

/-- The fields without the texts of their values. -/
def Fields.hollow : List (String × Node) → List (String × Node)
  | [] => []
  | (name, node) :: rest => (name, Node.hollow node) :: Fields.hollow rest

/-- The slots without the texts of their values. -/
def Slots.hollow : List (List (String × Node)) → List (List (String × Node))
  | [] => []
  | slot :: rest => Fields.hollow slot :: Slots.hollow rest

end

/-- The document without the texts of its values. -/
def Document.hollow (document : Document) : Document :=
  ⟨document.transactions.map Fields.hollow⟩

mutual

/-- The element without the texts in it. -/
def Element.bare : Element → Element
  | ⟨name, _, children⟩ => ⟨name, "", Element.bareAll children⟩

/-- The elements without the texts in them. -/
def Element.bareAll : List Element → List Element
  | [] => []
  | element :: rest => Element.bare element :: Element.bareAll rest

end

namespace Element

theorem bareAll_eq_map (elements : List Element) : bareAll elements = elements.map bare := by
  induction elements with
  | nil => rfl
  | cons element elements ih => rw [bareAll, ih, List.map_cons]

theorem name_bare (element : Element) : element.bare.name = element.name := by
  cases element
  rfl

theorem bareAll_byName (elements : List Element) :
    bareAll (byName elements) = byName (bareAll elements) := by
  rw [bareAll_eq_map, bareAll_eq_map]
  apply List.map_mergeSort
  intro first _ second _
  rw [nameLe, nameLe, name_bare, name_bare]

end Element

open Markup Element

/-! ### The shape of the tree -/

mutual

theorem Node.bare_reference (name : String) (node : Node) :
    (node.reference name).bare = node.hollow.reference name := by
  match node with
  | .value text => rfl
  | .object fields =>
      rw [Node.reference, bare, bareAll_byName, Fields.bareAll_references, Node.hollow,
        Node.reference]
  | .group item slots =>
      rw [Node.reference, bare, Slots.bareAll_references, Node.hollow, Node.reference]

theorem Fields.bareAll_references (fields : List (String × Node)) :
    bareAll (Fields.references fields) = Fields.references (Fields.hollow fields) := by
  match fields with
  | [] => rfl
  | (name, node) :: fields =>
      rw [Fields.references, bareAll, Node.bare_reference, Fields.bareAll_references,
        Fields.hollow, Fields.references]

theorem Slots.bareAll_references (item : String) (slots : List (List (String × Node))) :
    bareAll (Slots.references item slots) = Slots.references item (Slots.hollow slots) := by
  match slots with
  | [] => rfl
  | [] :: slots =>
      rw [Slots.references, bareAll, Slots.bareAll_references, Slots.hollow, Fields.hollow,
        Slots.references]
      rfl
  | (field :: fields) :: slots =>
      rw [Slots.references, bareAll_eq_map, List.map_append, ← bareAll_eq_map, ← bareAll_eq_map,
        bareAll_byName, Fields.bareAll_references, Slots.bareAll_references, Slots.hollow]
      rfl

end

/-! ### What is written -/

/-- Something was written. -/
def Markup.IsWritten (written : Except NameError (List Char)) : Prop :=
  ∃ text, written = .ok text

namespace Markup

theorem isWritten_emptyElement_iff {name : String} :
    IsWritten (emptyElement name) ↔ Path.isElementName name = true := by
  simp [IsWritten, emptyElement_eq_ok_iff]

theorem isWritten_element_iff {name : String} {content : Except NameError (List Char)} :
    IsWritten (element name content) ↔ Path.isElementName name = true ∧ IsWritten content := by
  constructor
  · rintro ⟨text, h⟩
    obtain ⟨valid, inner, made, _⟩ := element_eq_ok_iff.mp h
    exact ⟨valid, inner, made⟩
  · rintro ⟨valid, inner, made⟩
    exact ⟨_, element_eq_ok_iff.mpr ⟨valid, inner, made, rfl⟩⟩

theorem isWritten_followedBy_iff {first second : Except NameError (List Char)} :
    IsWritten (followedBy first second) ↔ IsWritten first ∧ IsWritten second := by
  constructor
  · rintro ⟨text, h⟩
    obtain ⟨front, back, made, other, rfl⟩ := followedBy_eq_ok_iff.mp h
    exact ⟨⟨front, made⟩, ⟨back, other⟩⟩
  · rintro ⟨⟨front, made⟩, ⟨back, other⟩⟩
    exact ⟨front ++ back, followedBy_eq_ok_iff.mpr ⟨front, back, made, other, rfl⟩⟩

theorem isWritten_ok (text : List Char) : IsWritten (.ok text) := ⟨text, rfl⟩

end Markup

/-- Written or not, an object without fields is no exception. -/
theorem Node.isWritten_object_iff {name : String} {fields : Fields} :
    IsWritten (Node.markup name (.object fields)) ↔
      Path.isElementName name = true ∧ IsWritten (Fields.markup fields) := by
  cases fields with
  | nil => simp [Node.markup, Fields.markup, isWritten_emptyElement_iff, isWritten_ok]
  | cons field fields => rw [Node.markup, isWritten_element_iff]

theorem Node.isWritten_group_iff {name item : String} {slots : List Fields} :
    IsWritten (Node.markup name (.group item slots)) ↔
      Path.isElementName name = true ∧ IsWritten (Slots.markup item slots) := by
  cases slots with
  | nil => simp [Node.markup, Slots.markup, isWritten_emptyElement_iff, isWritten_ok]
  | cons slot slots => rw [Node.markup, isWritten_element_iff]

mutual

/-- The texts of values do not decide whether a node is written. -/
theorem Node.isWritten_hollow (name : String) (node : Node) :
    IsWritten (node.hollow.markup name) ↔ IsWritten (node.markup name) := by
  match node with
  | .value none => rfl
  | .value (some text) =>
      simp [Node.hollow, Node.markup, isWritten_element_iff, isWritten_emptyElement_iff,
        isWritten_ok]
  | .object fields =>
      rw [Node.hollow, Node.isWritten_object_iff, Node.isWritten_object_iff,
        Fields.isWritten_hollow fields]
  | .group item slots =>
      rw [Node.hollow, Node.isWritten_group_iff, Node.isWritten_group_iff,
        Slots.isWritten_hollow item slots]

theorem Fields.isWritten_hollow (fields : List (String × Node)) :
    IsWritten (Fields.markup (Fields.hollow fields)) ↔ IsWritten (Fields.markup fields) := by
  match fields with
  | [] => rfl
  | (name, node) :: fields =>
      rw [Fields.hollow, Fields.markup, Fields.markup, isWritten_followedBy_iff,
        isWritten_followedBy_iff, Node.isWritten_hollow name node, Fields.isWritten_hollow fields]

theorem Slots.isWritten_hollow (item : String) (slots : List (List (String × Node))) :
    IsWritten (Slots.markup item (Slots.hollow slots)) ↔ IsWritten (Slots.markup item slots) := by
  match slots with
  | [] => rfl
  | [] :: slots =>
      rw [Slots.hollow, Fields.hollow, Slots.markup, Slots.markup, isWritten_followedBy_iff,
        isWritten_followedBy_iff, Slots.isWritten_hollow item slots]
  | ((name, node) :: fields) :: slots =>
      have below := Fields.isWritten_hollow ((name, node) :: fields)
      rw [Fields.hollow] at below
      rw [Slots.hollow, Fields.hollow, Slots.markup, Slots.markup, isWritten_followedBy_iff,
        isWritten_followedBy_iff, below, Slots.isWritten_hollow item slots]

end

namespace Document

theorem isWritten_transactions_hollow (transactions : List Fields) :
    IsWritten (transactionsMarkup (transactions.map Fields.hollow)) ↔
      IsWritten (transactionsMarkup transactions) := by
  induction transactions with
  | nil => rfl
  | cons transaction rest ih =>
    have first := Node.isWritten_hollow transactionName (.object transaction)
    rw [Node.hollow] at first
    rw [List.map_cons, transactionsMarkup, transactionsMarkup, isWritten_followedBy_iff,
      isWritten_followedBy_iff, first, ih]

theorem isWritten_hollow (document : Document) :
    IsWritten document.hollow.markup ↔ IsWritten document.markup := by
  obtain ⟨transactions⟩ := document
  cases transactions with
  | nil => rfl
  | cons transaction rest =>
    have below := isWritten_transactions_hollow (transaction :: rest)
    rw [List.map_cons] at below
    simp only [hollow, markup, List.map_cons, isWritten_element_iff, below]

/-- Documents that differ only in the texts of their values stand for trees that differ only
in texts. -/
theorem bare_reference (document : Document) :
    document.reference.bare = document.hollow.reference := by
  rw [reference, bare, bareAll_eq_map, reference, hollow, List.map_map, List.map_map]
  congr 1
  apply List.map_congr_left
  intro transaction _
  exact Node.bare_reference "transaction" (.object transaction)

/-! ### The whole document -/

theorem readOn_transactionsMarkup {transactions : List Fields}
    (ordered : ∀ transaction ∈ transactions, (Node.object transaction).Ordered)
    {text : List Char} (h : transactionsMarkup transactions = .ok text) (current : Open)
    (outer : List Open) (rest : List Char) :
    readOn (current :: outer) (text ++ rest) =
      readOn (current.addChildren (transactions.map fun transaction =>
        (Node.object transaction).reference "transaction") :: outer) rest := by
  induction transactions generalizing text current with
  | nil =>
    obtain rfl := Except.ok.inj h
    simp
  | cons transaction transactions ih =>
    rw [transactionsMarkup] at h
    obtain ⟨front, back, first, second, rfl⟩ := followedBy_eq_ok_iff.mp h
    rw [List.append_assoc,
      Node.readOn_markup transactionName _ (ordered transaction List.mem_cons_self) first,
      ih (fun other mem => ordered other (List.mem_cons_of_mem transaction mem)) second]
    simp [transactionName]

theorem readOn_markup {document : Document} (ordered : document.Ordered) {text : List Char}
    (h : document.markup = .ok text) (current : Open) :
    readOn [current] text = some [current.addChildren [document.reference]] := by
  obtain ⟨transactions⟩ := document
  rw [← List.append_nil text]
  cases transactions with
  | nil =>
    rw [readOn_emptyElement current [] [] h, readOn_nil]
    rfl
  | cons transaction rest =>
    rw [readOn_element current [] [] h fun inner made => readOn_transactionsMarkup ordered made,
      readOn_nil]
    rfl

/-- A document that is written starts with the tag of its root element. -/
theorem startsWith_of_markup {document : Document} {text : List Char}
    (h : document.markup = .ok text) : "<transactions".toList <+: text := by
  obtain ⟨transactions⟩ := document
  cases transactions with
  | nil =>
    obtain ⟨_, rfl⟩ := emptyElement_eq_ok_iff.mp h
    exact ⟨['/', '>'], rfl⟩
  | cons transaction rest =>
    obtain ⟨_, inner, _, rfl⟩ := element_eq_ok_iff.mp h
    exact ⟨['>'] ++ inner ++ endTag rootName, by simp [startTag, rootName]⟩

theorem render_eq_ok_iff {document : Document} {text : String} :
    document.render = .ok text ↔ document.markup = .ok text.toList := by
  unfold render
  cases document.markup with
  | error e => simp
  | ok written =>
    rw [Except.ok.injEq, Except.ok.injEq, ← String.toList_inj, String.toList_ofList]

/-- The text of a document in order is read as the tree the document stands for. -/
theorem read_eq_reference {document : Document} (ordered : document.Ordered) {text : String}
    (h : document.render = .ok text) : Element.read text.toList = some document.reference := by
  rw [Element.read, readOn_markup ordered (render_eq_ok_iff.mp h)]
  rfl

/-- The text of a document begins with its root element, and reads back as the tree the
document stands for. With other texts in its values, whatever characters they have, it is
written too, and reads back as a tree of the same elements. -/
theorem read_render {document : Document} (ordered : document.Ordered) {text : String}
    (h : document.render = .ok text) :
    "<transactions".toList <+: text.toList ∧
    Element.read text.toList = some document.reference ∧
    ∀ other : Document, other.Ordered → other.hollow = document.hollow →
      ∃ written tree, other.render = .ok written ∧ Element.read written.toList = some tree ∧
        tree.bare = document.reference.bare := by
  refine ⟨startsWith_of_markup (render_eq_ok_iff.mp h), read_eq_reference ordered h, ?_⟩
  intro other otherOrdered same
  obtain ⟨written, otherWritten⟩ : IsWritten other.markup := by
    rw [← isWritten_hollow, same, isWritten_hollow]
    exact ⟨text.toList, render_eq_ok_iff.mp h⟩
  have rendered : other.render = .ok (String.ofList written) := by
    rw [render_eq_ok_iff, otherWritten, String.toList_ofList]
  refine ⟨String.ofList written, other.reference, rendered,
    read_eq_reference otherOrdered rendered, ?_⟩
  rw [bare_reference, bare_reference, same]

/-- A value that holds markup, and a group with an empty slot. -/
def markedUp : Document :=
  ⟨[[("a", .value (some "<&")), ("b", .group "c" [[], [("c", .value none)]])]]⟩

theorem ordered_markedUp : markedUp.Ordered := by
  intro transaction mem
  obtain rfl := List.mem_singleton.mp mem
  refine .object (by unfold Fields.Ascending; decide) ?_
  refine List.forall_mem_cons.mpr ⟨.value (some "<&"), List.forall_mem_singleton.mpr ?_⟩
  refine .group ?_ ?_
  · refine List.forall_mem_cons.mpr ⟨List.Pairwise.nil, List.forall_mem_singleton.mpr ?_⟩
    exact List.pairwise_singleton _ _
  · refine List.forall_mem_cons.mpr ⟨by simp, List.forall_mem_singleton.mpr ?_⟩
    exact List.forall_mem_singleton.mpr (.value none)

/-- The text of `markedUp`. -/
def markedUpText : String :=
  "<transactions><transaction><a>&lt;&amp;</a><b><c/><c/></b></transaction></transactions>"

set_option maxRecDepth 4000 in
theorem read_render_markedUp :
    markedUp.Ordered ∧ markedUp.render = .ok markedUpText ∧
      Element.read markedUpText.toList = some markedUp.reference := by
  have rendered : markedUp.render = .ok markedUpText := by rfl
  exact ⟨ordered_markedUp, rendered, (read_render ordered_markedUp rendered).2.1⟩

end Document

end RiskScreen
