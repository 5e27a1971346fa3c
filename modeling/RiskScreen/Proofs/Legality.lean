import RiskScreen.Proofs.Document.Named
import RiskScreen.Proofs.Markup.Character
import RiskScreen.Proofs.Payload

/-!
# Which characters a payload holds

Names and tags hold allowed characters only, and escaping lets every other character through.
So a payload holds a character that XML does not allow exactly where a value that survives holds
it, and is legal text exactly if those values are.
-/

namespace RiskScreen

open RiskScreen.Path (Segment)
open Node (leaf?)
open Markup

/-! ### Characters of fields and slots -/

theorem Fields.mem_markup_iff {fields : Fields} {text : List Char}
    (h : Fields.markup fields = .ok text) (c : Char) :
    c ∈ text ↔ ∃ field ∈ fields, ∃ inner, field.2.markup field.1 = .ok inner ∧ c ∈ inner := by
  induction fields generalizing text with
  | nil =>
    obtain rfl := Except.ok.inj h
    simp
  | cons field fields ih =>
    rw [Fields.markup] at h
    obtain ⟨front, back, first, second, rfl⟩ := followedBy_eq_ok_iff.mp h
    rw [List.mem_append, ih second]
    simp [first]

/-- The placeholder of an empty slot holds allowed characters only. -/
theorem Slots.mem_markup_iff {c : Char} (forbidden : isXmlChar c = false) {item : String}
    {slots : List Fields} {text : List Char} (h : Slots.markup item slots = .ok text) :
    c ∈ text ↔ ∃ slot ∈ slots, ∃ field ∈ slot, ∃ inner,
      field.2.markup field.1 = .ok inner ∧ c ∈ inner := by
  induction slots generalizing text with
  | nil =>
    obtain rfl := Except.ok.inj h
    simp
  | cons slot slots ih =>
    cases slot with
    | nil =>
      rw [Slots.markup] at h
      obtain ⟨front, back, first, second, rfl⟩ := followedBy_eq_ok_iff.mp h
      rw [List.mem_append, ih second]
      simp [not_mem_emptyElement forbidden first]
    | cons field fields =>
      rw [Slots.markup] at h
      obtain ⟨front, back, first, second, rfl⟩ := followedBy_eq_ok_iff.mp h
      rw [List.mem_append, ih second, Fields.mem_markup_iff first]
      simp only [List.exists_mem_cons_iff]

namespace Node

variable {node : Node} {c : Char}

/-- The character is in a value below the node. -/
def Carries (node : Node) (c : Char) : Prop :=
  ∃ segments text, leaf? (some node) segments = some (some text) ∧ c ∈ text.toList

theorem carries_value_iff {held : Option String} :
    (Node.value held).Carries c ↔ ∃ text, held = some text ∧ c ∈ text.toList := by
  constructor
  · rintro ⟨segments, text, leaf, mem⟩
    cases segments with
    | nil => exact ⟨text, Option.some.inj leaf, mem⟩
    | cons segment rest => simp [leaf?_some_cons, child?_value] at leaf
  · rintro ⟨text, rfl, mem⟩
    exact ⟨[], text, rfl, mem⟩

theorem carries_iff (h : node.text? = none) :
    node.Carries c ↔ ∃ segment child, node.child? segment = some child ∧ child.Carries c := by
  constructor
  · rintro ⟨segments, text, leaf, mem⟩
    cases segments with
    | nil =>
      rw [leaf?, descend?, Option.bind_some, h] at leaf
      simp at leaf
    | cons segment rest =>
      rw [leaf?_some_cons] at leaf
      cases found : node.child? segment with
      | none => simp [found] at leaf
      | some child => exact ⟨segment, child, found, rest, text, found ▸ leaf, mem⟩
  · rintro ⟨segment, child, found, rest, text, leaf, mem⟩
    refine ⟨segment :: rest, text, ?_, mem⟩
    rwa [leaf?_some_cons, found]

/-- A character that is not allowed is in the text of a node where it is in a value below. -/
theorem Built.mem_markup_iff (forbidden : isXmlChar c = false) (built : node.Built)
    {name : String} {text : List Char} (h : node.markup name = .ok text) :
    c ∈ text ↔ node.Carries c := by
  induction built using Built.induction generalizing name text with | step node built ih =>
  cases built with
  | value held =>
    rw [carries_value_iff]
    cases held with
    | none => simpa using not_mem_emptyElement forbidden h
    | some value =>
      rw [Node.markup] at h
      obtain ⟨inner, made, same⟩ := exists_mem_element_iff forbidden h
      obtain rfl := Except.ok.inj made
      rw [same, mem_escape_iff forbidden]
      simp
  | @object fields nonempty ascending below =>
    obtain ⟨_, written⟩ := isWritten_object_iff.mp ⟨text, h⟩
    obtain ⟨field, others, rfl⟩ := List.exists_cons_of_ne_nil nonempty
    obtain ⟨inner, made, same⟩ := exists_mem_element_iff forbidden h
    rw [same, Fields.mem_markup_iff made, carries_iff rfl]
    constructor
    · rintro ⟨⟨key, child⟩, mem, part, childMade, inside⟩
      have found := ascending.find?_of_mem mem
      exact ⟨.field key, child, found, (ih (.field key) child found childMade).mp inside⟩
    · rintro ⟨segment, child, found, carries⟩
      obtain ⟨key, _, mem⟩ := child?_object_eq_some found
      obtain ⟨part, childMade⟩ := Fields.isWritten_iff.mp written _ mem
      exact ⟨_, mem, part, childMade, (ih segment child found childMade).mpr carries⟩
  | @group item slots last single below =>
    obtain ⟨_, written⟩ := isWritten_group_iff.mp ⟨text, h⟩
    obtain ⟨slot, others, rfl⟩ : ∃ slot others, slots = slot :: others := by
      apply List.exists_cons_of_ne_nil
      rintro rfl
      exact last rfl
    obtain ⟨inner, made, same⟩ := exists_mem_element_iff forbidden h
    rw [same, Slots.mem_markup_iff forbidden made, carries_iff rfl]
    constructor
    · rintro ⟨slot, slotMem, ⟨key, child⟩, mem, part, childMade, inside⟩
      obtain ⟨rfl, index, found⟩ := exists_child?_of_mem single slotMem mem
      exact ⟨_, child, found, (ih _ child found childMade).mp inside⟩
    · rintro ⟨segment, child, found, carries⟩
      obtain ⟨index, _, slot, slotMem, mem⟩ := child?_group_eq_some found
      obtain ⟨part, childMade⟩ := (Slots.isWritten_iff.mp written slot slotMem).2 _ mem
      exact ⟨slot, slotMem, _, mem, part, childMade, (ih segment child found childMade).mpr carries⟩

end Node

/-! ### Characters of a payload -/

section Payload

variable {document : Document} {c : Char}

/-- A document holds a character that is not allowed where its first transaction does, if it
has no other one. -/
theorem Document.mem_markup_iff (forbidden : isXmlChar c = false)
    (single : document.transactions.tail = [])
    (built : ∀ node, document.root? = some node → node.Built) {text : List Char}
    (h : document.markup = .ok text) :
    c ∈ text ↔ ∃ node, document.root? = some node ∧ node.Carries c := by
  obtain ⟨transactions⟩ := document
  cases transactions with
  | nil => simpa [root?] using not_mem_emptyElement forbidden h
  | cons fields rest =>
    obtain rfl : rest = [] := single
    obtain ⟨inner, made, same⟩ := exists_mem_element_iff forbidden h
    obtain ⟨front, back, first, last, rfl⟩ := followedBy_eq_ok_iff.mp made
    obtain rfl := Except.ok.inj last
    rw [same, List.append_nil, (built _ rfl).mem_markup_iff forbidden first]
    simp [root?]

/-- What a document holds of a character that is not allowed comes from the survivors. -/
theorem Document.Holds.mem_render_iff {earlier : List Placement} (holds : document.Holds earlier)
    (forbidden : isXmlChar c = false) {text : String} (h : document.render = .ok text) :
    c ∈ text.toList ↔ ∃ placement ∈ survivors earlier,
      ∃ value, placement.value = some value ∧ c ∈ value.toList := by
  rw [Document.mem_markup_iff forbidden holds.atMostOne holds.built (render_eq_ok_iff.mp h)]
  constructor
  · rintro ⟨node, root, segments, value, leaf, mem⟩
    rw [← root] at leaf
    exact ⟨⟨segments, some value⟩, (holds.leaf segments _).mp leaf, value, rfl, mem⟩
  · rintro ⟨⟨segments, _⟩, survives, value, rfl, mem⟩
    have leaf := (holds.leaf segments _).mpr survives
    cases root : document.root? with
    | none => simp [root] at leaf
    | some node => exact ⟨node, rfl, segments, value, root ▸ leaf, mem⟩

end Payload

variable {properties : List Property} {marker text : String}

theorem exists_holds_of_buildPayload (h : buildPayload properties marker = .ok text) :
    ∃ document : Document, document.Holds (Property.placements marker properties) ∧
      document.render = .ok text := by
  obtain ⟨document, written, rendered⟩ := buildPayload_eq_ok_iff.mp h
  have holds := (Document.holds_blank.insertAll written).2
  rw [List.nil_append, Property.placements_entries] at holds
  exact ⟨document, holds, rendered⟩

/-- A character that XML does not allow is in a payload exactly if it is in a value that
survives. So the payload is legal text exactly if the values are that survive. -/
theorem buildPayload_legal_iff (h : buildPayload properties marker = .ok text) :
    (∀ c, isXmlChar c = false →
      (c ∈ text.toList ↔ ∃ placement ∈ survivors (Property.placements marker properties),
        ∃ value, placement.value = some value ∧ c ∈ value.toList)) ∧
    ((∀ c ∈ text.toList, isXmlChar c = true) ↔
      ∀ placement ∈ survivors (Property.placements marker properties),
        ∀ value, placement.value = some value → ∀ c ∈ value.toList, isXmlChar c = true) := by
  obtain ⟨document, holds, rendered⟩ := exists_holds_of_buildPayload h
  have strays (c : Char) (forbidden : isXmlChar c = false) :
      c ∈ text.toList ↔ ∃ placement ∈ survivors (Property.placements marker properties),
        ∃ value, placement.value = some value ∧ c ∈ value.toList :=
    holds.mem_render_iff forbidden rendered
  refine ⟨strays, ?_, ?_⟩
  · intro legal placement survives value same c mem
    cases allowed : isXmlChar c with
    | true => rfl
    | false =>
      have inside := (strays c allowed).mpr ⟨placement, survives, value, same, mem⟩
      exact allowed.symm.trans (legal c inside)
  · intro legal c mem
    cases allowed : isXmlChar c with
    | true => rfl
    | false =>
      obtain ⟨placement, survives, value, same, inside⟩ := (strays c allowed).mp mem
      exact allowed.symm.trans (legal placement survives value same c inside)

/-- A control character that is taken back, and a value with markup in it. -/
def retractedControl : List Property :=
  [⟨some "x_a", some "\x01"⟩, ⟨some "x_b->c[0]", some "<&"⟩, ⟨some "x_a", some "1"⟩]

/-- The document that `retractedControl` makes. -/
def retractedDocument : Document :=
  ⟨[[("a", .value (some "1")), ("b", .group "c" [[("c", .value (some "<&"))]])]]⟩

/-- The payload of `retractedControl`. -/
def retractedPayload : String :=
  "<transactions><transaction><a>1</a><b><c>&lt;&amp;</c></b></transaction></transactions>"

set_option maxRecDepth 4000 in
theorem buildPayload_legal_iff_retractedControl :
    buildPayload retractedControl "x_" = .ok retractedPayload ∧
      ∀ c ∈ retractedPayload.toList, isXmlChar c = true := by
  have entries : Property.entries "x_" retractedControl =
      [⟨"a", some "\x01"⟩, ⟨"b->c[0]", some "<&"⟩, ⟨"a", some "1"⟩] := by rfl
  have written : Document.blank.insertAll (Property.entries "x_" retractedControl) =
      .ok retractedDocument := by
    rw [entries]
    rfl
  have rendered : retractedDocument.render = .ok retractedPayload := by rfl
  have made := buildPayload_eq_ok_iff.mpr ⟨retractedDocument, written, rendered⟩
  have kept : survivors (Property.placements "x_" retractedControl) =
      [⟨[.field "b", .indexed "c" 0], some "<&"⟩, ⟨[.field "a"], some "1"⟩] := by decide +kernel
  refine ⟨made, (buildPayload_legal_iff made).2.mpr ?_⟩
  simp only [kept, List.forall_mem_cons, Option.some.injEq, forall_eq']
  have markup : "<&".toList.all isXmlChar = true := by decide
  have digit : "1".toList.all isXmlChar = true := by decide
  exact ⟨List.all_eq_true.mp markup, List.all_eq_true.mp digit, List.forall_mem_nil _⟩

/-- A payload is not always legal text: a control character in a value goes through. -/
theorem buildPayload_passes_control :
    ¬ ∀ properties marker text, buildPayload properties marker = .ok text →
      ∀ c ∈ text.toList, isXmlChar c = true := by
  intro legal
  have entries : Property.entries "x_" [⟨some "x_a", some "\x01"⟩] = [⟨"a", some "\x01"⟩] := by rfl
  have written : Document.blank.insertAll (Property.entries "x_" [⟨some "x_a", some "\x01"⟩]) =
      .ok ⟨[[("a", .value (some "\x01"))]]⟩ := by
    rw [entries]
    rfl
  have made := buildPayload_eq_ok_iff.mpr
    ⟨_, written, (by rfl : Document.render _ = .ok
      "<transactions><transaction><a>\x01</a></transaction></transactions>")⟩
  have control := legal _ _ _ made '\x01' (by decide +kernel)
  exact absurd control (by decide)

end RiskScreen
