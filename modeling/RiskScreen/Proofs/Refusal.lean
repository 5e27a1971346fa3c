import RiskScreen.Proofs.Document.Clash
import RiskScreen.Proofs.Document.Named
import RiskScreen.Proofs.Payload

/-!
# When a payload is made

A payload is made if the path of every marked property can be read and any two of the paths go
together. Otherwise the first marked property whose path cannot be read, or does not go together
with one before it, gives the error. That nothing else can go wrong is a matter of names: what was
written along paths can be rendered.

## Implementation notes

`Writable` speaks of all entries, also of those that are overwritten. The error is that of the
clash with an entry that survives, since only that one is still in the document. Both are shown
for entries first, since writing goes through entries, and then said of properties.
-/

namespace RiskScreen

open RiskScreen.Path (Segment Clash Incompatible clash?)
open Node (leaf? refusal?)

/-- The paths of the entries can be read, and each goes together with all that come later. -/
structure Writable (entries : List Entry) : Prop where
  readable : ∀ entry ∈ entries, ∃ placement, entry.placement? = some placement
  compatible : (placements entries).Pairwise fun first second =>
    ¬ Incompatible first.segments second.segments

/-- The path of the entry cannot be read, for this reason, or does not go together with that of
a placement before it, and the reason is its clash with one that is still there. -/
def Entry.Refused (earlier : List Placement) (entry : Entry) (e : PathError) : Prop :=
  Path.read entry.path = .error e ∨
    ∃ segments, Path.read entry.path = .ok segments ∧
      (∃ placement ∈ earlier, Incompatible placement.segments segments) ∧
      ∃ survivor ∈ survivors earlier, Clash entry.path survivor.segments segments e

/-- The first entry that is refused is refused for this reason. -/
def FirstRefused (entries : List Entry) (e : PathError) : Prop :=
  ∃ front entry back, entries = front ++ entry :: back ∧ Writable front ∧
    entry.Refused (placements front) e

theorem mem_of_mem_survivors {made : List Placement} {placement : Placement}
    (h : placement ∈ survivors made) : placement ∈ made := by
  obtain ⟨front, back, rfl, _⟩ := mem_survivors_iff.mp h
  simp

theorem exists_field_of_mem_placements {entries : List Entry} {placement : Placement}
    (h : placement ∈ placements entries) :
    ∃ name rest, placement.segments = .field name :: rest := by
  obtain ⟨entry, _, found⟩ := List.mem_filterMap.mp h
  exact Path.exists_field_of_read (Entry.placement?_eq_some_iff.mp found).1

/-- Entries can be written one after another if each path fits to those before it. -/
theorem writable_iff {entries : List Entry} :
    Writable entries ↔
      (∀ entry ∈ entries, ∃ placement, entry.placement? = some placement) ∧
      (placements entries).Pairwise fun first second =>
        Path.Fits first.segments second.segments := by
  have same : (placements entries).Pairwise (fun first second =>
        ¬ Incompatible first.segments second.segments) ↔
      (placements entries).Pairwise fun first second =>
        Path.Fits first.segments second.segments := by
    apply List.Pairwise.iff_of_mem
    intro first second mem secondMem
    obtain ⟨name, rest, split⟩ := exists_field_of_mem_placements mem
    obtain ⟨other, tail, otherSplit⟩ := exists_field_of_mem_placements secondMem
    rw [split, otherSplit, Path.fits_field_iff]
  exact ⟨fun ⟨readable, compatible⟩ => ⟨readable, same.mp compatible⟩,
    fun ⟨readable, fits⟩ => ⟨readable, same.mpr fits⟩⟩

namespace Document

variable {document : Document} {earlier : List Placement} {entry : Entry}
  {entries : List Entry} {e : PathError}

/-! ### The entry that is refused -/

theorem refusal?_root? (path name : String) (rest : List Segment) (document : Document) :
    refusal? path "" document.root? (.field name :: rest) =
      refusal? path name (Fields.find? name document.firstTransaction) rest := by
  rw [root?, firstTransaction]
  cases document.transactions.head? <;> rfl

/-- A value in a document is at a path that starts with a field. -/
theorem exists_field_of_leaf? {segments : List Segment} {value : Option String}
    (h : leaf? document.root? segments = some value) :
    ∃ name rest, segments = .field name :: rest := by
  rw [root?] at h
  cases first : document.transactions.head? with
  | none => simp [first] at h
  | some fields =>
    rw [first, Option.map_some] at h
    cases segments with
    | nil => simp [leaf?, Node.descend?, Node.text?] at h
    | cons segment rest =>
      cases segment with
      | field name => exact ⟨name, rest, rfl⟩
      | indexed name index => simp [Node.leaf?_some_cons, Node.child?] at h

/-- What refuses a path is a clash with the path of a value in the document. -/
theorem Holds.refusal?_iff (holds : document.Holds earlier) (path name : String)
    (rest : List Segment) :
    refusal? path "" document.root? (.field name :: rest) = some e ↔
      ∃ survivor ∈ survivors earlier, Clash path survivor.segments (.field name :: rest) e := by
  rw [Node.refusal?_eq_some_iff holds.built]
  constructor
  · rintro ⟨segments, value, leaf, clash⟩
    obtain ⟨first, tail, rfl⟩ := exists_field_of_leaf? leaf
    exact ⟨⟨_, value⟩, (holds.leaf _ value).mp leaf, Path.clash?_field_eq_some_iff.mp clash⟩
  · rintro ⟨survivor, mem, clash⟩
    have leaf := (holds.leaf survivor.segments survivor.value).mpr mem
    obtain ⟨first, tail, split⟩ := exists_field_of_leaf? leaf
    refine ⟨survivor.segments, survivor.value, leaf, ?_⟩
    rw [split] at clash ⊢
    exact Path.clash?_field_eq_some_iff.mpr clash

theorem insert_of_unread (h : Path.read entry.path = .error e) :
    document.insert entry.path entry.value = (document, some e) := by
  rw [insert, h]

theorem insert_of_read {name : String} {rest : List Segment}
    (h : Path.read entry.path = .ok (.field name :: rest)) :
    (document.insert entry.path entry.value).2 =
      refusal? entry.path "" document.root? (.field name :: rest) := by
  rw [insert, h, refusal?_root?]
  exact Fields.insertAt_refusal entry.path entry.value name rest document.firstTransaction

/-- An entry is refused for its path, or for a clash with one that the document holds. -/
theorem Holds.insert_refused_iff (holds : document.Holds earlier) :
    (document.insert entry.path entry.value).2 = some e ↔ entry.Refused earlier e := by
  cases read : Path.read entry.path with
  | error cause =>
    rw [insert_of_unread read, Entry.Refused, read]
    simp
  | ok segments =>
    obtain ⟨name, rest, rfl⟩ := Path.exists_field_of_read read
    rw [insert_of_read read, holds.refusal?_iff, Entry.Refused, read]
    constructor
    · rintro ⟨survivor, mem, clash⟩
      refine Or.inr ⟨_, rfl, ⟨survivor, mem_of_mem_survivors mem, ?_⟩, survivor, mem, clash⟩
      exact (Path.incompatible_iff entry.path).mpr ⟨e, clash⟩
    · rintro (unread | ⟨segments, same, _, found⟩)
      · simp at unread
      · obtain rfl := Except.ok.inj same
        exact found

/-- Entries are not all written where one is refused after those before it were written. -/
theorem insertAll_eq_error_iff :
    document.insertAll entries = .error e ↔
      ∃ front entry back next, entries = front ++ entry :: back ∧
        document.insertAll front = .ok next ∧ (next.insert entry.path entry.value).2 = some e := by
  induction entries generalizing document with
  | nil => simp [insertAll]
  | cons first entries ih =>
    rw [insertAll]
    rcases written : document.insert first.path first.value with ⟨next, _ | stopped⟩
    · simp only
      rw [ih]
      constructor
      · rintro ⟨front, entry, back, last, rfl, before, refused⟩
        refine ⟨first :: front, entry, back, last, rfl, ?_, refused⟩
        exact insertAll_cons_eq_ok_iff.mpr ⟨next, written, before⟩
      · rintro ⟨_ | ⟨head, front⟩, entry, back, last, split, before, refused⟩
        · obtain ⟨rfl, rfl⟩ := List.cons.inj split
          obtain rfl := Except.ok.inj before
          simp [written] at refused
        · obtain ⟨rfl, rfl⟩ := List.cons.inj split
          obtain ⟨other, otherWritten, before⟩ := insertAll_cons_eq_ok_iff.mp before
          obtain rfl := (Prod.mk.inj (written.symm.trans otherWritten)).1
          exact ⟨front, entry, back, last, rfl, before, refused⟩
    · constructor
      · intro same
        obtain rfl := Except.error.inj same
        exact ⟨[], first, entries, document, rfl, rfl, by rw [written]⟩
      · rintro ⟨_ | ⟨head, front⟩, entry, back, last, split, before, refused⟩
        · obtain ⟨rfl, rfl⟩ := List.cons.inj split
          obtain rfl := Except.ok.inj before
          rw [written] at refused
          exact congrArg Except.error (Option.some.inj refused)
        · obtain ⟨rfl, rfl⟩ := List.cons.inj split
          obtain ⟨other, otherWritten, _⟩ := insertAll_cons_eq_ok_iff.mp before
          simp [written] at otherWritten

theorem exists_insertAll_iff :
    (∃ final, blank.insertAll entries = .ok final) ↔ Writable entries := by
  rw [holds_blank.insertAll_iff, writable_iff]
  simp

theorem insertAll_blank_eq_error_iff :
    blank.insertAll entries = .error e ↔ FirstRefused entries e := by
  rw [insertAll_eq_error_iff]
  constructor
  · rintro ⟨front, entry, back, next, split, written, refused⟩
    have holds := (holds_blank.insertAll written).2
    exact ⟨front, entry, back, split, exists_insertAll_iff.mp ⟨next, written⟩,
      holds.insert_refused_iff.mp refused⟩
  · rintro ⟨front, entry, back, split, writable, refused⟩
    obtain ⟨next, written⟩ := exists_insertAll_iff.mpr writable
    have holds := (holds_blank.insertAll written).2
    exact ⟨front, entry, back, next, split, written, holds.insert_refused_iff.mpr refused⟩

/-! ### Nothing else goes wrong -/

theorem isElementName_of_mem_placements {placement : Placement}
    (h : placement ∈ placements entries) :
    ∀ segment ∈ placement.segments, Path.isElementName segment.name = true := by
  obtain ⟨entry, _, found⟩ := List.mem_filterMap.mp h
  exact Path.isElementName_of_read (Entry.placement?_eq_some_iff.mp found).1

/-- What entries were written into has element names only. -/
theorem Holds.named (holds : document.Holds (placements entries)) {node : Node}
    (root : document.root? = some node) : node.Named := by
  intro segments value leaf
  rw [← root] at leaf
  exact isElementName_of_mem_placements (mem_of_mem_survivors ((holds.leaf segments value).mp leaf))

/-- A document that entries were written into can be rendered. -/
theorem Holds.exists_render (holds : document.Holds (placements entries)) :
    ∃ text, document.render = .ok text := by
  suffices written : Markup.IsWritten document.markup by
    obtain ⟨text, made⟩ := written
    refine ⟨String.ofList text, render_eq_ok_iff.mpr ?_⟩
    rw [made, String.toList_ofList]
  obtain ⟨transactions⟩ := document
  have rootValid : Path.isElementName rootName = true := by decide +kernel
  cases transactions with
  | nil => exact Markup.isWritten_emptyElement_iff.mpr rootValid
  | cons fields rest =>
    obtain rfl : rest = [] := holds.atMostOne
    have transaction := (holds.built _ rfl).isWritten (holds.named rfl)
      (by decide +kernel : Path.isElementName transactionName = true)
    rw [markup, Markup.isWritten_element_iff, transactionsMarkup, transactionsMarkup,
      Markup.isWritten_followedBy_iff]
    exact ⟨rootValid, transaction, Markup.isWritten_ok []⟩

end Document

/-! ### Properties -/

namespace Property

variable {marker : String} {properties : List Property} {e : PathError}

/-- The paths of the marked properties can be read, and each goes together with all that come
later. -/
structure Writable (marker : String) (properties : List Property) : Prop where
  readable : ∀ property ∈ properties, property.IsMarked marker →
    ∃ placement, property.placement? marker = some placement
  compatible : (placements marker properties).Pairwise fun first second =>
    ¬ Incompatible first.segments second.segments

/-- The property is marked, and the path after the marker is refused. -/
def Refused (marker : String) (earlier : List Placement) (property : Property) (e : PathError) :
    Prop :=
  ∃ path, property.key = some (marker ++ path) ∧ Entry.Refused earlier ⟨path, property.value⟩ e

/-- The first marked property that is refused is refused for this reason. -/
def FirstRefused (marker : String) (properties : List Property) (e : PathError) : Prop :=
  ∃ front property back, properties = front ++ property :: back ∧ Writable marker front ∧
    property.Refused marker (placements marker front) e

theorem toEntry_eq_some_iff {property : Property} {entry : Entry} :
    property.toEntry marker = some entry ↔
      property.key = some (marker ++ entry.path) ∧ property.value = entry.value := by
  obtain ⟨path, asked⟩ := entry
  obtain ⟨_ | key, value⟩ := property
  · simp [toEntry]
  · have split : key = marker ++ path ↔
        afterMarker marker.toList key.toList = some path.toList := by
      rw [afterMarker_eq_some_iff, ← String.toList_append, String.toList_inj]
    dsimp only
    rw [Option.some_inj, split, toEntry]
    dsimp only
    cases afterMarker marker.toList key.toList with
    | none => simp
    | some rest =>
      have same : String.ofList rest = path ↔ rest = path.toList := by
        rw [← String.toList_inj, String.toList_ofList]
      simp [same]

theorem writable_entries_iff :
    RiskScreen.Writable (entries marker properties) ↔ Writable marker properties := by
  constructor
  · rintro ⟨readable, compatible⟩
    rw [placements_entries] at compatible
    exact ⟨readable_entries_iff.mp readable, compatible⟩
  · rintro ⟨readable, compatible⟩
    rw [← placements_entries] at compatible
    exact ⟨readable_entries_iff.mpr readable, compatible⟩

/-- The first entry that is refused is that of the first property that is. -/
theorem firstRefused_entries_iff :
    RiskScreen.FirstRefused (entries marker properties) e ↔ FirstRefused marker properties e := by
  constructor
  · rintro ⟨before, entry, after, split, writable, refused⟩
    obtain ⟨front, rest, rfl, rfl, tail⟩ := List.filterMap_eq_append_iff.mp split
    obtain ⟨skipped, property, back, rfl, unmarked, found, rfl⟩ :=
      List.filterMap_eq_cons_iff.mp tail
    have same : entries marker (front ++ skipped) = List.filterMap (toEntry marker) front := by
      rw [entries_append, entries, entries, List.filterMap_eq_nil_iff.mpr unmarked, List.append_nil]
    rw [← same] at writable refused
    rw [placements_entries] at refused
    obtain ⟨key, value⟩ := toEntry_eq_some_iff.mp found
    refine ⟨front ++ skipped, property, back, by rw [List.append_assoc],
      writable_entries_iff.mp writable, entry.path, key, ?_⟩
    rw [value]
    exact refused
  · rintro ⟨front, property, back, rfl, writable, path, key, refused⟩
    have found : property.toEntry marker = some ⟨path, property.value⟩ :=
      toEntry_eq_some_iff.mpr ⟨key, rfl⟩
    rw [← placements_entries] at refused
    refine ⟨entries marker front, ⟨path, property.value⟩, entries marker back, ?_,
      writable_entries_iff.mpr writable, refused⟩
    rw [entries_append, entries, entries, entries, List.filterMap_cons_some found]

end Property

/-- A payload is made exactly when the paths of all marked properties can be read and go together.
Where none is made, the reason is always a path, that of the first marked property whose path
cannot be read or does not go together with one before it. -/
theorem buildPayload_made_iff (properties : List Property) (marker : String) :
    ((∃ text, buildPayload properties marker = .ok text) ↔ Property.Writable marker properties) ∧
    (∀ cause, buildPayload properties marker = .error cause ↔
      ∃ e, cause = .path e ∧ Property.FirstRefused marker properties e) ∧
    ∀ cause, buildPayload properties marker ≠ .error (.serialization cause) := by
  rw [← Property.writable_entries_iff, ← Document.exists_insertAll_iff]
  simp only [← Property.firstRefused_entries_iff, ← Document.insertAll_blank_eq_error_iff]
  unfold buildPayload
  cases written : Document.blank.insertAll (Property.entries marker properties) with
  | error e => simp [eq_comm]
  | ok document =>
    obtain ⟨text, rendered⟩ := (Document.holds_blank.insertAll written).2.exists_render
    simp [rendered]

/-- A value that overwrites an item, a field below it, and a path of which nothing can be read. -/
def clashingProperties : List Property :=
  [⟨some "x_a->b[0]", none⟩, ⟨some "a", none⟩, ⟨some "x_a", none⟩, ⟨some "x_a->c", none⟩,
    ⟨some "x_", none⟩]

/-- What is overwritten still stands in the way, with the error of what has overwritten it. -/
theorem buildPayload_made_iff_clashing :
    Property.Writable "x_" (clashingProperties.take 3) ∧
    ¬ Property.Writable "x_" clashingProperties ∧
    Property.FirstRefused "x_" clashingProperties (.shapeConflict "a->c" "a" .value .object) ∧
    Property.FirstRefused "x_" clashingProperties.reverse .empty := by
  have entries : Property.entries "x_" (clashingProperties.take 3) =
      [⟨"a->b[0]", none⟩, ⟨"a", none⟩] := by rfl
  have written : Document.blank.insertAll (Property.entries "x_" (clashingProperties.take 3)) =
      .ok ⟨[[("a", .value none)]]⟩ := by
    rw [entries]
    rfl
  have built : ∃ text, buildPayload (clashingProperties.take 3) "x_" = .ok text :=
    ⟨"<transactions><transaction><a/></transaction></transactions>",
      buildPayload_eq_ok_iff.mpr ⟨_, written, by rfl⟩⟩
  have clash : buildPayload clashingProperties "x_" =
      .error (.path (.shapeConflict "a->c" "a" .value .object)) := by rfl
  have unread : buildPayload clashingProperties.reverse "x_" = .error (.path .empty) := by rfl
  obtain ⟨made, refused, -⟩ := buildPayload_made_iff clashingProperties "x_"
  obtain ⟨-, refusedAtOnce, -⟩ := buildPayload_made_iff clashingProperties.reverse "x_"
  refine ⟨(buildPayload_made_iff _ "x_").1.mp built, ?_, ?_, ?_⟩
  · rw [← made, clash]
    rintro ⟨_, ⟨⟩⟩
  · obtain ⟨e, same, first⟩ := (refused _).mp clash
    obtain rfl := BuildError.path.inj same
    exact first
  · obtain ⟨e, same, first⟩ := (refusedAtOnce _).mp unread
    obtain rfl := BuildError.path.inj same
    exact first

end RiskScreen
