import RiskScreen.Payload
import RiskScreen.Proofs.Document.ReadBack

/-!
# Writing without looking at values

A write looks at names and shapes, and never at the text of a value. So it does to a document
without texts what it does to the document itself, and it is refused for the same reason. What
becomes of a list of entries is therefore a matter of their paths.
-/

namespace RiskScreen

namespace Fields

theorem find?_hollow (name : String) (fields : Fields) :
    find? name (hollow fields) = (find? name fields).map Node.hollow := by
  induction fields with
  | nil => rfl
  | cons field fields ih =>
    obtain ⟨key, node⟩ := field
    rw [hollow, find?, find?]
    split
    · rfl
    · exact ih

theorem getD_find?_hollow (name : String) (fields : Fields) (node : Node) :
    (find? name (hollow fields)).getD node.hollow = ((find? name fields).getD node).hollow := by
  rw [find?_hollow]
  cases find? name fields <;> rfl

theorem hollow_put (name : String) (node : Node) (fields : Fields) :
    hollow (put name node fields) = put name node.hollow (hollow fields) := by
  fun_induction put name node fields with
  | case1 => rfl
  | case2 => simp [hollow, put]
  | case3 key old rest other before => simp [hollow, put, other, before]
  | case4 key old rest other later ih => simp [hollow, put, other, later, ih]

end Fields

namespace Slots

theorem hollow_eq_map (slots : List Fields) : hollow slots = slots.map Fields.hollow := by
  induction slots with
  | nil => rfl
  | cons slot slots ih => rw [hollow, ih, List.map_cons]

theorem hollow_grow (count : Nat) (slots : List Fields) :
    hollow (grow count slots) = grow count (hollow slots) := by
  simp [hollow_eq_map, grow, Fields.hollow]

theorem hollow_set (slots : List Fields) (index : Nat) (slot : Fields) :
    hollow (slots.set index slot) = (hollow slots).set index (Fields.hollow slot) := by
  rw [hollow_eq_map, hollow_eq_map, List.map_set]

theorem getD_hollow (slots : List Fields) (index : Nat) :
    (hollow slots)[index]?.getD [] = Fields.hollow (slots[index]?.getD []) := by
  rw [hollow_eq_map, List.getElem?_map]
  cases slots[index]? <;> rfl

end Slots

namespace Fields

/-- What a write left behind, without texts. -/
def hollowWritten (written : Fields × Option PathError) : Fields × Option PathError :=
  (hollow written.1, written.2)

theorem hollowWritten_settle (fields : Fields) (name : String) {wrap bare : Fields → Node}
    (wraps : ∀ slot, (wrap slot).hollow = bare (hollow slot))
    (below : Fields × Option PathError) :
    hollowWritten (settle fields name wrap below) =
      settle (hollow fields) name bare (hollowWritten below) := by
  rw [hollowWritten, settle, hollow_put, wraps]
  rfl

/-- A write into an object does the same to the object without texts. -/
theorem hollowWritten_insertAt (path : String) (value : Option String) (name : String)
    (segments : List Path.Segment) (fields : Fields) :
    hollowWritten (insertAt path value name segments fields) =
      insertAt path none name segments (hollow fields) := by
  -- Along the path: what is found at a name has the same shape without its texts, so both writes
  -- go down into the same object or slot, or are refused with the same words.
  induction segments generalizing name fields with
  | nil => rw [insertAt, insertAt, hollowWritten, hollow_put, Node.hollow]
  | cons segment rest ih =>
    cases segment with
    | indexed child index =>
      have found : (find? name (hollow fields)).getD (.group child []) =
          ((find? name fields).getD (.group child [])).hollow :=
        getD_find?_hollow name fields (.group child [])
      rw [insertAt, insertAt, found]
      cases (find? name fields).getD (.group child []) with
      | value text => rfl
      | object inner => rfl
      | group item slots =>
        simp only [Node.hollow]
        by_cases same : item = child
        · rw [if_pos same, if_pos same, ← Slots.hollow_grow, Slots.getD_hollow, ← ih]
          apply hollowWritten_settle
          intro slot
          rw [Node.hollow, Slots.hollow_set]
        · rw [if_neg same, if_neg same]
          rfl
    | field child =>
      have found : (find? name (hollow fields)).getD (.object []) =
          ((find? name fields).getD (.object [])).hollow :=
        getD_find?_hollow name fields (.object [])
      rw [insertAt, insertAt, found]
      cases (find? name fields).getD (.object []) with
      | value text => rfl
      | group item slots => rfl
      | object inner =>
        simp only [Node.hollow]
        rw [← ih]
        apply hollowWritten_settle
        intro slot
        rw [Node.hollow]

end Fields

/-- The entry without its value. -/
def Entry.hollow (entry : Entry) : Entry :=
  { entry with value := none }

namespace Document

theorem firstTransaction_hollow (document : Document) :
    document.hollow.firstTransaction = Fields.hollow document.firstTransaction := by
  obtain ⟨transactions⟩ := document
  cases transactions <;> rfl

theorem hollow_setFirstTransaction (document : Document) (fields : Fields) :
    (document.setFirstTransaction fields).hollow =
      document.hollow.setFirstTransaction (Fields.hollow fields) := by
  simp [setFirstTransaction, hollow]

/-- A write into a document does the same to the document without texts. -/
theorem insert_hollow (document : Document) (entry : Entry) :
    document.hollow.insert entry.hollow.path entry.hollow.value =
      ((document.insert entry.path entry.value).1.hollow,
        (document.insert entry.path entry.value).2) := by
  unfold insert
  simp only [Entry.hollow]
  cases Path.read entry.path with
  | error e => rfl
  | ok segments =>
    cases segments with
    | nil => rfl
    | cons head rest =>
      simp only [insertSegments]
      rw [firstTransaction_hollow, ← Fields.hollowWritten_insertAt entry.path entry.value,
        hollow_setFirstTransaction]
      rfl

/-- Entries without values make the document without texts, or are refused likewise. -/
theorem insertAll_hollow (document : Document) (entries : List Entry) :
    document.hollow.insertAll (entries.map Entry.hollow) =
      (document.insertAll entries).map Document.hollow := by
  induction entries generalizing document with
  | nil => rfl
  | cons entry entries ih =>
    rw [List.map_cons, insertAll, insertAll, insert_hollow]
    rcases document.insert entry.path entry.value with ⟨next, _ | e⟩
    · exact ih next
    · rfl

/-- Entries at the same paths make documents that differ only in texts, or are refused for the
same reason. -/
theorem map_hollow_insertAll {first second : List Entry}
    (same : first.map Entry.path = second.map Entry.path) (document : Document) :
    (document.insertAll first).map Document.hollow =
      (document.insertAll second).map Document.hollow := by
  have alike : first.map Entry.hollow = second.map Entry.hollow := by
    have blank (entries : List Entry) : entries.map Entry.hollow =
        (entries.map Entry.path).map fun path => ⟨path, none⟩ := by
      rw [List.map_map]
      rfl
    rw [blank, blank, same]
  rw [← insertAll_hollow, ← insertAll_hollow, alike]

end Document

end RiskScreen
