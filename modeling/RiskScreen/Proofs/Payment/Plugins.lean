import Mathlib.Data.Finset.Dedup
import Mathlib.Data.Finset.Insert
import Mathlib.Data.Finset.Lattice.Basic
import Mathlib.Data.List.Sort
import RiskScreen.Payment.Plugins
import RiskScreen.Proofs.Text.Split
import RiskScreen.Proofs.Text.Trim

/-!
# Lists of subject plugins

A list of names means the set of its items: the pieces between its commas without the white space
around them, as far as something is left of them. The set of two lists put together is the union
of their sets, and names that can be items at all are read back from any list of them.

Names are kept in ascending order, so that lists which mean the same set are read as the same
value.
-/

namespace RiskScreen.SubjectPlugins

open Text (IsPiece IsTight IsCore isBlank splitOn)

variable {plugins : SubjectPlugins} {name other text : String} {names others : List String}

/-- The set of the names. -/
def set (plugins : SubjectPlugins) : Finset String :=
  plugins.names.toFinset

/-- The name is what a piece between the commas of a list has inside the white space around it,
and is not empty. -/
def IsItem (text name : String) : Prop :=
  name ≠ "" ∧ ∃ piece, IsPiece ',' piece text.toList ∧ IsCore isBlank name.toList piece

/-- The name can be an item of a list. -/
structure IsPlain (name : String) : Prop where
  nonempty : name ≠ ""
  noComma : ',' ∉ name.toList
  tight : IsTight isBlank name.toList

theorem isPlain_iff : IsPlain name ↔
    name ≠ "" ∧ ',' ∉ name.toList ∧ IsTight isBlank name.toList :=
  ⟨fun plain => ⟨plain.nonempty, plain.noComma, plain.tight⟩,
    fun ⟨nonempty, noComma, tight⟩ => ⟨nonempty, noComma, tight⟩⟩

instance : Decidable (IsPlain name) :=
  decidable_of_iff' _ isPlain_iff

theorem mem_set_iff : name ∈ plugins.set ↔ plugins.honors name = true := by
  rw [set, List.mem_toFinset, honors, List.contains_iff_mem]

/-! ### Names in order -/

theorem pairwise_insertName (ascending : names.Pairwise (· < ·)) (name : String) :
    (insertName name names).Pairwise (· < ·) := by
  fun_induction insertName name names with
  | case1 => exact List.pairwise_singleton _ _
  | case2 rest => exact ascending
  | case3 key rest _ less =>
    refine List.pairwise_cons.mpr ⟨?_, ascending⟩
    intro later mem
    rcases List.mem_cons.mp mem with rfl | mem
    · exact less
    · exact Std.lt_trans less ((List.pairwise_cons.mp ascending).1 later mem)
  | case4 key rest ne notLess ih =>
    obtain ⟨first, below⟩ := List.pairwise_cons.mp ascending
    refine List.pairwise_cons.mpr ⟨?_, ih below⟩
    intro later mem
    rcases mem_insertName.mp mem with rfl | mem
    · rcases Std.lt_trichotomy key later with less | same | more
      · exact less
      · exact absurd same.symm ne
      · exact absurd more notLess
    · exact first later mem

theorem pairwise_ofList (names : List String) : (ofList names).names.Pairwise (· < ·) := by
  induction names with
  | nil => exact List.Pairwise.nil
  | cons name names ih => exact pairwise_insertName ih name

/-- What is made of listed names depends on the set of the names alone. -/
theorem ofList_eq_iff : ofList names = ofList others ↔ ∀ name, name ∈ names ↔ name ∈ others := by
  constructor
  · intro same name
    rw [← mem_names_ofList, same, mem_names_ofList]
  · intro same
    have irrefl : Std.Irrefl fun first second : String => first < second :=
      ⟨fun _ => Std.lt_irrefl⟩
    have antisymm : Std.Antisymm fun first second : String => first < second :=
      ⟨fun _ _ less more => absurd (Std.lt_trans less more) Std.lt_irrefl⟩
    apply congrArg mk
    apply List.Pairwise.eq_of_mem_iff (pairwise_ofList names) (pairwise_ofList others)
    intro name
    rw [mem_names_ofList, mem_names_ofList, same]

/-! ### Items -/

theorem mem_items_iff {item text : List Char} :
    item ∈ items text ↔ item ≠ [] ∧ ∃ piece ∈ splitOn ',' text, Text.trim piece = item := by
  rw [items, List.mem_filter, List.mem_map, and_comm]
  simp

theorem items_append (front back : List Char) :
    items (front ++ ',' :: back) = items front ++ items back := by
  rw [items, Text.splitOn_append_mark, List.map_append, List.filter_append]
  rfl

theorem mem_map_items_iff :
    name ∈ (items text.toList).map String.ofList ↔ name.toList ∈ items text.toList := by
  constructor
  · intro mem
    obtain ⟨item, itemMem, rfl⟩ := List.mem_map.mp mem
    rwa [String.toList_ofList]
  · intro mem
    exact List.mem_map.mpr ⟨name.toList, mem, String.ofList_toList⟩

/-- What is read from a list are its items. -/
theorem honors_read_iff : (read text).honors name = true ↔ IsItem text name := by
  rw [read, honors_ofList, mem_map_items_iff, mem_items_iff, IsItem]
  apply and_congr
  · rw [ne_eq, ne_eq, String.toList_eq_nil_iff]
  · apply exists_congr
    intro piece
    rw [Text.mem_splitOn_iff, Text.trim, Text.trimBoth_eq_iff]

theorem IsItem.isPlain (item : IsItem text name) : IsPlain name := by
  obtain ⟨nonempty, piece, ⟨free, -⟩, tight, front, back, rfl, -⟩ := item
  refine ⟨nonempty, ?_, tight⟩
  intro comma
  exact free (List.mem_append_left back (List.mem_append_right front comma))

/-- Lists are read alike exactly if they have the same items. -/
theorem read_eq_read_iff :
    read text = read other ↔ ∀ name, IsItem text name ↔ IsItem other name := by
  rw [read, read, ofList_eq_iff]
  apply forall_congr'
  intro name
  rw [← honors_ofList, ← honors_ofList, ← read, ← read, honors_read_iff, honors_read_iff]

theorem set_read_append (front back : String) :
    (read (front ++ "," ++ back)).set = (read front).set ∪ (read back).set := by
  ext name
  have whole : (front ++ "," ++ back).toList = front.toList ++ ',' :: back.toList := by
    simp [String.toList_append]
  rw [Finset.mem_union, mem_set_iff, mem_set_iff, mem_set_iff, read, read, read, honors_ofList,
    honors_ofList, honors_ofList, mem_map_items_iff, mem_map_items_iff, mem_map_items_iff, whole,
    items_append, List.mem_append]

/-- Names that can be items are the items of any list of them. -/
theorem items_intercalate (plain : ∀ name ∈ names, IsPlain name) :
    items (",".intercalate names).toList = names.map String.toList := by
  have commas : (",".intercalate names).toList = [','].intercalate (names.map String.toList) :=
    String.toList_intercalate
  cases names with
  | nil => rfl
  | cons first rest =>
    have pieces : splitOn ',' (",".intercalate (first :: rest)).toList =
        (first :: rest).map String.toList := by
      rw [commas, Text.splitOn_eq_iff]
      exact ⟨by simp, List.forall_mem_map.mpr fun name mem => (plain name mem).noComma, rfl⟩
    rw [items, pieces, List.map_map, List.filter_eq_self.mpr]
    · apply List.map_congr_left
      intro name mem
      exact (plain name mem).tight.trimBoth_eq
    · intro item mem
      obtain ⟨name, nameMem, rfl⟩ := List.mem_map.mp mem
      have same : Text.trim name.toList = name.toList := (plain name nameMem).tight.trimBoth_eq
      simpa [same] using (plain name nameMem).nonempty

theorem read_intercalate (plain : ∀ name ∈ names, IsPlain name) :
    read (",".intercalate names) = ofList names := by
  rw [read, items_intercalate plain, List.map_map]
  simp

theorem set_ofList (names : List String) : (ofList names).set = names.toFinset := by
  ext name
  rw [mem_set_iff, honors_ofList, List.mem_toFinset]

/-- A list of names means the set of its items. -/
theorem read_means_items :
    (∀ text name, (read text).honors name = true ↔ IsItem text name) ∧
    (∀ text name, ',' ∈ name.toList ∨ ¬ IsTight isBlank name.toList →
      (read text).honors name = false) ∧
    (∀ front back, (read (front ++ "," ++ back)).set = (read front).set ∪ (read back).set) ∧
    (∀ text other, read text = read other ↔ ∀ name, IsItem text name ↔ IsItem other name) ∧
    ∀ (set : Finset String) (order : List String), (∀ name ∈ set, IsPlain name) →
      order.toFinset = set → (read (",".intercalate order)).set = set := by
  refine ⟨fun text name => honors_read_iff, ?_, set_read_append,
    fun text other => read_eq_read_iff, ?_⟩
  · intro text name odd
    rw [Bool.eq_false_iff, ne_eq, honors_read_iff]
    intro item
    rcases odd with comma | loose
    · exact item.isPlain.noComma comma
    · exact loose item.isPlain.tight
  · rintro set order plain rfl
    rw [read_intercalate fun name mem => plain name (List.mem_toFinset.mpr mem), set_ofList]

/-- A list with a name twice, a blank item, and white space of several kinds. -/
def paddedList : String := "\u00A0card ,, Wallet,card\t"

theorem read_means_items_padded :
    (IsItem paddedList "card" ∧ ¬ IsItem paddedList "wallet") ∧
    (read paddedList).honors "card " = false ∧
    (read (paddedList ++ "," ++ "bank")).set = (read paddedList).set ∪ (read "bank").set ∧
    (∀ name, IsItem paddedList name ↔ IsItem "Wallet,card" name) ∧
    (∀ name ∈ ({"bank", "card"} : Finset String), IsPlain name) ∧
    (read (",".intercalate ["card", "bank", "card"])).set = {"bank", "card"} := by
  obtain ⟨means, never, union, same, back⟩ := read_means_items
  have honored : (read paddedList).honors "card" = true := by decide +kernel
  have cased : (read paddedList).honors "wallet" = false := by decide +kernel
  have loose : ¬ IsTight isBlank "card ".toList := by decide
  have alike : read paddedList = read "Wallet,card" := by decide +kernel
  have plain : ∀ name ∈ ({"bank", "card"} : Finset String), IsPlain name := by decide
  refine ⟨⟨(means _ _).mp honored, ?_⟩, never _ _ (Or.inr loose), union _ _, (same _ _).mp alike,
    plain, back _ ["card", "bank", "card"] plain (by decide)⟩
  rw [← means, cased]
  exact Bool.false_ne_true

end RiskScreen.SubjectPlugins
