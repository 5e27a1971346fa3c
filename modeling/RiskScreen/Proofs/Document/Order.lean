import Mathlib.Data.List.Sort
import RiskScreen.Document.Basic

/-!
# Fields in order

An object keeps its fields in strictly ascending order of their names. Storing a field keeps
that order, so that every object has it, and an object in order is determined by what it holds
under each name.
-/

namespace RiskScreen

namespace Fields

/-- The fields are in ascending order of their names, and no name occurs twice. -/
def Ascending (fields : Fields) : Prop :=
  fields.Pairwise fun first second => first.1 < second.1

variable {fields others : Fields} {name : String} {node : Node} {field : String × Node}

theorem mem_of_find? (h : find? name fields = some node) : (name, node) ∈ fields := by
  fun_induction find? name fields with
  | case1 => simp at h
  | case2 child rest =>
    obtain rfl := Option.some.inj h
    exact List.mem_cons_self
  | case3 key child rest _ ih => exact List.mem_cons_of_mem (key, child) (ih h)

theorem mem_put (h : field ∈ put name node fields) : field = (name, node) ∨ field ∈ fields := by
  fun_induction put name node fields with
  | case1 => exact Or.inl (List.mem_singleton.mp h)
  | case2 old rest =>
    rcases List.mem_cons.mp h with rfl | below
    · exact Or.inl rfl
    · exact Or.inr (List.mem_cons_of_mem (name, old) below)
  | case3 key old rest _ _ =>
    rcases List.mem_cons.mp h with rfl | below
    · exact Or.inl rfl
    · exact Or.inr below
  | case4 key old rest _ _ ih =>
    rcases List.mem_cons.mp h with rfl | below
    · exact Or.inr List.mem_cons_self
    · rcases ih below with same | below
      · exact Or.inl same
      · exact Or.inr (List.mem_cons_of_mem (key, old) below)

theorem put_ne_nil (name : String) (node : Node) (fields : Fields) :
    put name node fields ≠ [] := by
  fun_cases put name node fields <;> simp

theorem Ascending.put (h : fields.Ascending) (name : String) (node : Node) :
    (put name node fields).Ascending := by
  unfold Ascending at h ⊢
  fun_induction Fields.put name node fields with
  | case1 => exact List.pairwise_singleton _ _
  | case2 old rest =>
    obtain ⟨first, below⟩ := List.pairwise_cons.mp h
    exact List.pairwise_cons.mpr ⟨first, below⟩
  | case3 key old rest _ less =>
    obtain ⟨first, below⟩ := List.pairwise_cons.mp h
    refine List.pairwise_cons.mpr ⟨?_, h⟩
    intro other mem
    rcases List.mem_cons.mp mem with rfl | mem
    · exact less
    · exact Std.lt_trans less (first other mem)
  | case4 key old rest ne notLess ih =>
    obtain ⟨first, below⟩ := List.pairwise_cons.mp h
    refine List.pairwise_cons.mpr ⟨?_, ih below⟩
    intro other mem
    rcases mem_put mem with rfl | mem
    · rcases Std.lt_trichotomy key name with less | same | more
      · exact less
      · exact absurd same ne
      · exact absurd more notLess
    · exact first other mem

theorem find?_cons_self (name : String) (node : Node) (fields : Fields) :
    find? name ((name, node) :: fields) = some node := by
  simp [find?]

theorem find?_cons_of_ne {key : String} (h : key ≠ name) (node : Node) (fields : Fields) :
    find? name ((key, node) :: fields) = find? name fields := by
  simp [find?, h]

theorem Ascending.find?_of_mem (ascending : fields.Ascending) (h : (name, node) ∈ fields) :
    find? name fields = some node := by
  induction fields with
  | nil => simp at h
  | cons field fields ih =>
    obtain ⟨first, below⟩ := List.pairwise_cons.mp ascending
    rcases List.mem_cons.mp h with rfl | mem
    · exact find?_cons_self name node fields
    · rw [find?_cons_of_ne]
      · exact ih below mem
      · intro same
        have less := first (name, node) mem
        rw [same] at less
        exact Std.lt_irrefl less

/-- Storing what is there already changes nothing. -/
theorem Ascending.put_eq_self (ascending : fields.Ascending) (h : find? name fields = some node) :
    Fields.put name node fields = fields := by
  fun_induction Fields.put name node fields with
  | case1 => simp at h
  | case2 old rest =>
    rw [find?_cons_self] at h
    rw [Option.some.inj h]
  | case3 key old rest ne less =>
    rw [find?_cons_of_ne ne] at h
    have later := (List.pairwise_cons.mp ascending).1 (name, node) (mem_of_find? h)
    exact absurd (Std.lt_trans less later) Std.lt_irrefl
  | case4 key old rest ne _ ih =>
    rw [find?_cons_of_ne ne] at h
    rw [ih (List.pairwise_cons.mp ascending).2 h]

/-- An object in order is determined by what it holds under each name. -/
theorem Ascending.ext (h : fields.Ascending) (h' : others.Ascending)
    (same : ∀ name, find? name fields = find? name others) : fields = others := by
  have irrefl : Std.Irrefl fun first second : String × Node => first.1 < second.1 :=
    ⟨fun _ => Std.lt_irrefl⟩
  have antisymm : Std.Antisymm fun first second : String × Node => first.1 < second.1 :=
    ⟨fun _ _ less more => absurd (Std.lt_trans less more) Std.lt_irrefl⟩
  apply List.Pairwise.eq_of_mem_iff h h'
  rintro ⟨name, node⟩
  constructor
  · intro mem
    apply mem_of_find?
    rw [← same]
    exact h.find?_of_mem mem
  · intro mem
    apply mem_of_find?
    rw [same]
    exact h'.find?_of_mem mem

end Fields

/-- The fields of every object and of every slot are in ascending order. -/
inductive Node.Ordered : Node → Prop
  | value (text : Option String) : Ordered (.value text)
  | object {fields : Fields} (ascending : fields.Ascending)
      (below : ∀ field ∈ fields, Ordered field.2) : Ordered (.object fields)
  | group {item : String} {slots : List Fields}
      (ascending : ∀ slot ∈ slots, Fields.Ascending slot)
      (below : ∀ slot ∈ slots, ∀ field ∈ slot, Ordered field.2) : Ordered (.group item slots)

/-- The fields of a document are in ascending order everywhere. -/
def Document.Ordered (document : Document) : Prop :=
  ∀ transaction ∈ document.transactions, (Node.object transaction).Ordered

end RiskScreen
