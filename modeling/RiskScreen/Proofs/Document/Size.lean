import Mathlib.Algebra.GroupWithZero.Nat
import RiskScreen.Proofs.Document.Built
import RiskScreen.Proofs.Document.Written

/-!
# How many elements a document has

A node stands for a number of elements, and every write adds to it. A segment of the path costs
an element, and an item of a group also the empty items that fill the group up to its index. What
is there already does not raise the cost: a write down a path takes the node that it replaces out
of the count, whatever is below.

## Implementation notes

The cost of an item does not depend on its index, so that the bound is one on the path alone. It
is `maxIndex + 1` for the item itself and the largest gap that can be before it.
-/

namespace RiskScreen

open RiskScreen.Path (Segment)

/-- The number of elements in an element, itself among them. -/
def Element.size (element : Element) : Nat :=
  element.names.length

mutual

/-- The number of elements that a node stands for. -/
def Node.size : Node → Nat
  | .value _ => 1
  | .object fields => Fields.size fields + 1
  | .group _ slots => Slots.size slots + 1

/-- The number of elements that fields stand for. -/
def Fields.size : List (String × Node) → Nat
  | [] => 0
  | (_, node) :: rest => Node.size node + Fields.size rest

/-- The number of elements that slots stand for. An empty slot stands for one, too. -/
def Slots.size : List (List (String × Node)) → Nat
  | [] => 0
  | slot :: rest => max 1 (Fields.size slot) + Slots.size rest

end

/-- The number of elements at a place, where there may be none. -/
def Node.sizeAt (found : Option Node) : Nat :=
  found.elim 0 Node.size

namespace Path

/-- How many elements a write may add for a segment. -/
def Segment.cost : Segment → Nat
  | .field _ => 1
  | .indexed _ _ => maxIndex + 1

/-- How many elements a write may add for the segments of its path. -/
def cost (segments : List Segment) : Nat :=
  (segments.map Segment.cost).sum

theorem cost_cons (segment : Segment) (rest : List Segment) :
    cost (segment :: rest) = segment.cost + cost rest := by
  rw [cost, List.map_cons, List.sum_cons, cost]

end Path

/-! ### The elements that a node stands for -/

namespace Element

theorem size_mk (name text : String) (children : List Element) :
    size ⟨name, text, children⟩ = (namesAll children).length + 1 := rfl

/-- Sorting elements keeps their number. -/
theorem length_namesAll_byName (elements : List Element) :
    (namesAll (byName elements)).length = (namesAll elements).length := by
  rw [namesAll_eq_flatMap, namesAll_eq_flatMap]
  exact ((List.mergeSort_perm elements nameLe).flatMap_right names).length_eq

end Element

open Element

theorem Node.one_le_size (node : Node) : 1 ≤ node.size := by
  cases node <;> simp [Node.size]

theorem Fields.one_le_size {fields : Fields} (nonempty : fields ≠ []) :
    1 ≤ Fields.size fields := by
  obtain ⟨⟨name, node⟩, rest, rfl⟩ := List.exists_cons_of_ne_nil nonempty
  have first := node.one_le_size
  rw [Fields.size]
  omega

mutual

/-- The size of a node is that of the element it stands for. -/
theorem Node.size_reference (name : String) (node : Node) :
    (node.reference name).size = node.size := by
  match node with
  | .value text => rfl
  | .object fields =>
      rw [Node.reference, size_mk, length_namesAll_byName, Fields.length_references, Node.size]
  | .group item slots => rw [Node.reference, size_mk, Slots.length_references, Node.size]

theorem Fields.length_references (fields : List (String × Node)) :
    (namesAll (Fields.references fields)).length = Fields.size fields := by
  match fields with
  | [] => rfl
  | (name, node) :: rest =>
      have first : (node.reference name).names.length = node.size := Node.size_reference name node
      rw [Fields.references, namesAll, List.length_append, first, Fields.length_references rest,
        Fields.size]

theorem Slots.length_references (item : String) (slots : List (List (String × Node))) :
    (namesAll (Slots.references item slots)).length = Slots.size slots := by
  match slots with
  | [] => rfl
  | [] :: rest =>
      rw [Slots.references, namesAll, List.length_append, Slots.length_references item rest,
        Slots.size]
      rfl
  | (field :: fields) :: rest =>
      have filled : 1 ≤ Fields.size (field :: fields) := Fields.one_le_size (by simp)
      rw [Slots.references, namesAll_append, List.length_append, length_namesAll_byName,
        Fields.length_references (field :: fields), Slots.length_references item rest, Slots.size,
        Nat.max_eq_right filled]

end

/-! ### A child takes the place of another -/

namespace Fields

variable {fields : Fields} {name : String}

/-- A node that is stored counts in place of the one that was there. -/
theorem Ascending.size_put (ascending : fields.Ascending) (name : String) (node : Node) :
    size (Fields.put name node fields) + Node.sizeAt (find? name fields) =
      size fields + node.size := by
  fun_induction Fields.put name node fields with
  | case1 => simp [size, Node.sizeAt]
  | case2 old rest =>
    rw [find?_cons_self, size, size, Node.sizeAt, Option.elim_some]
    omega
  | case3 key old rest ne less =>
    have missing : find? name ((key, old) :: rest) = none := by
      rw [Option.eq_none_iff_forall_ne_some]
      intro other found
      rw [find?_cons_of_ne ne] at found
      have later := (List.pairwise_cons.mp ascending).1 _ (mem_of_find? found)
      exact Std.lt_irrefl (Std.lt_trans less later)
    rw [missing, size, Node.sizeAt, Option.elim_none]
    omega
  | case4 key old rest ne _ ih =>
    have below := ih (List.pairwise_cons.mp ascending).2
    rw [find?_cons_of_ne ne, size, size]
    omega

end Fields

namespace Slots

variable {slots : List Fields} {index : Nat}

theorem size_append (front back : List Fields) : size (front ++ back) = size front + size back := by
  induction front with
  | nil => simp [size]
  | cons slot front ih =>
    rw [List.cons_append, size, size, ih]
    omega

theorem size_replicate_nil (count : Nat) : size (List.replicate count []) = count := by
  induction count with
  | zero => rfl
  | succ count ih =>
    rw [List.replicate_succ, size, ih, Fields.size]
    omega

/-- Every slot that a group grows by counts. -/
theorem size_grow (count : Nat) (slots : List Fields) :
    size (grow count slots) = size slots + (count - slots.length) := by
  rw [grow, size_append, size_replicate_nil]

theorem size_modify_of_lt (change : Fields → Fields) (inside : index < slots.length) :
    size (slots.modify index change) + max 1 (Fields.size slots[index]) =
      size slots + max 1 (Fields.size (change slots[index])) := by
  induction slots generalizing index with
  | nil => simp at inside
  | cons slot slots ih =>
    cases index with
    | zero =>
      rw [List.modify_zero_cons, size, size, List.getElem_cons_zero]
      omega
    | succ index =>
      have below := ih (Nat.lt_of_succ_lt_succ inside)
      rw [List.modify_succ_cons, size, size, List.getElem_cons_succ]
      omega

/-- A slot that is changed counts in place of what it was, and so do those before it that the
group grows by. -/
theorem size_modify (index : Nat) (change : Fields → Fields) (slots : List Fields) :
    size (modify index change slots) + max 1 (Fields.size (slots[index]?.getD [])) =
      size slots + (index + 1 - slots.length) +
        max 1 (Fields.size (change (slots[index]?.getD []))) := by
  have inside : index < (grow (index + 1) slots).length := by
    rw [length_grow]
    omega
  have slot : (grow (index + 1) slots)[index] = slots[index]?.getD [] := by
    have grown := getElem?_grow slots (index + 1) index
    rw [List.getElem?_eq_getElem inside, if_pos (by omega)] at grown
    exact Option.some.inj grown
  rw [modify, ← size_grow, ← slot]
  exact size_modify_of_lt change inside

/-- Putting an item into a slot adds no more than the item and a gap before it. -/
theorem size_modify_put_le (name : String) (child : Node)
    (ascending : (slots[index]?.getD []).Ascending) :
    size (modify index (Fields.put name child) slots) +
        Node.sizeAt (Fields.find? name (slots[index]?.getD [])) ≤
      size slots + child.size + index := by
  have whole := size_modify index (Fields.put name child) slots
  have slot := ascending.size_put name child
  have filled := Fields.one_le_size (Fields.put_ne_nil name child (slots[index]?.getD []))
  by_cases inside : index < slots.length
  · omega
  · rw [List.getElem?_eq_none (by omega), Option.getD_none] at whole slot filled ⊢
    rw [Fields.size] at whole slot
    omega

end Slots

namespace Node

variable {node child : Node} {segment : Segment} {found : Option Node}

/-- The gap that a write may have to fill before it is at a segment. -/
def gap : Segment → Nat
  | .field _ => 0
  | .indexed _ index => index

theorem ordered_fresh (segment : Segment) : (fresh segment).Ordered := by
  cases segment with
  | field name => exact .object List.Pairwise.nil (List.forall_mem_nil _)
  | indexed name index => exact .group (List.forall_mem_nil _) (List.forall_mem_nil _)

theorem size_fresh (segment : Segment) : (fresh segment).size = 1 := by
  cases segment <;> rfl

theorem Ordered.child? (ordered : node.Ordered) (h : node.child? segment = some child) :
    child.Ordered := by
  cases ordered with
  | value text => simp [child?_value] at h
  | object ascending below =>
    obtain ⟨name, _, mem⟩ := child?_object_eq_some h
    exact below _ mem
  | group ascending below =>
    obtain ⟨index, _, slot, mem, field⟩ := child?_group_eq_some h
    exact below slot mem _ field

/-- A child counts in place of the one that was there, and a gap before it counts, too. -/
theorem Ordered.size_withChild_le (ordered : node.Ordered) (admits : node.Admits segment)
    (child : Node) :
    (node.withChild segment child).size + sizeAt (node.child? segment) ≤
      node.size + child.size + gap segment := by
  cases ordered with
  | value text => exact absurd admits (not_admits_value text segment)
  | @object fields ascending below =>
    cases segment with
    | field name =>
      have stored := ascending.size_put name child
      rw [withChild, Node.child?, size, size, gap]
      omega
    | indexed name index => exact absurd admits id
  | @group item slots ascending below =>
    cases segment with
    | field name => exact absurd admits id
    | indexed name index =>
      obtain rfl : item = name := admits
      have slot : (slots[index]?.getD []).Ascending := by
        rcases Slots.getD_eq_nil_or_mem slots index with empty | mem
        · rw [empty]
          exact List.Pairwise.nil
        · exact ascending _ mem
      have stored := Slots.size_modify_put_le item child slot
      rw [withChild, child?_group_eq, if_pos rfl, size, size, gap]
      omega

theorem gap_lt_cost (bounded : ∀ name index, segment = .indexed name index → index ≤ 1000) :
    gap segment < segment.cost := by
  cases segment with
  | field name => exact Nat.zero_lt_one
  | indexed name index => exact Nat.lt_succ_of_le (bounded name index rfl)

/-- A write adds no more than the cost of its path to what is at the place where it starts, where
there is at least one element afterwards. -/
theorem size_write_le (value : Option String) {segments : List Segment}
    (ordered : ∀ node, found = some node → node.Ordered)
    (bounded : ∀ segment ∈ segments, ∀ name index, segment = .indexed name index → index ≤ 1000)
    (accepts : Accepts found segments) :
    (write value found segments).size ≤ max 1 (sizeAt found) + Path.cost segments := by
  induction segments generalizing found with
  | nil =>
    rw [write, size]
    omega
  | cons segment rest ih =>
    obtain ⟨admits, below⟩ := accepts
    obtain ⟨first, others⟩ := List.forall_mem_cons.mp bounded
    have start : (found.getD (fresh segment)).Ordered ∧
        (found.getD (fresh segment)).size = max 1 (sizeAt found) := by
      cases found with
      | none => exact ⟨ordered_fresh segment, size_fresh segment⟩
      | some node => exact ⟨ordered node rfl, (Nat.max_eq_right node.one_le_size).symm⟩
    have after := ih (fun child => start.1.child?) others below
    have step := start.1.size_withChild_le admits
      (write value ((found.getD (fresh segment)).child? segment) rest)
    have filled := gap_lt_cost first
    rw [write, Path.cost_cons]
    omega

end Node

end RiskScreen
