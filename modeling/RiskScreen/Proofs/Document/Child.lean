import RiskScreen.Document.Insert

/-!
# The child at a segment

An object has its children at names, a group at positions under the name of its items, and a
value has none. Here is what a node says about the child at one segment, and what replacing
that child does: the new child is there, every other child is as before, and the node admits
the same segments.
-/

namespace RiskScreen

namespace Path.Segment

/-- The segments name children of the same kind of node: fields of an object, or items of one
name in a group. -/
def Alike : Segment → Segment → Prop
  | .field _, .field _ => True
  | .indexed name _, .indexed other _ => name = other
  | _, _ => False

theorem Alike.refl (segment : Segment) : segment.Alike segment := by
  cases segment <;> simp [Alike]

theorem Alike.symm {first second : Segment} (h : first.Alike second) : second.Alike first := by
  cases first <;> cases second <;> simp_all [Alike]

end Path.Segment

open RiskScreen.Path (Segment)

/-! ### Slots -/

namespace Slots

variable (index : Nat) (change : Fields → Fields) (slots : List Fields)

theorem getElem?_grow (count other : Nat) :
    (grow count slots)[other]? =
      if other < max count slots.length then some (slots[other]?.getD []) else none := by
  unfold grow
  by_cases inside : other < slots.length
  · have less : other < max count slots.length := by omega
    rw [List.getElem?_append_left inside, if_pos less, List.getElem?_eq_getElem inside]
    rfl
  · rw [List.getElem?_append_right (by omega), List.getElem?_replicate,
      List.getElem?_eq_none (by omega)]
    by_cases less : other < count
    · rw [if_pos (by omega), if_pos (by omega)]
      rfl
    · rw [if_neg (by omega), if_neg (by omega)]

theorem getElem?_modify_self :
    (modify index change slots)[index]? = some (change (slots[index]?.getD [])) := by
  rw [modify, List.getElem?_modify_eq, getElem?_grow, if_pos (by omega)]
  rfl

theorem getElem?_modify_of_ne {other : Nat} (h : other ≠ index) :
    (modify index change slots)[other]? =
      if other < max (index + 1) slots.length then some (slots[other]?.getD []) else none := by
  rw [modify, List.getElem?_modify_ne _ _ h.symm, getElem?_grow]

/-- A slot that is not there counts as empty, whether or not the group has grown. -/
theorem getD_modify_of_ne {other : Nat} (h : other ≠ index) :
    (modify index change slots)[other]?.getD [] = slots[other]?.getD [] := by
  rw [getElem?_modify_of_ne index change slots h]
  by_cases inside : other < max (index + 1) slots.length
  · rw [if_pos inside]
    rfl
  · rw [if_neg inside, List.getElem?_eq_none (by omega)]

theorem length_modify : (modify index change slots).length = max (index + 1) slots.length := by
  rw [modify, List.length_modify, length_grow]

/-- Setting a slot of the grown group is changing it in place. -/
theorem set_grow_eq_modify :
    (grow (index + 1) slots).set index (change ((grow (index + 1) slots)[index]?.getD [])) =
      modify index change slots :=
  (List.modify_eq_set change index (grow (index + 1) slots)).symm

end Slots

/-! ### Nodes -/

namespace Node

/-- The child of a node at a segment. -/
def child? : Node → Segment → Option Node
  | .object fields, .field name => Fields.find? name fields
  | .group item slots, .indexed name index =>
      if item = name then Fields.find? name (slots[index]?.getD []) else none
  | _, _ => none

/-- Whether a node can have a child at a segment. -/
def Admits : Node → Segment → Prop
  | .object _, .field _ => True
  | .group item _, .indexed name _ => item = name
  | _, _ => False

/-- The node that is made to hold a child at a segment. -/
def fresh : Segment → Node
  | .field _ => .object []
  | .indexed name _ => .group name []

/-- The node with another child at a segment. -/
def withChild : Node → Segment → Node → Node
  | .object fields, .field name, child => .object (Fields.put name child fields)
  | .group item slots, .indexed name index, child =>
      .group item (Slots.modify index (Fields.put name child) slots)
  | node, _, _ => node

variable {node child : Node} {segment other : Segment}

theorem child?_value (text : Option String) (segment : Segment) :
    (Node.value text).child? segment = none := by
  cases segment <;> rfl

theorem not_admits_value (text : Option String) (segment : Segment) :
    ¬ (Node.value text).Admits segment := by
  cases segment <;> exact id

/-- A node admits segments of one kind. -/
theorem Admits.iff_alike (h : node.Admits segment) : node.Admits other ↔ segment.Alike other := by
  cases node <;> cases segment <;> cases other <;> simp_all [Admits, Segment.Alike]

theorem admits_fresh_iff : (fresh segment).Admits other ↔ segment.Alike other := by
  cases segment <;> cases other <;> rfl

theorem child?_fresh (segment other : Segment) : (fresh segment).child? other = none := by
  cases segment <;> cases other <;> simp [fresh, child?]

theorem admits_withChild_iff : (node.withChild segment child).Admits other ↔ node.Admits other := by
  cases node <;> cases segment <;> cases other <;> rfl

theorem child?_withChild_self (h : node.Admits segment) :
    (node.withChild segment child).child? segment = some child := by
  cases node <;> cases segment
  case object.field fields name => exact Fields.find?_put_self name child fields
  case group.indexed item slots name index =>
    obtain rfl : item = name := h
    simp [withChild, child?, Slots.getElem?_modify_self, Fields.find?_put_self]
  all_goals exact absurd h id

/-- A group reads a slot as empty where it has none. -/
theorem child?_group_eq (item name : String) (slots : List Fields) (index : Nat) :
    (Node.group item slots).child? (.indexed name index) =
      if item = name then Fields.find? name (slots[index]?.getD []) else none := rfl

theorem child?_withChild_of_ne (h : node.Admits segment) (ne : other ≠ segment) :
    (node.withChild segment child).child? other = node.child? other := by
  cases node <;> cases segment
  case object.field fields name =>
    cases other with
    | field otherName =>
      apply Fields.find?_put_of_ne
      simpa using ne
    | indexed otherName index => rfl
  case group.indexed item slots name index =>
    obtain rfl : item = name := h
    cases other with
    | field otherName => rfl
    | indexed otherName otherIndex =>
      rw [withChild, child?_group_eq, child?_group_eq]
      by_cases same : item = otherName
      · subst same
        have apart : otherIndex ≠ index := by simpa using ne
        rw [Slots.getD_modify_of_ne index _ slots apart]
      · rw [if_neg same, if_neg same]
  all_goals exact absurd h id

end Node

end RiskScreen
