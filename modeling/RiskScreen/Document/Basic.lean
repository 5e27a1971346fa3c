import RiskScreen.Path.Basic

/-!
# Request documents

A request document is a list of transactions. A transaction is an object: named children in
ascending order of their names. A child is a value, an object, or a repeated group whose
slots are objects again.
-/

namespace RiskScreen

/-- A place in a request document. -/
inductive Node where
  /-- A text, or nothing. -/
  | value (text : Option String)
  /-- Named children. -/
  | object (fields : List (String × Node))
  /-- Slots of a repeated group, and the name its items carry. -/
  | group (item : String) (slots : List (List (String × Node)))
  deriving Repr, Inhabited

/-- The named children of an object. -/
abbrev Fields := List (String × Node)

/-- The shape of a node. -/
def Node.shape : Node → Path.Shape
  | .value _ => .value
  | .object _ => .object
  | .group _ _ => .group

namespace Fields

/-- The child with this name. -/
def find? (name : String) : Fields → Option Node
  | [] => none
  | (key, node) :: rest => if key = name then some node else find? name rest

/-- Stores `node` under `name`: in place of the child of that name, or else before the first
child with a larger name. Names compare by code point. -/
def put (name : String) (node : Node) : Fields → Fields
  | [] => [(name, node)]
  | (key, old) :: rest =>
      if key = name then (name, node) :: rest
      else if name < key then (name, node) :: (key, old) :: rest
      else (key, old) :: put name node rest

/-- The object made by storing the pairs one after another. -/
def ofPairs (pairs : List (String × Node)) : Fields :=
  pairs.foldl (fun fields pair => put pair.1 pair.2 fields) []

@[simp] theorem find?_nil (name : String) : find? name [] = none := rfl

theorem find?_put_self (name : String) (node : Node) (fields : Fields) :
    find? name (put name node fields) = some node := by
  fun_induction put name node fields with
  | case1 => simp [find?]
  | case2 => simp [find?]
  | case3 => simp [find?]
  | case4 key old rest ne _ ih => simp [find?, ne, ih]

theorem find?_put_of_ne {name other : String} (h : other ≠ name) (node : Node)
    (fields : Fields) : find? other (put name node fields) = find? other fields := by
  fun_induction put name node fields with
  | case1 => simp [find?, h.symm]
  | case2 old rest => simp [find?, h.symm]
  | case3 key old rest _ _ => simp [find?, h.symm]
  | case4 key old rest _ _ ih => simp [find?, ih]

end Fields

namespace Slots

/-- The slots, with empty ones added at the end until there are `count` of them. -/
def grow (count : Nat) (slots : List Fields) : List Fields :=
  slots ++ List.replicate (count - slots.length) []

theorem length_grow (count : Nat) (slots : List Fields) :
    (grow count slots).length = max count slots.length := by
  simp [grow]
  omega

/-- Replaces the slot at `index` by what `change` makes of it, growing the group so that the
slot exists. -/
def modify (index : Nat) (change : Fields → Fields) (slots : List Fields) : List Fields :=
  (grow (index + 1) slots).modify index change

end Slots

/-- A scoring request. -/
structure Document where
  transactions : List Fields
  deriving Repr

namespace Document

/-- The document without transactions. -/
def blank : Document := ⟨[]⟩

/-- Whether the document has no transaction. -/
def isBlank (document : Document) : Bool :=
  document.transactions.isEmpty

end Document

end RiskScreen
