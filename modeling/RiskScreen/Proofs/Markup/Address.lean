import RiskScreen.Path.Basic
import RiskScreen.Proofs.Markup.Element

/-!
# Ways through a tree of elements

An element inside another one has an address: the positions of the children that are passed
on the way to it. A path leads to an element by names. A field is the only child of its name,
an item is the child at its position and has its name.
-/

namespace RiskScreen.Element

open RiskScreen.Path (Segment)

/-- The element at an address. -/
def at? (element : Element) : List Nat → Option Element
  | [] => some element
  | position :: address =>
      match element.children[position]? with
      | some child => child.at? address
      | none => none

/-- Whether the segment names the child at the position. -/
def ChildAt (element : Element) : Segment → Nat → Element → Prop
  | .field name, position, child =>
      element.children[position]? = some child ∧ child.name = name ∧
        ∀ (other : Nat) (sibling : Element), element.children[other]? = some sibling →
          sibling.name = name → other = position
  | .indexed name index, position, child =>
      position = index ∧ element.children[index]? = some child ∧ child.name = name

/-- Whether the segments lead from an element to the one at the address. -/
inductive Leads : Element → List Segment → List Nat → Element → Prop
  | here (element : Element) : Leads element [] [] element
  | child {element child reached : Element} {segment : Segment} {rest : List Segment}
      {position : Nat} {address : List Nat} (first : element.ChildAt segment position child)
      (below : Leads child rest address reached) :
      Leads element (segment :: rest) (position :: address) reached

theorem at?_cons_eq_some_iff {element reached : Element} {position : Nat} {address : List Nat} :
    element.at? (position :: address) = some reached ↔
      ∃ child, element.children[position]? = some child ∧ child.at? address = some reached := by
  rw [at?]
  cases element.children[position]? <;> simp

end RiskScreen.Element
