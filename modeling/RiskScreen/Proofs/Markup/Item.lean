import RiskScreen.Proofs.Markup.Pieces

/-!
# Items

What stands in an element is a list of items: runs of text, what stands aside, and elements
with items of their own. An item is written as pieces, one after the other.
-/

namespace RiskScreen.Markup

/-- What can stand in an element. -/
inductive Item where
  /-- Characters up to the next `<`. -/
  | text (chars : List Char)
  /-- `<content>` for what stands aside. -/
  | aside (content : List Char)
  /-- `<content/>` -/
  | empty (content : List Char)
  /-- `<start>inside</stop>` -/
  | element (start : List Char) (inside : List Item) (stop : List Char)

namespace Item

mutual

/-- The pieces that an item is written as. -/
def pieces : Item → List Piece
  | text chars => [.text chars]
  | aside content => [.aside content]
  | empty content => [.empty content]
  | element start inside stop => .opening start :: (piecesAll inside ++ [.closing stop])

/-- The pieces of items, one after the other. -/
def piecesAll : List Item → List Piece
  | [] => []
  | item :: items => item.pieces ++ piecesAll items

end

mutual

/-- The end tag of every element has the name of its start tag. -/
def Matched : Item → Prop
  | text _ => True
  | aside _ => True
  | empty _ => True
  | element start inside stop => closingName stop = tagName start ∧ MatchedAll inside

/-- Every element among the items has an end tag of its name. -/
def MatchedAll : List Item → Prop
  | [] => True
  | item :: items => item.Matched ∧ MatchedAll items

end

/-- Whether the item is an element. -/
def isElement : Item → Bool
  | text _ => false
  | aside _ => false
  | empty _ => true
  | element _ _ _ => true

/-- The characters that items are written with. -/
def sourceAll (items : List Item) : List Char :=
  sources (piecesAll items)

@[simp] theorem sourceAll_nil : sourceAll [] = [] := by
  simp [sourceAll, piecesAll]

@[simp] theorem sourceAll_cons (item : Item) (items : List Item) :
    sourceAll (item :: items) = sources item.pieces ++ sourceAll items := by
  simp [sourceAll, piecesAll]

@[simp] theorem sources_piecesAll (items : List Item) :
    sources (piecesAll items) = sourceAll items := rfl

@[simp] theorem piecesAll_cons (item : Item) (items : List Item) :
    piecesAll (item :: items) = item.pieces ++ piecesAll items := by
  rw [piecesAll]

@[simp] theorem piecesAll_nil : piecesAll [] = [] := by
  rw [piecesAll]

mutual

/-- Items are no faults. -/
theorem fault_not_mem_pieces (item : Item) (cause : MarkupError) :
    Piece.fault cause ∉ item.pieces := by
  cases item with
  | text chars => simp [pieces]
  | aside content => simp [pieces]
  | empty content => simp [pieces]
  | element start inside stop => simp [pieces, fault_not_mem_piecesAll inside cause]

theorem fault_not_mem_piecesAll (items : List Item) (cause : MarkupError) :
    Piece.fault cause ∉ piecesAll items := by
  cases items with
  | nil => simp
  | cons item items =>
    simp [fault_not_mem_pieces item cause, fault_not_mem_piecesAll items cause]

end

end Item

end RiskScreen.Markup
