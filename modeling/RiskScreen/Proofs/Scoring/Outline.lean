import RiskScreen.Proofs.Markup.Item
import RiskScreen.Scoring.Response

/-!
# Reading on over items

Inside an element of the root, matched items only add their characters to its content. Directly
in the root each item adds to the outline, and reading goes on after it. Conversely all that
is read without a fault is items up to the end of the root, or of the body.

## Implementation notes

The reader keeps the names of the open elements in a list, the items keep them in a tree. What
was read inside a child is found by induction on how many pieces there are: an end tag that
closes an inner element splits the pieces in two lists, and both are shorter.
-/

namespace RiskScreen.Response

open Markup Item

variable {root name : List Char} {outline last : Outline} {opened : List (List Char)}
  {content : List Char} {items : List Item} {ps rest : List Piece}

/-- The end tag has the name that is expected. -/
theorem checkEnd_eq_ok_iff {expected stop : List Char} :
    checkEnd expected stop = .ok () ↔ closingName stop = expected := by
  unfold checkEnd
  split <;> simp_all

/-! ### Inside a child -/

mutual

/-- A matched item in a child adds its characters to the content. -/
theorem readChild_item {item : Item} (matched : item.Matched) (opened : List (List Char))
    (content : List Char) (rest : List Piece) :
    readChild root outline name opened content (item.pieces ++ rest) =
      readChild root outline name opened (content ++ sources item.pieces) rest := by
  cases item with
  | text chars => simp [Item.pieces, readChild, Piece.source]
  | aside inner => simp [Item.pieces, readChild]
  | empty inner => simp [Item.pieces, readChild]
  | element start inside stop =>
    obtain ⟨names, below⟩ := matched
    have closes : checkEnd (tagName start) stop = .ok () := checkEnd_eq_ok_iff.mpr names
    rw [Item.pieces, List.cons_append, List.append_assoc, readChild,
      readChild_items below, List.singleton_append, readChild]
    simp [closes]

theorem readChild_items {items : List Item} (matched : MatchedAll items)
    (opened : List (List Char)) (content : List Char) (rest : List Piece) :
    readChild root outline name opened content (piecesAll items ++ rest) =
      readChild root outline name opened (content ++ sourceAll items) rest := by
  cases items with
  | nil => simp
  | cons item items =>
    obtain ⟨first, others⟩ := matched
    rw [piecesAll_cons, List.append_assoc, readChild_item first, readChild_items others]
    simp

end

/-- What is read in a child begins with matched items, up to the end tag of the innermost open
element. -/
theorem exists_items_of_readChild
    (h : readChild root outline name opened content ps = .ok last) :
    ∃ items stop rest, ps = piecesAll items ++ .closing stop :: rest ∧ MatchedAll items ∧
      closingName stop = opened.headD name := by
  induction length : ps.length using Nat.strong_induction_on generalizing opened content ps with
  | _ bound ih =>
    cases ps with
    | nil => simp [readChild] at h
    | cons p ps =>
      have shorter : ps.length < bound := by simp [← length]
      cases p with
      | text chars =>
        rw [readChild] at h
        obtain ⟨items, stop, rest, rfl, matched, names⟩ := ih _ shorter h rfl
        exact ⟨.text chars :: items, stop, rest, rfl, ⟨trivial, matched⟩, names⟩
      | aside inner =>
        rw [readChild] at h
        obtain ⟨items, stop, rest, rfl, matched, names⟩ := ih _ shorter h rfl
        exact ⟨.aside inner :: items, stop, rest, rfl, ⟨trivial, matched⟩, names⟩
      | empty inner =>
        rw [readChild] at h
        obtain ⟨items, stop, rest, rfl, matched, names⟩ := ih _ shorter h rfl
        exact ⟨.empty inner :: items, stop, rest, rfl, ⟨trivial, matched⟩, names⟩
      | opening start =>
        rw [readChild] at h
        obtain ⟨inside, inner, below, rfl, insideMatched, innerNames⟩ := ih _ shorter h rfl
        have closes : checkEnd (tagName start) inner = .ok () := checkEnd_eq_ok_iff.mpr innerNames
        rw [readChild_items insideMatched, readChild, closes] at h
        have belowShorter : below.length < bound := by
          simp at shorter
          omega
        obtain ⟨items, stop, rest, rfl, matched, names⟩ := ih _ belowShorter h rfl
        exact ⟨.element start inside inner :: items, stop, rest, by simp [Item.pieces],
          ⟨⟨innerNames, insideMatched⟩, matched⟩, names⟩
      | closing stop =>
        refine ⟨[], stop, ps, by simp, trivial, ?_⟩
        rw [readChild.eq_def] at h
        cases opened with
        | nil =>
          cases closes : checkEnd name stop with
          | error e => simp [closes] at h
          | ok _ => exact checkEnd_eq_ok_iff.mp closes
        | cons innermost outer =>
          cases closes : checkEnd innermost stop with
          | error e => simp [closes] at h
          | ok _ => exact checkEnd_eq_ok_iff.mp closes
      | fault cause => simp [readChild] at h

/-! ### Directly in the root -/

/-- The outline after one more item directly in the root. -/
def Outline.addItem (outline : Outline) : Item → Except Fault Outline
  | .text chars => outline.addText chars
  | .aside _ => .ok outline
  | .empty content => .ok (outline.addChild (tagName content) none)
  | .element start inside _ =>
      .ok (outline.addChild (tagName start) (some (Text.trim (sourceAll inside))))

/-- The outline after more items directly in the root. -/
def Outline.addItems (outline : Outline) : List Item → Except Fault Outline
  | [] => .ok outline
  | item :: items =>
      match outline.addItem item with
      | .error e => .error e
      | .ok next => next.addItems items

/-- The child of the root that an item is. -/
def child? : Item → Option Child
  | .text _ => none
  | .aside _ => none
  | .empty content => some ⟨tagName content, none⟩
  | .element start inside _ => some ⟨tagName start, some (Text.trim (sourceAll inside))⟩

theorem readRoot_item {item : Item} (matched : item.Matched) (rest : List Piece) :
    readRoot root outline (item.pieces ++ rest) =
      match outline.addItem item with
      | .error e => .error e
      | .ok next => readRoot root next rest := by
  cases item with
  | text chars =>
    rw [Item.pieces, List.singleton_append, readRoot]
    rfl
  | aside inner => rw [Item.pieces, List.singleton_append, readRoot, Outline.addItem]
  | empty inner => rw [Item.pieces, List.singleton_append, readRoot, Outline.addItem]
  | element start inside stop =>
    obtain ⟨names, below⟩ := matched
    have closes : checkEnd (tagName start) stop = .ok () := checkEnd_eq_ok_iff.mpr names
    let name := tagName start
    calc
      readRoot root outline ((Item.element start inside stop).pieces ++ rest) =
          readChild root outline name [] [] (piecesAll inside ++ .closing stop :: rest) := by
        rw [Item.pieces, List.cons_append, List.append_assoc, readRoot, List.singleton_append]
      _ = readChild root outline name [] (sourceAll inside) (.closing stop :: rest) := by
        rw [readChild_items below, List.nil_append]
      _ = readRoot root (outline.addChild name (some (Text.trim (sourceAll inside)))) rest := by
        rw [readChild, closes]

/-- Reading in the root goes on after matched items with the outline they add to. -/
theorem readRoot_items {items : List Item} (matched : MatchedAll items) (outline : Outline)
    (rest : List Piece) :
    readRoot root outline (piecesAll items ++ rest) =
      match outline.addItems items with
      | .error e => .error e
      | .ok next => readRoot root next rest := by
  induction items generalizing outline with
  | nil => simp [Outline.addItems]
  | cons item items ih =>
    obtain ⟨first, others⟩ := matched
    rw [piecesAll_cons, List.append_assoc, readRoot_item first, Outline.addItems]
    cases outline.addItem item with
    | error e => rfl
    | ok next => exact ih others next

/-- What is read in the root begins with matched items, up to its end tag or the end of the
body. -/
theorem exists_items_of_readRoot (h : readRoot root outline ps = .ok last) :
    ∃ items rest, ps = piecesAll items ++ rest ∧ MatchedAll items ∧
      outline.addItems items = .ok last ∧
      (rest = [] ∨ ∃ stop below, rest = .closing stop :: below ∧ closingName stop = root) := by
  induction length : ps.length using Nat.strong_induction_on generalizing outline ps with
  | _ bound ih =>
    cases ps with
    | nil =>
      rw [readRoot] at h
      exact ⟨[], [], by simp, trivial, h, Or.inl rfl⟩
    | cons p ps =>
      have shorter : ps.length < bound := by simp [← length]
      cases p with
      | text chars =>
        rw [readRoot] at h
        cases added : outline.addText chars with
        | error e => simp [added] at h
        | ok next =>
          rw [added] at h
          obtain ⟨items, rest, rfl, matched, adds, ends⟩ := ih _ shorter h rfl
          refine ⟨.text chars :: items, rest, rfl, ⟨trivial, matched⟩, ?_, ends⟩
          simp [Outline.addItems, Outline.addItem, added, adds]
      | aside inner =>
        rw [readRoot] at h
        obtain ⟨items, rest, rfl, matched, adds, ends⟩ := ih _ shorter h rfl
        exact ⟨.aside inner :: items, rest, rfl, ⟨trivial, matched⟩, adds, ends⟩
      | empty inner =>
        rw [readRoot] at h
        obtain ⟨items, rest, rfl, matched, adds, ends⟩ := ih _ shorter h rfl
        exact ⟨.empty inner :: items, rest, rfl, ⟨trivial, matched⟩, adds, ends⟩
      | opening start =>
        rw [readRoot] at h
        obtain ⟨inside, stop, below, rfl, insideMatched, names⟩ := exists_items_of_readChild h
        have closes : checkEnd (tagName start) stop = .ok () := checkEnd_eq_ok_iff.mpr names
        rw [readChild_items insideMatched, readChild, closes, List.nil_append] at h
        have belowShorter : below.length < bound := by
          simp at shorter
          omega
        obtain ⟨items, rest, rfl, matched, adds, ends⟩ := ih _ belowShorter h rfl
        exact ⟨.element start inside stop :: items, rest, by simp [Item.pieces],
          ⟨⟨names, insideMatched⟩, matched⟩, adds, ends⟩
      | closing stop =>
        rw [readRoot] at h
        cases closes : checkEnd root stop with
        | error e => simp [closes] at h
        | ok _ =>
          rw [closes] at h
          exact ⟨[], .closing stop :: ps, by simp, trivial, h,
            Or.inr ⟨stop, ps, rfl, checkEnd_eq_ok_iff.mp closes⟩⟩
      | fault cause => simp [readRoot] at h

/-! ### What items add -/

theorem addText_eq_ok {chars : List Char} (h : outline.addText chars = .ok last) :
    last.root = outline.root ∧ last.children = outline.children := by
  simp only [Outline.addText] at h
  split at h
  · obtain rfl := Except.ok.inj h
    exact ⟨rfl, rfl⟩
  · split at h
    · simp at h
    · obtain rfl := Except.ok.inj h
      exact ⟨rfl, rfl⟩

/-- An item adds its child, and leaves the name of the root as it is. -/
theorem addItem_eq_ok {item : Item} (h : outline.addItem item = .ok last) :
    last.root = outline.root ∧ last.children = outline.children ++ (child? item).toList := by
  cases item with
  | text chars => simpa [child?] using addText_eq_ok h
  | aside inner =>
    obtain rfl := Except.ok.inj h
    simp [child?]
  | empty inner =>
    obtain rfl := Except.ok.inj h
    exact ⟨rfl, rfl⟩
  | element start inside stop =>
    obtain rfl := Except.ok.inj h
    exact ⟨rfl, rfl⟩

theorem addItems_eq_ok (h : outline.addItems items = .ok last) :
    last.root = outline.root ∧ last.children = outline.children ++ items.filterMap child? := by
  induction items generalizing outline with
  | nil =>
    obtain rfl := Except.ok.inj h
    simp
  | cons item items ih =>
    rw [Outline.addItems] at h
    cases added : outline.addItem item with
    | error e => simp [added] at h
    | ok next =>
      rw [added] at h
      obtain ⟨root, children⟩ := ih h
      obtain ⟨nextRoot, nextChildren⟩ := addItem_eq_ok added
      refine ⟨root.trans nextRoot, ?_⟩
      rw [children, nextChildren, List.append_assoc, List.filterMap_cons]
      cases child? item <;> rfl

theorem exists_addText_iff {chars : List Char} :
    (∃ last, outline.addText chars = .ok last) ↔
      ∃ text, unescape (Text.trimPlain chars) = .ok text := by
  simp only [Outline.addText]
  split
  · rename_i blank
    rw [List.isEmpty_iff.mp blank]
    simp [unescape, unescapeFrom]
  · cases unescape (Text.trimPlain chars) <;> simp

/-- Items are added where every run of text unescapes. -/
theorem exists_addItems_iff :
    (∃ last, outline.addItems items = .ok last) ↔
      ∀ chars, Item.text chars ∈ items →
        ∃ text, unescape (Text.trimPlain chars) = .ok text := by
  induction items generalizing outline with
  | nil => simp [Outline.addItems]
  | cons item items ih =>
    have first : (∃ next, outline.addItem item = .ok next) ↔
        ∀ chars, Item.text chars = item →
          ∃ text, unescape (Text.trimPlain chars) = .ok text := by
      cases item with
      | text chars => simpa [Outline.addItem] using exists_addText_iff
      | _ => simp [Outline.addItem]
    simp only [List.mem_cons, or_imp, forall_and]
    rw [← first, Outline.addItems]
    cases added : outline.addItem item with
    | error e => simp
    | ok next => simp [ih]

end RiskScreen.Response
