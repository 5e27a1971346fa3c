import RiskScreen.Proofs.Scoring.Body

/-!
# The verdict of a body

In a body with the root `transaction-results`, each part of the verdict is the text of the last
element directly in the root that has the name of the part and some content. The first of these
contents that does not unescape, in the order of the body, is the failure of the whole.

## Implementation notes

The reader keeps the children of the root in a list and sets the parts one after the other. A
part is stated through the items of the root alone: setting is looked at for one part at a time,
where the last content that was set is the one that stays.
-/

namespace RiskScreen.Response

open Markup
open Item (sourceAll)

/-! ### What a root says -/

/-- The trimmed content of an element of this name, when there is some. -/
def content? (name : String) : Item → Option (List Char)
  | .element start inside _ =>
      if tagName start = name.toList then
        (some (Text.trim (sourceAll inside))).filter fun content => !content.isEmpty
      else none
  | _ => none

/-- The content of the last element of this name that has some. -/
def lastContent (name : String) (items : List Item) : Option (List Char) :=
  (items.filterMap (content? name)).getLast?

/-- The text that a content stands for, when it unescapes. -/
def unescaped? (content : List Char) : Option String :=
  (unescape content).toOption.map String.ofList

/-- The text of the last element of this name that has some content. -/
def lastText (name : String) (items : List Item) : Option String :=
  (lastContent name items).bind unescaped?

/-- The verdict that the items of a root say, when every content of a text unescapes. -/
def verdictOf (items : List Item) : Verdict where
  transactionId := lastText "transaction-id" items
  crossReference := lastText "cross-reference" items
  rulesTripped := lastText "rules-tripped" items
  totalScore := lastText "total-score" items
  recommendationCode := lastText "recommendation-code" items
  remarks := lastText "remarks" items
  responseData := (lastContent "responseData" items).map String.ofList

/-- The names of the parts that are texts. -/
def textNames : List String :=
  ["transaction-id", "cross-reference", "rules-tripped", "total-score", "recommendation-code",
    "remarks"]

/-- Why a content does not unescape. -/
def escapeFault? (content : List Char) : Option EntityError :=
  match unescape content with
  | .error e => some e
  | .ok _ => none

/-- Why the content of an element with the name of a text does not unescape. -/
def textFault? : Item → Option EntityError
  | .element start inside _ =>
      if String.ofList (tagName start) ∈ textNames then escapeFault? (Text.trim (sourceAll inside))
      else none
  | _ => none

/-! ### Parts and their names -/

namespace Part

/-- The element name of a part. -/
def title : Part → String
  | transactionId => "transaction-id"
  | crossReference => "cross-reference"
  | rulesTripped => "rules-tripped"
  | totalScore => "total-score"
  | recommendationCode => "recommendation-code"
  | remarks => "remarks"
  | responseData => "responseData"

/-- The part of a verdict. -/
def get (part : Part) (verdict : Verdict) : Option String :=
  match part with
  | transactionId => verdict.transactionId
  | crossReference => verdict.crossReference
  | rulesTripped => verdict.rulesTripped
  | totalScore => verdict.totalScore
  | recommendationCode => verdict.recommendationCode
  | remarks => verdict.remarks
  | responseData => verdict.responseData

variable {part other : Part} {name : List Char} {verdict : Verdict} {text : String}

theorem title_injective (h : part.title = other.title) : part = other := by
  cases part <;> cases other <;> first | rfl | exact absurd h (by decide)

theorem ofName?_eq_some_iff : ofName? name = some part ↔ name = part.title.toList := by
  have titled : ∀ entry ∈ names, entry.1 = entry.2.title := by decide
  constructor
  · intro found
    obtain ⟨front, back, split, _⟩ := List.lookup_eq_some_iff.mp found
    have same : String.ofList name = part.title :=
      titled (String.ofList name, part) (by simp [split])
    rw [← same, String.toList_ofList]
  · rintro rfl
    rw [ofName?, String.ofList_toList]
    cases part <;> rfl

theorem get_set : part.get (other.set text verdict) =
    if part = other then some text else part.get verdict := by
  cases part <;> cases other <;> rfl

/-- The text of a part in the content of an element. -/
def textOf (part : Part) (content : List Char) : Option String :=
  (part.text content).toOption.map String.ofList

theorem get_verdictOf (part : Part) (items : List Item) :
    part.get (verdictOf items) = (lastContent part.title items).bind part.textOf := by
  cases part with
  | responseData =>
    change (lastContent "responseData" items).map String.ofList =
      (lastContent "responseData" items).bind _
    cases lastContent "responseData" items <;> rfl
  | _ => rfl

theorem text_of_ne (h : part ≠ responseData) (content : List Char) :
    part.text content = unescape content := by
  rw [Part.text, if_neg h]

theorem mem_textNames_iff {title : String} :
    title ∈ textNames ↔ ∃ part, part ≠ responseData ∧ title = part.title := by
  constructor
  · intro mem
    simp only [textNames, List.mem_cons, List.not_mem_nil, or_false] at mem
    rcases mem with rfl | rfl | rfl | rfl | rfl | rfl
    · exact ⟨transactionId, by decide, rfl⟩
    · exact ⟨crossReference, by decide, rfl⟩
    · exact ⟨rulesTripped, by decide, rfl⟩
    · exact ⟨totalScore, by decide, rfl⟩
    · exact ⟨recommendationCode, by decide, rfl⟩
    · exact ⟨remarks, by decide, rfl⟩
  · rintro ⟨part, text, rfl⟩
    cases part <;> first | exact absurd rfl text | decide

end Part

theorem escapeFault?_nil : escapeFault? [] = none := by
  simp [escapeFault?, unescape, unescapeFrom]

/-! ### Setting the parts -/

namespace Child

variable {child : Child} {verdict next : Verdict} {part : Part} {e : EntityError}

/-- The content of a child of this name, when there is some. -/
def contentFor? (name : String) (child : Child) : Option (List Char) :=
  if child.name = name.toList then child.content? else none

/-- Why the content of a child with the name of a text does not unescape. -/
def textFault? (child : Child) : Option EntityError :=
  if String.ofList child.name ∈ textNames then child.content.bind escapeFault? else none

theorem content?_eq_bind (name : String) (item : Item) :
    Response.content? name item = (child? item).bind (contentFor? name) := by
  cases item with
  | empty content => simp [Response.content?, child?, contentFor?, Child.content?]
  | _ => rfl

theorem textFault?_eq_bind (item : Item) :
    Response.textFault? item = (child? item).bind textFault? := by
  cases item with
  | empty content => simp [Response.textFault?, child?, textFault?]
  | _ => rfl

/-- The child is none that sets a part: it has no content, or a name of its own. -/
def Idle (child : Child) : Prop :=
  child.content? = none ∨ ∀ part : Part, child.name ≠ part.title.toList

/-- A child that sets no part changes nothing. Any other sets its part to its text. -/
theorem applyChild_cases (verdict : Verdict) (child : Child) :
    (child.Idle ∧ applyChild verdict child = .ok verdict) ∨
      ∃ part : Part, ∃ content, child.name = part.title.toList ∧ child.content? = some content ∧
        applyChild verdict child =
          match part.text content with
          | .error e => .error e
          | .ok text => .ok (part.set (String.ofList text) verdict) := by
  unfold applyChild
  cases held : child.content? with
  | none => exact Or.inl ⟨Or.inl held, rfl⟩
  | some content =>
    cases found : Part.ofName? child.name with
    | none =>
      refine Or.inl ⟨Or.inr ?_, rfl⟩
      intro part named
      simp [Part.ofName?_eq_some_iff.mpr named] at found
    | some part =>
      exact Or.inr ⟨part, content, Part.ofName?_eq_some_iff.mp found, rfl, rfl⟩

theorem Idle.textFault? (h : child.Idle) : child.textFault? = none := by
  unfold Child.textFault?
  split
  · rename_i named
    rcases h with empty | other
    · cases held : child.content with
      | none => rfl
      | some content =>
        obtain rfl : content = [] := by simpa [Child.content?, held] using empty
        exact escapeFault?_nil
    · obtain ⟨part, _, same⟩ := Part.mem_textNames_iff.mp named
      exact absurd (by rw [← same, String.toList_ofList]) (other part)
  · rfl

theorem Idle.contentFor? (h : child.Idle) (part : Part) :
    child.contentFor? part.title = none := by
  unfold Child.contentFor?
  split
  · rename_i named
    exact h.resolve_right fun other => other part named
  · rfl

theorem textFault?_eq {content : List Char} (named : child.name = part.title.toList)
    (held : child.content? = some content) :
    child.textFault? = if part = .responseData then none else escapeFault? content := by
  have text : child.content = some content := (Option.filter_eq_some_iff.mp held).1
  rw [textFault?, named, String.ofList_toList, text]
  by_cases data : part = .responseData
  · subst data
    rfl
  · rw [if_pos (Part.mem_textNames_iff.mpr ⟨part, data, rfl⟩), if_neg data]
    rfl

theorem applyChild_eq_error_iff :
    applyChild verdict child = .error e ↔ child.textFault? = some e := by
  rcases applyChild_cases verdict child with ⟨idle, same⟩ | ⟨part, content, named, held, sets⟩
  · rw [same, idle.textFault?]
    simp
  · rw [sets, textFault?_eq named held]
    by_cases data : part = .responseData
    · subst data
      simp [Part.text]
    · rw [if_neg data, Part.text_of_ne data, escapeFault?]
      cases unescape content <;> simp

/-- A child sets the part of its name to the text in its content, and no other part. -/
theorem get_applyChild (h : applyChild verdict child = .ok next) (part : Part) :
    part.get next = (child.contentFor? part.title).elim (part.get verdict) part.textOf := by
  rcases applyChild_cases verdict child with ⟨idle, same⟩ | ⟨other, content, named, held, sets⟩
  · obtain rfl : verdict = next := Except.ok.inj (same.symm.trans h)
    rw [idle.contentFor?]
    rfl
  · rw [sets] at h
    cases unescaped : other.text content with
    | error e => simp [unescaped] at h
    | ok text =>
      rw [unescaped] at h
      obtain rfl := Except.ok.inj h
      rw [Part.get_set, contentFor?, named, held]
      by_cases same : part = other
      · subst same
        simp [Part.textOf, unescaped, Except.toOption]
      · have differ : other.title.toList ≠ part.title.toList := fun titles =>
          same (Part.title_injective (String.toList_inj.mp titles.symm))
        rw [if_neg same, if_neg differ]
        rfl

variable {children : List Child}

theorem applyChildren_eq_error_iff :
    applyChildren verdict children = .error e ↔ children.findSome? textFault? = some e := by
  induction children generalizing verdict with
  | nil => simp [applyChildren]
  | cons child children ih =>
    rw [applyChildren, List.findSome?_cons]
    cases applied : applyChild verdict child with
    | error fault => simp [applyChild_eq_error_iff.mp applied]
    | ok next =>
      have sound : child.textFault? = none := by
        rw [Option.eq_none_iff_forall_ne_some]
        intro fault found
        simp [applyChild_eq_error_iff.mpr found] at applied
      rw [sound]
      exact ih

/-- The last child that sets a part has the last word on it. -/
theorem get_applyChildren (h : applyChildren verdict children = .ok next) (part : Part) :
    part.get next = (children.filterMap (contentFor? part.title)).getLast?.elim
      (part.get verdict) part.textOf := by
  induction children generalizing verdict with
  | nil =>
    obtain rfl := Except.ok.inj h
    rfl
  | cons child children ih =>
    rw [applyChildren] at h
    cases applied : applyChild verdict child with
    | error fault => simp [applied] at h
    | ok middle =>
      rw [applied] at h
      rw [ih h, get_applyChild applied, List.filterMap_cons]
      cases child.contentFor? part.title with
      | none => rfl
      | some content =>
        rw [List.getLast?_cons]
        cases (children.filterMap (contentFor? part.title)).getLast? <;> rfl

end Child

/-! ### The whole verdict -/

theorem verdict_ext {one other : Verdict} (h : ∀ part : Part, part.get one = part.get other) :
    one = other := by
  cases one
  cases other
  rw [Verdict.mk.injEq]
  exact ⟨h .transactionId, h .crossReference, h .rulesTripped, h .totalScore,
    h .recommendationCode, h .remarks, h .responseData⟩

theorem lastContent_eq (name : String) (items : List Item) :
    lastContent name items =
      ((items.filterMap child?).filterMap (Child.contentFor? name)).getLast? := by
  rw [lastContent, List.filterMap_filterMap]
  congr 2
  funext item
  exact Child.content?_eq_bind name item

theorem findSome?_textFault? (items : List Item) :
    (items.filterMap child?).findSome? Child.textFault? = items.findSome? textFault? := by
  induction items with
  | nil => rfl
  | cons item items ih =>
    rw [List.findSome?_cons, List.filterMap_cons, Child.textFault?_eq_bind]
    cases child? item with
    | none => exact ih
    | some child =>
      rw [List.findSome?_cons, ih]
      rfl

/-- The children of a root give the verdict that its items say, or the first fault in them. -/
theorem applyChildren_items (items : List Item) :
    applyChildren {} (items.filterMap child?) =
      match items.findSome? textFault? with
      | some e => .error e
      | none => .ok (verdictOf items) := by
  cases applied : applyChildren {} (items.filterMap child?) with
  | error e =>
    have fault := Child.applyChildren_eq_error_iff.mp applied
    rw [findSome?_textFault?] at fault
    rw [fault]
  | ok verdict =>
    have sound : items.findSome? textFault? = none := by
      rw [Option.eq_none_iff_forall_ne_some]
      intro e fault
      rw [← findSome?_textFault?] at fault
      simp [Child.applyChildren_eq_error_iff.mpr fault] at applied
    rw [sound]
    congr 1
    apply verdict_ext
    intro part
    rw [Child.get_applyChildren applied, Part.get_verdictOf, lastContent_eq]
    cases ((items.filterMap child?).filterMap (Child.contentFor? part.title)).getLast? with
    | none => cases part <;> rfl
    | some content => rfl

theorem ofList_eq_verdictRoot_iff {name : List Char} :
    String.ofList name = "transaction-results" ↔ name = verdictRoot :=
  ⟨fun same => String.toList_ofList.symm.trans (congrArg String.toList same),
    fun same => (congrArg String.ofList same).trans String.ofList_toList⟩

/-- What is read of a body with the root of a verdict is what the items in the root say. -/
theorem Body.Sound.readVerdict_text {body : Body} (sound : body.Sound)
    (named : String.ofList body.root.name = "transaction-results") {last : Outline}
    (added : Outline.addItems { root := some body.root.name } body.root.inside = .ok last) :
    readVerdict (String.ofList body.text) =
      match body.root.inside.findSome? textFault? with
      | some e => .error (.parse e.message)
      | none => .ok (verdictOf body.root.inside) := by
  obtain ⟨root, children⟩ := addItems_eq_ok added
  have results := ofList_eq_verdictRoot_iff.mp named
  rw [readVerdict, String.toList_ofList, sound.outline_text, added]
  simp only [Outline.verdict, root, children, results, if_true, List.nil_append]
  rw [applyChildren_items]
  cases body.root.inside.findSome? textFault? <;> rfl

/-- A well-formed body with the root of a verdict, in which the text directly in the root
unescapes, gives the verdict that its elements say. If the content of some text does not
unescape, it gives the first such fault. -/
theorem readVerdict_eq_verdictOf {body : Body} (formed : body.WellFormed)
    (named : String.ofList body.root.name = "transaction-results")
    (readable : ∀ chars, Item.text chars ∈ body.root.inside →
      ∃ text, unescape (Text.trimPlain chars) = .ok text) :
    readVerdict (String.ofList body.text) =
      match body.root.inside.findSome? textFault? with
      | some e => .error (.parse e.message)
      | none => .ok (verdictOf body.root.inside) := by
  obtain ⟨last, added⟩ := exists_addItems_iff.mpr readable
  exact formed.readVerdict_text named added

/-- A response with a recommendation to reject, one to accept inside the response data, and
remarks of which the last ones are blank. -/
def nestedBody : Body where
  before := [.aside "?xml version='1.0'?".toList, .text "\n".toList, .aside "!-- <a> --".toList]
  root := .closed "transaction-results a='x>y'".toList
    [.text "\n".toList,
      .element "recommendation-code".toList [.text " REJECT ".toList] "recommendation-code".toList,
      .element "responseData".toList
        [.element "recommendation-code".toList [.text "ACCEPT".toList]
          "recommendation-code".toList] "responseData".toList,
      .element "remarks".toList [.text "a &amp; b".toList] "remarks ".toList,
      .aside "![CDATA[<remarks>]]".toList,
      .element "remarks b".toList [.text " ".toList] "remarks".toList,
      .empty "recommendation-code".toList] "transaction-results".toList
  after := "<a".toList

theorem readVerdict_eq_verdictOf_nestedBody :
    nestedBody.WellFormed ∧
    readVerdict (String.ofList nestedBody.text) =
      .ok {
        recommendationCode := some "REJECT"
        remarks := some "a & b"
        responseData := some "<recommendation-code>ACCEPT</recommendation-code>" } := by
  have cut : Markup.pieces nestedBody.text =
      nestedBody.pieces ++ Markup.pieces nestedBody.after := by
    decide +kernel
  have matched : nestedBody.root.Matched := by
    simp [nestedBody, Root.Matched, Item.MatchedAll, Item.Matched]
    decide +kernel
  have formed : nestedBody.WellFormed :=
    ⟨.of_pieces cut (by simp [nestedBody, Item.isElement]) matched (Or.inl rfl), rfl⟩
  have named : String.ofList nestedBody.root.name = "transaction-results" := by decide +kernel
  have readable : ∀ chars, Item.text chars ∈ nestedBody.root.inside →
      ∃ text, unescape (Text.trimPlain chars) = .ok text := by
    intro chars mem
    have blank : chars = "\n".toList := by
      simpa [nestedBody, Root.inside] using mem
    rw [blank]
    exact ⟨[], by decide +kernel⟩
  have read := readVerdict_eq_verdictOf formed named readable
  have sound : nestedBody.root.inside.findSome? textFault? = none := by decide +kernel
  rw [sound] at read
  have verdict : verdictOf nestedBody.root.inside = {
      recommendationCode := some "REJECT"
      remarks := some "a & b"
      responseData := some "<recommendation-code>ACCEPT</recommendation-code>" } := by
    decide +kernel
  exact ⟨formed, read.trans (congrArg Except.ok verdict)⟩

end RiskScreen.Response
