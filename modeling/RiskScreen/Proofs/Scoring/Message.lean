import RiskScreen.Proofs.Markup.Unescape
import RiskScreen.Proofs.Scoring.Verdict

/-!
# The message of a vendor

A body whose root is no verdict carries a message. That is the content of the first element
`message` directly in the root, or the last run of text directly in the root if there is no such
element, or if it is an empty-element tag. Where nothing is left after trimming, the body was
not expected at all.

## Implementation notes

`Outline.addItems_eq` says what is read of a root in one equation: the first run of text that
does not unescape decides, and else the children and the last run of text are what counts.
-/

namespace RiskScreen.Response

open Markup
open Item (sourceAll)

variable {outline : Outline} {items : List Item}

/-! ### Runs of text -/

/-- What a run of text says, unescaped and trimmed. Plain space alone says nothing. -/
def run? : Item → Option (List Char)
  | .text chars =>
      if chars.all Text.isPlainSpace then none else (unescape chars).toOption.map Text.trim
  | _ => none

/-- What the last run of text among the items says that says something. -/
def lastRun (items : List Item) : Option (List Char) :=
  (items.filterMap run?).getLast?

/-- Every run of text among the items unescapes. -/
def Readable (items : List Item) : Prop :=
  ∀ chars, Item.text chars ∈ items → ∃ text, unescape chars = .ok text

/-- Why a run of text does not unescape. -/
def runFault? : Item → Option Fault
  | .text chars =>
      match unescape (Text.trimPlain chars) with
      | .error e => some (.entity e)
      | .ok _ => none
  | _ => none

theorem isEmpty_trimPlain (chars : List Char) :
    (Text.trimPlain chars).isEmpty = chars.all Text.isPlainSpace := by
  rw [Bool.eq_iff_iff, List.isEmpty_iff, List.all_eq_true]
  exact Text.trimBoth_eq_nil_iff

theorem lastRun_cons (item : Item) (items : List Item) :
    lastRun (item :: items) = (lastRun items).or (run? item) := by
  rw [lastRun, lastRun, List.filterMap_cons]
  cases run? item with
  | none => simp
  | some text =>
    rw [List.getLast?_cons]
    cases (items.filterMap run?).getLast? <;> rfl

theorem runFault?_text_eq_none_iff {chars : List Char} :
    runFault? (.text chars) = none ↔ ∃ text, unescape chars = .ok text := by
  have same := congrArg Option.isSome (map_trim_unescape_trimPlain chars)
  rw [Option.isSome_map, Option.isSome_map] at same
  rw [runFault?]
  cases whole : unescape chars <;> cases trimmed : unescape (Text.trimPlain chars) <;>
    simp_all [Except.toOption]

theorem findSome?_runFault?_eq_none_iff :
    items.findSome? runFault? = none ↔ Readable items := by
  rw [List.findSome?_eq_none_iff]
  constructor
  · intro faultless chars mem
    exact runFault?_text_eq_none_iff.mp (faultless _ mem)
  · intro readable item mem
    cases item with
    | text chars => exact runFault?_text_eq_none_iff.mpr (readable chars mem)
    | _ => rfl

/-! ### What is read of a root -/

theorem Outline.addItem_eq (outline : Outline) (item : Item) :
    outline.addItem item =
      match runFault? item with
      | some e => .error e
      | none => .ok ⟨outline.root, outline.children ++ (child? item).toList,
          (run? item).or outline.text⟩ := by
  cases item with
  | text chars =>
    rw [Outline.addItem, Outline.addText, isEmpty_trimPlain]
    by_cases blank : chars.all Text.isPlainSpace = true
    · have nothing : Text.trimPlain chars = [] := by
        rwa [← isEmpty_trimPlain, List.isEmpty_iff] at blank
      simp [blank, nothing, runFault?, run?, child?, unescape, unescapeFrom]
    · cases trimmed : unescape (Text.trimPlain chars) with
      | error e => simp [blank, trimmed, runFault?]
      | ok text =>
        have said : run? (.text chars) = some (Text.trim text) := by
          rw [run?, if_neg blank, ← map_trim_unescape_trimPlain, trimmed]
          rfl
        simp [blank, trimmed, said, runFault?, child?]
  | aside content => simp [Outline.addItem, runFault?, child?, run?]
  | empty content => simp [Outline.addItem, Outline.addChild, runFault?, child?, run?]
  | element start inside stop =>
    simp [Outline.addItem, Outline.addChild, runFault?, child?, run?]

/-- The items of a root add their children and their last run of text, if every run unescapes. -/
theorem Outline.addItems_eq (outline : Outline) (items : List Item) :
    outline.addItems items =
      match items.findSome? runFault? with
      | some e => .error e
      | none => .ok ⟨outline.root, outline.children ++ items.filterMap child?,
          (lastRun items).or outline.text⟩ := by
  induction items generalizing outline with
  | nil => simp [Outline.addItems, lastRun]
  | cons item items ih =>
    rw [Outline.addItems, Outline.addItem_eq, List.findSome?_cons]
    cases runFault? item with
    | some e => rfl
    | none =>
      simp only [ih, lastRun_cons, Option.or_assoc, List.append_assoc, List.filterMap_cons]
      cases child? item <;> rfl

/-- What is read of a body is what is read of its root. -/
theorem Body.Sound.outline_eq {body : Body} (sound : body.Sound) :
    Response.outline body.text =
      match body.root.inside.findSome? runFault? with
      | some e => .error e
      | none => .ok ⟨some body.root.name, body.root.inside.filterMap child?,
          lastRun body.root.inside⟩ := by
  rw [sound.outline_text, Outline.addItems_eq]
  simp

/-! ### The reply of a vendor -/

/-- Whether the item is an element of this name. -/
def isCalled (name : String) : Item → Bool
  | .empty content => tagName content = name.toList
  | .element start _ _ => tagName start = name.toList
  | _ => false

/-- The failure of a body with this root, of which nothing is said. -/
def unexpected (root : String) : ScoringError :=
  .parse ("unexpected root element `" ++ root ++ "`")

/-- The failure of a body with this root whose text says this. -/
def textReply (root : String) : Option (List Char) → ScoringError
  | none => unexpected root
  | some text => if text = [] then unexpected root else .vendor (String.ofList text)

/-- The failure of a body with this root that is no verdict. The first `message` in the root
speaks, and if it is an empty-element tag or missing, the last run of text. -/
def vendorReply (root : String) (items : List Item) : ScoringError :=
  match items.find? (isCalled "message") with
  | some (.element _ inside _) =>
      let content := Text.trim (sourceAll inside)
      if content = [] then unexpected root
      else
        match unescape content with
        | .error e => .parse e.message
        | .ok text => .vendor (String.ofList text)
  | _ => textReply root (lastRun items)

theorem find?_message (items : List Item) :
    ((items.filterMap child?).find? fun child => child.name = messageName) =
      (items.find? (isCalled "message")).bind child? := by
  have same : (fun item => (child? item).any fun child => decide (child.name = messageName)) =
      isCalled "message" := by
    funext item
    cases item <;> rfl
  rw [List.find?_filterMap, same]

theorem Outline.message_of_element {root : Option (List Char)} {start stop : List Char}
    {inside : List Item}
    (found : items.find? (isCalled "message") = some (.element start inside stop)) :
    Outline.message ⟨root, items.filterMap child?, lastRun items⟩ =
      match unescape (Text.trim (sourceAll inside)) with
      | .error e => .error e
      | .ok text => .ok (some text) := by
  rw [Outline.message, find?_message, found]
  rfl

theorem Outline.message_of_text {root : Option (List Char)}
    (silent : ∀ start inside stop,
      items.find? (isCalled "message") ≠ some (.element start inside stop)) :
    Outline.message ⟨root, items.filterMap child?, lastRun items⟩ = .ok (lastRun items) := by
  rw [Outline.message, find?_message]
  cases found : items.find? (isCalled "message") with
  | none => rfl
  | some item =>
    cases item with
    | element start inside stop => exact absurd found (silent start inside stop)
    | _ => rfl

theorem Outline.verdict_of_message {root : List Char} (rooted : outline.root = some root)
    (other : root ≠ verdictRoot) {text? : Option (List Char)}
    (message : outline.message = .ok text?) :
    outline.verdict = .error (textReply (String.ofList root) text?) := by
  simp only [Outline.verdict, rooted, if_neg other, message]
  rcases text? with _ | ⟨_ | ⟨c, text⟩⟩ <;> rfl

/-- A root that is no verdict gives the reply of the vendor. -/
theorem Outline.verdict_eq_vendorReply {root : List Char} (other : root ≠ verdictRoot)
    (items : List Item) :
    Outline.verdict ⟨some root, items.filterMap child?, lastRun items⟩ =
      .error (vendorReply (String.ofList root) items) := by
  rw [vendorReply]
  split
  · rename_i start inside stop found
    have message : Outline.message ⟨some root, items.filterMap child?, lastRun items⟩ = _ :=
      Outline.message_of_element found
    cases unescaped : unescape (Text.trim (sourceAll inside)) with
    | error e =>
      have content : Text.trim (sourceAll inside) ≠ [] := by
        intro blank
        simp [blank, unescape, unescapeFrom] at unescaped
      rw [unescaped] at message
      simp only [Outline.verdict, if_neg other, message, unescaped, if_neg content]
    | ok text =>
      rw [unescaped] at message
      rw [Outline.verdict_of_message rfl other message, textReply]
      by_cases blank : Text.trim (sourceAll inside) = []
      · have nothing : text = [] := by
          simpa [blank, unescape, unescapeFrom] using unescaped.symm
        simp only [if_pos blank, if_pos nothing]
      · simp only [unescaped, if_neg blank, if_neg (unescape_ne_nil blank unescaped)]
  · rename_i silent
    exact Outline.verdict_of_message rfl other (Outline.message_of_text silent)

/-- What is read of a body, said through the items of its root alone. -/
theorem Body.Sound.readVerdict_eq {body : Body} (sound : body.Sound) :
    readVerdict (String.ofList body.text) =
      match body.root.inside.findSome? runFault? with
      | some e => .error (.parse e.message)
      | none =>
          if String.ofList body.root.name = "transaction-results" then
            match body.root.inside.findSome? textFault? with
            | some e => .error (.parse e.message)
            | none => .ok (verdictOf body.root.inside)
          else .error (vendorReply (String.ofList body.root.name) body.root.inside) := by
  cases faults : body.root.inside.findSome? runFault? with
  | some e =>
    rw [readVerdict, String.toList_ofList, sound.outline_eq, faults]
  | none =>
    simp only
    split
    · rename_i named
      have added := Outline.addItems_eq { root := some body.root.name } body.root.inside
      rw [faults] at added
      exact sound.readVerdict_text named added
    · rename_i other
      rw [readVerdict, String.toList_ofList, sound.outline_eq, faults]
      exact Outline.verdict_eq_vendorReply (mt ofList_eq_verdictRoot_iff.mpr other) _

/-- A well-formed body whose root is no verdict, in which the text directly in the root unescapes,
gives no verdict but the reply of the vendor. -/
theorem readVerdict_eq_vendorReply {body : Body} (formed : body.WellFormed)
    (other : String.ofList body.root.name ≠ "transaction-results")
    (readable : Readable body.root.inside) :
    readVerdict (String.ofList body.text) =
      .error (vendorReply (String.ofList body.root.name) body.root.inside) := by
  rw [formed.readVerdict_eq, findSome?_runFault?_eq_none_iff.mpr readable]
  simp only [if_neg other]

/-- A failure with two runs of text, a child that does not unescape and has a `message` of its own,
and two messages. -/
def invalidMerchant : Body where
  before := [.aside "?xml version='1.0'?".toList]
  root := .closed "error code='a>b'".toList
    [.text " first ".toList, .aside "!-- <message> --".toList, .text "second".toList,
      .element "detail".toList [.element "message".toList [.text "&".toList] "message".toList]
        "detail".toList,
      .element "message lang='en'".toList [.text " Invalid &lt;merchant&gt;\n".toList]
        "message ".toList,
      .element "message".toList [.text "later".toList] "message".toList] "error".toList
  after := "</error".toList

theorem readVerdict_eq_vendorReply_invalidMerchant :
    invalidMerchant.WellFormed ∧ Readable invalidMerchant.root.inside ∧
    readVerdict (String.ofList invalidMerchant.text) = .error (.vendor "Invalid <merchant>") := by
  have cut : Markup.pieces invalidMerchant.text =
      invalidMerchant.pieces ++ Markup.pieces invalidMerchant.after := by
    decide +kernel
  have matched : invalidMerchant.root.Matched := by
    simp [invalidMerchant, Root.Matched, Item.MatchedAll, Item.Matched]
    decide +kernel
  have formed : invalidMerchant.WellFormed :=
    ⟨.of_pieces cut (by simp [invalidMerchant, Item.isElement]) matched (Or.inl rfl), rfl⟩
  have readable : Readable invalidMerchant.root.inside :=
    findSome?_runFault?_eq_none_iff.mp (by decide +kernel)
  have other : String.ofList invalidMerchant.root.name ≠ "transaction-results" := by
    decide +kernel
  have reply : vendorReply (String.ofList invalidMerchant.root.name) invalidMerchant.root.inside =
      .vendor "Invalid <merchant>" := by
    decide +kernel
  exact ⟨formed, readable,
    (readVerdict_eq_vendorReply formed other readable).trans (congrArg Except.error reply)⟩

end RiskScreen.Response
