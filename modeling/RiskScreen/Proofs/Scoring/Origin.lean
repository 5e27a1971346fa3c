import RiskScreen.Proofs.Markup.Escape
import RiskScreen.Proofs.Scoring.Verdict

/-!
# Where a verdict comes from

Whatever the body, complete or cut off, a verdict that is read from it comes from its first
element: this is called `transaction-results`, and each part of the verdict is the text of an
element directly in it. No verdict means that the body was not understood, or that it carries a
message of the vendor.
-/

namespace RiskScreen.Response

open Markup

/-- Some element among the items has the name of the part, and its trimmed content is the text:
as it stands for the response data, unescaped for all else. -/
def Gives (items : List Item) (part : Part) (text : String) : Prop :=
  ∃ item ∈ items, ∃ content, content? part.title item = some content ∧
    if part = .responseData then text.toList = content else unescape content = .ok text.toList

/-- The verdict was read from the root of the body, taken apart as `found`. -/
structure Origin (body : String) (verdict : Verdict) (found : Body) : Prop where
  sound : found.Sound
  whole : String.ofList found.text = body
  named : String.ofList found.root.name = "transaction-results"
  parts : ∀ part text, Part.get part verdict = some text →
    text ≠ "" ∧ Gives found.root.inside part text
  rejection : verdict.recommendsRejection = true →
    Gives found.root.inside .recommendationCode "REJECT"

theorem content?_ne_nil {name : String} {item : Item} {content : List Char}
    (h : content? name item = some content) : content ≠ [] := by
  cases item with
  | element start inside stop =>
    rw [content?] at h
    split at h
    · have kept := (Option.filter_eq_some_iff.mp h).2
      simpa using kept
    · simp at h
  | _ => simp [content?] at h

theorem exists_content?_of_lastContent {name : String} {items : List Item} {content : List Char}
    (h : lastContent name items = some content) :
    ∃ item ∈ items, content? name item = some content :=
  List.mem_filterMap.mp (List.mem_of_getLast? h)

/-- A part that is present comes from an element, and is not empty. -/
theorem gives_of_get_verdictOf {part : Part} {items : List Item} {text : String}
    (h : part.get (verdictOf items) = some text) : text ≠ "" ∧ Gives items part text := by
  rw [Part.get_verdictOf] at h
  obtain ⟨content, last, read⟩ := Option.bind_eq_some_iff.mp h
  obtain ⟨item, mem, held⟩ := exists_content?_of_lastContent last
  have nonempty := content?_ne_nil held
  obtain ⟨plain, stands, rfl⟩ : ∃ plain, part.text content = .ok plain ∧
      String.ofList plain = text := by
    cases stands : part.text content with
    | error e => simp [Part.textOf, stands, Except.toOption] at read
    | ok plain => exact ⟨plain, rfl, by simpa [Part.textOf, stands, Except.toOption] using read⟩
  have plainNonempty : plain ≠ [] := by
    by_cases data : part = .responseData
    · subst data
      obtain rfl : content = plain := Except.ok.inj stands
      exact nonempty
    · rw [Part.text_of_ne data] at stands
      exact unescape_ne_nil nonempty stands
  refine ⟨?_, item, mem, content, held, ?_⟩
  · rw [Ne, String.ofList_eq_empty_iff]
    exact plainNonempty
  · rw [String.toList_ofList]
    split
    · rename_i data
      subst data
      exact (Except.ok.inj stands).symm
    · rename_i other
      rw [← stands, Part.text_of_ne other]

theorem root_of_verdict_eq_ok {outline : Outline} {verdict : Verdict}
    (h : outline.verdict = .ok verdict) : outline.root = some verdictRoot := by
  unfold Outline.verdict at h
  split at h
  · simp at h
  · rename_i root rooted
    split at h
    · rename_i results
      rw [rooted, results]
    · split at h
      · simp at h
      · split at h <;> simp at h

/-- An outline without a verdict was not understood, or it carries a message. -/
theorem verdict_eq_error {outline : Outline} {e : ScoringError} (h : outline.verdict = .error e) :
    (∃ reason, e = .parse reason) ∨ ∃ message, e = .vendor message ∧ message ≠ "" := by
  unfold Outline.verdict at h
  split at h
  · exact Or.inl ⟨_, (Except.error.inj h).symm⟩
  · split at h
    · split at h
      · exact Or.inl ⟨_, (Except.error.inj h).symm⟩
      · simp at h
    · split at h
      · exact Or.inl ⟨_, (Except.error.inj h).symm⟩
      · split at h
        · rename_i message kept
          refine Or.inr ⟨_, (Except.error.inj h).symm, ?_⟩
          rw [Ne, String.ofList_eq_empty_iff]
          simpa using (Option.filter_eq_some_iff.mp kept).2
        · exact Or.inl ⟨_, (Except.error.inj h).symm⟩

/-- A verdict is read from exactly the bodies with the root of a verdict in which all texts
unescape, and it is what the items in the root say. -/
theorem readVerdict_eq_ok_iff {body : String} {verdict : Verdict} :
    readVerdict body = .ok verdict ↔
      ∃ found : Body, found.Sound ∧ String.ofList found.text = body ∧
        String.ofList found.root.name = "transaction-results" ∧
        (∀ chars, Item.text chars ∈ found.root.inside →
          ∃ text, unescape (Text.trimPlain chars) = .ok text) ∧
        found.root.inside.findSome? textFault? = none ∧ verdict = verdictOf found.root.inside := by
  constructor
  · intro read
    cases outlined : outline body.toList with
    | error e => simp [readVerdict, outlined] at read
    | ok last =>
      have judged := read
      rw [readVerdict, outlined] at judged
      have rooted := root_of_verdict_eq_ok judged
      obtain ⟨found, sound, text⟩ := exists_body outlined (by simp [rooted])
      have whole : String.ofList found.text = body := by rw [text, String.ofList_toList]
      have added := sound.outline_text.symm.trans (text ▸ outlined)
      have name : found.root.name = verdictRoot :=
        Option.some.inj ((addItems_eq_ok added).1.symm.trans rooted)
      have named := ofList_eq_verdictRoot_iff.mpr name
      rw [← whole, sound.readVerdict_text named added] at read
      split at read
      · simp at read
      · rename_i faultless
        exact ⟨found, sound, whole, named, exists_addItems_iff.mp ⟨last, added⟩, faultless,
          (Except.ok.inj read).symm⟩
  · rintro ⟨found, sound, rfl, named, readable, faultless, rfl⟩
    obtain ⟨last, added⟩ := exists_addItems_iff.mpr readable
    rw [sound.readVerdict_text named added, faultless]

/-- A verdict that is read from a body has its origin in the root of the body. -/
theorem exists_origin {body : String} {verdict : Verdict} (h : readVerdict body = .ok verdict) :
    ∃ found, Origin body verdict found := by
  obtain ⟨found, sound, whole, named, -, -, rfl⟩ := readVerdict_eq_ok_iff.mp h
  refine ⟨found, sound, whole, named, fun part text => gives_of_get_verdictOf, ?_⟩
  intro rejects
  have code : Part.get .recommendationCode (verdictOf found.root.inside) = some "REJECT" :=
    of_decide_eq_true rejects
  exact (gives_of_get_verdictOf code).2

/-- Whatever the body, a verdict comes from the children of its first element, and a failure is
one to understand the body or a message of the vendor. -/
theorem readVerdict_origin (body : String) :
    match readVerdict body with
    | .ok verdict => ∃ found, Origin body verdict found
    | .error e =>
        (∃ reason, e = .parse reason) ∨ ∃ message, e = .vendor message ∧ message ≠ "" := by
  cases read : readVerdict body with
  | ok verdict => exact exists_origin read
  | error e =>
    rw [readVerdict] at read
    split at read
    · exact Or.inl ⟨_, (Except.error.inj read).symm⟩
    · exact verdict_eq_error read

/-- A response that breaks off in its root, after a child that is complete. -/
def cutOffBody : String :=
  "<transaction-results><recommendation-code> REJECT\n</recommendation-code><!-- -->a"

theorem readVerdict_origin_cutOffBody :
    ∃ verdict found, readVerdict cutOffBody = .ok verdict ∧
      verdict.recommendsRejection = true ∧ Origin cutOffBody verdict found := by
  have read : (readVerdict cutOffBody).toOption =
      some { recommendationCode := some "REJECT" } := by
    decide +kernel
  have origin := readVerdict_origin cutOffBody
  cases outcome : readVerdict cutOffBody with
  | error e => simp [outcome, Except.toOption] at read
  | ok verdict =>
    rw [outcome] at read origin
    obtain rfl := Option.some.inj read
    obtain ⟨found, origin⟩ := origin
    exact ⟨_, found, rfl, rfl, origin⟩

end RiskScreen.Response
