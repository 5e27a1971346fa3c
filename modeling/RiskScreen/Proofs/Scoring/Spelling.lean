import RiskScreen.Proofs.Scoring.Message

/-!
# Two spellings of an empty element

An element without content can be written as one tag or as two. For a verdict the spelling of a
child does not matter, and neither does that of the root. For the message of a vendor it
matters in one place: the first `message` in the root, written as two tags, has a content that
is empty, and this keeps the text of the root from being heard.
-/

namespace RiskScreen.Response

open Markup
open Item (sourceAll)

/-- One element of the other root is written as two tags where this root has one: a child of the
root, or the root itself. -/
inductive Root.Respelled : Root → Root → Prop
  | child (start : List Char) (front : List Item) (tag stop : List Char) (back : List Item)
      (last : List Char) :
      Respelled (.closed start (front ++ .empty tag :: back) last)
        (.closed start (front ++ .element tag [] stop :: back) last)
  | whole (tag stop : List Char) : Respelled (.empty tag) (.closed tag [] stop)

/-- The text of a root speaks for a vendor, as its first `message` is an empty-element tag. In the
other root this `message` has two tags. -/
structure Root.Silences (root other : Root) : Prop where
  vendor : String.ofList root.name ≠ "transaction-results"
  readable : Readable root.inside
  first : ∃ tag stop, root.inside.find? (isCalled "message") = some (.empty tag) ∧
    other.inside.find? (isCalled "message") = some (.element tag [] stop)
  spoken : ∃ text, lastRun root.inside = some text ∧ text ≠ []

namespace Root.Respelled

variable {root other : Root}

theorem name_eq (respelled : root.Respelled other) : other.name = root.name := by
  cases respelled <;> rfl

/-- What is looked at in both spellings alike is found in both roots alike. -/
theorem filterMap_eq {α : Type} (respelled : root.Respelled other) {look : Item → Option α}
    (same : ∀ tag stop, look (.element tag [] stop) = look (.empty tag)) :
    other.inside.filterMap look = root.inside.filterMap look := by
  cases respelled with
  | child start front tag stop back last =>
    simp only [Root.inside, List.filterMap_append, List.filterMap_cons, same]
  | whole tag stop => rfl

theorem findSome?_eq {α : Type} (respelled : root.Respelled other) {look : Item → Option α}
    (same : ∀ tag stop, look (.element tag [] stop) = look (.empty tag)) :
    other.inside.findSome? look = root.inside.findSome? look := by
  rw [← List.head?_filterMap, respelled.filterMap_eq same, List.head?_filterMap]

theorem verdictOf_eq (respelled : root.Respelled other) :
    verdictOf other.inside = verdictOf root.inside := by
  have same (name : String) : lastContent name other.inside = lastContent name root.inside := by
    rw [lastContent, respelled.filterMap_eq, lastContent]
    intro tag stop
    simp [content?, Text.trim_nil]
  simp only [verdictOf, lastText, same]

theorem textFault?_eq (respelled : root.Respelled other) :
    other.inside.findSome? textFault? = root.inside.findSome? textFault? := by
  apply respelled.findSome?_eq
  intro tag stop
  simp [textFault?, Text.trim_nil, escapeFault?_nil]

theorem runFault?_eq (respelled : root.Respelled other) :
    other.inside.findSome? runFault? = root.inside.findSome? runFault? :=
  respelled.findSome?_eq fun _ _ => rfl

theorem lastRun_eq (respelled : root.Respelled other) :
    lastRun other.inside = lastRun root.inside := by
  rw [lastRun, respelled.filterMap_eq fun _ _ => rfl, lastRun]

/-- The first `message` is the same in both roots, or it is the element that is written twice. -/
theorem find?_message_cases (respelled : root.Respelled other) :
    other.inside.find? (isCalled "message") = root.inside.find? (isCalled "message") ∨
      ∃ tag stop, root.inside.find? (isCalled "message") = some (.empty tag) ∧
        other.inside.find? (isCalled "message") = some (.element tag [] stop) := by
  cases respelled with
  | whole tag stop => exact Or.inl rfl
  | child start front tag stop back last =>
    simp only [Root.inside, List.find?_append]
    cases found : front.find? (isCalled "message") with
    | some item => exact Or.inl rfl
    | none =>
      simp only [Option.none_or]
      have same : isCalled "message" (.element tag [] stop) = isCalled "message" (.empty tag) := rfl
      by_cases named : isCalled "message" (.empty tag) = true
      · exact Or.inr ⟨tag, stop, List.find?_cons_of_pos named,
          List.find?_cons_of_pos (same.trans named)⟩
      · left
        rw [List.find?_cons_of_neg named, List.find?_cons_of_neg (same ▸ named)]

end Root.Respelled

/-! ### Replies -/

variable {name : String} {items others : List Item}

theorem vendorReply_congr
    (first : others.find? (isCalled "message") = items.find? (isCalled "message"))
    (run : lastRun others = lastRun items) : vendorReply name others = vendorReply name items := by
  rw [vendorReply, vendorReply, first, run]

/-- With one tag the message leaves the word to the text. -/
theorem vendorReply_of_empty {tag : List Char}
    (first : items.find? (isCalled "message") = some (.empty tag)) :
    vendorReply name items = textReply name (lastRun items) := by
  rw [vendorReply, first]

/-- With two tags the message says nothing, and the text is not heard. -/
theorem vendorReply_of_hollow {tag stop : List Char}
    (first : items.find? (isCalled "message") = some (.element tag [] stop)) :
    vendorReply name items = unexpected name := by
  rw [vendorReply, first]
  simp [Text.trim_nil]

theorem textReply_eq_unexpected_iff {text? : Option (List Char)} :
    textReply name text? = unexpected name ↔ ¬ ∃ text, text? = some text ∧ text ≠ [] := by
  rcases text? with _ | ⟨_ | ⟨c, text⟩⟩ <;> simp [textReply, unexpected]

/-- Where the first `message` has one tag here and two there, and the text says something, the
text is the message here and nothing is said there. -/
theorem Root.Silences.replies {root other : Root} (silences : root.Silences other)
    (name : String) :
    ∃ text, vendorReply name root.inside = .vendor text ∧
      vendorReply name other.inside = unexpected name := by
  obtain ⟨tag, stop, one, two⟩ := silences.first
  obtain ⟨text, spoken, nonempty⟩ := silences.spoken
  refine ⟨String.ofList text, ?_, vendorReply_of_hollow two⟩
  rw [vendorReply_of_empty one, spoken, textReply, if_neg nonempty]

/-- Two well-formed bodies that spell one empty element differently, a child of the root or the
root itself, give the same verdict or the same failure, with one exception. If the root is no
verdict, its text unescapes and says something, and the element is the first `message` in it, then
the text is the message of the vendor in one spelling and is passed over in the other. -/
theorem readVerdict_respelled_iff {before : List Item} {root other : Root} {after : List Char}
    (respelled : root.Respelled other) (formed : Body.WellFormed ⟨before, root, after⟩)
    (otherFormed : Body.WellFormed ⟨before, other, after⟩) :
    let first := readVerdict (String.ofList (Body.text ⟨before, root, after⟩))
    let second := readVerdict (String.ofList (Body.text ⟨before, other, after⟩))
    (first = second ↔ ¬ root.Silences other) ∧
      (root.Silences other → ∃ text, first = .error (.vendor text) ∧
        second = .error (unexpected (String.ofList root.name))) := by
  intro first second
  have read : first = _ := formed.readVerdict_eq
  have readOther : second = _ := otherFormed.readVerdict_eq
  simp only [respelled.name_eq, respelled.runFault?_eq, respelled.textFault?_eq,
    respelled.verdictOf_eq] at read readOther
  have exception : root.Silences other → ∃ text, first = .error (.vendor text) ∧
      second = .error (unexpected (String.ofList root.name)) := by
    intro silences
    obtain ⟨text, one, two⟩ := silences.replies (String.ofList root.name)
    rw [read, readOther, findSome?_runFault?_eq_none_iff.mpr silences.readable]
    exact ⟨text, by simp only [if_neg silences.vendor, one],
      by simp only [if_neg silences.vendor, two]⟩
  refine ⟨⟨?_, ?_⟩, exception⟩
  · intro same silences
    obtain ⟨text, one, two⟩ := exception silences
    rw [one, two] at same
    simp [unexpected] at same
  · intro heard
    rw [read, readOther]
    cases faults : root.inside.findSome? runFault? with
    | some e => rfl
    | none =>
      simp only
      split
      · rfl
      · rename_i vendor
        rcases respelled.find?_message_cases with same | ⟨tag, stop, one, two⟩
        · rw [vendorReply_congr same respelled.lastRun_eq]
        · have silent : ¬ ∃ text, lastRun root.inside = some text ∧ text ≠ [] := fun spoken =>
            heard ⟨vendor, findSome?_runFault?_eq_none_iff.mp faults, ⟨tag, stop, one, two⟩, spoken⟩
          rw [vendorReply_of_empty one, vendorReply_of_hollow two,
            textReply_eq_unexpected_iff.mpr silent]

/-! ### A root with text -/

/-- A root in which a vendor says that the service is suspended, and one element after that. -/
def suspended (child : Item) : Root :=
  .closed "error".toList [.text "Service suspended".toList, child] "error".toList

/-- An empty element of this name, as one tag. -/
def oneTag (name : String) : Item := .empty name.toList

/-- An empty element of this name, as two tags. -/
def twoTags (name : String) : Item := .element name.toList [] name.toList

theorem respelled_suspended (name : String) :
    (suspended (oneTag name)).Respelled (suspended (twoTags name)) :=
  .child "error".toList [.text "Service suspended".toList] name.toList name.toList [] "error".toList

theorem wellFormed_suspended {child : Item} (matched : child.Matched)
    (cut : Markup.pieces (Body.text ⟨[], suspended child, []⟩) =
      Body.pieces ⟨[], suspended child, []⟩) : Body.WellFormed ⟨[], suspended child, []⟩ := by
  have root : closingName "error".toList = tagName "error".toList := by decide
  have ended : Markup.pieces [] = [] := by rw [Markup.pieces]
  refine ⟨.of_pieces ?_ (List.forall_mem_nil _) ⟨root, trivial, matched, trivial⟩ (Or.inl rfl), rfl⟩
  rw [cut, ended, List.append_nil]

theorem readVerdict_respelled_iff_code :
    Body.WellFormed ⟨[], suspended (oneTag "code"), []⟩ ∧
    Body.WellFormed ⟨[], suspended (twoTags "code"), []⟩ ∧
    readVerdict (String.ofList (Body.text ⟨[], suspended (oneTag "code"), []⟩)) =
      readVerdict (String.ofList (Body.text ⟨[], suspended (twoTags "code"), []⟩)) := by
  have formed : Body.WellFormed ⟨[], suspended (oneTag "code"), []⟩ :=
    wellFormed_suspended trivial (by decide +kernel)
  have otherFormed : Body.WellFormed ⟨[], suspended (twoTags "code"), []⟩ :=
    wellFormed_suspended ⟨by decide, trivial⟩ (by decide +kernel)
  have silent : ((suspended (oneTag "code")).inside.find? (isCalled "message")).isSome = false := by
    decide
  have heard : ¬ (suspended (oneTag "code")).Silences (suspended (twoTags "code")) := by
    rintro ⟨-, -, ⟨tag, stop, first, -⟩, -⟩
    simp [first] at silent
  exact ⟨formed, otherFormed,
    (readVerdict_respelled_iff (respelled_suspended "code") formed otherFormed).1.mpr heard⟩

/-- The spelling of `message` decides whether the vendor is heard. -/
theorem readVerdict_respelled_message :
    (suspended (oneTag "message")).Respelled (suspended (twoTags "message")) ∧
    Body.WellFormed ⟨[], suspended (oneTag "message"), []⟩ ∧
    Body.WellFormed ⟨[], suspended (twoTags "message"), []⟩ ∧
    Body.text ⟨[], suspended (oneTag "message"), []⟩ =
      "<error>Service suspended<message/></error>".toList ∧
    Body.text ⟨[], suspended (twoTags "message"), []⟩ =
      "<error>Service suspended<message></message></error>".toList ∧
    readVerdict "<error>Service suspended<message/></error>" =
      .error (.vendor "Service suspended") ∧
    readVerdict "<error>Service suspended<message></message></error>" =
      .error (.parse "unexpected root element `error`") := by
  refine ⟨respelled_suspended "message", wellFormed_suspended trivial (by decide +kernel),
    wellFormed_suspended ⟨by decide, trivial⟩ (by decide +kernel), ?_, ?_, ?_, ?_⟩
  all_goals decide +kernel

end RiskScreen.Response
