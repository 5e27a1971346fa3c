import Mathlib.Data.List.Infix
import RiskScreen.Markup.Piece

/-!
# What is cut off after a `<`

A tag has no `>` outside quotes, and what stands aside has its close at its end and not
before. Exactly what has this form is cut off before a `>`.

## Implementation notes

Scanning stops at the first `>` that may close. So the form of what stands aside is stated
through its text: the closing word, with a `>` after it, does not come inside.
-/

namespace RiskScreen.Markup

/-! ### Tags -/

/-- From this quoting on, every quote is closed and no `>` stands outside quotes. -/
def Quoting.Encloses : Quoting → List Char → Prop
  | quoting, [] => quoting = .outside
  | quoting, c :: rest => ¬ (quoting = .outside ∧ c = '>') ∧ (quoting.next c).Encloses rest

/-- What stands in a tag that is no end tag. -/
structure IsTag (content : List Char) : Prop where
  encloses : Quoting.outside.Encloses content
  unmarked : ∀ c ∈ content.head?, c ≠ '!' ∧ c ≠ '?' ∧ c ≠ '/'

theorem IsTag.unmarked_of_append {content after rest : List Char} {c : Char} (h : IsTag content)
    (split : content ++ '>' :: after = c :: rest) : c ≠ '!' ∧ c ≠ '?' ∧ c ≠ '/' := by
  cases content with
  | nil =>
    obtain ⟨rfl, _⟩ := List.cons.inj split
    decide
  | cons d content =>
    obtain ⟨rfl, _⟩ := List.cons.inj split
    exact h.unmarked d rfl

theorem upToTagEnd_append {quoting : Quoting} {content : List Char}
    (h : quoting.Encloses content) (after : List Char) :
    upToTagEnd quoting (content ++ '>' :: after) = some (content, after) := by
  induction content generalizing quoting with
  | nil =>
    obtain rfl : quoting = .outside := h
    rfl
  | cons c content ih =>
    obtain ⟨stays, below⟩ := h
    rw [List.cons_append, upToTagEnd, if_neg (by simpa using stays), ih below]

theorem eq_append_of_upToTagEnd {quoting : Quoting} {text content after : List Char}
    (h : upToTagEnd quoting text = some (content, after)) :
    text = content ++ '>' :: after ∧ quoting.Encloses content := by
  fun_induction upToTagEnd quoting text generalizing content with
  | case1 => simp at h
  | case2 quoting c rest stops =>
    obtain ⟨rfl, rfl⟩ : [] = content ∧ rest = after := by simpa using h
    simp only [Bool.and_eq_true, decide_eq_true_eq] at stops
    obtain ⟨rfl, rfl⟩ := stops
    exact ⟨rfl, rfl⟩
  | case3 => simp at h
  | case4 quoting c rest stays inner last found ih =>
    obtain ⟨rfl, rfl⟩ : c :: inner = content ∧ last = after := by simpa using h
    obtain ⟨rfl, below⟩ := ih found
    exact ⟨rfl, by simpa using stays, below⟩

/-! ### What stands aside -/

/-- The content closes at its end, and at no `>` before. -/
def ClosedBy (closes : List Char → Bool) (content : List Char) : Prop :=
  closes content.reverse = true ∧
    ∀ front back, content = front ++ '>' :: back → closes front.reverse = false

theorem upToClose_append {closes : List Char → Bool} (reversed : List Char) {content : List Char}
    (closed : closes (content.reverse ++ reversed) = true)
    (open' : ∀ front back, content = front ++ '>' :: back →
      closes (front.reverse ++ reversed) = false) (after : List Char) :
    upToClose closes reversed (content ++ '>' :: after) =
      some (reversed.reverse ++ content, after) := by
  induction content generalizing reversed with
  | nil =>
    have stops : closes reversed = true := closed
    simp [upToClose, stops]
  | cons c content ih =>
    have stays : ¬ (c = '>' ∧ closes reversed = true) := by
      rintro ⟨rfl, closes⟩
      have := open' [] content rfl
      simp [closes] at this
    rw [List.cons_append, upToClose, if_neg (by simpa using stays), ih]
    · simp
    · simpa using closed
    · rintro front back rfl
      simpa using open' (c :: front) back rfl

theorem eq_append_of_upToClose {closes : List Char → Bool}
    {reversed text content after : List Char}
    (h : upToClose closes reversed text = some (content, after)) :
    ∃ inner, text = inner ++ '>' :: after ∧ content = reversed.reverse ++ inner ∧
      closes (inner.reverse ++ reversed) = true ∧
      ∀ front back, inner = front ++ '>' :: back → closes (front.reverse ++ reversed) = false := by
  fun_induction upToClose closes reversed text with
  | case1 => simp at h
  | case2 reversed c rest stops =>
    obtain ⟨rfl, rfl⟩ : reversed.reverse = content ∧ rest = after := by simpa using h
    simp only [Bool.and_eq_true, decide_eq_true_eq] at stops
    obtain ⟨rfl, closed⟩ := stops
    exact ⟨[], rfl, by simp, closed, by simp⟩
  | case3 reversed c rest stays ih =>
    obtain ⟨inner, rfl, rfl, closed, stayed⟩ := ih h
    refine ⟨c :: inner, rfl, by simp, by simpa using closed, ?_⟩
    rintro (_ | ⟨d, front⟩) back split
    · obtain ⟨rfl, rfl⟩ := List.cons.inj split
      simpa using stays
    · obtain ⟨rfl, rfl⟩ := List.cons.inj split
      simpa using stayed front back rfl

theorem cutAside_eq_iff {closes : List Char → Bool} {unclosed : MarkupError}
    {refusal : List Char → Option MarkupError} {text content after : List Char} :
    cutAside closes unclosed refusal text = (.aside content, after) ↔
      text = content ++ '>' :: after ∧ ClosedBy closes content ∧ refusal content = none := by
  unfold cutAside
  constructor
  · intro cut
    split at cut
    · simp [faulty] at cut
    · rename_i found rest closed
      split at cut
      · simp [faulty] at cut
      · rename_i accepted
        obtain ⟨rfl, rfl⟩ : found = content ∧ rest = after := by simpa using cut
        obtain ⟨inner, rfl, same, closed, stayed⟩ := eq_append_of_upToClose closed
        obtain rfl : found = inner := by simpa using same
        exact ⟨rfl, ⟨by simpa using closed, by simpa using stayed⟩, accepted⟩
  · rintro ⟨rfl, ⟨closed, stayed⟩, accepted⟩
    rw [upToClose_append [] (by simpa using closed) (by simpa using stayed)]
    simp [accepted]

/-- What stands aside, or nothing at all, is cut off. -/
theorem cutAside_cases (closes : List Char → Bool) (unclosed : MarkupError)
    (refusal : List Char → Option MarkupError) (text : List Char) :
    (∃ cause, cutAside closes unclosed refusal text = faulty cause) ∨
      ∃ content after, cutAside closes unclosed refusal text = (.aside content, after) := by
  unfold cutAside
  split
  · exact Or.inl ⟨_, rfl⟩
  · split
    · exact Or.inl ⟨_, rfl⟩
    · exact Or.inr ⟨_, _, rfl⟩

/-- A `>` after the closing word inside a text between an opening and a closing word is one
inside the text. -/
theorem exists_close_iff {opens text word : List Char} (h : '>' ∉ word) :
    (∃ front back, opens ++ (text ++ word) = opens ++ front ++ word ++ '>' :: back) ↔
      word ++ ['>'] <:+: text := by
  constructor
  · rintro ⟨front, back, split⟩
    simp only [List.append_assoc, List.append_cancel_left_eq] at split
    rw [← List.append_assoc front word] at split
    rcases List.append_eq_append_iff.mp split with ⟨extra, _, rest⟩ | ⟨extra, rfl, rest⟩
    · refine absurd ?_ h
      rw [rest]
      simp
    · cases extra with
      | nil =>
        refine absurd ?_ h
        rw [← List.nil_append word, ← rest]
        simp
      | cons c extra =>
        obtain ⟨rfl, _⟩ := List.cons.inj rest
        exact ⟨front, extra, by simp⟩
  · rintro ⟨front, back, rfl⟩
    exact ⟨front, back ++ word, by simp⟩

/-- Where closing means to end with a word after the opening one, a text closes first at its
end if the word with a `>` does not come earlier. -/
theorem closedBy_iff {closes : List Char → Bool} {opens word rest : List Char}
    (reads : ∀ front, front <+: opens ++ rest →
      (closes front.reverse = true ↔ ∃ inner, front = opens ++ inner ++ word))
    (notEnd : '>' ∉ word) :
    ClosedBy closes (opens ++ rest) ↔
      ∃ text, rest = text ++ word ∧ ¬ word ++ ['>'] <:+: text := by
  constructor
  · rintro ⟨closed, stayed⟩
    obtain ⟨text, split⟩ := (reads _ List.prefix_rfl).mp closed
    obtain rfl : rest = text ++ word := by simpa using split
    refine ⟨text, rfl, ?_⟩
    intro inside
    obtain ⟨front, back, again⟩ := (exists_close_iff notEnd).mpr inside
    have closedBefore := (reads (opens ++ front ++ word) ⟨_, again.symm⟩).mpr ⟨front, rfl⟩
    rw [stayed _ back again] at closedBefore
    simp at closedBefore
  · rintro ⟨text, rfl, stays⟩
    refine ⟨(reads _ List.prefix_rfl).mpr ⟨text, by simp⟩, ?_⟩
    intro front back split
    rw [Bool.eq_false_iff]
    intro closed
    obtain ⟨inner, rfl⟩ := (reads front ⟨_, split.symm⟩).mp closed
    exact stays ((exists_close_iff notEnd).mp ⟨inner, back, split⟩)

/-- What stands aside: a comment, a data section, an instruction or a declaration of a document
type. -/
inductive IsAside : List Char → Prop
  /-- `<!--text-->` -/
  | comment (text : List Char) (stays : ¬ "-->".toList <:+: text) :
      IsAside ("!--".toList ++ (text ++ "--".toList))
  /-- `<![CDATA[text]]>` -/
  | data (text : List Char) (stays : ¬ "]]>".toList <:+: text) :
      IsAside ("![CDATA[".toList ++ (text ++ "]]".toList))
  /-- `<?text?>` -/
  | instruction (text : List Char) (stays : ¬ "?>".toList <:+: '?' :: text) :
      IsAside ('?' :: text ++ "?".toList)
  /-- `<!DOCTYPE text>` -/
  | doctype (word text : List Char) (keyword : word.map Char.toLower = "!doctype".toList)
      (named : ∃ c ∈ text, Text.isPlainSpace c = false)
      (balanced : text.count '<' = text.count '>')
      (stays : ∀ front back, text = front ++ '>' :: back → front.count '<' ≠ front.count '>') :
      IsAside (word ++ text)

theorem closesComment_reverse_iff {front rest : List Char} (h : front <+: "!--".toList ++ rest) :
    closesComment front.reverse = true ↔
      ∃ inner, front = "!--".toList ++ inner ++ "--".toList := by
  constructor
  · intro closed
    unfold closesComment at closed
    split at closed
    · rename_i a b c others eq
      have split := congrArg List.reverse eq
      simp only [List.reverse_reverse, List.reverse_cons] at split
      have opens : "!--".toList <+: others.reverse ++ [c] ++ [b] ++ [a] := by
        refine List.prefix_of_prefix_length_le (List.prefix_append _ rest) ?_ (by simp)
        refine List.IsPrefix.trans ?_ h
        rw [split]
        exact ⟨['-', '-'], by simp⟩
      obtain ⟨inner, inside⟩ := opens
      exact ⟨inner, by rw [split, ← inside]; simp⟩
    · simp at closed
  · rintro ⟨inner, rfl⟩
    rw [List.reverse_append, List.reverse_append]
    rcases inner.reverse with _ | ⟨_, _ | ⟨_, _ | ⟨_, _⟩⟩⟩ <;> rfl

theorem closesData_reverse_iff {front rest : List Char}
    (h : front <+: "![CDATA[".toList ++ rest) :
    closesData front.reverse = true ↔
      ∃ inner, front = "![CDATA[".toList ++ inner ++ "]]".toList := by
  constructor
  · intro closed
    unfold closesData at closed
    split at closed
    · rename_i others eq
      have split := congrArg List.reverse eq
      simp only [List.reverse_reverse, List.reverse_cons] at split
      obtain ⟨after, whole⟩ := h
      rw [split, List.append_assoc, List.append_assoc] at whole
      rcases List.append_eq_append_iff.mp whole with ⟨extra, word, inside⟩ | ⟨inner, inside, _⟩
      · -- The opening word has no bracket that closes.
        cases extra with
        | nil => exact ⟨[], by rw [split, word]; simp⟩
        | cons c extra =>
          obtain ⟨rfl, _⟩ := List.cons.inj inside
          have bracket : ']' ∈ "![CDATA[".toList := by
            rw [word]
            simp
          simp at bracket
      · exact ⟨inner, by rw [split, inside]; simp⟩
    · simp at closed
  · rintro ⟨inner, rfl⟩
    simp [closesData]

theorem closesInstruction_reverse_iff {front : List Char} :
    closesInstruction front.reverse = true ↔ ∃ inner, front = [] ++ inner ++ "?".toList := by
  constructor
  · intro closed
    unfold closesInstruction at closed
    split at closed
    · rename_i others eq
      have split := congrArg List.reverse eq
      rw [List.reverse_reverse] at split
      exact ⟨others.reverse, by simp [split]⟩
    · simp at closed
  · rintro ⟨inner, rfl⟩
    simp [closesInstruction]

theorem closesDoctype_reverse_iff {front : List Char} :
    closesDoctype front.reverse = true ↔ front.count '<' = front.count '>' := by
  simp [closesDoctype]

/-! #### The four kinds -/

variable {content after : List Char}

theorem prefixRefusal_eq_none_iff {word : List Char} {cause : MarkupError} :
    (if word.isPrefixOf content then none else some cause) = none ↔
      ∃ rest, content = word ++ rest := by
  rw [ite_eq_left_iff]
  simp only [reduceCtorEq, imp_false, not_not, List.isPrefixOf_iff_prefix]
  exact ⟨fun ⟨rest, split⟩ => ⟨rest, split.symm⟩, fun ⟨rest, split⟩ => ⟨rest, split.symm⟩⟩

theorem commentRefusal_eq_none_iff :
    commentRefusal content = none ↔ ∃ rest, content = "!--".toList ++ rest :=
  prefixRefusal_eq_none_iff

theorem dataRefusal_eq_none_iff :
    dataRefusal content = none ↔ ∃ rest, content = "![CDATA[".toList ++ rest :=
  prefixRefusal_eq_none_iff

theorem closedBy_comment_iff (rest : List Char) :
    ClosedBy closesComment ("!--".toList ++ rest) ↔
      ∃ text, rest = text ++ "--".toList ∧ ¬ "-->".toList <:+: text :=
  closedBy_iff (fun _ => closesComment_reverse_iff) (by decide)

theorem closedBy_data_iff (rest : List Char) :
    ClosedBy closesData ("![CDATA[".toList ++ rest) ↔
      ∃ text, rest = text ++ "]]".toList ∧ ¬ "]]>".toList <:+: text :=
  closedBy_iff (fun _ => closesData_reverse_iff) (by decide)

theorem closedBy_instruction_iff :
    ClosedBy closesInstruction content ↔
      ∃ text, content = text ++ "?".toList ∧ ¬ "?>".toList <:+: text :=
  @closedBy_iff closesInstruction [] _ content (fun _ _ => closesInstruction_reverse_iff)
    (by decide)

/-- The letters of a keyword in lower case are none of the characters that a declaration
counts. -/
theorem not_mem_keyword {word : List Char} (h : word.map Char.toLower = "!doctype".toList) :
    '<' ∉ word ∧ '>' ∉ word := by
  constructor <;> intro mem <;> have lower := List.mem_map_of_mem (f := Char.toLower) mem <;>
    rw [h] at lower <;> revert lower <;> decide

theorem closedBy_doctype_iff {word text : List Char}
    (keyword : word.map Char.toLower = "!doctype".toList) :
    ClosedBy closesDoctype (word ++ text) ↔
      text.count '<' = text.count '>' ∧
        ∀ front back, text = front ++ '>' :: back → front.count '<' ≠ front.count '>' := by
  obtain ⟨less, greater⟩ := not_mem_keyword keyword
  have counts : ∀ front, closesDoctype (word ++ front).reverse = true ↔
      front.count '<' = front.count '>' := by
    intro front
    rw [closesDoctype_reverse_iff, List.count_append, List.count_append,
      List.count_eq_zero.mpr less, List.count_eq_zero.mpr greater, Nat.zero_add, Nat.zero_add]
  rw [ClosedBy, counts]
  apply and_congr_right'
  constructor
  · intro stayed front back split
    have := stayed (word ++ front) back (by simp [split])
    rw [Ne, ← counts, this]
    simp
  · intro stayed front back split
    rcases List.append_eq_append_iff.mp split with ⟨extra, rfl, rest⟩ | ⟨extra, inside, rest⟩
    · rw [Bool.eq_false_iff, Ne, counts]
      exact stayed extra back rest
    · cases extra with
      | nil => exact absurd rfl (stayed [] back rest.symm)
      | cons c extra =>
        obtain ⟨rfl, _⟩ := List.cons.inj rest
        exact absurd (by simp [inside]) greater

theorem doctypeRefusal_eq_none_iff :
    doctypeRefusal content = none ↔
      ∃ word text, content = word ++ text ∧ word.map Char.toLower = "!doctype".toList ∧
        ∃ c ∈ text, Text.isPlainSpace c = false := by
  unfold doctypeRefusal
  constructor
  · intro accepted
    split at accepted
    · simp at accepted
    · rename_i keyword
      split at accepted
      · simp at accepted
      · rename_i named
        exact ⟨content.take 8, content.drop 8, (List.take_append_drop 8 content).symm,
          not_not.mp keyword, by simpa using named⟩
  · rintro ⟨word, text, rfl, keyword, c, mem, named⟩
    have length : word.length = 8 := by
      rw [← List.length_map (f := Char.toLower), keyword]
      rfl
    rw [← length, List.take_left, List.drop_left, if_neg (not_not.mpr keyword), if_neg]
    rw [List.all_eq_true]
    intro blank
    have := blank c mem
    simp [named] at this

theorem toLower_eq_bang {c : Char} (h : c.toLower = '!') : c = '!' := by
  unfold Char.toLower at h
  split at h
  · rename_i upper
    have shifted : c.val + 32 = '!'.val := congrArg Char.val h
    have value : c.val = 1 :=
      (UInt32.add_sub_cancel c.val 32).symm.trans (congrArg (· - 32) shifted)
    rw [value] at upper
    exact absurd upper (by decide)
  · exact h

theorem toLower_eq_d {c : Char} (h : c.toLower = 'd') : c = 'D' ∨ c = 'd' := by
  unfold Char.toLower at h
  split at h
  · have shifted : c.val + 32 = 'd'.val := congrArg Char.val h
    have value : c.val = 'D'.val :=
      (UInt32.add_sub_cancel c.val 32).symm.trans (congrArg (· - 32) shifted)
    exact Or.inl (Char.ext value)
  · exact Or.inr h

theorem exists_keyword {word : List Char} (h : word.map Char.toLower = "!doctype".toList) :
    ∃ d rest, word = '!' :: d :: rest ∧ (d = 'D' ∨ d = 'd') := by
  rcases word with _ | ⟨c, _ | ⟨d, rest⟩⟩
  · simp at h
  · simp at h
  · obtain ⟨bang, below⟩ := List.cons.inj h
    obtain ⟨letter, _⟩ := List.cons.inj below
    obtain rfl := toLower_eq_bang bang
    exact ⟨d, rest, rfl, toLower_eq_d letter⟩

theorem isAside_of_doctype {text : List Char}
    (h : cutAside closesDoctype .doctypeNotClosed doctypeRefusal text = (.aside content, after)) :
    text = content ++ '>' :: after ∧ IsAside content := by
  obtain ⟨split, closed, accepted⟩ := cutAside_eq_iff.mp h
  obtain ⟨word, inner, rfl, keyword, named⟩ := doctypeRefusal_eq_none_iff.mp accepted
  obtain ⟨balanced, stays⟩ := (closedBy_doctype_iff keyword).mp closed
  exact ⟨split, IsAside.doctype word inner keyword named balanced stays⟩

theorem isAside_of_cutBang {text : List Char} (h : cutBang text = (.aside content, after)) :
    text = content ++ '>' :: after ∧ IsAside content := by
  unfold cutBang at h
  split at h
  · obtain ⟨split, closed, accepted⟩ := cutAside_eq_iff.mp h
    obtain ⟨rest, rfl⟩ := dataRefusal_eq_none_iff.mp accepted
    obtain ⟨inner, rfl, stays⟩ := (closedBy_data_iff rest).mp closed
    exact ⟨split, IsAside.data inner stays⟩
  · obtain ⟨split, closed, accepted⟩ := cutAside_eq_iff.mp h
    obtain ⟨rest, rfl⟩ := commentRefusal_eq_none_iff.mp accepted
    obtain ⟨inner, rfl, stays⟩ := (closedBy_comment_iff rest).mp closed
    exact ⟨split, IsAside.comment inner stays⟩
  · exact isAside_of_doctype h
  · exact isAside_of_doctype h
  · simp [faulty] at h

theorem cutBang_cases (text : List Char) :
    (∃ cause, cutBang text = faulty cause) ∨
      ∃ content after, cutBang text = (.aside content, after) := by
  unfold cutBang
  split
  · exact cutAside_cases _ _ _ _
  · exact cutAside_cases _ _ _ _
  · exact cutAside_cases _ _ _ _
  · exact cutAside_cases _ _ _ _
  · exact Or.inl ⟨_, rfl⟩

theorem isAside_of_instruction {text : List Char}
    (h : cutAside closesInstruction .instructionNotClosed instructionRefusal ('?' :: text) =
      (.aside content, after)) :
    '?' :: text = content ++ '>' :: after ∧ IsAside content := by
  obtain ⟨split, closed, accepted⟩ := cutAside_eq_iff.mp h
  obtain ⟨inner, rfl, stays⟩ := closedBy_instruction_iff.mp closed
  cases inner with
  | nil => simp [instructionRefusal] at accepted
  | cons c inner =>
    obtain ⟨rfl, _⟩ := List.cons.inj split
    exact ⟨split, IsAside.instruction inner stays⟩

theorem cutMarkup_aside (h : IsAside content) (after : List Char) :
    cutMarkup (content ++ '>' :: after) = (.aside content, after) := by
  cases h with
  | comment text stays =>
    refine cutAside_eq_iff.mpr ⟨rfl, ?_, commentRefusal_eq_none_iff.mpr ⟨_, rfl⟩⟩
    exact (closedBy_comment_iff _).mpr ⟨text, rfl, stays⟩
  | data text stays =>
    refine cutAside_eq_iff.mpr ⟨rfl, ?_, dataRefusal_eq_none_iff.mpr ⟨_, rfl⟩⟩
    exact (closedBy_data_iff _).mpr ⟨text, rfl, stays⟩
  | instruction text stays =>
    refine cutAside_eq_iff.mpr ⟨rfl, closedBy_instruction_iff.mpr ⟨_, rfl, stays⟩, ?_⟩
    simp [instructionRefusal]
  | doctype word text keyword named balanced stays =>
    have closed := (closedBy_doctype_iff keyword).mpr ⟨balanced, stays⟩
    have accepted := doctypeRefusal_eq_none_iff.mpr ⟨word, text, rfl, keyword, named⟩
    obtain ⟨d, rest, rfl, rfl | rfl⟩ := exists_keyword keyword
    · exact cutAside_eq_iff.mpr ⟨rfl, closed, accepted⟩
    · exact cutAside_eq_iff.mpr ⟨rfl, closed, accepted⟩

theorem cutMarkup_tag (h : IsTag content) (after : List Char) :
    cutMarkup (content ++ '>' :: after) = (tagPiece content, after) := by
  have ends := upToTagEnd_append h.encloses after
  unfold cutMarkup
  split
  · rename_i eq
    simp at eq
  · rename_i rest eq
    exact absurd rfl (h.unmarked_of_append eq).1
  · rename_i rest eq
    exact absurd rfl (h.unmarked_of_append eq).2.1
  · rename_i rest eq
    exact absurd rfl (h.unmarked_of_append eq).2.2
  · rw [ends]

theorem cutMarkup_closing (h : Quoting.outside.Encloses content) (after : List Char) :
    cutMarkup ('/' :: content ++ '>' :: after) = (.closing content, after) := by
  rw [List.cons_append, cutMarkup, upToTagEnd_append h]

end RiskScreen.Markup
