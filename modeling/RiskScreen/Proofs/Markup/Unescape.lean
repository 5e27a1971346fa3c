import RiskScreen.Proofs.Markup.Escape
import RiskScreen.Proofs.Text.Trim

/-!
# Unescaping and white space

An escaped text is a row of characters that stand for themselves and of entities. Plain space
is neither part of an entity nor the start of one, so that it can be taken off the ends before
or after unescaping.

## Implementation notes

Positions in the text serve the errors alone. `Unescapes` leaves them out: it relates a text to
what it stands for.
-/

namespace RiskScreen.Markup

/-- The escaped text stands for the plain one. -/
inductive Unescapes : List Char → List Char → Prop
  | nil : Unescapes [] []
  | char {c : Char} {text plain : List Char} (ordinary : c ≠ '&')
      (rest : Unescapes text plain) : Unescapes (c :: text) (c :: plain)
  | entity {c : Char} {name text plain : List Char} (inside : name.all insideEntity = true)
      (named : charOfEntity 0 name = .ok c) (rest : Unescapes text plain) :
      Unescapes ('&' :: (name ++ ';' :: text)) (c :: plain)

variable {total position : Nat} {front text back plain : List Char}

/-! ### Positions -/

theorem charOfEntity_eq_ok {start other : Nat} {name : List Char} {c : Char}
    (h : charOfEntity start name = .ok c) : charOfEntity other name = .ok c := by
  unfold charOfEntity at h ⊢
  split at h
  · exact h
  · split at h
    · exact h
    · simp at h

theorem Unescapes.of_unescapeFrom (h : unescapeFrom total position text = .ok plain) :
    Unescapes text plain := by
  fun_induction unescapeFrom total position text generalizing plain with
  | case1 =>
    obtain rfl := Except.ok.inj h
    exact .nil
  | case4 position rest after closes name c named chars below =>
    rename_i ih
    obtain rfl := Except.ok.inj h
    have whole : rest = rest.takeWhile insideEntity ++ ';' :: after := by
      rw [← closes, List.takeWhile_append_dropWhile]
    rw [whole]
    exact .entity List.all_takeWhile (charOfEntity_eq_ok named) (ih below)
  | case7 position c rest ordinary chars below ih =>
    obtain rfl := Except.ok.inj h
    exact .char ordinary (ih below)
  | _ => simp at h

theorem Unescapes.unescapeFrom_eq (h : Unescapes text plain) (total position : Nat) :
    unescapeFrom total position text = .ok plain := by
  induction h generalizing position with
  | nil => rw [unescapeFrom]
  | char ordinary _ ih => rw [unescapeFrom, if_neg ordinary, ih]
  | @entity c name text plain inside named _ ih =>
    obtain ⟨taken, dropped⟩ := span_insideEntity inside text
    rw [unescapeFrom, if_pos rfl]
    split
    · rename_i after eq
      rw [dropped] at eq
      obtain rfl := (List.cons.inj eq).2
      simp only [taken, charOfEntity_eq_ok named, ih]
    · rename_i absent
      exact absurd dropped (absent text)

theorem unescape_eq_ok_iff : unescape text = .ok plain ↔ Unescapes text plain :=
  ⟨.of_unescapeFrom, fun h => h.unescapeFrom_eq _ _⟩

/-! ### Characters at the ends -/

namespace Unescapes

/-- Without an `&` a text stands for itself. -/
theorem self (h : ∀ c ∈ text, c ≠ '&') : Unescapes text text := by
  induction text with
  | nil => exact .nil
  | cons c text ih =>
    obtain ⟨ordinary, others⟩ := List.forall_mem_cons.mp h
    exact .char ordinary (ih others)

theorem append {inner other : List Char} (first : Unescapes front inner)
    (second : Unescapes text other) : Unescapes (front ++ text) (inner ++ other) := by
  induction first with
  | nil => exact second
  | char ordinary _ ih => exact .char ordinary ih
  | entity inside named _ ih =>
    rw [List.cons_append, List.append_assoc]
    exact .entity inside named ih

/-- What comes before stands for itself if no entity begins there. -/
theorem of_append_left (h : Unescapes (front ++ text) plain) (ordinary : ∀ c ∈ front, c ≠ '&') :
    ∃ inner, plain = front ++ inner ∧ Unescapes text inner := by
  induction front generalizing plain with
  | nil => exact ⟨plain, rfl, h⟩
  | cons c front ih =>
    obtain ⟨first, others⟩ := List.forall_mem_cons.mp ordinary
    rw [List.cons_append] at h
    generalize whole : front ++ text = source at h
    cases h with
    | char _ rest =>
      obtain ⟨inner, rfl, below⟩ := ih (whole ▸ rest) others
      exact ⟨inner, rfl, below⟩
    | entity _ _ _ => exact absurd rfl first

/-- What comes after stands for itself if no entity begins or ends there. -/
theorem of_append_right (h : Unescapes (text ++ back) plain)
    (apart : ∀ c ∈ back, insideEntity c = true) :
    ∃ inner, plain = inner ++ back ∧ Unescapes text inner := by
  have alone : ∀ plain, Unescapes back plain → plain = [] ++ back ∧ Unescapes [] [] := by
    intro plain h
    have ordinary : ∀ c ∈ back, c ≠ '&' := by
      rintro c mem rfl
      exact absurd (apart _ mem) (by decide)
    rw [← List.append_nil back] at h
    obtain ⟨inner, rfl, none⟩ := h.of_append_left ordinary
    cases none
    exact ⟨List.append_nil back, .nil⟩
  generalize whole : text ++ back = source at h
  induction h generalizing text with
  | nil =>
    obtain ⟨rfl, rfl⟩ := List.append_eq_nil_iff.mp whole
    exact ⟨[], rfl, .nil⟩
  | @char c source plain ordinary rest ih =>
    rcases List.append_eq_cons_iff.mp whole with ⟨rfl, rfl⟩ | ⟨text, rfl, rfl⟩
    · exact ⟨[], alone _ (.char ordinary rest)⟩
    · obtain ⟨inner, rfl, below⟩ := ih rfl
      exact ⟨c :: inner, rfl, .char ordinary below⟩
  | @entity c name source plain inside named rest ih =>
    -- The entity ends in a `;`, so that all of it comes before `back`.
    have split : text ++ back = '&' :: (name ++ [';']) ++ source := by
      simpa using whole
    obtain ⟨extra, rfl, rfl⟩ : ∃ extra, text = '&' :: (name ++ [';']) ++ extra ∧
        source = extra ++ back := by
      rcases List.append_eq_append_iff.mp split with ⟨extra, start, after⟩ | later
      · rcases List.eq_nil_or_concat extra with rfl | ⟨front, last, rfl⟩
        · exact ⟨[], by simp [start], after.symm⟩
        · have last : ';' = last := by
            simpa [List.getLast?_cons] using congrArg List.getLast? start
          have mem : ';' ∈ back := by
            rw [after, last]
            simp
          exact absurd (apart _ mem) (by decide)
      · exact later
    obtain ⟨inner, rfl, below⟩ := ih rfl
    refine ⟨c :: inner, rfl, ?_⟩
    simpa using Unescapes.entity inside named below

end Unescapes

/-! ### Space at the ends -/

/-- Taking plain space off the ends of an escaped text takes the same space off what it stands
for. -/
theorem exists_unescape_eq_append (text : List Char) :
    ∃ front back, (∀ c ∈ front, Text.isBlank c = true) ∧ (∀ c ∈ back, Text.isBlank c = true) ∧
      (∀ inner, unescape (Text.trimPlain text) = .ok inner →
        unescape text = .ok (front ++ inner ++ back)) ∧
      ∀ plain, unescape text = .ok plain →
        ∃ inner, unescape (Text.trimPlain text) = .ok inner := by
  obtain ⟨front, back, whole, before, after⟩ := Text.exists_eq_trimBoth Text.isPlainSpace text
  have inside : ∀ c, Text.isPlainSpace c = true → insideEntity c = true ∧ c ≠ '&' := by
    intro c plain
    have ordinary : c ≠ '&' ∧ c ≠ ';' := by
      constructor <;> rintro rfl <;> exact absurd plain (by decide)
    exact ⟨by simp [insideEntity, ordinary], ordinary.1⟩
  have frontSelf : Unescapes front front := .self fun c mem => (inside c (before c mem)).2
  have backSelf : Unescapes back back := .self fun c mem => (inside c (after c mem)).2
  refine ⟨front, back, fun c mem => Text.isBlank_of_isPlainSpace (before c mem),
    fun c mem => Text.isBlank_of_isPlainSpace (after c mem), ?_, ?_⟩
  · intro inner h
    rw [unescape_eq_ok_iff] at h ⊢
    rw [whole]
    exact (frontSelf.append h).append backSelf
  · intro plain h
    rw [unescape_eq_ok_iff, whole] at h
    obtain ⟨most, -, started⟩ := h.of_append_right fun c mem => (inside c (after c mem)).1
    obtain ⟨inner, -, trimmed⟩ := started.of_append_left fun c mem => (inside c (before c mem)).2
    exact ⟨inner, unescape_eq_ok_iff.mpr trimmed⟩

/-- Whether plain space is taken off before unescaping makes no difference to the trimmed text. -/
theorem map_trim_unescape_trimPlain (text : List Char) :
    (unescape (Text.trimPlain text)).toOption.map Text.trim =
      (unescape text).toOption.map Text.trim := by
  obtain ⟨front, back, before, after, outer, inner⟩ := exists_unescape_eq_append text
  cases trimmed : unescape (Text.trimPlain text) with
  | ok plain =>
    rw [outer plain trimmed]
    have same : Text.trim (front ++ plain ++ back) = Text.trim plain :=
      (Text.trimBoth_append_right after _).trans (Text.trimBoth_append_left before plain)
    simp only [Except.toOption, Option.map_some, same]
  | error e =>
    cases whole : unescape text with
    | error cause => rfl
    | ok plain =>
      obtain ⟨other, found⟩ := inner plain whole
      simp [trimmed] at found

end RiskScreen.Markup
