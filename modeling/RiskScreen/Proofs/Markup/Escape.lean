import RiskScreen.Markup.Entity
import RiskScreen.Markup.Piece

/-!
# Escaped text

Escaping writes the five characters that markup gives a meaning as entities. What is written
so holds no `<`, so that it is one run of text, and unescaping gives the text back.
-/

namespace RiskScreen.Markup

/-- A character that stands for itself is neither the start of a tag nor of an entity. -/
theorem escapeChar_cases (c : Char) :
    (∃ name, escapeChar c = '&' :: (name ++ [';']) ∧ predefined? name = some c ∧
      name.all insideEntity = true ∧ name.all isTextChar = true) ∨
    (escapeChar c = [c] ∧ c ≠ '&' ∧ c ≠ '<') := by
  unfold escapeChar
  split
  · exact Or.inl ⟨"lt".toList, by decide⟩
  · exact Or.inl ⟨"gt".toList, by decide⟩
  · exact Or.inl ⟨"amp".toList, by decide⟩
  · exact Or.inl ⟨"apos".toList, by decide⟩
  · exact Or.inl ⟨"quot".toList, by decide⟩
  · rename_i less _ ampersand _ _
    exact Or.inr ⟨rfl, ampersand, less⟩

theorem all_isTextChar_escape (text : List Char) : (escape text).all isTextChar = true := by
  induction text with
  | nil => rfl
  | cons c text ih =>
    rw [escape_cons, List.all_append, ih, Bool.and_true]
    rcases escapeChar_cases c with ⟨name, written, _, _, plain⟩ | ⟨written, _, less⟩
    · rw [written, List.all_cons, List.all_append, plain]
      decide
    · rw [written]
      simpa [isTextChar] using less

theorem escape_ne_nil {text : List Char} (h : text ≠ []) : escape text ≠ [] := by
  cases text with
  | nil => exact absurd rfl h
  | cons c text =>
    rw [escape_cons]
    rcases escapeChar_cases c with ⟨name, written, _⟩ | ⟨written, _⟩ <;> simp [written]

/-- A name between `&` and `;` is read as one entity. -/
theorem span_insideEntity {name : List Char} (h : name.all insideEntity = true)
    (rest : List Char) :
    (name ++ ';' :: rest).takeWhile insideEntity = name ∧
      (name ++ ';' :: rest).dropWhile insideEntity = ';' :: rest := by
  have stops : insideEntity ';' = false := by decide
  rw [List.all_eq_true] at h
  rw [List.takeWhile_append_of_pos h, List.dropWhile_append_of_pos h]
  simp [stops]

theorem charOfEntity_predefined {name : List Char} {c : Char} (h : predefined? name = some c)
    (start : Nat) : charOfEntity start name = .ok c := by
  unfold charOfEntity
  split
  · rename_i reference
    simp [predefined?] at h
  · rw [h]

theorem unescapeFrom_escape (total position : Nat) (text : List Char) :
    unescapeFrom total position (escape text) = .ok text := by
  induction text generalizing position with
  | nil =>
    rw [escape_nil, unescapeFrom]
  | cons c text ih =>
    rw [escape_cons]
    rcases escapeChar_cases c with ⟨name, written, entity, inside, _⟩ | ⟨written, ampersand, _⟩
    · obtain ⟨taken, dropped⟩ := span_insideEntity inside (escape text)
      rw [written, List.cons_append, List.append_assoc, List.singleton_append, unescapeFrom]
      simp only [if_true]
      split
      · rename_i after eq
        rw [dropped] at eq
        obtain rfl := (List.cons.inj eq).2
        rw [taken, charOfEntity_predefined entity, ih]
      · rename_i absent
        exact absurd dropped (absent (escape text))
    · rw [written, List.singleton_append, unescapeFrom, if_neg ampersand, ih]

/-- Unescaping is the inverse of escaping, on every text. -/
theorem unescape_escape (text : List Char) : unescape (escape text) = .ok text :=
  unescapeFrom_escape (byteLength (escape text)) 0 text

/-- An entity stands for one character. -/
theorem unescape_ne_nil {text plain : List Char} (nonempty : text ≠ [])
    (h : unescape text = .ok plain) : plain ≠ [] := by
  obtain ⟨c, rest, rfl⟩ := List.exists_cons_of_ne_nil nonempty
  rintro rfl
  rw [unescape, unescapeFrom] at h
  split at h
  · split at h
    · dsimp only at h
      split at h
      · simp at h
      · split at h <;> simp at h
    · simp at h
  · split at h <;> simp at h

end RiskScreen.Markup
