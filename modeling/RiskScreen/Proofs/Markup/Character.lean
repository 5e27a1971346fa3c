import RiskScreen.Proofs.Document.Reference

/-!
# Characters that a document may hold

XML leaves out most control characters and two code points besides, and has no way to write
them. Element names, tags and entities hold allowed characters only. So a character that is not
allowed is in escaped text exactly if it is in the text itself, and in an element exactly if it
is in the content.
-/

namespace RiskScreen

namespace Text

theorem le_toNat_of_isAlpha {c : Char} (h : c.isAlpha = true) : 0x41 ≤ c.toNat := by
  rcases Bool.or_eq_true_iff.mp h with upper | lower
  · exact (of_decide_eq_true upper).1
  · have above : 0x61 ≤ c.toNat :=
      of_decide_eq_true (Bool.and_eq_true_iff.mp lower).1
    omega

theorem le_toNat_of_isDigit {c : Char} (h : c.isDigit = true) : 0x30 ≤ c.toNat :=
  of_decide_eq_true (Bool.and_eq_true_iff.mp h).1

end Text

namespace Markup

/-- The code points of the characters that XML allows in a document. -/
def xmlRanges : Text.Ranges :=
  [(0x9, 0xA), (0xD, 0xD), (0x20, 0xD7FF), (0xE000, 0xFFFD), (0x10000, 0x10FFFF)]

/-- Whether XML allows the character in a document. -/
def isXmlChar (c : Char) : Bool :=
  xmlRanges.contains c

/-! ### Allowed characters -/

theorem isXmlChar_of_ascii {c : Char} (visible : 0x20 ≤ c.toNat) (ascii : c.toNat < 0x80) :
    isXmlChar c = true := by
  refine (xmlRanges.contains_iff c).mpr ⟨(0x20, 0xD7FF), by simp [xmlRanges], visible, ?_⟩
  exact Nat.le_trans (Nat.le_of_lt ascii) (by decide)

theorem isXmlChar_of_isAlphabetic {c : Char} (h : Text.isAlphabetic c = true) :
    isXmlChar c = true := by
  by_cases ascii : c.toNat < 0x80
  · rw [Text.isAlphabetic_of_ascii ascii] at h
    have visible := Text.le_toNat_of_isAlpha h
    exact isXmlChar_of_ascii (by omega) ascii
  · rw [Text.isAlphabetic, if_neg ascii] at h
    have covers : xmlRanges.Covers Text.alphabeticRanges := by decide +kernel
    exact covers.contains h

theorem isXmlChar_of_isNumeric {c : Char} (h : Text.isNumeric c = true) :
    isXmlChar c = true := by
  by_cases ascii : c.toNat < 0x80
  · rw [Text.isNumeric_of_ascii ascii] at h
    have visible := Text.le_toNat_of_isDigit h
    exact isXmlChar_of_ascii (by omega) ascii
  · rw [Text.isNumeric, if_neg ascii] at h
    have covers : xmlRanges.Covers Text.numericRanges := by decide +kernel
    exact covers.contains h

theorem isXmlChar_of_isNamePart {c : Char} (h : Path.isNamePart c = true) :
    isXmlChar c = true := by
  simp only [Path.isNamePart, Bool.or_eq_true, decide_eq_true_eq] at h
  rcases h with (((alphabetic | numeric) | rfl) | rfl) | rfl
  · exact isXmlChar_of_isAlphabetic alphabetic
  · exact isXmlChar_of_isNumeric numeric
  all_goals decide

/-- An element name holds allowed characters only. -/
theorem isXmlChar_of_isElementName {name : String} (valid : Path.isElementName name = true)
    {c : Char} (mem : c ∈ name.toList) : isXmlChar c = true :=
  isXmlChar_of_isNamePart (Path.isNamePart_of_mem valid mem)

/-! ### Where the other characters are -/

section Forbidden

variable {c : Char} (forbidden : isXmlChar c = false) {name : String} {text : List Char}

include forbidden

theorem not_mem_of_all (h : text.all isXmlChar = true) : c ∉ text := by
  intro mem
  rw [List.all_eq_true.mp h c mem] at forbidden
  contradiction

theorem ne_of_isXmlChar {other : Char} (h : isXmlChar other = true) : c ≠ other := by
  rintro rfl
  rw [h] at forbidden
  contradiction

theorem mem_escapeChar_iff (other : Char) : c ∈ escapeChar other ↔ c = other := by
  unfold escapeChar
  split
  case h_6 => exact List.mem_singleton
  all_goals
    refine iff_of_false (not_mem_of_all forbidden ?_) (ne_of_isXmlChar forbidden ?_)
    · decide
    · decide

/-- Escaping neither hides nor brings in such a character. -/
theorem mem_escape_iff : c ∈ escape text ↔ c ∈ text := by
  simp only [escape, List.mem_flatMap, mem_escapeChar_iff forbidden, exists_eq_right']

theorem not_mem_name (valid : Path.isElementName name = true) : c ∉ name.toList := by
  intro mem
  exact ne_of_isXmlChar forbidden (isXmlChar_of_isElementName valid mem) rfl

theorem not_mem_emptyElement (h : emptyElement name = .ok text) : c ∉ text := by
  obtain ⟨valid, rfl⟩ := emptyElement_eq_ok_iff.mp h
  have less : c ≠ '<' := ne_of_isXmlChar forbidden (by decide)
  have slash : c ≠ '/' := ne_of_isXmlChar forbidden (by decide)
  have more : c ≠ '>' := ne_of_isXmlChar forbidden (by decide)
  simp [emptyTag, less, slash, more, not_mem_name forbidden valid]

/-- An element holds such a character where its content does. -/
theorem exists_mem_element_iff {content : Except NameError (List Char)}
    (h : element name content = .ok text) :
    ∃ inner, content = .ok inner ∧ (c ∈ text ↔ c ∈ inner) := by
  obtain ⟨valid, inner, made, rfl⟩ := element_eq_ok_iff.mp h
  have less : c ≠ '<' := ne_of_isXmlChar forbidden (by decide)
  have slash : c ≠ '/' := ne_of_isXmlChar forbidden (by decide)
  have more : c ≠ '>' := ne_of_isXmlChar forbidden (by decide)
  refine ⟨inner, made, ?_⟩
  simp [startTag, endTag, less, slash, more, not_mem_name forbidden valid]

end Forbidden

end Markup

end RiskScreen
