import RiskScreen.Proofs.Markup.Character
import RiskScreen.Proofs.Text.Ranges

/-!
# Names of XML

XML lists the code points with which a name may start and those with which it may go on. Element
names are checked by the Unicode properties of their characters instead. Nearly all characters
with these properties are on the lists of XML, and those that are not can be told: a few letters
and numbers below U+00C0, enclosed letters and numbers, and combining letters at the start.

## Implementation notes

The exceptions are the difference of two tables of ranges, which is computed. The tables hold the
code points above ASCII only; ASCII letters and digits are looked at apart.
-/

namespace RiskScreen.Markup

/-- The code points with which a name of XML may start. -/
def xmlNameStarts : Text.Ranges :=
  [(0x3A, 0x3A), (0x41, 0x5A), (0x5F, 0x5F), (0x61, 0x7A), (0xC0, 0xD6), (0xD8, 0xF6),
    (0xF8, 0x2FF), (0x370, 0x37D), (0x37F, 0x1FFF), (0x200C, 0x200D), (0x2070, 0x218F),
    (0x2C00, 0x2FEF), (0x3001, 0xD7FF), (0xF900, 0xFDCF), (0xFDF0, 0xFFFD), (0x10000, 0xEFFFF)]

/-- The code points with which a name of XML may go on, but not start. -/
def xmlNameFollowers : Text.Ranges :=
  [(0x2D, 0x2E), (0x30, 0x39), (0xB7, 0xB7), (0x300, 0x36F), (0x203F, 0x2040)]

/-- The code points with which a name of XML may go on. -/
def xmlNameParts : Text.Ranges :=
  xmlNameStarts ++ xmlNameFollowers

/-- Whether the text is a name of XML: a character with which a name may start, and after it
characters with which it may go on. -/
def isXmlName : List Char → Bool
  | [] => false
  | first :: rest => xmlNameStarts.contains first && rest.all xmlNameParts.contains

/-- The alphabetic characters with which no name of XML starts: the ordinal indicators and the
micro sign, combining letters, and circled letters. -/
def strayStarts : Text.Ranges :=
  [(0xAA, 0xAA), (0xB5, 0xB5), (0xBA, 0xBA), (0x345, 0x345), (0x363, 0x36F), (0x24B6, 0x24E9)]

/-- The alphabetic characters that no name of XML has: combining letters may follow others. -/
def strayLetters : Text.Ranges :=
  [(0xAA, 0xAA), (0xB5, 0xB5), (0xBA, 0xBA), (0x24B6, 0x24E9)]

/-- The numeric characters that no name of XML has: superscript digits, fractions, and enclosed
numbers. -/
def strayNumbers : Text.Ranges :=
  [(0xB2, 0xB3), (0xB9, 0xB9), (0xBC, 0xBE), (0x2460, 0x249B), (0x24EA, 0x24FF), (0x2776, 0x2793)]

/-- The characters of element names that no name of XML has. -/
def strayParts : Text.Ranges :=
  strayLetters ++ strayNumbers

/-- No character of the text is astray in a name of XML, at the place where it stands. -/
def isRegular : List Char → Bool
  | [] => true
  | first :: rest => !strayStarts.contains first && rest.all fun c => !strayParts.contains c

/-! ### The tables compared -/

theorem alphabetic_minus_starts :
    Text.alphabeticRanges.minus xmlNameStarts = strayStarts := by decide +kernel

theorem alphabetic_minus_parts : Text.alphabeticRanges.minus xmlNameParts = strayLetters := by
  rw [xmlNameParts, Text.Ranges.minus_append, alphabetic_minus_starts]
  decide

theorem numeric_minus_parts : Text.numericRanges.minus xmlNameParts = strayNumbers := by
  decide +kernel

variable {c : Char}

theorem not_strayStart_of_ascii (ascii : c.toNat < 0x80) : strayStarts.contains c = false := by
  apply Text.Ranges.contains_eq_false_of_lt _ ascii
  decide

/-- What is astray is in no name of XML. -/
theorem not_stray_of_contains_xmlNameParts (h : xmlNameParts.contains c = true) :
    strayParts.contains c = false := by
  rw [strayParts, Text.Ranges.contains_append, ← alphabetic_minus_parts, ← numeric_minus_parts,
    Bool.or_eq_false_iff]
  exact ⟨Text.Ranges.contains_minus_of_contains h, Text.Ranges.contains_minus_of_contains h⟩

theorem contains_xmlNameStarts_of_isAlpha (h : c.isAlpha = true) :
    xmlNameStarts.contains c = true := by
  rw [Text.Ranges.contains_iff]
  rcases Bool.or_eq_true_iff.mp h with upper | lower
  · exact ⟨(0x41, 0x5A), by simp [xmlNameStarts], of_decide_eq_true upper⟩
  · obtain ⟨low, high⟩ := Bool.and_eq_true_iff.mp lower
    exact ⟨(0x61, 0x7A), by simp [xmlNameStarts], of_decide_eq_true low, of_decide_eq_true high⟩

theorem contains_xmlNameParts_of_isDigit (h : c.isDigit = true) :
    xmlNameParts.contains c = true := by
  obtain ⟨low, high⟩ := Bool.and_eq_true_iff.mp h
  exact (Text.Ranges.contains_iff _ c).mpr ⟨(0x30, 0x39), by simp [xmlNameParts, xmlNameFollowers],
    of_decide_eq_true low, of_decide_eq_true high⟩

theorem contains_xmlNameParts_of_starts (h : xmlNameStarts.contains c = true) :
    xmlNameParts.contains c = true := by
  rw [xmlNameParts, Text.Ranges.contains_append, h, Bool.true_or]

/-! ### Single characters -/

/-- A character that may start an element name may start a name of XML unless it is astray. -/
theorem contains_xmlNameStarts_iff (h : Path.isNameStart c = true) :
    xmlNameStarts.contains c = true ↔ strayStarts.contains c = false := by
  simp only [Path.isNameStart, Bool.or_eq_true, decide_eq_true_eq] at h
  rcases h with alphabetic | rfl
  · by_cases ascii : c.toNat < 0x80
    · rw [Text.isAlphabetic_of_ascii ascii] at alphabetic
      exact iff_of_true (contains_xmlNameStarts_of_isAlpha alphabetic)
        (not_strayStart_of_ascii ascii)
    · rw [Text.isAlphabetic, if_neg ascii] at alphabetic
      rw [Text.Ranges.contains_iff_of_minus alphabetic, alphabetic_minus_starts]
  · decide

/-- A character of an element name may be in a name of XML unless it is astray. -/
theorem contains_xmlNameParts_iff (h : Path.isNamePart c = true) :
    xmlNameParts.contains c = true ↔ strayParts.contains c = false := by
  refine ⟨not_stray_of_contains_xmlNameParts, fun regular => ?_⟩
  rw [strayParts, Text.Ranges.contains_append, Bool.or_eq_false_iff] at regular
  simp only [Path.isNamePart, Bool.or_eq_true, decide_eq_true_eq] at h
  rcases h with (((alphabetic | numeric) | rfl) | rfl) | rfl
  · by_cases ascii : c.toNat < 0x80
    · rw [Text.isAlphabetic_of_ascii ascii] at alphabetic
      exact contains_xmlNameParts_of_starts (contains_xmlNameStarts_of_isAlpha alphabetic)
    · rw [Text.isAlphabetic, if_neg ascii] at alphabetic
      rw [Text.Ranges.contains_iff_of_minus alphabetic, alphabetic_minus_parts]
      exact regular.1
  · by_cases ascii : c.toNat < 0x80
    · rw [Text.isNumeric_of_ascii ascii] at numeric
      exact contains_xmlNameParts_of_isDigit numeric
    · rw [Text.isNumeric, if_neg ascii] at numeric
      rw [Text.Ranges.contains_iff_of_minus numeric, numeric_minus_parts]
      exact regular.2
  all_goals decide

/-! ### Whole names -/

/-- An element name is a name of XML exactly if no character of it is astray. -/
theorem isXmlName_iff_isRegular {text : List Char} (valid : Path.isNameText text = true) :
    isXmlName text = true ↔ isRegular text = true := by
  cases text with
  | nil => simp [Path.isNameText] at valid
  | cons first rest =>
    rw [Path.isNameText_cons, Bool.and_eq_true, List.all_eq_true] at valid
    obtain ⟨start, parts⟩ := valid
    simp only [isXmlName, isRegular, Bool.and_eq_true, List.all_eq_true, Bool.not_eq_true']
    apply and_congr (contains_xmlNameStarts_iff start)
    exact forall₂_congr fun c mem => contains_xmlNameParts_iff (parts c mem)

end RiskScreen.Markup
