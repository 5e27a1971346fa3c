import RiskScreen.Json.Basic
import RiskScreen.Json.Token
import RiskScreen.Proofs.Text.Padded

/-!
# What is written is scanned back

A text is scanned character by character as it was written, whichever of its characters were
escaped, and a whole number digit by digit. A number has no end of its own, so what follows it
must not go on with it.
-/

namespace RiskScreen.Json

/-! ### Texts -/

/-- The unit stands for the character, in front of whatever can be joined. -/
def TextUnit.StandsFor (unit : TextUnit) (c : Char) : Prop :=
  ∀ units chars, joinUnits none units = .ok chars →
    joinUnits none (unit :: units) = .ok (c :: chars)

/-- The character is scanned back from its written form, whatever follows. -/
def IsScanned (c : Char) : Prop :=
  ∃ unit : TextUnit, unit.StandsFor c ∧
    ∀ rest, scanText (escapeChar c ++ rest) = (scanText rest).push unit

variable {c : Char}

theorem TextUnit.standsFor_char (c : Char) : (TextUnit.char c).StandsFor c := by
  intro units chars joined
  rw [joinUnits, joined, consChar]

/-- A control character is no half of a surrogate pair. -/
theorem TextUnit.standsFor_escape (control : c.toNat < 0x20) :
    (TextUnit.escape c.toNat).StandsFor c := by
  have low : isLowSurrogate c.toNat = false := by
    rw [isLowSurrogate, Bool.and_eq_false_iff]
    left
    exact decide_eq_false (by omega)
  have high : isHighSurrogate c.toNat = false := by
    rw [isHighSurrogate, Bool.and_eq_false_iff]
    left
    exact decide_eq_false (by omega)
  intro units chars joined
  rw [joinUnits.eq_def]
  simp only [low, high, joined, Char.ofNat_toNat, Bool.false_eq_true, if_false, consChar]

/-- The code of a control character has two digits. -/
theorem fourHex?_of_control (control : c.toNat < 0x20) :
    fourHex? '0' '0' (Text.hexDigit (c.toNat / 16)) (Text.hexDigit (c.toNat % 16)) =
      some c.toNat := by
  have zero : Text.hexValue? '0' = some 0 := by decide
  rw [fourHex?, zero, Text.hexValue?_hexDigit (by omega), Text.hexValue?_hexDigit (by omega)]
  exact congrArg some (by omega)

theorem scanText_of_plain (quote : c ≠ '"') (backslash : c ≠ '\\') (printable : ¬ c.toNat < 0x20)
    (rest : List Char) : scanText (c :: rest) = (scanText rest).push (.char c) := by
  rw [scanText]
  · exact if_neg printable
  · exact quote
  · exact fun _ _ _ _ _ same _ => backslash same
  · exact fun _ same _ => backslash same
  · exact fun same _ => backslash same
  · exact fun _ _ same _ => backslash same

/-- The characters that are written as an escape of one letter, with that letter. -/
def shortEscapes : List (Char × Char) :=
  [('"', '"'), ('\\', '\\'), ('\x08', 'b'), ('\x0C', 'f'), ('\n', 'n'), ('\r', 'r'), ('\t', 't')]

theorem escapeChar_of_mem_shortEscapes :
    ∀ pair ∈ shortEscapes, escapeChar pair.1 = ['\\', pair.2] ∧
      simpleEscape? pair.2 = some pair.1 ∧ pair.2 ≠ 'u' := by
  decide

theorem escapeChar_of_not_short (h : ∀ pair ∈ shortEscapes, c ≠ pair.1) :
    escapeChar c = if c.toNat < 0x20 then
      ['\\', 'u', '0', '0', Text.hexDigit (c.toNat / 16), Text.hexDigit (c.toNat % 16)]
    else [c] := by
  simp only [shortEscapes, List.forall_mem_cons] at h
  obtain ⟨quote, backslash, backspace, formFeed, lineFeed, carriageReturn, tab, _⟩ := h
  simp only [escapeChar, quote, backslash, backspace, formFeed, lineFeed, carriageReturn, tab,
    if_false]

theorem isScanned (c : Char) : IsScanned c := by
  by_cases short : ∃ pair ∈ shortEscapes, c = pair.1
  · obtain ⟨⟨_, letter⟩, mem, rfl⟩ := short
    obtain ⟨written, known, other⟩ := escapeChar_of_mem_shortEscapes _ mem
    refine ⟨.char c, TextUnit.standsFor_char c, ?_⟩
    intro rest
    rw [written, List.cons_append, List.singleton_append, scanText, known]
    · exact fun _ _ _ _ _ same _ => other same
    · exact fun same => other same
  · have others : ∀ pair ∈ shortEscapes, c ≠ pair.1 :=
      fun pair mem same => short ⟨pair, mem, same⟩
    unfold IsScanned
    rw [escapeChar_of_not_short others]
    by_cases control : c.toNat < 0x20
    · refine ⟨.escape c.toNat, TextUnit.standsFor_escape control, ?_⟩
      intro rest
      simp only [if_pos control, List.cons_append, List.nil_append]
      rw [scanText, fourHex?_of_control control]
    · refine ⟨.char c, TextUnit.standsFor_char c, ?_⟩
      intro rest
      rw [if_neg control]
      have quote : c ≠ '"' := others ('"', '"') (by decide)
      have backslash : c ≠ '\\' := others ('\\', '\\') (by decide)
      exact scanText_of_plain quote backslash control rest

/-- A quoted text is scanned up to its closing quote, and its content is the text. -/
theorem exists_units (chars rest : List Char) :
    ∃ units, scanText (chars.flatMap escapeChar ++ '"' :: rest) = ⟨units, none, rest⟩ ∧
      joinUnits none units = .ok chars := by
  induction chars with
  | nil => exact ⟨[], rfl, rfl⟩
  | cons c chars ih =>
    obtain ⟨unit, stands, scanned⟩ := isScanned c
    obtain ⟨units, others, joined⟩ := ih
    refine ⟨unit :: units, ?_, stands units chars joined⟩
    rw [List.flatMap_cons, List.append_assoc, scanned, others, TextScan.push]

theorem textToken_quoted (s : String) (rest : List Char) :
    textToken (s.toList.flatMap escapeChar ++ '"' :: rest) = (.text (.ok s), rest) := by
  obtain ⟨units, scanned, joined⟩ := exists_units s.toList rest
  simp only [textToken, scanned, TextScan.content, joined, String.ofList_toList]

/-! ### Whole numbers -/

/-- The numeral of a whole number. -/
def Numeral.ofInt (n : Int) : Numeral :=
  ⟨decide (n < 0), Text.decimalDigits n.natAbs, none, none⟩

/-- The text does not go on with a number that is in front of it. -/
def EndsNumber (rest : List Char) : Prop :=
  ∀ c ∈ rest.head?, c.isDigit = false ∧ c ≠ '.' ∧ c ≠ 'e' ∧ c ≠ 'E'

namespace Numeral

variable {rest : List Char}

theorem scanWhole_decimalDigits (n : Nat) (ends : Text.EndsDigits rest) :
    scanWhole (Text.decimalDigits n ++ rest) = .ok (Text.decimalDigits n, rest) := by
  rcases Nat.eq_zero_or_pos n with rfl | pos
  · change scanWhole ('0' :: rest) = .ok (['0'], rest)
    cases rest with
    | nil => rfl
    | cons c rest => rw [scanWhole, if_neg (by simp [ends c rfl])]
  · have digits : ∀ c ∈ Text.decimalDigits n, c.isDigit = true :=
      fun c => Text.isDigit_of_mem_decimalDigits
    have front := ends.takeWhile digits
    have back := ends.dropWhile digits
    obtain ⟨first, others, split, nonzero⟩ := Text.exists_first_decimalDigits pos
    rw [split, List.cons_append] at front back ⊢
    rw [scanWhole]
    · simp only [front, back, List.isEmpty_cons, Bool.false_eq_true, if_false]
    · intro after same
      exact nonzero (List.cons.inj same).1

theorem scanFraction_of_ends (ends : EndsNumber rest) : scanFraction rest = .ok (none, rest) := by
  unfold scanFraction
  split
  · exact absurd rfl (ends '.' rfl).2.1
  · rfl

theorem scanExponent_of_ends (ends : EndsNumber rest) : scanExponent rest = .ok (none, rest) := by
  cases rest with
  | nil => rfl
  | cons c rest =>
    obtain ⟨_, _, lower, upper⟩ := ends c rfl
    rw [scanExponent]
    simp [lower, upper]

theorem scan_decimalDigits (negative : Bool) (n : Nat) (ends : EndsNumber rest) :
    scan negative (Text.decimalDigits n ++ rest) =
      .ok (⟨negative, Text.decimalDigits n, none, none⟩, rest) := by
  have digits : Text.EndsDigits rest := fun c mem => (ends c mem).1
  simp only [scan, scanWhole_decimalDigits n digits, scanFraction_of_ends ends,
    scanExponent_of_ends ends]

end Numeral

/-! ### Tokens -/

variable {rest : List Char} {token : Token} {text : List Char}

theorem tokens_cons (solid : Text.isPlainSpace c = false) (h : scanToken c text = (token, rest)) :
    tokens (c :: text) = token :: tokens rest := by
  rw [tokens, solid, h]
  rfl

/-- A bracket, a colon or a comma is a token of its own. -/
theorem tokens_mark (mark : Char) (rest : List Char) (h : punctuation? mark = some token) :
    tokens (mark :: rest) = token :: tokens rest := by
  have solid : Text.isPlainSpace mark = false := by
    unfold punctuation? at h
    split at h <;> first | rfl | contradiction
  have scanned : scanToken mark rest = (token, rest) := by rw [scanToken, h]
  exact tokens_cons solid scanned

theorem isPlainSpace_of_isDigit (digit : c.isDigit = true) : Text.isPlainSpace c = false := by
  rw [Bool.eq_false_iff]
  intro space
  simp only [Text.isPlainSpace, Bool.or_eq_true, decide_eq_true_eq] at space
  rcases space with ((rfl | rfl) | rfl) | rfl <;> simp at digit

theorem scanToken_of_isDigit (digit : c.isDigit = true) (text : List Char) :
    scanToken c text = numberToken false (c :: text) := by
  have other : ∀ mark : Char, mark.isDigit = false → c ≠ mark := by
    rintro mark letter rfl
    rw [digit] at letter
    contradiction
  have mark : punctuation? c = none := by
    unfold punctuation?
    split <;> first | rfl | exact absurd digit (by decide)
  unfold scanToken
  rw [mark]
  simp only [other '"' rfl, other 'n' rfl, other 't' rfl, other 'f' rfl, other '-' rfl, digit,
    if_true, if_false]

theorem tokens_quoted (s : String) (rest : List Char) :
    tokens (quoted s.toList ++ rest) = .text (.ok s) :: tokens rest := by
  have scanned : scanToken '"' (s.toList.flatMap escapeChar ++ '"' :: rest) =
      (.text (.ok s), rest) := textToken_quoted s rest
  have split : quoted s.toList ++ rest =
      '"' :: (s.toList.flatMap escapeChar ++ '"' :: rest) := by simp [quoted]
  rw [split]
  exact tokens_cons rfl scanned

theorem tokens_wholeNumber (n : Int) (ends : EndsNumber rest) :
    tokens (wholeNumber n ++ rest) = .number (Numeral.ofInt n) :: tokens rest := by
  have scanned (negative : Bool) := Numeral.scan_decimalDigits negative n.natAbs ends
  rw [wholeNumber, Numeral.ofInt]
  split
  · rename_i negative
    have token : scanToken '-' (Text.decimalDigits n.natAbs ++ rest) =
        (.number ⟨true, Text.decimalDigits n.natAbs, none, none⟩, rest) := by
      change numberToken true _ = _
      rw [numberToken, scanned]
    rw [decide_eq_true negative]
    exact tokens_cons rfl token
  · rename_i natural
    rw [decide_eq_false natural]
    have nonempty : Text.decimalDigits n.natAbs ≠ [] := Nat.toDigits_ne_nil
    obtain ⟨first, others, split⟩ := List.exists_cons_of_ne_nil nonempty
    have digit : first.isDigit = true :=
      Text.isDigit_of_mem_decimalDigits (n := n.natAbs) (split ▸ List.mem_cons_self)
    have token := scanned false
    rw [split, List.cons_append] at token ⊢
    apply tokens_cons (isPlainSpace_of_isDigit digit)
    rw [scanToken_of_isDigit digit, numberToken, token]

end RiskScreen.Json
