import RiskScreen.Json.Numeral
import RiskScreen.Markup.Entity
import RiskScreen.Text.Blank

/-!
# JSON tokens

A text is scanned from the left into tokens, up to the first place that cannot be scanned.
That place is a token of its own, because a reader may stop before it.
-/

namespace RiskScreen.Json

/-! ### Texts -/

/-- What one step inside a quoted text adds: a character, or the number of a `\u` escape. -/
inductive TextUnit where
  | char (c : Char)
  | escape (code : Nat)
  deriving DecidableEq, Repr

/-- The characters that one-letter escapes stand for. -/
def simpleEscape? : Char → Option Char
  | '"' => some '"'
  | '\\' => some '\\'
  | '/' => some '/'
  | 'b' => some '\x08'
  | 'f' => some '\x0C'
  | 'n' => some '\n'
  | 'r' => some '\r'
  | 't' => some '\t'
  | _ => none

/-- The number of four hexadecimal digits. -/
def fourHex? (a b c d : Char) : Option Nat :=
  match Text.hexValue? a, Text.hexValue? b, Text.hexValue? c, Text.hexValue? d with
  | some a, some b, some c, some d => some (((a * 16 + b) * 16 + c) * 16 + d)
  | _, _, _, _ => none

/-- A scanned text: its units, why it has no end if it has none, and what follows it. -/
structure TextScan where
  units : List TextUnit
  fault : Option TextFault
  rest : List Char
  deriving Repr

/-- The scan with one more unit in front. -/
def TextScan.push (unit : TextUnit) (scan : TextScan) : TextScan :=
  { scan with units := unit :: scan.units }

/-- The scan that ends with a fault. -/
def TextScan.stop (fault : TextFault) : TextScan :=
  ⟨[], some fault, []⟩

/-- The fault of a `\u` escape without four digits: the text is cut if it is too short to
hold them. -/
def shortEscape (rest : List Char) : TextFault :=
  if Markup.byteLength rest < 4 then .cut else .malformed

/-- Scans a text after its opening quote. -/
def scanText : List Char → TextScan
  | [] => .stop .cut
  | '"' :: rest => ⟨[], none, rest⟩
  | '\\' :: 'u' :: a :: b :: c :: d :: rest =>
      match fourHex? a b c d with
      | some code => (scanText rest).push (.escape code)
      | none => .stop .malformed
  | '\\' :: 'u' :: rest => .stop (shortEscape rest)
  | ['\\'] => .stop .cut
  | '\\' :: e :: rest =>
      match simpleEscape? e with
      | some c => (scanText rest).push (.char c)
      | none => .stop .malformed
  | c :: rest => if c.toNat < 0x20 then .stop .malformed else (scanText rest).push (.char c)

/-- Whether the number is the first half of a surrogate pair. -/
def isHighSurrogate (code : Nat) : Bool :=
  0xD800 ≤ code && code ≤ 0xDBFF

/-- Whether the number is the second half of a surrogate pair. -/
def isLowSurrogate (code : Nat) : Bool :=
  0xDC00 ≤ code && code ≤ 0xDFFF

/-- The character of a surrogate pair. -/
def surrogatePair (high low : Nat) : Char :=
  Char.ofNat (0x10000 + (high - 0xD800) * 0x400 + (low - 0xDC00))

/-- Puts a character in front of what follows it. -/
def consChar (c : Char) (rest : Except TextFault (List Char)) : Except TextFault (List Char) :=
  match rest with
  | .error e => .error e
  | .ok chars => .ok (c :: chars)

/-- The characters of scanned units. Halves of surrogate pairs have to stand together;
`fault` tells why the units have no end, if they have none. -/
def joinUnits (fault : Option TextFault) : List TextUnit → Except TextFault (List Char)
  | [] =>
      match fault with
      | none => .ok []
      | some e => .error e
  | .char c :: rest => consChar c (joinUnits fault rest)
  | .escape code :: rest =>
      if isLowSurrogate code then .error .malformed
      else if isHighSurrogate code then
        match rest with
        | .escape low :: after =>
            if isLowSurrogate low then consChar (surrogatePair code low) (joinUnits fault after)
            else .error .malformed
        | .char _ :: _ => .error .malformed
        | [] => .error (fault.getD .malformed)
      else consChar (Char.ofNat code) (joinUnits fault rest)

/-- The content of a scanned text. -/
def TextScan.content (scan : TextScan) : Except TextFault String :=
  match joinUnits scan.fault scan.units with
  | .error e => .error e
  | .ok chars => .ok (String.ofList chars)

/-! ### Tokens -/

/-- A token. -/
inductive Token where
  | openObject
  | closeObject
  | openArray
  | closeArray
  | colon
  | comma
  /-- `null`, or one of the two truth values. -/
  | word (value : Option Bool)
  | number (numeral : Numeral)
  /-- A text that has an end, with its content or the fault inside it. -/
  | text (content : Except TextFault String)
  /-- A text that has no end. -/
  | openText (place : Break)
  /-- A place where no token can be scanned. -/
  | broken (place : Break)
  deriving Repr

/-- What follows the expected characters. -/
def scanWord : List Char → List Char → Except TextFault (List Char)
  | [], rest => .ok rest
  | _ :: _, [] => .error .cut
  | e :: expected, c :: rest => if e = c then scanWord expected rest else .error .malformed

/-- The token of a word that begins with the scanned letter. -/
def wordToken (value : Option Bool) (expected text : List Char) : Token × List Char :=
  match scanWord expected text with
  | .ok rest => (.word value, rest)
  | .error e => (.broken ⟨e, e⟩, [])

/-- The token of a number. -/
def numberToken (negative : Bool) (text : List Char) : Token × List Char :=
  match Numeral.scan negative text with
  | .ok (numeral, rest) => (.number numeral, rest)
  | .error place => (.broken place, [])

/-- The token of a text after its opening quote. -/
def textToken (text : List Char) : Token × List Char :=
  let scan := scanText text
  match scan.fault with
  | none => (.text scan.content, scan.rest)
  | some fault =>
      let reading := match scan.content with
        | .error e => e
        | .ok _ => fault
      (.openText ⟨reading, fault⟩, [])

/-- The tokens of one character. -/
def punctuation? : Char → Option Token
  | '\x7b' => some .openObject
  | '\x7d' => some .closeObject
  | '[' => some .openArray
  | ']' => some .closeArray
  | ':' => some .colon
  | ',' => some .comma
  | _ => none

/-- The token that begins with `c`, and what follows it. -/
def scanToken (c : Char) (rest : List Char) : Token × List Char :=
  match punctuation? c with
  | some token => (token, rest)
  | none =>
      if c = '"' then textToken rest
      else if c = 'n' then wordToken none "ull".toList rest
      else if c = 't' then wordToken (some true) "rue".toList rest
      else if c = 'f' then wordToken (some false) "alse".toList rest
      else if c = '-' then numberToken true rest
      else if c.isDigit then numberToken false (c :: rest)
      else (.broken .malformed, [])

theorem length_scanText (text : List Char) : (scanText text).rest.length ≤ text.length := by
  fun_induction scanText text <;> simp_all [TextScan.stop, TextScan.push] <;> omega

theorem length_scanWord {expected text rest : List Char}
    (h : scanWord expected text = .ok rest) : rest.length ≤ text.length := by
  fun_induction scanWord expected text with
  | case1 text =>
      simp only [Except.ok.injEq] at h
      exact Nat.le_of_eq (congrArg List.length h.symm)
  | case2 => simp at h
  | case3 expected c text ih =>
      have := ih h
      simp only [List.length_cons]
      omega
  | case4 => simp at h

theorem length_wordToken (value : Option Bool) (expected text : List Char) :
    (wordToken value expected text).2.length ≤ text.length := by
  unfold wordToken
  split
  · rename_i rest h
    exact length_scanWord h
  · simp

theorem length_textToken (text : List Char) : (textToken text).2.length ≤ text.length := by
  have := length_scanText text
  unfold textToken
  dsimp only
  split
  · exact this
  · simp

theorem scanWhole_shorter {c : Char} {text digits rest : List Char}
    (hc : c.isDigit = true) (h : Numeral.scanWhole (c :: text) = .ok (digits, rest)) :
    rest.length ≤ text.length := by
  have drop := (List.dropWhile_suffix Char.isDigit (l := text)).length_le
  unfold Numeral.scanWhole at h
  split at h
  · rename_i eq
    simp only [List.cons.injEq] at eq
    obtain ⟨_, rfl⟩ := eq
    split at h
    · split at h
      · simp at h
      · simp only [Except.ok.injEq, Prod.mk.injEq] at h
        exact Nat.le_of_eq (congrArg List.length h.2.symm)
    · simp only [Except.ok.injEq, Prod.mk.injEq] at h
      exact Nat.le_of_eq (congrArg List.length h.2.symm)
  · dsimp only at h
    split at h
    · simp at h
    · simp only [Except.ok.injEq, Prod.mk.injEq, List.dropWhile_cons, hc, if_true] at h
      rw [← h.2]
      exact drop

theorem length_numberToken (negative : Bool) (text : List Char) :
    (numberToken negative text).2.length ≤ text.length := by
  unfold numberToken
  split
  · rename_i numeral rest h
    exact Numeral.length_scan h
  · simp

theorem length_numberToken_digit {c : Char} (hc : c.isDigit = true) (negative : Bool)
    (text : List Char) : (numberToken negative (c :: text)).2.length ≤ text.length := by
  unfold numberToken
  split
  · rename_i numeral rest h
    unfold Numeral.scan at h
    split at h
    · simp at h
    · rename_i whole afterWhole hw
      have hw := scanWhole_shorter hc hw
      split at h
      · simp at h
      · rename_i fraction afterFraction hf
        have hf := Numeral.length_scanFraction hf
        split at h
        · simp at h
        · rename_i exponent afterExponent he
          have he := Numeral.length_scanExponent he
          simp only [Except.ok.injEq, Prod.mk.injEq] at h
          obtain ⟨_, rfl⟩ := h
          dsimp only
          omega
  · simp

theorem length_scanToken (c : Char) (rest : List Char) :
    (scanToken c rest).2.length ≤ rest.length := by
  unfold scanToken
  split
  · exact Nat.le_refl _
  · by_cases quote : c = '"'
    · rw [if_pos quote]
      exact length_textToken rest
    rw [if_neg quote]
    by_cases n : c = 'n'
    · rw [if_pos n]
      exact length_wordToken _ _ _
    rw [if_neg n]
    by_cases t : c = 't'
    · rw [if_pos t]
      exact length_wordToken _ _ _
    rw [if_neg t]
    by_cases f : c = 'f'
    · rw [if_pos f]
      exact length_wordToken _ _ _
    rw [if_neg f]
    by_cases minus : c = '-'
    · rw [if_pos minus]
      exact length_numberToken _ _
    rw [if_neg minus]
    by_cases digit : c.isDigit = true
    · rw [if_pos digit]
      exact length_numberToken_digit digit _ _
    · rw [if_neg digit]
      exact Nat.zero_le _

/-- The tokens of a text, up to the first place that cannot be scanned. -/
def tokens (text : List Char) : List Token :=
  match text with
  | [] => []
  | c :: rest =>
      if Text.isPlainSpace c then tokens rest
      else (scanToken c rest).1 :: tokens (scanToken c rest).2
termination_by text.length
decreasing_by
  · simp
  · have := length_scanToken c rest
    simp only [List.length_cons]
    omega

end RiskScreen.Json
