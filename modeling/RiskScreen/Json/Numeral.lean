import RiskScreen.Json.Fault
import RiskScreen.Number.Binary64

/-!
# Numbers as they are written

A numeral is taken apart when the text is scanned, and evaluated only where a number is
wanted. Whole numbers of 64 bits are exact; every other numeral denotes a binary floating
point number, and one that is too large denotes nothing.
-/

namespace RiskScreen.Json

/-- A written number. -/
structure Numeral where
  negative : Bool
  /-- The digits before the point. -/
  whole : List Char
  /-- The digits after the point, if there is one. -/
  fraction : Option (List Char)
  /-- The sign and the digits of the exponent, if there is one. -/
  exponent : Option (Bool × List Char)
  deriving DecidableEq, Repr

/-- What a numeral denotes. -/
inductive Number where
  /-- A natural number of 64 bits. -/
  | natural (n : Nat)
  /-- The negation of a positive number that fits 64 bits with a sign. -/
  | negative (n : Nat)
  /-- A floating point number. -/
  | real (isNegative : Bool) (magnitude : Binary64)
  deriving DecidableEq, Repr

namespace Numeral

/-- Appends digits to a significand as long as it has 64 bits, and counts those left over. -/
def absorb (significand : Nat) : List Char → Nat × Nat
  | [] => (significand, 0)
  | c :: rest =>
      let next := 10 * significand + Text.digitValue c
      if Text.maxWord64 < next then (significand, rest.length + 1) else absorb next rest

/-- The largest exponent that is told apart from a larger one. -/
def maxExponent : Nat := 2147483647

/-- The magnitude of a significand at a decimal exponent, moved by a written exponent. -/
def magnitude (significand : Nat) (start : Int) : Option (Bool × List Char) → Option Binary64
  | none => Binary64.ofScientific significand start
  | some (isNegative, digits) =>
      let power := Text.digitsValue digits
      if maxExponent < power then
        if significand ≠ 0 && !isNegative then none else some Binary64.zero
      else Binary64.ofScientific significand (if isNegative then start - power else start + power)

/-- The floating point number a numeral denotes. Digits that do not fit the significand are
dropped; before the point they still count as places. -/
def real (numeral : Numeral) : Option Number :=
  let (significand, dropped) := absorb 0 numeral.whole
  let (significand, start) : Nat × Int := match numeral.fraction with
    | none => (significand, dropped)
    | some digits =>
        let (extended, left) := absorb significand digits
        (extended, (dropped : Int) - (digits.length - left : Nat))
  (magnitude significand start numeral.exponent).map (.real numeral.negative)

/-- What a numeral denotes. Negative zero is a floating point number. -/
def value (numeral : Numeral) : Option Number :=
  match numeral.fraction, numeral.exponent with
  | none, none =>
      let n := Text.digitsValue numeral.whole
      if numeral.negative then
        if 1 ≤ n && n ≤ 9223372036854775808 then some (.negative n) else numeral.real
      else if n ≤ Text.maxWord64 then some (.natural n)
      else numeral.real
  | _, _ => numeral.real

end Numeral

/-- A place that cannot be read: why it is refused as a value, and why when it is passed
over. -/
structure Break where
  reading : TextFault
  skipping : TextFault
  deriving DecidableEq, Repr

/-- A place that is not JSON. -/
def Break.malformed : Break := ⟨.malformed, .malformed⟩

/-- A place where the text ends. -/
def Break.cut : Break := ⟨.cut, .cut⟩

/-- The break for missing digits: a number that is passed over may not end the text there. -/
def Break.noDigits (rest : List Char) : Break :=
  if rest.isEmpty then ⟨.cut, .malformed⟩ else .malformed

namespace Numeral

/-- Scans the digits before the point. -/
def scanWhole (text : List Char) : Except Break (List Char × List Char) :=
  match text with
  | '0' :: rest =>
      match rest with
      | c :: _ => if c.isDigit then .error .malformed else .ok (['0'], rest)
      | [] => .ok (['0'], rest)
  | _ =>
      let digits := text.takeWhile Char.isDigit
      if digits.isEmpty then .error (.noDigits text)
      else .ok (digits, text.dropWhile Char.isDigit)

/-- Scans the digits after a point, if there is one. -/
def scanFraction (text : List Char) : Except Break (Option (List Char) × List Char) :=
  match text with
  | '.' :: rest =>
      let digits := rest.takeWhile Char.isDigit
      if digits.isEmpty then .error (.noDigits rest)
      else .ok (some digits, rest.dropWhile Char.isDigit)
  | _ => .ok (none, text)

/-- The sign of an exponent. -/
def scanSign : List Char → Bool × List Char
  | '+' :: rest => (false, rest)
  | '-' :: rest => (true, rest)
  | rest => (false, rest)

/-- Scans an exponent, if there is one. -/
def scanExponent (text : List Char) :
    Except Break (Option (Bool × List Char) × List Char) :=
  match text with
  | c :: rest =>
      if c = 'e' || c = 'E' then
        let (isNegative, rest) := scanSign rest
        let digits := rest.takeWhile Char.isDigit
        if digits.isEmpty then .error (.noDigits rest)
        else .ok (some (isNegative, digits), rest.dropWhile Char.isDigit)
      else .ok (none, text)
  | [] => .ok (none, text)

/-- Scans a numeral after its sign. -/
def scan (negative : Bool) (text : List Char) : Except Break (Numeral × List Char) :=
  match scanWhole text with
  | .error e => .error e
  | .ok (whole, rest) =>
      match scanFraction rest with
      | .error e => .error e
      | .ok (fraction, rest) =>
          match scanExponent rest with
          | .error e => .error e
          | .ok (exponent, rest) => .ok (⟨negative, whole, fraction, exponent⟩, rest)

theorem length_scanWhole {text digits rest : List Char}
    (h : scanWhole text = .ok (digits, rest)) : rest.length ≤ text.length := by
  have drop := (List.dropWhile_suffix Char.isDigit (l := text)).length_le
  unfold scanWhole at h
  split at h
  · split at h
    · split at h
      · simp at h
      · simp only [Except.ok.injEq, Prod.mk.injEq] at h
        rw [← h.2]
        simp
    · simp only [Except.ok.injEq, Prod.mk.injEq] at h
      rw [← h.2]
      simp
  · dsimp only at h
    split at h
    · simp at h
    · simp only [Except.ok.injEq, Prod.mk.injEq] at h
      rw [← h.2]
      exact drop

theorem length_scanFraction {text rest : List Char} {digits : Option (List Char)}
    (h : scanFraction text = .ok (digits, rest)) : rest.length ≤ text.length := by
  unfold scanFraction at h
  split at h
  · rename_i after
    have drop := (List.dropWhile_suffix Char.isDigit (l := after)).length_le
    dsimp only at h
    split at h
    · simp at h
    · simp only [Except.ok.injEq, Prod.mk.injEq] at h
      rw [← h.2]
      simp only [List.length_cons]
      omega
  · simp only [Except.ok.injEq, Prod.mk.injEq] at h
    exact Nat.le_of_eq (congrArg List.length h.2.symm)

theorem length_scanSign (text : List Char) : (scanSign text).2.length ≤ text.length := by
  unfold scanSign
  split <;> simp

theorem length_scanExponent {text rest : List Char} {digits : Option (Bool × List Char)}
    (h : scanExponent text = .ok (digits, rest)) : rest.length ≤ text.length := by
  unfold scanExponent at h
  split at h
  · rename_i c after
    have sign := length_scanSign after
    have drop := (List.dropWhile_suffix Char.isDigit (l := (scanSign after).2)).length_le
    split at h
    · dsimp only at h
      split at h
      · simp at h
      · simp only [Except.ok.injEq, Prod.mk.injEq] at h
        rw [← h.2]
        simp only [List.length_cons]
        omega
    · simp only [Except.ok.injEq, Prod.mk.injEq] at h
      exact Nat.le_of_eq (congrArg List.length h.2.symm)
  · simp only [Except.ok.injEq, Prod.mk.injEq] at h
    exact Nat.le_of_eq (congrArg List.length h.2.symm)

theorem length_scan {negative : Bool} {text rest : List Char} {numeral : Numeral}
    (h : scan negative text = .ok (numeral, rest)) : rest.length ≤ text.length := by
  unfold scan at h
  split at h
  · simp at h
  · rename_i whole afterWhole hw
    have hw := length_scanWhole hw
    split at h
    · simp at h
    · rename_i fraction afterFraction hf
      have hf := length_scanFraction hf
      split at h
      · simp at h
      · rename_i exponent afterExponent he
        have he := length_scanExponent he
        simp only [Except.ok.injEq, Prod.mk.injEq] at h
        rw [← h.2]
        omega

end Numeral

end RiskScreen.Json
