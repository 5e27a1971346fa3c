import RiskScreen.Text.Digits

/-!
# Decimal amounts

An amount is a mantissa of at most 96 bits with a scale of at most 28 decimals. Reading keeps
the scale that is written, so `10.00` and `10` are different amounts. A fraction that is too
long is rounded half up at the first digit that has no room; what comes after that digit is
not looked at.
-/

namespace RiskScreen

/-- The amount `mantissa / 10 ^ scale`, negated if `negative`. -/
structure Decimal where
  negative : Bool
  mantissa : Nat
  scale : Nat
  mantissa_lt : mantissa < 79228162514264337593543950336
  scale_le : scale ≤ 28
  deriving DecidableEq, Repr

namespace Decimal

/-- The largest scale. -/
def maxScale : Nat := 28

/-- One more than the largest mantissa. -/
def mantissaLimit : Nat := 79228162514264337593543950336

/-- The amount with these parts, if they fit. Zero has no sign. -/
def ofParts? (negative : Bool) (mantissa scale : Nat) : Option Decimal :=
  if h : mantissa < 79228162514264337593543950336 ∧ scale ≤ 28 then
    some ⟨negative && mantissa ≠ 0, mantissa, scale, h.1, h.2⟩
  else none

/-- The amount of a natural number of at most 64 bits, or of its negation. -/
def ofWord (negative : Bool) (n : Nat) : Option Decimal :=
  ofParts? negative n 0

/-- How the first character without room rounds. Only a digit rounds up; an underscore or a
second point counts as zero. -/
def roundingDigit? (c : Char) : Option Nat :=
  if c.isDigit then some (Text.digitValue c)
  else if c = '_' || c = '.' then some 0
  else none

/-- The amount rounded by the first character that has no room. A mantissa that overflows by
rounding up gives up its last decimal. -/
def rounded (negative : Bool) (mantissa scale : Nat) (next : Char) : Option Decimal :=
  match roundingDigit? next with
  | none => none
  | some digit =>
      if digit < 5 then ofParts? negative mantissa scale
      else if mantissa + 1 < mantissaLimit then ofParts? negative (mantissa + 1) scale
      else if scale = 0 then none
      else ofParts? negative ((mantissa + 5) / 10) (scale - 1)

/-- Reads on after a sign. `point` tells whether the point has been passed, `seen` whether
there has been a digit. -/
def readFrom (negative : Bool) (point seen : Bool) (mantissa scale : Nat) :
    List Char → Option Decimal
  | [] => if seen then ofParts? negative mantissa scale else none
  | c :: rest =>
      if c.isDigit then
        let next := 10 * mantissa + Text.digitValue c
        let nextScale := if point then scale + 1 else scale
        if mantissaLimit ≤ next then
          if point then rounded negative mantissa scale c else none
        else if point && maxScale ≤ nextScale then
          match rest with
          | [] => ofParts? negative next nextScale
          | following :: _ => rounded negative next nextScale following
        else readFrom negative point true next nextScale rest
      else if c = '.' && !point then readFrom negative true seen mantissa scale rest
      else if c = '_' && seen then readFrom negative point seen mantissa scale rest
      else none

/-- Reads an amount without an exponent. -/
def readPlain : List Char → Option Decimal
  | '-' :: rest => readFrom true false false 0 0 rest
  | '+' :: rest => readFrom false false false 0 0 rest
  | text => readFrom false false false 0 0 text

/-- The amount divided by `10 ^ power`. -/
def shiftDown (amount : Decimal) (power : Nat) : Option Decimal :=
  if maxScale < power then none
  else ofParts? amount.negative amount.mantissa (amount.scale + power)

/-- The amount multiplied by `10 ^ power`: decimals are used up first, then zeros are
appended. -/
def shiftUp (amount : Decimal) (power : Nat) : Option Decimal :=
  if power ≤ amount.scale then
    ofParts? amount.negative amount.mantissa (amount.scale - power)
  else if maxScale < power then none
  else ofParts? amount.negative (amount.mantissa * Nat.pow 10 (power - amount.scale)) 0

/-- Whether `c` opens an exponent. -/
def isExponentMark (c : Char) : Bool :=
  c = 'e' || c = 'E'

/-- Reads an amount with an exponent. -/
def readScientific (text : List Char) : Option Decimal :=
  match text.dropWhile fun c => !isExponentMark c with
  | [] => none
  | _ :: exponent =>
      match readPlain (text.takeWhile fun c => !isExponentMark c) with
      | none => none
      | some base =>
          match exponent with
          | '-' :: digits => (Text.readBounded Text.maxWord32 digits).bind base.shiftDown
          | digits => (Text.readBounded Text.maxWord32 digits).bind base.shiftUp

/-- Reads an amount. -/
def read (text : List Char) : Option Decimal :=
  match readPlain text with
  | some amount => some amount
  | none => readScientific text

/-- The digits of the amount, with the point before the last `scale` of them. -/
def magnitudeText (amount : Decimal) : List Char :=
  let digits := Text.padded (amount.scale + 1) amount.mantissa
  let wholeLength := digits.length - amount.scale
  if amount.scale = 0 then digits
  else digits.take wholeLength ++ '.' :: digits.drop wholeLength

/-- The written form of an amount. -/
def text (amount : Decimal) : String :=
  String.ofList (if amount.negative then '-' :: amount.magnitudeText else amount.magnitudeText)

end Decimal

end RiskScreen
