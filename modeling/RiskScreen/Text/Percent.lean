import RiskScreen.Text.Digits
import RiskScreen.Text.Split
import RiskScreen.Text.Utf8

/-!
# Percent encoding

A byte may be written as a percent sign and two hexadecimal digits. A percent sign before
anything else stands for itself. Forms write a space as a plus sign besides.
-/

namespace RiskScreen.Text.Percent

/-- The byte with these two hexadecimal digits. -/
def byte? (high low : Char) : Option UInt8 :=
  match hexValue? high, hexValue? low with
  | some h, some l => some (UInt8.ofNat (16 * h + l))
  | _, _ => none

/-- The bytes of a percent-encoded text. -/
def decode : List Char → List UInt8
  | '%' :: high :: low :: rest =>
      match byte? high low with
      | some byte => byte :: decode rest
      | none => '%'.toUInt8 :: decode (high :: low :: rest)
  | c :: rest => String.utf8EncodeChar c ++ decode rest
  | [] => []

/-- The text that is percent-encoded, if its bytes are UTF-8. -/
def text? (encoded : List Char) : Option (List Char) :=
  Utf8.decode? (decode encoded)

/-- One byte in percent encoding. -/
def encodeByte (byte : UInt8) : List Char :=
  ['%', hexDigitUpper (byte.toNat / 16), hexDigitUpper (byte.toNat % 16)]

/-- The text with the characters that satisfy `escaped` in percent encoding. -/
def encode (escaped : Char → Bool) (text : List Char) : List Char :=
  text.flatMap fun c =>
    if escaped c then (String.utf8EncodeChar c).flatMap encodeByte else [c]

/-- The text of a name or a value in a form. -/
def formText (encoded : List Char) : List Char :=
  Utf8.decodeLossy (decode (encoded.map fun c => if c = '+' then ' ' else c))

/-- The name and the value of one part of a form. -/
def formPair (part : List Char) : List Char × List Char :=
  (formText (part.takeWhile (· ≠ '=')), formText ((part.dropWhile (· ≠ '=')).drop 1))

/-- The names and values of a form. Empty parts are passed over. -/
def form (encoded : List Char) : List (List Char × List Char) :=
  ((splitOn '&' encoded).filter fun part => !part.isEmpty).map formPair

end RiskScreen.Text.Percent
