import RiskScreen.Text.Digits

/-!
# Universally unique identifiers

An identifier is a number of 128 bits, written as 32 hexadecimal digits in groups of 8, 4, 4,
4 and 12. It is read with hyphens or without, in braces or after `urn:uuid:`, in any letter
case.
-/

namespace RiskScreen

/-- An identifier, a number of 128 bits. -/
structure Uuid where
  value : Nat
  value_lt : value < 340282366920938463463374607431768211456
  deriving DecidableEq, Repr

namespace Uuid

/-- The number that hexadecimal digits denote, after `start`. -/
def hexNumber (start : Nat) : List Char → Option Nat
  | [] => some start
  | c :: rest =>
      match Text.hexValue? c with
      | none => none
      | some digit => hexNumber (start * 16 + digit) rest

/-- The identifier with these 32 hexadecimal digits. -/
def ofDigits (digits : List Char) : Option Uuid :=
  if digits.length = 32 then
    match hexNumber 0 digits with
    | none => none
    | some n => if h : n < 340282366920938463463374607431768211456 then some ⟨n, h⟩ else none
  else none

/-- The lengths of the groups of digits. -/
def groups : List Nat := [8, 4, 4, 4, 12]

/-- The digits of a text in groups of the given lengths with a hyphen between them. -/
def ungroup : List Nat → List Char → Option (List Char)
  | [], text => if text.isEmpty then some [] else none
  | [last], text => if text.length = last then some text else none
  | first :: rest, text =>
      match text.drop first with
      | '-' :: after => (ungroup rest after).map (text.take first ++ ·)
      | _ => none

/-- Reads the hyphenated form. -/
def readHyphenated (text : List Char) : Option Uuid :=
  (ungroup groups text).bind ofDigits

/-- The characters before the identifier in its form as a name. -/
def nameHead : List Char := "urn:uuid:".toList

/-- Reads an identifier in any of its forms. -/
def read (text : List Char) : Option Uuid :=
  if text.length = 32 then ofDigits text
  else if text.length = 36 then readHyphenated text
  else if text.length = 38 && text.head? = some '{' && text.getLast? = some '}' then
    readHyphenated (text.drop 1).dropLast
  else if text.length = 45 && (text.take 9).map Char.toLower = nameHead then
    readHyphenated (text.drop 9)
  else none

/-- The `count` lowest hexadecimal digits of a number. -/
def hexDigits : Nat → Nat → List Char
  | 0, _ => []
  | count + 1, n => hexDigits count (n / 16) ++ [Text.hexDigit (n % 16)]

/-- Digits with hyphens between the groups. -/
def group : List Nat → List Char → List Char
  | [], digits => digits
  | [_], digits => digits
  | first :: rest, digits => digits.take first ++ '-' :: group rest (digits.drop first)

/-- The lower-case hyphenated form. -/
def text (id : Uuid) : String :=
  String.ofList (group groups (hexDigits 32 id.value))

end Uuid

end RiskScreen
