/-!
# Base64

Three bytes are written as four digits of six bits. One or two bytes at the end are filled up
with equals signs.
-/

namespace RiskScreen.Text.Base64

/-- The digit of a value below 64. -/
def digit (value : Nat) : Char :=
  if value < 26 then Char.ofNat (value + 'A'.toNat)
  else if value < 52 then Char.ofNat (value - 26 + 'a'.toNat)
  else if value < 62 then Char.ofNat (value - 52 + '0'.toNat)
  else if value = 62 then '+'
  else '/'

/-- The `index`-th digit, counted from the highest one, of four digits with this value. -/
def digitAt (value index : Nat) : Char :=
  digit (value / Nat.pow 64 (3 - index) % 64)

/-- The value of three bytes. -/
def joined (first second third : UInt8) : Nat :=
  (first.toNat * 256 + second.toNat) * 256 + third.toNat

/-- The digits of bytes. -/
def encode : List UInt8 → List Char
  | first :: second :: third :: rest =>
      let value := joined first second third
      digitAt value 0 :: digitAt value 1 :: digitAt value 2 :: digitAt value 3 :: encode rest
  | [first, second] =>
      let value := joined first second 0
      [digitAt value 0, digitAt value 1, digitAt value 2, '=']
  | [first] =>
      let value := joined first 0 0
      [digitAt value 0, digitAt value 1, '=', '=']
  | [] => []

end RiskScreen.Text.Base64
