/-!
# Decimal digits

A run of ASCII digits denotes a natural number, most significant digit first. `readBounded`
is the reader of numeric settings: digits, one optional plus sign, and an upper limit.
-/

namespace RiskScreen.Text

/-- The value of one ASCII digit. -/
def digitValue (c : Char) : Nat :=
  c.toNat - 48

/-- The number a run of digits denotes, read after `start`. -/
def digitsValueFrom (start : Nat) (digits : List Char) : Nat :=
  digits.foldl (fun value c => 10 * value + digitValue c) start

/-- The number a run of digits denotes. -/
def digitsValue (digits : List Char) : Nat :=
  digitsValueFrom 0 digits

/-- The decimal digits of `n`, without leading zeros. -/
def decimalDigits (n : Nat) : List Char :=
  Nat.toDigits 10 n

/-- The digits of `n`, filled up with zeros on the left to `width` places. -/
def padded (width n : Nat) : List Char :=
  List.replicate (width - (decimalDigits n).length) '0' ++ decimalDigits n

/-- Whether the text is a non-empty run of ASCII digits. -/
def isDigitRun (text : List Char) : Bool :=
  !text.isEmpty && text.all Char.isDigit

/-- Digits that denote at most `limit`, after an optional plus sign. -/
def readBounded (limit : Nat) (text : List Char) : Option Nat :=
  let digits := match text with
    | '+' :: rest => rest
    | other => other
  if isDigitRun digits && digitsValue digits ≤ limit then some (digitsValue digits) else none

/-- The value of a hexadecimal digit of either letter case. -/
def hexValue? (c : Char) : Option Nat :=
  if c.isDigit then some (digitValue c)
  else if 'a' ≤ c && c ≤ 'f' then some (c.toNat - 'a'.toNat + 10)
  else if 'A' ≤ c && c ≤ 'F' then some (c.toNat - 'A'.toNat + 10)
  else none

/-- The lower-case hexadecimal digit of a value below sixteen. -/
def hexDigit (value : Nat) : Char :=
  Nat.digitChar value

/-- The upper-case hexadecimal digit of a value below sixteen. -/
def hexDigitUpper (value : Nat) : Char :=
  (Nat.digitChar value).toUpper

@[simp] theorem digitsValueFrom_nil (start : Nat) : digitsValueFrom start [] = start := by
  simp only [digitsValueFrom, List.foldl_nil]

@[simp] theorem digitsValueFrom_cons (start : Nat) (c : Char) (rest : List Char) :
    digitsValueFrom start (c :: rest) = digitsValueFrom (10 * start + digitValue c) rest := by
  simp only [digitsValueFrom, List.foldl_cons]

theorem digitsValueFrom_append (start : Nat) (front back : List Char) :
    digitsValueFrom start (front ++ back) = digitsValueFrom (digitsValueFrom start front) back := by
  simp only [digitsValueFrom, List.foldl_append]

/-- The largest number of sixteen bits. -/
def maxWord16 : Nat := 65535

/-- The largest number of thirty-two bits. -/
def maxWord32 : Nat := 4294967295

/-- The largest number of sixty-four bits. -/
def maxWord64 : Nat := 18446744073709551615

end RiskScreen.Text
