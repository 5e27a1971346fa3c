/-!
# Punycode

A name with characters beyond ASCII is written as its ASCII characters, a hyphen, and a row of
numbers that say where the other characters go. Numbers have digits of base 36 with the lowest
digit first; how far a digit counts as the last one adapts to the numbers before.
-/

namespace RiskScreen.Punycode

/-- The value of a digit. -/
def digitValue? (c : Char) : Option Nat :=
  if 'a' ≤ c && c ≤ 'z' then some (c.toNat - 'a'.toNat)
  else if 'A' ≤ c && c ≤ 'Z' then some (c.toNat - 'A'.toNat)
  else if '0' ≤ c && c ≤ '9' then some (c.toNat - '0'.toNat + 26)
  else none

/-- The digit of a value below 36. -/
def digit (value : Nat) : Char :=
  if value < 26 then Char.ofNat (value + 'a'.toNat) else Char.ofNat (value - 26 + '0'.toNat)

/-- From which value on the digit at `place` is not the last one. -/
def threshold (place bias : Nat) : Nat :=
  max 1 (min 26 (place - bias))

/-- Divides by 35 as long as the number is larger than 455, and counts 36 each time. -/
def reduce (delta : Nat) (counted : Nat) : Nat × Nat :=
  if 455 < delta then reduce (delta / 35) (counted + 36) else (delta, counted)
termination_by delta
decreasing_by exact Nat.div_lt_self (by omega) (by omega)

/-- The bias after a number. -/
def adapt (delta count : Nat) (isFirst : Bool) : Nat :=
  let halved := if isFirst then delta / 700 else delta / 2
  let (rest, counted) := reduce (halved + halved / count) 0
  counted + 36 * rest / (rest + 38)

/-- Reads one number: the sum so far, and what follows its last digit. -/
def readNumber (bias : Nat) : Nat → Nat → Nat → List Char → Option (Nat × List Char)
  | _, _, _, [] => none
  | place, weight, sum, c :: rest =>
      match digitValue? c with
      | none => none
      | some value =>
          if value < threshold place bias then some (sum + value * weight, rest)
          else
            readNumber bias (place + 36) (weight * (36 - threshold place bias))
              (sum + value * weight) rest

/-- Whether a number is a code point of a character. -/
def isScalar (n : Nat) : Bool :=
  n < 0xD800 || (0xDFFF < n && n < 0x110000)

/-- Puts one character after another to its place. `fuel` bounds the number of characters. -/
def place (fuel : Nat) (bias code position : Nat) (placed : List Char) (encoded : List Char) :
    Option (List Char) :=
  match fuel, encoded with
  | _, [] => some placed
  | 0, _ :: _ => none
  | fuel + 1, encoded =>
      match readNumber bias 36 1 position encoded with
      | none => none
      | some (sum, rest) =>
          let count := placed.length + 1
          let next := code + sum / count
          if isScalar next then
            place fuel (adapt (sum - position) count (position = 0 && code = 128)) next
              (sum % count + 1) (placed.insertIdx (sum % count) (Char.ofNat next)) rest
          else none

/-- The text before the last hyphen and the text after it. -/
def splitLast (encoded : List Char) : List Char × List Char :=
  let numbers := (encoded.reverse.takeWhile (· ≠ '-')).reverse
  (encoded.take (encoded.length - numbers.length - 1), numbers)

/-- The name that is written this way. -/
def decode (encoded : List Char) : Option (List Char) :=
  let (plain, numbers) := splitLast encoded
  place numbers.length 72 128 0 plain numbers

/-- The digits of a number. `fuel` bounds how many there are. -/
def writeNumber (bias : Nat) : Nat → Nat → Nat → List Char
  | 0, _, _ => []
  | fuel + 1, position, n =>
      let least := threshold position bias
      if n < least then [digit n]
      else
        digit (least + (n - least) % (36 - least)) ::
          writeNumber bias fuel (position + 36) ((n - least) / (36 - least))

/-- What is known while a name is written. -/
structure Progress where
  written : List Char
  delta : Nat
  bias : Nat
  /-- How many characters have their place. -/
  count : Nat
  isFirst : Bool

/-- Goes past one character of the name while the places of `code` are written. -/
def pass (code : Nat) (progress : Progress) (c : Char) : Progress :=
  if c.toNat < code then { progress with delta := progress.delta + 1 }
  else if c.toNat = code then
    { written := progress.written ++
        writeNumber progress.bias (progress.delta + 1) 36 progress.delta
      delta := 0
      bias := adapt progress.delta (progress.count + 1) progress.isFirst
      count := progress.count + 1
      isFirst := false }
  else progress

/-- Writes the places of the characters with the given code points, in ascending order. -/
def writePlaces (name : List Char) : Nat → List Nat → Progress → Progress
  | _, [], progress => progress
  | start, code :: codes, progress =>
      let reached :=
        { progress with delta := progress.delta + (code - start) * (progress.count + 1) }
      let passed := name.foldl (pass code) reached
      writePlaces name (code + 1) codes { passed with delta := passed.delta + 1 }

/-- The written form of a name. -/
def encode (name : List Char) : List Char :=
  let plain := name.filter fun c => c.toNat < 128
  let codes := (((name.map Char.toNat).filter (128 ≤ ·)).mergeSort).eraseDups
  let progress := writePlaces name 128 codes ⟨[], 0, 72, plain.length, true⟩
  plain ++ (if plain.isEmpty then [] else ['-']) ++ progress.written

end RiskScreen.Punycode
