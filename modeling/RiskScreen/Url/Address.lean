import RiskScreen.Text.Split
import RiskScreen.Url.Basic

/-!
# Numeric hosts

Short addresses are one to four numbers with points between them, the last of which fills the
bytes that are left. Long addresses are eight words with colons between them; one run of zero
words may be left out, and the last two words may be written as a short address.
-/

namespace RiskScreen.Host

/-- What a part of a short address can be. -/
inductive AddressPart where
  | number (n : Nat)
  /-- A number that does not fit 32 bits. -/
  | tooLarge
  deriving DecidableEq, Repr

/-- The digits of a part and their base: hexadecimal after `0x`, octal after a zero. -/
def partDigits : List Char → Nat × List Char
  | '0' :: 'x' :: digits => (16, digits)
  | '0' :: 'X' :: digits => (16, digits)
  | '0' :: c :: digits => (8, c :: digits)
  | digits => (10, digits)

/-- The number that digits of a base denote, after `start`. -/
def baseNumber (base start : Nat) : List Char → Option Nat
  | [] => some start
  | c :: rest =>
      match Text.hexValue? c with
      | none => none
      | some value => if value < base then baseNumber base (start * base + value) rest else none

/-- Reads one part of a short address. -/
def readPart (text : List Char) : Option AddressPart :=
  if text.isEmpty then none
  else
    match baseNumber (partDigits text).1 0 (partDigits text).2 with
    | none => none
    | some n => some (if n ≤ Text.maxWord32 then .number n else .tooLarge)

/-- The parts between points. An empty last part does not count. -/
def pointParts (text : List Char) : List (List Char) :=
  let parts := Text.splitOn '.' text
  if 1 < parts.length && parts.getLast?.any List.isEmpty then parts.dropLast else parts

/-- Whether a host can only be a short address. -/
def endsInNumber (text : List Char) : Bool :=
  match (pointParts text).getLast? with
  | none => false
  | some part => Text.isDigitRun part || (readPart part).isSome

/-- The address of four bytes or fewer. `width` is how many bytes the last number fills. -/
def joinParts (width value : Nat) : List AddressPart → Option Nat
  | [] => none
  | [.number n] => if n < Nat.pow 256 width then some (value * Nat.pow 256 width + n) else none
  | .number n :: rest =>
      if n < 256 then joinParts (width - 1) (value * 256 + n) rest else none
  | .tooLarge :: _ => none

/-- Reads a short address. -/
def readAddress (text : List Char) : Option Nat :=
  let parts := pointParts text
  if 4 < parts.length then none
  else (parts.mapM readPart).bind (joinParts 4 0)

/-- One word of a long address. -/
def readWord (text : List Char) : Option Nat :=
  if text.isEmpty || 4 < text.length then none else baseNumber 16 0 text

/-- One byte of a short address within a long one, without leading zeros. -/
def readByte (text : List Char) : Option Nat :=
  if Text.isDigitRun text && (text.head? ≠ some '0' || text.length = 1) &&
      Text.digitsValue text < 256 then
    some (Text.digitsValue text)
  else none

/-- The two words of a short address within a long one. -/
def readQuad (text : List Char) : Option (List Nat) :=
  match (Text.splitOn '.' text).mapM readByte with
  | some [a, b, c, d] => some [a * 256 + b, c * 256 + d]
  | _ => none

/-- The words of groups with colons between them. The last group may be a short address where
`mayEnd` holds. -/
def readGroups (mayEnd : Bool) : List (List Char) → Option (List Nat)
  | [] => some []
  | [group] =>
      if mayEnd && group.contains '.' then readQuad group else (readWord group).map ([·])
  | group :: rest =>
      match readWord group, readGroups mayEnd rest with
      | some word, some words => some (word :: words)
      | _, _ => none

/-- The words of a text, which may be empty. -/
def readWords (mayEnd : Bool) (text : List Char) : Option (List Nat) :=
  if text.isEmpty then some [] else readGroups mayEnd (Text.splitOn ':' text)

/-- The text before and after the first two colons in a row. -/
def splitColons : List Char → Option (List Char × List Char)
  | [] => none
  | ':' :: ':' :: rest => some ([], rest)
  | c :: rest => (splitColons rest).map fun (front, back) => (c :: front, back)

/-- Reads a long address. -/
def readLongAddress (text : List Char) : Option (List Nat) :=
  match splitColons text with
  | none => (readWords true text).filter fun words => words.length = 8
  | some (front, back) =>
      match readWords false front, readWords true back with
      | some high, some low =>
          if high.length + low.length ≤ 7 then
            some (high ++ List.replicate (8 - high.length - low.length) 0 ++ low)
          else none
      | _, _ => none

end RiskScreen.Host
