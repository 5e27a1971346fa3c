/-!
# UTF-8

Characters as bytes and bytes as characters. Bytes that are not UTF-8 are split into the
longest beginnings of encoded characters; a lossy reading puts the replacement character in
the place of each of them.
-/

namespace RiskScreen.Text.Utf8

/-- The bytes of a text. -/
def encode (text : List Char) : List UInt8 :=
  text.flatMap String.utf8EncodeChar

/-- A character of which some bytes have been read: the value so far, how many bytes are to
come, and the least and the largest next byte. -/
structure Pending where
  value : Nat
  count : Nat
  low : Nat
  high : Nat
  deriving DecidableEq, Repr

/-- What the first byte of a character says. -/
inductive Lead where
  | single (c : Char)
  | more (pending : Pending)
  | invalid
  deriving Repr

/-- The least continuation byte. -/
def continuationLow : Nat := 0x80

/-- The largest continuation byte. -/
def continuationHigh : Nat := 0xBF

/-- Reads the first byte of a character. The second byte is bounded so that no character has
two encodings and no surrogate has one. -/
def lead (byte : Nat) : Lead :=
  if byte < 0x80 then .single (Char.ofNat byte)
  else if byte < 0xC2 then .invalid
  else if byte < 0xE0 then .more ⟨byte - 0xC0, 1, continuationLow, continuationHigh⟩
  else if byte = 0xE0 then .more ⟨0, 2, 0xA0, continuationHigh⟩
  else if byte = 0xED then .more ⟨0xD, 2, continuationLow, 0x9F⟩
  else if byte < 0xF0 then .more ⟨byte - 0xE0, 2, continuationLow, continuationHigh⟩
  else if byte = 0xF0 then .more ⟨0, 3, 0x90, continuationHigh⟩
  else if byte < 0xF4 then .more ⟨byte - 0xF0, 3, continuationLow, continuationHigh⟩
  else if byte = 0xF4 then .more ⟨4, 3, continuationLow, 0x8F⟩
  else .invalid

/-- Whether `byte` can be the next one. -/
def Pending.accepts (pending : Pending) (byte : Nat) : Bool :=
  pending.low ≤ byte && byte ≤ pending.high

/-- The value with the six bits of one more byte. -/
def Pending.extended (pending : Pending) (byte : Nat) : Nat :=
  pending.value * 64 + (byte - continuationLow)

mutual

/-- The characters of bytes; `none` marks bytes that encode nothing. -/
def decode : List UInt8 → List (Option Char)
  | [] => []
  | byte :: rest =>
      match lead byte.toNat with
      | .single c => some c :: decode rest
      | .more pending => decodeMore pending rest
      | .invalid => none :: decode rest

/-- Reads on inside a character. -/
def decodeMore (pending : Pending) : List UInt8 → List (Option Char)
  | [] => [none]
  | byte :: rest =>
      if pending.accepts byte.toNat then
        if pending.count ≤ 1 then
          some (Char.ofNat (pending.extended byte.toNat)) :: decode rest
        else
          decodeMore ⟨pending.extended byte.toNat, pending.count - 1, continuationLow,
            continuationHigh⟩ rest
      else
        none ::
          match lead byte.toNat with
          | .single c => some c :: decode rest
          | .more pending => decodeMore pending rest
          | .invalid => none :: decode rest

end

/-- The text of bytes that are UTF-8. -/
def decode? (bytes : List UInt8) : Option (List Char) :=
  (decode bytes).mapM id

/-- The character that stands for bytes that encode nothing. -/
def replacement : Char := '\uFFFD'

/-- The text of bytes, whatever they are. -/
def decodeLossy (bytes : List UInt8) : List Char :=
  (decode bytes).map fun c => c.getD replacement

end RiskScreen.Text.Utf8
