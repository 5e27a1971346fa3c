import RiskScreen.Markup.Escape
import RiskScreen.Text.Digits

/-!
# Entities

Reading a text back: the five predefined entities and numeric character references stand for
characters. An entity runs from `&` to the next `;`, and no other `&` may come between.
Errors give positions in bytes of the UTF-8 form of the text.
-/

namespace RiskScreen

/-- Why a numeric character reference names no character. -/
inductive CharRefError where
  | sign
  | noDigits
  | badDigit
  | tooLarge
  | zero
  | notScalar (code : Nat)
  deriving DecidableEq, Repr

/-- Why a text does not unescape. -/
inductive EntityError where
  | unterminated (start stop : Nat)
  | unrecognized (start stop : Nat) (name : String)
  | charRef (cause : CharRefError)
  deriving DecidableEq, Repr

/-- The text shown for a bad character reference. -/
def CharRefError.message : CharRefError → String
  | sign => "unexpected number sign"
  | noDigits => "cannot parse integer from empty string"
  | badDigit => "invalid digit found in string"
  | tooLarge => "number too large to fit in target type"
  | zero => "0x0 character is not permitted in XML"
  | notScalar code => "`" ++ toString code ++ "` is not a valid codepoint"

/-- The text shown for a text that does not unescape. -/
def EntityError.message : EntityError → String
  | unterminated start stop =>
      "Error while escaping character at range " ++ toString start ++ ".." ++ toString stop ++
        ": Cannot find ';' after '&'"
  | unrecognized start stop name =>
      "at " ++ toString start ++ ".." ++ toString stop ++ ": unrecognized entity `" ++ name ++
        "`"
  | charRef cause => "invalid character reference: " ++ cause.message

namespace Markup

/-- The number of bytes of a text in UTF-8. -/
def byteLength (text : List Char) : Nat :=
  text.foldr (fun c length => c.utf8Size + length) 0

/-- The value of a digit in base ten, or in base sixteen. -/
def radixDigit? (hexadecimal : Bool) (c : Char) : Option Nat :=
  if hexadecimal then Text.hexValue? c
  else if c.isDigit then some (Text.digitValue c) else none

/-- Digits read after `value`, as long as the number has at most thirty-two bits. -/
def readCode (hexadecimal : Bool) (value : Nat) : List Char → Except CharRefError Nat
  | [] => .ok value
  | c :: rest =>
      match radixDigit? hexadecimal c with
      | none => .error .badDigit
      | some digit =>
          let next := (if hexadecimal then 16 else 10) * value + digit
          if Text.maxWord32 < next then .error .tooLarge else readCode hexadecimal next rest

/-- The number that the digits of a reference denote. -/
def codeOfDigits (hexadecimal : Bool) : List Char → Except CharRefError Nat
  | [] => .error .noDigits
  | '+' :: _ => .error .sign
  | '-' :: _ => .error .sign
  | digits => readCode hexadecimal 0 digits

/-- The character with this code. -/
def charOfCode (code : Nat) : Except CharRefError Char :=
  if code = 0 then .error .zero
  else if code.isValidChar then .ok (Char.ofNat code)
  else .error (.notScalar code)

/-- The character a numeric reference stands for, given what follows its `#`. -/
def charOfReference (reference : List Char) : Except CharRefError Char :=
  let code := match reference with
    | 'x' :: digits => codeOfDigits true digits
    | digits => codeOfDigits false digits
  match code with
  | .error e => .error e
  | .ok value => charOfCode value

/-- The five predefined entities. -/
def predefined? (name : List Char) : Option Char :=
  if name = "lt".toList then some '<'
  else if name = "gt".toList then some '>'
  else if name = "amp".toList then some '&'
  else if name = "apos".toList then some '\''
  else if name = "quot".toList then some '"'
  else none

/-- The character that the entity `name` stands for; `start` is the position of the name. -/
def charOfEntity (start : Nat) (name : List Char) : Except EntityError Char :=
  match name with
  | '#' :: reference =>
      match charOfReference reference with
      | .error e => .error (.charRef e)
      | .ok c => .ok c
  | _ =>
      match predefined? name with
      | some c => .ok c
      | none =>
          .error (.unrecognized start (start + byteLength name) (String.ofList name))

/-- Whether `c` is neither `&` nor `;`. -/
def insideEntity (c : Char) : Bool :=
  c ≠ '&' && c ≠ ';'

/-- Unescapes the rest of a text of `total` bytes, from the byte position `position` on. -/
def unescapeFrom (total position : Nat) (text : List Char) : Except EntityError (List Char) :=
  match text with
  | [] => .ok []
  | c :: rest =>
      if c = '&' then
        match _h : rest.dropWhile insideEntity with
        | ';' :: after =>
            let name := rest.takeWhile insideEntity
            match charOfEntity (position + 1) name with
            | .error e => .error e
            | .ok char =>
                match unescapeFrom total (position + byteLength name + 2) after with
                | .error e => .error e
                | .ok chars => .ok (char :: chars)
        | _ => .error (.unterminated position total)
      else
        match unescapeFrom total (position + c.utf8Size) rest with
        | .error e => .error e
        | .ok chars => .ok (c :: chars)
termination_by text.length
decreasing_by
  · have := (List.dropWhile_suffix insideEntity (l := rest)).length_le
    simp only [_h, List.length_cons] at this ⊢
    omega
  · simp

/-- The text that an escaped text stands for. -/
def unescape (text : List Char) : Except EntityError (List Char) :=
  unescapeFrom (byteLength text) 0 text

end Markup

end RiskScreen
