import RiskScreen.Text.Utf8

/-!
# Header fields

Names are tokens and compare without regard to letter case. A value may hold any printed
character, but only a value in visible ASCII can be looked at as text. Of several fields with
one name the first counts.
-/

namespace RiskScreen.Http

/-- The header fields of a request. -/
abbrev Headers := List (String × String)

/-- The marks that can stand in a token. -/
def tokenMarks : List Char := "!#$%&'*+-.^_\x60|~".toList

/-- Whether a character can stand in a token. -/
def isTokenChar (c : Char) : Bool :=
  c.isAlphanum || tokenMarks.contains c

/-- Whether a text is a token. -/
def isToken (text : List Char) : Bool :=
  !text.isEmpty && text.all isTokenChar

/-- Whether a character can stand in the value of a field. -/
def isValueChar (c : Char) : Bool :=
  c = '\t' || (0x20 ≤ c.toNat && c.toNat ≠ 0x7F)

/-- Whether a character of a value is visible ASCII. -/
def isVisibleChar (c : Char) : Bool :=
  c = '\t' || (0x20 ≤ c.toNat && c.toNat < 0x7F)

/-- The name in lower case. -/
def lowerName (name : String) : List Char :=
  name.toList.map Char.toLower

namespace Headers

/-- The value of the first field with this name. -/
def first? (headers : Headers) (name : String) : Option String :=
  (headers.find? fun field => lowerName field.1 = lowerName name).map Prod.snd

/-- The value of the first field with this name, if it is visible ASCII. -/
def text? (headers : Headers) (name : String) : Option String :=
  (headers.first? name).filter fun value => value.toList.all isVisibleChar

end Headers

end RiskScreen.Http
