import RiskScreen.Http.Header

/-!
# Media types

A media type is a type and a subtype with parameters after semicolons. Bodies of requests have
to be JSON: the subtype is `json`, or ends in `+json`.
-/

namespace RiskScreen.Http.ContentType

/-- Whether a character can stand between quotes. -/
def isQuotedChar (c : Char) : Bool :=
  0x1F < c.toNat && c.toNat ≠ 0x7F

/-- Where the reading of parameters stands. -/
inductive Place where
  /-- Before a parameter. -/
  | start
  | name
  /-- Right after the equals sign. -/
  | valueStart
  | value
  /-- Right after the opening quote, where another quote does not close. -/
  | quoteStart
  | quoted
  /-- After the closing quote. -/
  | closed
  deriving DecidableEq, Repr

/-- Reads one more character of the parameters. -/
def step : Place → Char → Option Place
  | .start, c => if c = ' ' then some .start else if isTokenChar c then some .name else none
  | .name, c => if c = '=' then some .valueStart else if isTokenChar c then some .name else none
  | .valueStart, c =>
      if c = '"' then some .quoteStart else if isTokenChar c then some .value else none
  | .value, c => if c = ';' then some .start else if isTokenChar c then some .value else none
  | .quoteStart, c => if isQuotedChar c then some .quoted else none
  | .quoted, c => if c = '"' then some .closed else if isQuotedChar c then some .quoted else none
  | .closed, c => if c = ';' then some .start else if c = ' ' then some .closed else none

/-- Whether the parameters may end here. -/
def Place.mayEnd : Place → Bool
  | start => true
  | valueStart => true
  | value => true
  | closed => true
  | _ => false

/-- Whether the text after the first semicolon is made of parameters. -/
def areParameters (text : List Char) : Bool :=
  (text.foldlM step .start).any Place.mayEnd

/-- The part of a subtype before its last plus sign, and the part after it. A plus sign in
front does not count. -/
def splitSubtype (subtype : List Char) : List Char × Option (List Char) :=
  let suffix := (subtype.reverse.takeWhile (· ≠ '+')).reverse
  let kind := subtype.take (subtype.length - suffix.length - 1)
  if kind.isEmpty then (subtype, none) else (kind, some suffix)

/-- Whether a subtype says that a text is JSON. -/
def isJsonSubtype (subtype : List Char) : Bool :=
  let (kind, suffix) := splitSubtype subtype
  kind = "json".toList || suffix = some "json".toList

/-- Whether a media type is a JSON one of applications. -/
def isJson (text : List Char) : Bool :=
  let lower := text.map Char.toLower
  let essence := lower.takeWhile (· ≠ ';')
  let subtype := (essence.dropWhile (· ≠ '/')).drop 1
  essence.takeWhile (· ≠ '/') = "application".toList && isToken subtype &&
    isJsonSubtype subtype && areParameters ((text.dropWhile (· ≠ ';')).drop 1)

end RiskScreen.Http.ContentType
