import RiskScreen.Url.Host

/-!
# Reading a URL

A URL is read on its own or against the URL it is found at. Spaces and controls at its ends
and tabs and line ends anywhere do not count. What can be wrong with it is the host, the port,
or that there is no scheme and nothing to read it against.
-/

namespace RiskScreen.Url

/-- Whether a character at the ends of a URL does not count. -/
def isOuterBlank (c : Char) : Bool :=
  c.toNat ≤ 0x20

/-- Whether a character anywhere in a URL does not count. -/
def isDropped (c : Char) : Bool :=
  c = '\t' || c = '\n' || c = '\r'

/-- Drops the characters at the end that satisfy `skip`. -/
def dropBack (skip : Char → Bool) (text : List Char) : List Char :=
  (text.reverse.dropWhile skip).reverse

/-- The characters that count, up to the fragment. -/
def relevant (text : List Char) : List Char :=
  ((dropBack isOuterBlank (text.dropWhile isOuterBlank)).filter fun c => !isDropped c).takeWhile
    (· ≠ '#')

/-- Whether a character can stand in a scheme after the first one. -/
def isSchemeChar (c : Char) : Bool :=
  c.isAlphanum || c = '+' || c = '-' || c = '.'

/-- The scheme in lower case, and what follows its colon. -/
def splitScheme (text : List Char) : Option (List Char × List Char) :=
  match text.takeWhile isSchemeChar, text.dropWhile isSchemeChar with
  | first :: rest, ':' :: after =>
      if first.isAlpha then some ((first :: rest).map Char.toLower, after) else none
  | _, _ => none

/-- Whether a character separates parts of a path. -/
def isSlash (special : Bool) (c : Char) : Bool :=
  c = '/' || (special && c = '\\')

/-- Whether a character ends the part with the user, the host and the port. -/
def endsAuthority (special : Bool) (c : Char) : Bool :=
  isSlash special c || c = '?'

/-! ### Percent encoding of the parts -/

/-- Whether a character of a query is written in percent encoding. -/
def escapedInQuery (special : Bool) (c : Char) : Bool :=
  Host.isControl c || c = ' ' || c = '"' || c = '<' || c = '>' || (special && c = '\x27')

/-- Whether a character of a path is written in percent encoding. -/
def escapedInPath (c : Char) : Bool :=
  escapedInQuery false c || c = '\x60' || c = '^' || c = '\x7b' || c = '\x7d'

/-- Whether a character of a user name or password is written in percent encoding. -/
def escapedInUser (c : Char) : Bool :=
  escapedInPath c || "/:;=@[\\]|".toList.contains c

/-! ### User, host and port -/

/-- What stands before the path of a URL. -/
structure Authority where
  username : List Char
  password : Option (List Char)
  host : Option Host
  port : Option Nat

/-- The text up to the last `@`, and the text after it. -/
def splitUser (text : List Char) : List Char × List Char :=
  let host := (text.reverse.takeWhile (· ≠ '@')).reverse
  (text.take (text.length - host.length - 1), host)

/-- The user name and the password. An empty password is none. -/
def readUser (text : List Char) : List Char × Option (List Char) :=
  let password := (text.dropWhile (· ≠ ':')).drop 1
  (Text.Percent.encode escapedInUser (text.takeWhile (· ≠ ':')),
    if password.isEmpty then none else some (Text.Percent.encode escapedInUser password))

/-- The host and the rest of the text from the colon before the port. A colon in brackets
belongs to the host. -/
def splitHost (inBrackets : Bool) : List Char → List Char × List Char
  | [] => ([], [])
  | c :: rest =>
      if c = ':' && !inBrackets then ([], c :: rest)
      else
        let (host, after) := splitHost (c = '[' || (inBrackets && c ≠ ']')) rest
        (c :: host, after)

/-- Reads a port and its colon. The usual port of the scheme, and no digits, are no port. -/
def readPort (scheme : List Char) : List Char → Option (Option Nat)
  | ':' :: digits =>
      if digits.all Char.isDigit then
        let port := Text.digitsValue digits
        if Text.maxWord16 < port then none
        else if digits.isEmpty || usualPort scheme = some port then some none
        else some (some port)
      else none
  | _ => some none

/-- Reads a host. Only a scheme that is not special may go without. -/
def readHost (scheme text : List Char) (hasPort : Bool) : Option (Option Host) :=
  if text.isEmpty then if isSpecial scheme || hasPort then none else some none
  else if isSpecial scheme then (Host.readSpecial text).map some
  else (Host.readPlain text).map some

/-- Reads what stands between the slashes and the path. -/
def readAuthority (scheme text : List Char) : Option Authority := do
  let (user, place) := splitUser text
  let (hostText, portText) := splitHost false place
  let host ← readHost scheme hostText (!portText.isEmpty)
  let port ← readPort scheme portText
  let (username, password) := readUser user
  if host.isNone && (!username.isEmpty || password.isSome) then none
  else return { username, password, host, port }

/-! ### Path and query -/

/-- The pieces of a path between slashes. -/
def splitPath (special : Bool) : List Char → List (List Char)
  | [] => [[]]
  | c :: rest =>
      if isSlash special c then [] :: splitPath special rest
      else Text.consFirst c (splitPath special rest)

/-- The characters that may be written in percent encoding in a piece that only has points. -/
def plainPoints : List Char → List Char
  | '%' :: '2' :: 'e' :: rest => '.' :: plainPoints rest
  | '%' :: '2' :: 'E' :: rest => '.' :: plainPoints rest
  | c :: rest => c :: plainPoints rest
  | [] => []

/-- Walks along the pieces of a path from `segments`. One point stays in place and two points
go back; both leave an empty segment at the end. -/
def walk (segments : List (List Char)) : List (List Char) → List (List Char)
  | [] => segments
  | piece :: rest =>
      let ending := if rest.isEmpty then [[]] else []
      if plainPoints piece = ['.', '.'] then walk (segments.dropLast ++ ending) rest
      else if plainPoints piece = ['.'] then walk (segments ++ ending) rest
      else walk (segments ++ [Text.Percent.encode escapedInPath piece]) rest

/-- The text before the question mark. -/
def beforeQuery (text : List Char) : List Char :=
  text.takeWhile (· ≠ '?')

/-- The query after the question mark, if there is one. -/
def queryOf (special : Bool) (text : List Char) : Option (List Char) :=
  match text.dropWhile (· ≠ '?') with
  | [] => none
  | _ :: query => some (Text.Percent.encode (escapedInQuery special) query)

/-- The path of a text that starts at its first slash, if there is one. -/
def rootedPath (special : Bool) (text : List Char) : List (List Char) :=
  match beforeQuery text with
  | [] => if special then [[]] else []
  | c :: rest => walk [] (splitPath special (if isSlash special c then rest else c :: rest))

/-! ### Whole URLs -/

/-- Reads a URL after the slashes in front of its host. -/
def readAfterSlashes (scheme text : List Char) : Option Url :=
  let special := isSpecial scheme
  let rest := text.dropWhile fun c => !endsAuthority special c
  (readAuthority scheme (text.takeWhile fun c => !endsAuthority special c)).map fun authority =>
    { scheme
      username := authority.username
      password := authority.password
      host := authority.host
      port := authority.port
      path := rootedPath special rest
      query := queryOf special rest }

/-- The host of a file: none where it is empty, or is this machine, or names a drive. -/
def readFileHost (text : List Char) : Option (Option Host) :=
  match text with
  | [] => some none
  | [drive, mark] =>
      if drive.isAlpha && (mark = ':' || mark = '|') then some none
      else (Host.readSpecial text).map some
  | _ => (Host.readSpecial text).map some

/-- Reads the URL of a file after its scheme. -/
def readFile (text : List Char) : Option Url :=
  match text with
  | first :: second :: rest =>
      if isSlash true first && isSlash true second then
        (readFileHost (rest.takeWhile fun c => !endsAuthority true c)).map fun host =>
          { scheme := fileScheme, host, path := rootedPath true rest, query := queryOf true rest }
      else some { scheme := fileScheme, path := rootedPath true text, query := queryOf true text }
  | _ => some { scheme := fileScheme, path := rootedPath true text, query := queryOf true text }

/-- Reads a URL without a scheme of its own against a special one. -/
def readRelative (base : Url) (text : List Char) : Option Url :=
  match text with
  | [] => some base
  | '?' :: _ => some { base with query := queryOf true text }
  | [c] =>
      if isSlash true c then some { base with path := [[]], query := none }
      else some { base with path := walk base.path.dropLast [[c]], query := none }
  | first :: second :: rest =>
      if isSlash true first then
        if isSlash true second then readAfterSlashes base.scheme rest
        else some { base with path := rootedPath true text, query := queryOf true text }
      else
        some { base with
          path := walk base.path.dropLast (splitPath true (beforeQuery text))
          query := queryOf true text }

/-- Reads a URL after its scheme. Slashes in front of a special host may be missing or too
many, unless the URL is read against one with the same scheme. -/
def readAfterScheme (base : Option Url) (scheme text : List Char) : Option Url :=
  if scheme = fileScheme then readFile text
  else if isSpecial scheme then
    match base.filter fun base =>
        base.scheme = scheme && ((text.take 2).filter (isSlash true)).length < 2 with
    | some base => readRelative base text
    | none => readAfterSlashes scheme (text.dropWhile (isSlash true))
  else
    match text with
    | '/' :: '/' :: rest => readAfterSlashes scheme rest
    | _ => some { scheme, path := [beforeQuery text], query := queryOf false text }

/-- Reads a URL, against another one if there is one. -/
def read (base : Option Url) (text : List Char) : Option Url :=
  match splitScheme (relevant text) with
  | some (scheme, rest) => readAfterScheme base scheme rest
  | none => base.bind fun base => readRelative base (relevant text)

end RiskScreen.Url
