import RiskScreen.Text.Digits

/-!
# Addresses of resources

The parts of a URL that matter to a request, and their written forms. Names, paths and queries
are kept as they are sent, in percent encoding. A fragment is never sent and not kept.
-/

namespace RiskScreen

/-- The host of a URL. -/
inductive Host where
  | name (text : List Char)
  /-- An address of 32 bits. -/
  | address (value : Nat)
  /-- An address of eight words of 16 bits. -/
  | longAddress (words : List Nat)
  deriving DecidableEq, Repr

/-- A URL. -/
structure Url where
  scheme : List Char
  username : List Char := []
  password : Option (List Char) := none
  host : Option Host := none
  /-- The port, unless it is the usual one of the scheme. -/
  port : Option Nat := none
  /-- The segments of the path. -/
  path : List (List Char) := []
  query : Option (List Char) := none
  deriving DecidableEq, Repr

namespace Host

/-- The four bytes of an address of 32 bits, with points between them. -/
def dotted (value : Nat) : List Char :=
  Text.decimalDigits (value / 16777216) ++ '.' :: Text.decimalDigits (value / 65536 % 256) ++
    '.' :: Text.decimalDigits (value / 256 % 256) ++ '.' :: Text.decimalDigits (value % 256)

/-- The number of zero words in front. -/
def leadingZeros (words : List Nat) : Nat :=
  (words.takeWhile (· = 0)).length

/-- The position and the length of the first longest run of zero words. -/
def longestZeros (position : Nat) : List Nat → Nat × Nat
  | [] => (position, 0)
  | word :: rest =>
      let here := leadingZeros (word :: rest)
      let later := longestZeros (position + 1) rest
      if later.2 ≤ here then (position, here) else later

/-- Words in hexadecimal with colons between them. -/
def colonSeparated : List Nat → List Char
  | [] => []
  | [word] => Nat.toDigits 16 word
  | word :: rest => Nat.toDigits 16 word ++ ':' :: colonSeparated rest

/-- The words of a long address. The first longest run of at least two zero words is left
out. -/
def compressed (words : List Nat) : List Char :=
  let (position, length) := longestZeros 0 words
  if length < 2 then colonSeparated words
  else
    colonSeparated (words.take position) ++ ':' :: ':' ::
      colonSeparated (words.drop (position + length))

/-- The written form of a host. -/
def chars : Host → List Char
  | name text => text
  | address value => dotted value
  | longAddress words => '[' :: compressed words ++ [']']

end Host

namespace Url

/-- The usual ports of the schemes with a host of their own. -/
def usualPorts : List (List Char × Nat) :=
  [("http".toList, 80), ("https".toList, 443), ("ws".toList, 80), ("wss".toList, 443),
    ("ftp".toList, 21)]

/-- The usual port of a scheme. -/
def usualPort (scheme : List Char) : Option Nat :=
  usualPorts.lookup scheme

/-- The scheme of files. -/
def fileScheme : List Char := "file".toList

/-- The scheme of plain requests. -/
def plainScheme : List Char := "http".toList

/-- Whether URLs of the scheme have a host, slashes of both kinds, and a rooted path. -/
def isSpecial (scheme : List Char) : Bool :=
  (usualPort scheme).isSome || scheme = fileScheme

/-- The port that is connected to. -/
def effectivePort (url : Url) : Option Nat :=
  url.port.orElse fun _ => usualPort url.scheme

/-- The host and the port, if it is not the usual one. -/
def hostAndPort (url : Url) : List Char :=
  ((url.host.map Host.chars).getD []) ++
    ((url.port.map fun port => ':' :: Text.decimalDigits port).getD [])

/-- What a request asks the host for. -/
def target (url : Url) : List Char :=
  url.path.flatMap ('/' :: ·) ++ ((url.query.map ('?' :: ·)).getD [])

/-- What a request asks a proxy for. -/
def absoluteTarget (url : Url) : List Char :=
  url.scheme ++ ':' :: '/' :: '/' :: url.hostAndPort ++ url.target

end Url

end RiskScreen
