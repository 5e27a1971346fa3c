import RiskScreen.Text.Percent
import RiskScreen.Url.Address
import RiskScreen.Url.HostRanges
import RiskScreen.Url.Punycode

/-!
# Reading a host

The host of a special scheme is an address in brackets, or a name that is percent-decoded,
folded to lower case and checked label by label; a name that ends in a number has to be a
short address. The host of any other scheme is only checked for marks.
-/

namespace RiskScreen.Host

/-- The marks that end a host or have another use in a URL. -/
def marks : List Char := "#/:<>?@[\\]^|".toList

/-- Whether an ASCII character cannot stand in a host name. -/
def isForbidden (c : Char) : Bool :=
  c.toNat ≤ 0x20 || c.toNat = 0x7F || c = '%' || marks.contains c

/-- The full stops of other scripts. -/
def fullStops : List Char := ['\u3002', '\uFF0E', '\uFF61']

/-- The ASCII character of which `c` is a wide form. -/
def narrow? (c : Char) : Option Char :=
  if 0xFF01 ≤ c.toNat && c.toNat ≤ 0xFF5E then some (Char.ofNat (c.toNat - 0xFEE0)) else none

/-- What stands for a character in a folded name, if it can stand in a name at all. -/
def fold (c : Char) : Option (List Char) :=
  if c.toNat < 128 then if isForbidden c then none else some [c.toLower]
  else if fullStops.contains c then some ['.']
  else if ignoredRanges.contains c then some []
  else if refusedRanges.contains c then none
  else some [((narrow? c).map Char.toLower).getD c]

/-- The beginning of a label that is written in ASCII in place of other characters. -/
def codedHead : List Char := "xn--".toList

/-- Whether a label that was written in ASCII stands for something that needs it. -/
def isCodedName (coded : List Char) : Bool :=
  coded.any (fun c => 128 ≤ c.toNat) && coded.all fun c => fold c = some [c]

/-- The written form of a label. -/
def label? (label : List Char) : Option (List Char) :=
  if codedHead.isPrefixOf label then
    match Punycode.decode (label.drop codedHead.length) with
    | none => none
    | some coded => if isCodedName coded then some label else none
  else if label.all fun c => c.toNat < 128 then some label
  else some (codedHead ++ Punycode.encode label)

/-- The labels with points between them. -/
def joinLabels : List (List Char) → List Char
  | [] => []
  | [label] => label
  | label :: rest => label ++ '.' :: joinLabels rest

/-- The written form of a host name. -/
def name? (text : List Char) : Option (List Char) := do
  let folded ← text.mapM fold
  let labels ← (Text.splitOn '.' folded.flatten).mapM label?
  return joinLabels labels

/-- Reads an address in brackets, after the opening one. -/
def readBracketed (text : List Char) : Option Host :=
  if text.getLast? = some ']' then (readLongAddress text.dropLast).map .longAddress else none

/-- Reads the host of a special scheme. -/
def readSpecial (text : List Char) : Option Host :=
  match text with
  | '[' :: rest => readBracketed rest
  | _ => do
      let decoded ← Text.Percent.text? text
      let written ← name? decoded
      if written.isEmpty then none
      else if endsInNumber written then (readAddress written).map .address
      else some (.name written)

/-- Whether a character cannot stand in the host of a scheme that is not special. -/
def isForbiddenPlain (c : Char) : Bool :=
  c = '\x00' || c = ' ' || marks.contains c

/-- Whether a character beyond those that are printed is written in percent encoding. -/
def isControl (c : Char) : Bool :=
  c.toNat < 0x20 || 0x7E < c.toNat

/-- Reads the host of a scheme that is not special. -/
def readPlain (text : List Char) : Option Host :=
  match text with
  | '[' :: rest => readBracketed rest
  | _ => if text.any isForbiddenPlain then none
         else some (.name (Text.Percent.encode isControl text))

end RiskScreen.Host
