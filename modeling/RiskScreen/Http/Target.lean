import RiskScreen.Text.Utf8

/-!
# Request targets

A request names a path, a star, a host, or a URL with a host. Its target is read into a path
and a query; both stay in percent encoding, and a fragment is dropped.
-/

namespace RiskScreen.Http

/-- Why a target is refused. -/
inductive TargetFault where
  | blank
  | tooLong
  | badCharacter
  | badAuthority
  | badFormat
  | schemeTooLong
  deriving DecidableEq, Repr

/-- The text shown for a refused target. -/
def TargetFault.message : TargetFault → String
  | blank => "empty string"
  | tooLong => "uri too long"
  | badCharacter => "invalid uri character"
  | badAuthority => "invalid authority"
  | badFormat => "invalid format"
  | schemeTooLong => "scheme too long"

/-- The path and the query of a request. -/
structure Target where
  path : List Char
  query : Option (List Char)
  deriving DecidableEq, Repr

namespace Target

/-- The largest number of bytes of a target. -/
def maxLength : Nat := 65534

/-- Whether a character can stand in a path. -/
def isPathChar (c : Char) : Bool :=
  c = '!' || ('$' ≤ c && c ≤ ';') || c = '=' || ('@' ≤ c && c ≤ '_') || ('a' ≤ c && c ≤ 'z') ||
    c = '|' || c = '~' || c = '"' || c = '\x7b' || c = '\x7d' || 0x7F ≤ c.toNat

/-- Whether a character can stand in a query. -/
def isQueryChar (c : Char) : Bool :=
  c = '!' || ('$' ≤ c && c ≤ ';') || c = '=' || '?' ≤ c

/-- Whether a character ends a path. -/
def endsPath (c : Char) : Bool :=
  c = '?' || c = '#'

/-- Reads a path and a query. A path without characters is the root. -/
def readPath (text : List Char) : Except TargetFault Target :=
  let path := text.takeWhile fun c => !endsPath c
  let shown := if path.isEmpty then ['/'] else path
  if !path.all isPathChar then .error .badCharacter
  else
    match text.dropWhile fun c => !endsPath c with
    | '?' :: rest =>
        let query := rest.takeWhile (· ≠ '#')
        if query.all isQueryChar then .ok ⟨shown, some query⟩ else .error .badCharacter
    | _ => .ok ⟨shown, none⟩

/-! ### Targets with a host -/

/-- Whether a character can stand in front of a path. A percent sign is looked at apart. -/
def isAuthorityChar (c : Char) : Bool :=
  c.isAlphanum || "!$&'()*+,-.:;=@[]_~%".toList.contains c

/-- What is known of a host while it is read. -/
structure HostScan where
  colons : Nat := 0
  isOpened : Bool := false
  isClosed : Bool := false
  hasPercent : Bool := false

/-- The largest number of colons in a host. -/
def maxColons : Nat := 8

/-- Reads one more character of a host. What counted before `@` or `]` is forgotten. -/
def scanHost (scan : HostScan) (c : Char) : Except TargetFault HostScan :=
  if !isAuthorityChar c then .error .badCharacter
  else if c = ':' then
    if maxColons ≤ scan.colons then .error .badAuthority
    else .ok { scan with colons := scan.colons + 1 }
  else if c = '[' then
    if scan.hasPercent || scan.isOpened then .error .badAuthority
    else .ok { scan with isOpened := true }
  else if c = ']' then
    if !scan.isOpened || scan.isClosed then .error .badAuthority
    else .ok { scan with isClosed := true, colons := 0, hasPercent := false }
  else if c = '@' then .ok { scan with colons := 0, hasPercent := false }
  else if c = '%' then .ok { scan with hasPercent := true }
  else .ok scan

/-- Whether a character ends the part with the host. -/
def endsHost (c : Char) : Bool :=
  c = '/' || c = '?' || c = '#'

/-- Checks the part with the host, and gives what follows it. -/
def afterHost (text : List Char) : Except TargetFault (List Char) := do
  let host := text.takeWhile fun c => !endsHost c
  let scan ← host.foldlM scanHost {}
  if scan.isOpened ≠ scan.isClosed || 1 < scan.colons || host.getLast? = some '@' ||
      scan.hasPercent then
    .error .badAuthority
  else .ok (text.dropWhile fun c => !endsHost c)

/-- Whether a character can stand in a scheme. -/
def isSchemeChar (c : Char) : Bool :=
  c.isAlphanum || c = '+' || c = '-' || c = '.'

/-- The largest number of characters of a scheme that is not a usual one. -/
def maxSchemeLength : Nat := 64

/-- What follows a scheme, its colon and two slashes. -/
def afterScheme (text : List Char) : Except TargetFault (Option (List Char)) :=
  match text.dropWhile isSchemeChar with
  | ':' :: '/' :: '/' :: rest =>
      if maxSchemeLength < (text.takeWhile isSchemeChar).length then .error .schemeTooLong
      else .ok (some rest)
  | _ => .ok none

/-- Reads a target that does not start with a slash. -/
def readHosted (text : List Char) : Except TargetFault Target := do
  match ← afterScheme text with
  | none =>
      if (← afterHost text).isEmpty then .ok ⟨[], none⟩ else .error .badFormat
  | some rest =>
      let path ← afterHost rest
      if path.length = rest.length then .error .badFormat else readPath path

/-- Reads a target. -/
def read (text : List Char) : Except TargetFault Target :=
  if maxLength < (Text.Utf8.encode text).length then .error .tooLong
  else
    match text with
    | [] => .error .blank
    | ['*'] => .ok ⟨['*'], none⟩
    | '/' :: _ => readPath text
    | [c] =>
        match afterHost [c] with
        | .error e => .error e
        | .ok rest => if rest.isEmpty then .ok ⟨[], none⟩ else .error .badCharacter
    | _ => readHosted text

end Target

end RiskScreen.Http
