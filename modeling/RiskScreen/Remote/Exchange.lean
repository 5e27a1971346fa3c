import RiskScreen.Remote.Client
import RiskScreen.Remote.Peer
import RiskScreen.Text.Base64

/-!
# Asking a remote scorer

The payload is posted to the scorer, directly or through the proxy. A reply that points
elsewhere is followed up to ten times; the body goes along only where the status says so, and
the credentials only as long as host and port stay the same.

## Implementation notes

The connection is described by the peer that can be reached, if there is one. Every other
address fails.
-/

namespace RiskScreen

/-- A request that is about to be sent. -/
structure Outgoing where
  method : String
  url : Url
  /-- The payload, unless it was left behind on the way. -/
  body : Option String
  /-- The credentials. -/
  authorizations : List String
  deriving Repr

namespace ScoringClient

/-- The credentials of a user with a password. -/
def basic (username password : List Char) : String :=
  String.ofList ("Basic ".toList ++
    Text.Base64.encode (Text.Utf8.encode (username ++ ':' :: password)))

/-- The credentials that a URL carries, if its parts are text. -/
def urlCredentials (url : Url) : Option String := do
  let username ← Text.Percent.text? url.username
  let password := url.password.bind Text.Percent.text?
  if username.isEmpty && password.isNone then none
  else some (basic username (password.getD []))

/-- The credentials of the settings. -/
def ownCredentials (client : ScoringClient) : Option String :=
  if client.username.isNone && client.password.isNone then none
  else some (basic (client.username.getD "").toList (client.password.getD "").toList)

/-- The credentials for the proxy. -/
def proxyCredentials (proxy : Url) : Option String :=
  if proxy.password.isNone then none else urlCredentials proxy

/-- The first request about a payload. -/
def firstRequest (client : ScoringClient) (payload : String) : Outgoing where
  method := "POST"
  url := client.address
  body := some payload
  authorizations := (urlCredentials client.address).toList ++ client.ownCredentials.toList

/-- The media type of payloads and answers. -/
def mediaType : String := "application/xml"

/-- The headers of a request, in the order of their names. -/
def headers (client : ScoringClient) (outgoing : Outgoing) : List (String × String) :=
  [("accept", mediaType)] ++
    outgoing.authorizations.mergeSort.map (("authorization", ·)) ++
    (match outgoing.body with
      | none => []
      | some body =>
          [("content-length", toString body.utf8ByteSize),
            ("content-type", mediaType ++ "; charset=utf-8")]) ++
    ((client.proxy.bind proxyCredentials).map (("proxy-authorization", ·))).toList ++
    [("user-agent", "fraud-gate/1.0")]

/-- The host and port that a request is sent to. -/
def destination (client : ScoringClient) (outgoing : Outgoing) : List Char :=
  let url := client.proxy.getD outgoing.url
  ((url.host.map Host.chars).getD []) ++
    ((url.effectivePort.map fun port => ':' :: Text.decimalDigits port).getD [])

/-- The request as it is received. -/
def received (client : ScoringClient) (outgoing : Outgoing) : Received where
  method := outgoing.method
  target := String.ofList
    (if client.proxy.isSome then outgoing.url.absoluteTarget else outgoing.url.target)
  headers := client.headers outgoing
  body := outgoing.body.getD ""

/-- Sends a request: the reply to it and the peer afterwards, if the peer can be reached. -/
def send (client : ScoringClient) (outgoing : Outgoing) (peer : Option Peer) :
    Option (Reply × Peer) := do
  let peer ← peer
  let reply ← peer.nextReply
  if outgoing.url.scheme = Url.plainScheme && client.destination outgoing = peer.address then
    some (reply, peer.receive (client.received outgoing))
  else none

/-- Whether a reply of this status points elsewhere and leaves the payload behind. -/
def dropsBody (status : Nat) : Bool :=
  status = 301 || status = 302 || status = 303

/-- Whether a reply of this status points elsewhere and takes the payload along. -/
def keepsBody (status : Nat) : Bool :=
  status = 307 || status = 308

/-- The request that a reply points to. -/
def redirected (outgoing : Outgoing) (reply : Reply) : Option Outgoing := do
  let location ← reply.location
  let url ← Url.read (some outgoing.url) location.toList
  let authorizations :=
    if url.host = outgoing.url.host && url.effectivePort = outgoing.url.effectivePort then
      outgoing.authorizations
    else []
  if dropsBody reply.status then some { method := "GET", url, body := none, authorizations }
  else if keepsBody reply.status then some { outgoing with url, authorizations }
  else none

/-- What a reply that points nowhere says. -/
def readReply (client : ScoringClient) (reply : Reply) : ScoringResult :=
  match reply.delivery with
  | .complete => interpret reply.status reply.text
  | .refused => .error .transport
  | .truncated => .error .transport
  | .silent => .error (.timeout client.timeout)
  | .stalled => .error (.timeout client.timeout)

/-- Whether the status and the headers of a reply arrive. -/
def hasBegun (reply : Reply) : Bool :=
  reply.delivery ≠ .refused && reply.delivery ≠ .silent

/-- How often a reply that points elsewhere is followed. -/
def maxRedirects : Nat := 10

/-- Sends a request and follows the replies, at most `redirects` times. -/
def follow (client : ScoringClient) :
    Nat → Outgoing → Option Peer → ScoringResult × Option Peer
  | redirects, outgoing, peer =>
      match client.send outgoing peer with
      | none => (.error .transport, peer)
      | some (reply, next) =>
          match (redirected outgoing reply).filter fun _ => hasBegun reply with
          | none => (client.readReply reply, some next)
          | some further =>
              match redirects with
              | 0 => (.error .transport, some next)
              | left + 1 => client.follow left further (some next)

/-- Asks about a payload. -/
def assess (client : ScoringClient) (payload : String) (peer : Option Peer) :
    ScoringResult × Option Peer :=
  client.follow maxRedirects (client.firstRequest payload) peer

/-- Asks about payloads one after another. -/
def assessAll (client : ScoringClient) : List String → Option Peer →
    List ScoringResult × Option Peer
  | [], peer => ([], peer)
  | payload :: rest, peer =>
      let (result, next) := client.assess payload peer
      let (results, last) := client.assessAll rest next
      (result :: results, last)

/-- The milliseconds that a result takes: only a timeout takes any. -/
def delay : ScoringResult → Nat
  | .error (.timeout milliseconds) => milliseconds
  | _ => 0

/-- The client as a scorer, with this peer within reach. -/
def scorer (client : ScoringClient) (peer : Option Peer) : Scorer where
  name := name
  answer payload :=
    let result := (client.assess payload peer).1
    ⟨delay result, result⟩

end ScoringClient

end RiskScreen
