import RiskScreen.Text.Utf8

/-!
# The other side of a connection

A peer answers the requests it receives with its replies in turn, the last one again and
again. A reply may fail to arrive in several ways.
-/

namespace RiskScreen

/-- How a reply arrives. -/
inductive Delivery where
  /-- In full. -/
  | complete
  /-- Not at all: the connection ends, or what comes is no reply. -/
  | refused
  /-- Up to somewhere in its body, where the connection ends. -/
  | truncated
  /-- Never. -/
  | silent
  /-- Up to somewhere in its body, and never on. -/
  | stalled
  deriving DecidableEq, Repr

/-- What a peer replies. -/
structure Reply where
  status : Nat
  /-- Where the reply points to. -/
  location : Option String
  body : List UInt8
  delivery : Delivery
  deriving DecidableEq, Repr

namespace Reply

/-- Whether replies of a status come without a body. -/
def isBodiless (status : Nat) : Bool :=
  status = 204 || status = 304

/-- The body as text. -/
def text (reply : Reply) : String :=
  if isBodiless reply.status then "" else String.ofList (Text.Utf8.decodeLossy reply.body)

end Reply

/-- A request as a peer receives it. -/
structure Received where
  method : String
  target : String
  headers : List (String × String)
  body : String
  deriving DecidableEq, Repr

/-- A peer, and what it has received. -/
structure Peer where
  /-- Its host and port. -/
  address : List Char
  replies : List Reply
  received : List Received := []
  deriving Repr

namespace Peer

/-- The reply to the next request. -/
def nextReply (peer : Peer) : Option Reply :=
  peer.replies[min peer.received.length (peer.replies.length - 1)]?

/-- The peer after one more request. -/
def receive (peer : Peer) (request : Received) : Peer :=
  { peer with received := peer.received ++ [request] }

end Peer

end RiskScreen
