import RiskScreen.Assessment.Basic
import RiskScreen.Http.Message
import RiskScreen.Remote.Exchange

/-!
# The gateway

The gateway holds the configurations of the tenants, the audit trail and the key of its
administrators. What it makes of a request is a response, the gateway afterwards, and the
steps it took.
-/

namespace RiskScreen

/-- A scorer that the gateway can ask. -/
inductive ScorerSource where
  /-- A scorer that is part of the gateway. -/
  | builtIn (scorer : Scorer)
  /-- A scorer that a tenant has brought. -/
  | remote (client : ScoringClient)

/-- The scorer of a source, with this peer within reach. -/
def ScorerSource.scorer (peer : Option Peer) : ScorerSource → Scorer
  | builtIn scorer => scorer
  | remote client => client.scorer peer

/-- The gateway. -/
structure Gateway where
  registry : Registry ScorerSource
  trail : Trail := {}
  /-- The key of the administrators. No key is as good as an empty one. -/
  adminKey : String
  /-- The marker of the properties that are meant for the scorer. -/
  marker : String := Assessment.defaultMarker
  /-- The peer that remote scorers can be reached at. -/
  peer : Option Peer := none

namespace Gateway

/-- What comes of a request. -/
structure Handling where
  response : Http.Response
  gateway : Gateway
  steps : List Step := []

/-- A response that changes nothing. -/
def respond (gateway : Gateway) (response : Http.Response) : Handling :=
  { response, gateway }

namespace Handling

/-- The payloads about which a scorer of this name was asked. -/
def payloads (handling : Handling) (scorer : String) : List String :=
  handling.steps.filterMap fun
    | .ask name payload => if name = scorer then some payload else none
    | _ => none

/-- The events that were reported. -/
def events (handling : Handling) : List Event :=
  handling.steps.filterMap fun
    | .report event => some event
    | _ => none

end Handling

end Gateway

end RiskScreen
