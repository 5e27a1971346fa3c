import RiskScreen.Gateway.Basic
import RiskScreen.Gateway.Input
import RiskScreen.Gateway.Route
import RiskScreen.Wire.Assessment
import RiskScreen.Wire.Outcome
import RiskScreen.Wire.Settings

/-!
# Handling a request

Assessments and the listing of outcomes are open to everyone. The scorers of the tenants are
the business of the administrators: whoever has no key is refused before anything else is
looked at, and so is whoever asks for a resource that does not exist.
-/

namespace RiskScreen.Gateway

open Http

/-! ### Methods -/

/-- The refusal of a method where these ones are allowed. -/
def notAllowed (methods : String) : Response where
  status := 405
  allow := some methods

/-- The answer to a request for what `response` shows. -/
def present (request : Request) (response : Response) : Response :=
  if request.method = "GET" then response
  else if request.method = "HEAD" then response.withoutBody
  else notAllowed "GET,HEAD"

/-! ### The state of the gateway -/

/-- That the gateway runs. -/
def healthy : Response :=
  .plain 200 "ok"

/-- That the gateway is alive. -/
def alive : Response :=
  .json 200 (.object [("alive", .bool true)])

/-- Whether the gateway can keep its trail. -/
def readiness (gateway : Gateway) : Response :=
  let ready := gateway.trail.isReady
  .json (if ready then 200 else 503)
    (.object [("outcome_store", .bool ready), ("ready", .bool ready)])

/-! ### Payments -/

/-- The peer after a source was asked about payloads. -/
def peerAfter (source : ScorerSource) (payloads : List String) (peer : Option Peer) :
    Option Peer :=
  match source with
  | .builtIn _ => peer
  | .remote client => (client.assessAll payloads peer).2

/-- Assesses a payment by the configuration of its tenant. -/
def assess (gateway : Gateway) (request : AssessmentRequest) : Handling :=
  let config := gateway.registry.resolve request.context.tenantId
  let assessment := Assessment.run gateway.marker (config.map (·.scorer gateway.peer))
    gateway.trail request.context request.properties
  { response := .json 200 assessment.decision.toJson
    gateway := { gateway with
      trail := assessment.trail
      peer := peerAfter config.scorer assessment.payloads gateway.peer }
    steps := assessment.steps }

/-- Handles a request for an assessment. -/
def handleAssessment (gateway : Gateway) (request : Request) : Handling :=
  if request.method = "POST" then
    match readBody AssessmentRequest.read request with
    | .error refusal => gateway.respond refusal
    | .ok wanted => gateway.assess wanted
  else gateway.respond (notAllowed "POST")

/-- The outcomes of a payment of a tenant. -/
def listing (gateway : Gateway) (payment : String) (tenant : Uuid) : Response :=
  match gateway.trail.list payment tenant with
  | .error cause => .failure 500 cause.message
  | .ok rows => .json 200 (.array (rows.map Outcome.toListingJson))

/-- The answer to a request for the outcomes of a payment. -/
def outcomes (gateway : Gateway) (payment : List Char) (query : Option (List Char)) :
    Response :=
  match readPiece payment with
  | .error refusal => refusal
  | .ok payment =>
      match readTenantQuery query with
      | .error refusal => refusal
      | .ok tenant => gateway.listing payment tenant

/-! ### Administration -/

/-- The header that carries the key of the administrators. -/
def keyHeader : String := "X-Internal-Api-Key"

/-- Whether a request carries the key. -/
def isAuthorized (gateway : Gateway) (request : Request) : Bool :=
  gateway.adminKey ≠ "" && request.headers.text? keyHeader = some gateway.adminKey

/-- Refuses a request without the key. -/
def refuse (gateway : Gateway) (request : Request) (allow : Option String) : Handling where
  response := { Response.failure 401 "unauthorized" with allow }
  gateway
  steps := [.report (.adminRefused (String.ofList request.target.path))]

/-- Gives a tenant the scorer of these settings. -/
def configure (gateway : Gateway) (tenant : Uuid) (settings : ScorerSettings) : Handling :=
  match ScoringClient.ofSettings settings with
  | .error cause => gateway.respond (.failure 400 cause.message)
  | .ok client =>
      { response := .json 200 (.object [("updated", .bool true)])
        gateway := { gateway with
          registry := gateway.registry.set tenant ⟨.remote client, settings.timeout⟩ }
        steps := [.report (.scorerConfigured tenant settings.url settings.timeout)] }

/-- Handles a request to give a tenant a scorer. -/
def handleConfigure (gateway : Gateway) (piece : List Char) (request : Request) : Handling :=
  match readTenant piece with
  | .error refusal => gateway.respond refusal
  | .ok tenant =>
      match readBody ScorerSettings.read request with
      | .error refusal => gateway.respond refusal
      | .ok settings => gateway.configure tenant settings

/-- Handles a request to take a tenant's scorer away. -/
def handleClear (gateway : Gateway) (piece : List Char) : Handling :=
  match readTenant piece with
  | .error refusal => gateway.respond refusal
  | .ok tenant =>
      { response := .json 200 (.object [("removed", .bool (gateway.registry.hasOverride tenant))])
        gateway := { gateway with registry := gateway.registry.clear tenant } }

/-- The methods of a tenant's scorer. -/
def scorerMethods : String := "PUT,DELETE"

/-- Handles a request about a tenant's scorer. -/
def handleScorer (gateway : Gateway) (piece : List Char) (request : Request) : Handling :=
  let isKnown := request.method = "PUT" || request.method = "DELETE"
  if !gateway.isAuthorized request then
    gateway.refuse request (if isKnown then none else some scorerMethods)
  else if request.method = "PUT" then gateway.handleConfigure piece request
  else if request.method = "DELETE" then gateway.handleClear piece
  else gateway.respond (notAllowed scorerMethods)

/-- Handles a request for a resource that does not exist. -/
def handleUnknown (gateway : Gateway) (request : Request) : Handling :=
  if gateway.isAuthorized request then gateway.respond { status := 404 }
  else gateway.refuse request none

/-- Handles a request. -/
def handle (gateway : Gateway) (request : Request) : Handling :=
  match Route.ofPath request.target.path with
  | .health => gateway.respond (present request healthy)
  | .liveness => gateway.respond (present request alive)
  | .readiness => gateway.respond (present request gateway.readiness)
  | .assessments => gateway.handleAssessment request
  | .outcomes payment =>
      gateway.respond (present request (gateway.outcomes payment request.target.query))
  | .tenantScorer piece => gateway.handleScorer piece request
  | .unknown => gateway.handleUnknown request

end RiskScreen.Gateway
