import RiskScreen.Gateway.Handle
import RiskScreen.Proofs.Gateway.Route

/-!
# What a request does to the gateway

Most requests are answered and change nothing. An assessment may add to the trail; a scorer is
set or cleared by a request that carries the key of the administrators. `Effect` lists these
cases with all that a request has to bring for them, and every request has one of them.
-/

namespace RiskScreen

/-- The first field with a name is after fields with other names. -/
theorem Http.Headers.first?_eq_some_iff {headers : Headers} {name value : String} :
    headers.first? name = some value ↔
      ∃ front key back, headers = front ++ (key, value) :: back ∧
        lowerName key = lowerName name ∧
        ∀ field ∈ front, lowerName field.1 ≠ lowerName name := by
  simp only [Headers.first?, Option.map_eq_some_iff, List.find?_eq_some_iff_append,
    decide_eq_true_eq, Bool.not_eq_true', decide_eq_false_iff_not]
  constructor
  · rintro ⟨⟨key, _⟩, ⟨same, front, back, split, free⟩, rfl⟩
    exact ⟨front, key, back, split, same, free⟩
  · rintro ⟨front, key, back, split, same, free⟩
    exact ⟨(key, value), ⟨same, front, back, split, free⟩, rfl⟩

namespace Gateway

open Http

/-- The first header field for the key holds this key, which is not empty and all visible
ASCII. -/
structure CarriesKey (key : String) (request : Request) : Prop where
  nonempty : key ≠ ""
  visible : ∀ c ∈ key.toList, isVisibleChar c = true
  first : ∃ front name back, request.headers = front ++ (name, key) :: back ∧
    lowerName name = lowerName keyHeader ∧
    ∀ field ∈ front, lowerName field.1 ≠ lowerName keyHeader

/-- The request posts this assessment, and its body can be read. -/
structure Posts (request : Request) (wanted : AssessmentRequest) : Prop where
  method : request.method = "POST"
  path : request.target.path = Route.assessmentsPath
  body : readBody AssessmentRequest.read request = .ok wanted

/-- The path of the request is that of the scorer of this tenant. -/
def NamesScorerOf (tenant : Uuid) (request : Request) : Prop :=
  ∃ piece, '/' ∉ piece ∧ request.target.path = Route.scorerPath piece ∧
    readTenant piece = .ok tenant

/-- The request puts a scorer with these settings, and they make this client. -/
structure Puts (request : Request) (settings : ScorerSettings) (client : ScoringClient) :
    Prop where
  method : request.method = "PUT"
  body : readBody ScorerSettings.read request = .ok settings
  client : ScoringClient.ofSettings settings = .ok client

/-- The gateway with a scorer of the tenant's own. -/
def withScorer (gateway : Gateway) (tenant : Uuid) (settings : ScorerSettings)
    (client : ScoringClient) : Gateway :=
  { gateway with
    registry := gateway.registry.set tenant ⟨.remote client, settings.timeout⟩ }

/-- The gateway without a scorer of the tenant's own. -/
def withoutScorer (gateway : Gateway) (tenant : Uuid) : Gateway :=
  { gateway with registry := gateway.registry.clear tenant }

/-- What handling a request can come to. -/
inductive Effect (gateway : Gateway) (request : Request) : Handling → Prop where
  | answered (response : Response) (steps : List Step) :
      Effect gateway request ⟨response, gateway, steps⟩
  | assessed (wanted : AssessmentRequest) (posts : Posts request wanted) :
      Effect gateway request (gateway.assess wanted)
  | configured (tenant : Uuid) (settings : ScorerSettings) (client : ScoringClient)
      (response : Response) (steps : List Step) (success : response.status = 200)
      (key : CarriesKey gateway.adminKey request) (names : NamesScorerOf tenant request)
      (puts : Puts request settings client) :
      Effect gateway request ⟨response, gateway.withScorer tenant settings client, steps⟩
  | cleared (tenant : Uuid) (response : Response) (steps : List Step)
      (success : response.status = 200) (key : CarriesKey gateway.adminKey request)
      (names : NamesScorerOf tenant request) (method : request.method = "DELETE") :
      Effect gateway request ⟨response, gateway.withoutScorer tenant, steps⟩

variable {gateway : Gateway} {request : Request}

theorem isAuthorized_iff :
    gateway.isAuthorized request = true ↔ CarriesKey gateway.adminKey request := by
  rw [isAuthorized, Bool.and_eq_true, decide_eq_true_eq, decide_eq_true_eq, Headers.text?,
    Option.filter_eq_some_iff, Headers.first?_eq_some_iff, List.all_eq_true]
  constructor
  · rintro ⟨nonempty, first, visible⟩
    exact ⟨nonempty, visible, first⟩
  · rintro ⟨nonempty, visible, first⟩
    exact ⟨nonempty, first, visible⟩

theorem effect_handleAssessment (path : request.target.path = Route.assessmentsPath) :
    Effect gateway request (gateway.handleAssessment request) := by
  unfold handleAssessment
  split
  · rename_i method
    split
    · exact .answered _ _
    · rename_i wanted body
      exact .assessed wanted ⟨method, path, body⟩
  · exact .answered _ _

theorem effect_configure {tenant : Uuid} {settings : ScorerSettings}
    (key : CarriesKey gateway.adminKey request) (names : NamesScorerOf tenant request)
    (method : request.method = "PUT")
    (body : readBody ScorerSettings.read request = .ok settings) :
    Effect gateway request (gateway.configure tenant settings) := by
  unfold configure
  split
  · exact .answered _ _
  · rename_i client made
    exact .configured tenant settings client _ _ rfl key names ⟨method, body, made⟩

theorem effect_handleScorer {piece : List Char} (free : '/' ∉ piece)
    (path : request.target.path = Route.scorerPath piece) :
    Effect gateway request (gateway.handleScorer piece request) := by
  unfold handleScorer
  cases authorized : gateway.isAuthorized request with
  | false => exact .answered _ _
  | true =>
    have key := isAuthorized_iff.mp authorized
    simp only [Bool.not_true, Bool.false_eq_true, if_false]
    split
    · rename_i method
      unfold handleConfigure
      split
      · exact .answered _ _
      · rename_i tenant named
        split
        · exact .answered _ _
        · rename_i settings body
          exact effect_configure key ⟨piece, free, path, named⟩ method body
    · split
      · rename_i method
        unfold handleClear
        split
        · exact .answered _ _
        · rename_i tenant named
          exact .cleared tenant _ _ rfl key ⟨piece, free, path, named⟩ method
      · exact .answered _ _

/-- Every request has one of these effects. -/
theorem effect_handle (gateway : Gateway) (request : Request) :
    Effect gateway request (gateway.handle request) := by
  unfold handle
  split
  case h_4 route => exact effect_handleAssessment (Route.ofPath_eq_assessments_iff.mp route)
  case h_6 piece route =>
    obtain ⟨-, free, path⟩ := Route.ofPath_eq_tenantScorer_iff.mp route
    exact effect_handleScorer free path
  case h_7 =>
    unfold handleUnknown
    split
    · exact .answered _ _
    · exact .answered _ _
  all_goals exact .answered _ _

end Gateway

end RiskScreen
