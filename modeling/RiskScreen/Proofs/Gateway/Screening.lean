import RiskScreen.Proofs.Gateway.Administration
import RiskScreen.Proofs.Gateway.Trail
import RiskScreen.Proofs.Tenant.History

/-!
# By which scorer a payment is assessed

A request performs one operation on the registry at most: a posted assessment asks for the
configuration of its tenant, and an administrator sets or clears the scorer of a tenant. So the
registry of a gateway has a history, the operations of the requests so far, and every payment is
assessed by the configuration that this history leaves to its tenant.

## Implementation notes

Requests that overlap come in the order in which they reach the registry. That is no restriction:
after its one operation no request looks at the registry again.
-/

namespace RiskScreen.Gateway

open Http
open Registry (Operation Stands Resolves)

/-- A request for an assessment asks for the configuration of its tenant. -/
def resolving? (request : Request) : Option (Operation ScorerSource) := do
  let wanted ← (readBody AssessmentRequest.read request).toOption
  return .resolve wanted.context.tenantId

/-- A request to give a tenant a scorer sets it, if the settings make a client. -/
def setting? (piece : List Char) (request : Request) : Option (Operation ScorerSource) := do
  let tenant ← (readTenant piece).toOption
  let settings ← (readBody ScorerSettings.read request).toOption
  let client ← (ScoringClient.ofSettings settings).toOption
  return .set tenant ⟨.remote client, settings.timeout⟩

/-- A request to take a tenant's scorer away clears it. -/
def clearing? (piece : List Char) : Option (Operation ScorerSource) := do
  let tenant ← (readTenant piece).toOption
  return .clear tenant

/-- The operation on the registry that a request performs, if any. -/
def operation? (gateway : Gateway) (request : Request) : Option (Operation ScorerSource) :=
  match Route.ofPath request.target.path with
  | .assessments => if request.method = "POST" then resolving? request else none
  | .tenantScorer piece =>
      if !gateway.isAuthorized request then none
      else if request.method = "PUT" then setting? piece request
      else if request.method = "DELETE" then clearing? piece
      else none
  | _ => none

/-- The operations of a run. -/
def history (gateway : Gateway) (visits : List Visit) : List (Operation ScorerSource) :=
  (turns gateway visits).flatMap fun turn => (turn.before.operation? turn.request).toList

variable {gateway : Gateway} {request : Request} {wanted : AssessmentRequest} {tenant : Uuid}
  {config : TenantConfig ScorerSource}

/-! ### One request -/

/-- A posted assessment is made. -/
theorem handle_of_posts (posts : Posts request wanted) :
    gateway.handle request = gateway.assess wanted := by
  have route := Route.ofPath_eq_assessments_iff.mpr posts.path
  simp only [handle, route, handleAssessment, posts.method, posts.body, if_true]

theorem registry_handleAssessment (gateway : Gateway) (request : Request) :
    (gateway.handleAssessment request).gateway.registry =
      gateway.registry.after
        (if request.method = "POST" then resolving? request else none).toList := by
  unfold handleAssessment resolving?
  split
  · cases readBody AssessmentRequest.read request <;> rfl
  · rfl

theorem registry_handleConfigure (gateway : Gateway) (piece : List Char) (request : Request) :
    (gateway.handleConfigure piece request).gateway.registry =
      gateway.registry.after (setting? piece request).toList := by
  unfold handleConfigure setting?
  cases readTenant piece with
  | error refusal => rfl
  | ok tenant =>
    cases readBody ScorerSettings.read request with
    | error refusal => rfl
    | ok settings =>
      simp only [configure, Except.toOption, Option.bind_eq_bind, Option.bind_some]
      cases ScoringClient.ofSettings settings <;> rfl

theorem registry_handleClear (gateway : Gateway) (piece : List Char) :
    (gateway.handleClear piece).gateway.registry =
      gateway.registry.after (clearing? piece).toList := by
  unfold handleClear clearing?
  cases readTenant piece <;> rfl

/-- A request leaves the registry that its operation leaves. -/
theorem registry_handle (gateway : Gateway) (request : Request) :
    (gateway.handle request).gateway.registry =
      gateway.registry.after (gateway.operation? request).toList := by
  unfold handle operation?
  cases Route.ofPath request.target.path with
  | assessments => exact gateway.registry_handleAssessment request
  | tenantScorer piece =>
    simp only [handleScorer]
    split
    · rfl
    · split
      · exact gateway.registry_handleConfigure piece request
      · split
        · exact gateway.registry_handleClear piece
        · rfl
  | unknown =>
    simp only [handleUnknown]
    split_ifs <;> rfl
  | health => rfl
  | liveness => rfl
  | readiness => rfl
  | outcomes payment => rfl

/-! ### Runs -/

/-- A run leaves the scorers of the tenants that its operations leave. -/
theorem overrides_after (gateway : Gateway) (visits : List Visit) :
    (after gateway visits).registry.overrides =
      (gateway.registry.after (history gateway visits)).overrides := by
  induction visits generalizing gateway with
  | nil => rfl
  | cons visit visits ih =>
    let turn := gateway.turn visit
    let performed := (turn.before.operation? turn.request).toList
    have handled : turn.handling.gateway.registry = turn.before.registry.after performed :=
      registry_handle turn.before turn.request
    have split : history gateway (visit :: visits) =
        performed ++ history turn.handling.gateway visits := rfl
    have faced : turn.before.registry.overrides = gateway.registry.overrides := rfl
    rw [after, ih, handled, split, Registry.after_append]
    exact Registry.overrides_after (Registry.overrides_after faced performed) _

/-- Of the default a run changes no more than what lies outside the gateway. -/
theorem default_after (gateway : Gateway) (visits : List Visit) (scorer : ScorerSource) :
    ({ (after gateway visits).registry.default with scorer } : TenantConfig ScorerSource) =
      { gateway.registry.default with scorer } := by
  let Kept (now : Gateway) : Prop := ∀ scorer,
    ({ now.registry.default with scorer } : TenantConfig ScorerSource) =
      { gateway.registry.default with scorer }
  have handles (now : Gateway) (request : Request) (kept : Kept now) :
      Kept (now.handle request).gateway := by
    intro scorer
    rw [registry_handle, Registry.default_after]
    exact kept scorer
  exact (run_invariant Kept visits (fun _ => rfl) (fun now visit kept => kept) handles).2 scorer

/-- At every turn of a run a tenant has the configuration that the operations so far say. -/
theorem resolve_after_eq_iff (fresh : gateway.registry.overrides = []) (earlier : List Visit)
    (visit : Visit) :
    ((after gateway earlier).turn visit).before.registry.resolve tenant = config ↔
      Resolves { gateway.registry.default with scorer := visit.scorer } (history gateway earlier)
        tenant config := by
  let start : Registry ScorerSource :=
    ⟨{ gateway.registry.default with scorer := visit.scorer }, []⟩
  have entries : (after gateway earlier).registry.overrides =
      (start.after (history gateway earlier)).overrides :=
    (overrides_after gateway earlier).trans (Registry.overrides_after fresh _)
  have default : ((after gateway earlier).turn visit).before.registry.default =
      (start.after (history gateway earlier)).default :=
    (default_after gateway earlier visit.scorer).trans (start.default_after _).symm
  rw [Registry.resolve_congr default (congrArg (List.lookup tenant) entries)]
  exact Registry.resolve_after_eq_iff start.default

/-- Registries and gateways over whole histories. In any history of operations on a fresh
registry, a request for a configuration is answered by what the operations before it say of the
tenant, and clearing tells whether a scorer of its own stood for the tenant. No operation about
one tenant changes the configuration of another, and asking changes nothing. So at every turn of
a run of a gateway, a posted assessment is made by the configuration that the requests before it
leave to its tenant: the scorer of that configuration is the one that is asked, and the verdict
that is recorded is what it says in the time that the configuration gives it. -/
theorem screening_of_history :
    (∀ (σ : Type) (default : TenantConfig σ) (front back : List (Operation σ)),
      let fresh : Registry σ := ⟨default, []⟩
      let answer? (op : Operation σ) := (fresh.answers (front ++ op :: back))[front.length]?
      (∀ tenant config, answer? (.resolve tenant) = some (.resolved config) ↔
        Resolves default front tenant config) ∧
      (∀ tenant removed, answer? (.clear tenant) = some (.cleared removed) ↔
        (removed = true ↔ ∃ own, Stands front tenant own)) ∧
      (∀ op other, op.tenant ≠ other →
        (fresh.after (front ++ [op])).resolve other = (fresh.after front).resolve other) ∧
      ∀ tenant, fresh.after (front ++ [.resolve tenant]) = fresh.after front) ∧
    ∀ (gateway : Gateway) (earlier : List Visit) (visit : Visit) (wanted : AssessmentRequest),
      gateway.registry.overrides = [] → Posts visit.request wanted →
      let turn := (after gateway earlier).turn visit
      ∃ config,
        Resolves { gateway.registry.default with scorer := visit.scorer }
          (history gateway earlier) wanted.context.tenantId config ∧
        let screening := config.map (·.scorer visit.peer)
        let assessment := Assessment.run turn.before.marker screening turn.before.trail
          wanted.context wanted.properties
        turn.handling.response = .json 200 assessment.decision.toJson ∧
        turn.handling.response.Tells 200 Decision.read assessment.decision.unsignedZero ∧
        turn.handling.steps = assessment.steps ∧
        ∀ payload, buildPayload wanted.properties turn.before.marker = .ok payload →
          ∃ (verdict : Option Verdict) (events : List Event),
            turn.handling.steps =
              [.ask screening.scorer.name payload,
                .report (consultEvent screening wanted.context (screening.consult payload)),
                .record wanted.context verdict] ++ events.map .report ∧
            ∀ answer, verdict = some answer ↔ screening.AnswersInTime payload answer := by
  constructor
  · intro σ default front back fresh answer?
    refine ⟨?_, ?_, ?_, ?_⟩
    · intro tenant config
      exact Registry.answer_resolve_iff default
    · intro tenant removed
      exact Registry.answer_clear_iff default
    · intro op other apart
      rw [Registry.after_concat]
      exact Registry.resolve_perform_of_ne apart
    · intro tenant
      exact fresh.after_concat front (.resolve tenant)
  · intro gateway earlier visit wanted fresh posts turn
    refine ⟨turn.before.registry.resolve wanted.context.tenantId, ?_, ?_⟩
    · exact (resolve_after_eq_iff fresh earlier visit).mp rfl
    · have assessed : turn.handling = turn.before.assess wanted := handle_of_posts posts
      rw [assessed]
      refine ⟨rfl, Response.tells_json (Decision.reads _) 200, rfl, ?_⟩
      intro payload built
      obtain ⟨verdict, events, steps, answered, -, -⟩ :=
        Assessment.run_by_payload _ _ turn.before.trail wanted.context _ built
      exact ⟨verdict, events, steps, answered⟩

/-- A tenant is given a scorer, and then a payment of the tenant is assessed. -/
def configureAndAssess : List Visit :=
  let scorer := (guardedBy "key").registry.default.scorer
  [⟨configuring "key", scorer, 0, none, none⟩,
    ⟨assessAndList[0].request, scorer, 0, none, none⟩]

theorem screening_of_history_configureAndAssess :
    let tenant : Uuid := ⟨3, by decide⟩
    let mine : ScorerOverride Scorer := ⟨StandIn.scorer "2" "REJECT", 20⟩
    let fresh : Registry Scorer := ⟨Assessment.rejecting, []⟩
    let earlier := [configureAndAssess[0]]
    let turn := (after (guardedBy "key") earlier).turn configureAndAssess[1]
    (fresh.answers [.set tenant mine, .clear tenant])[1]? = some (.cleared true) ∧
    (fresh.after [.set tenant mine, .clear ⟨4, by decide⟩]).resolve tenant =
      (fresh.after [.set tenant mine]).resolve tenant ∧
    ∃ wanted own, Posts turn.request wanted ∧
      Stands (history (guardedBy "key") earlier) tenant own ∧
      turn.handling.steps = (Assessment.run turn.before.marker
        ⟨own.scorer.scorer none, ⟨[]⟩, 10000, 10⟩ turn.before.trail wanted.context
        wanted.properties).steps := by
  intro tenant mine fresh earlier turn
  obtain ⟨-, clears, apart, -⟩ :=
    screening_of_history.1 Scorer Assessment.rejecting [.set tenant mine] []
  have stands : Stands [Operation.set tenant mine] tenant mine :=
    ⟨[], [], rfl, List.forall_mem_nil _⟩
  refine ⟨?_, ?_, ?_⟩
  · exact (clears tenant true).mpr (iff_of_true rfl ⟨mine, stands⟩)
  · exact apart (.clear ⟨4, by decide⟩) tenant (by decide)
  have named : (readBody AssessmentRequest.read turn.request).toOption.map
      (fun wanted => wanted.context.tenantId) = some tenant := by decide +kernel
  have limit : (turn.before.registry.resolve tenant).scoreTimeout = 10000 := by decide +kernel
  obtain ⟨wanted, read, mentioned⟩ := Option.map_eq_some_iff.mp named
  have posts : Posts turn.request wanted := by
    refine ⟨rfl, rfl, ?_⟩
    cases body : readBody AssessmentRequest.read turn.request with
    | error refusal => simp [body, Except.toOption] at read
    | ok found => simpa [body, Except.toOption] using read
  obtain ⟨config, resolves, -, -, steps, -⟩ :=
    screening_of_history.2 (guardedBy "key") earlier configureAndAssess[1] wanted rfl posts
  rw [mentioned] at resolves
  rw [(resolve_after_eq_iff rfl earlier configureAndAssess[1]).mpr resolves] at limit
  cases resolves with
  | default bare => exact absurd limit (by decide)
  | own own stands =>
    have ownLimit : own.scoreTimeout = 10000 := limit
    refine ⟨wanted, own, posts, stands, ?_⟩
    rw [← ownLimit]
    exact steps

end RiskScreen.Gateway
