import RiskScreen.Proofs.Gateway.Effect
import RiskScreen.Proofs.Gateway.Run

/-!
# Who changes the scorers of the tenants

A tenant's own scorer changes only by a request that carries the key and names the tenant, and
nothing else changes with it. Without the key, the path of a scorer is refused whatever else the
request has. Nothing at all changes for a request that is answered with an error.
-/

namespace RiskScreen.Gateway

open Http

variable {gateway : Gateway} {request : Request} {handling : Handling}

/-- The request sets or clears the scorer of this tenant, and carries the key. Afterwards the
tenant has the scorer that was put, or none, and all else is as it was. -/
structure Administers (gateway : Gateway) (request : Request) (tenant : Uuid)
    (after : Gateway) : Prop where
  key : CarriesKey gateway.adminKey request
  names : NamesScorerOf tenant request
  entry :
    (request.method = "DELETE" ∧ after.registry.override? tenant = none) ∨
      ∃ settings client, Puts request settings client ∧
        after.registry.override? tenant = some ⟨.remote client, settings.timeout⟩
  others : ∀ other ≠ tenant,
    after.registry.override? other = gateway.registry.override? other
  default : after.registry.default = gateway.registry.default
  rows : after.trail.rows = gateway.trail.rows

/-! ### One request -/

/-- The scorers stay as they are, unless one of them is set or cleared. -/
theorem Effect.overrides (effect : Effect gateway request handling) :
    handling.gateway.registry.overrides = gateway.registry.overrides ∨
      ∃ tenant, Administers gateway request tenant handling.gateway := by
  cases effect with
  | answered => exact Or.inl rfl
  | assessed => exact Or.inl rfl
  | configured tenant settings client response steps success key names puts =>
    refine Or.inr ⟨tenant, key, names, Or.inr ⟨settings, client, puts, ?_⟩, ?_, rfl, rfl⟩
    · exact gateway.registry.override?_set_self tenant _
    · intro other h
      exact gateway.registry.override?_set_ne tenant _ h
  | cleared tenant response steps success key names method =>
    refine Or.inr ⟨tenant, key, names, Or.inl ⟨method, ?_⟩, ?_, rfl, rfl⟩
    · exact gateway.registry.override?_clear_self tenant
    · intro other h
      exact gateway.registry.override?_clear_ne tenant h

/-- An error leaves the gateway as it is. -/
theorem Effect.gateway_eq_of_error (effect : Effect gateway request handling)
    (error : 400 ≤ handling.response.status) : handling.gateway = gateway := by
  cases effect with
  | answered => rfl
  | assessed => exact absurd error (by simp [assess, Response.json])
  | configured tenant settings client response steps success =>
    exact absurd error (by simp [success])
  | cleared tenant response steps success => exact absurd error (by simp [success])

theorem Effect.adminKey_eq (effect : Effect gateway request handling) :
    handling.gateway.adminKey = gateway.adminKey := by
  cases effect <;> rfl

/-- The path of a scorer is refused without the key. -/
theorem status_handle_of_not_carriesKey {piece : List Char}
    (path : request.target.path = Route.scorerPath piece)
    (missing : ¬ CarriesKey gateway.adminKey request) :
    (gateway.handle request).response.status = 401 := by
  have refused : gateway.isAuthorized request = false :=
    Bool.eq_false_iff.mpr (mt isAuthorized_iff.mp missing)
  unfold handle
  rw [path]
  obtain route | route := Route.ofPath_scorerPath piece
  · simp [route, handleScorer, refused, refuse, Response.failure, Response.json]
  · simp [route, handleUnknown, refused, refuse, Response.failure, Response.json]

/-! ### Runs -/

/-- Without a key of the administrators no run changes the scorers. -/
theorem overrides_of_run (visits : List Visit) (unkeyed : gateway.adminKey = "") :
    (∀ turn ∈ turns gateway visits,
      turn.before.registry.overrides = gateway.registry.overrides ∧
        turn.handling.gateway.registry.overrides = gateway.registry.overrides) ∧
      (after gateway visits).registry.overrides = gateway.registry.overrides := by
  let Kept (now : Gateway) : Prop :=
    now.adminKey = "" ∧ now.registry.overrides = gateway.registry.overrides
  have handles (now : Gateway) (request : Request) (kept : Kept now) :
      Kept (now.handle request).gateway := by
    have effect := effect_handle now request
    refine ⟨effect.adminKey_eq.trans kept.1, ?_⟩
    obtain same | ⟨tenant, administers⟩ := effect.overrides
    · exact same.trans kept.2
    · exact absurd kept.1 administers.key.nonempty
  obtain ⟨during, last⟩ := run_invariant Kept visits ⟨unkeyed, rfl⟩
    (fun now visit kept => kept) handles
  exact ⟨fun turn mem => ⟨(during turn mem).1.2, (during turn mem).2.2⟩, last.2⟩

/-- The scorers of the tenants, whatever request comes to whatever gateway. They change only
by a request that carries the key, names a tenant, and clears the tenant's scorer or puts one
whose settings make a client; and then only in the entry of that tenant. The path of a scorer is
refused without the key, and an error leaves the scorers and the rows as they are. With an empty
key no run changes any scorer. -/
theorem administration (gateway : Gateway) (request : Request) :
    let handling := gateway.handle request
    (handling.gateway.registry.overrides ≠ gateway.registry.overrides →
      ∃ tenant, Administers gateway request tenant handling.gateway) ∧
    (∀ piece, request.target.path = Route.scorerPath piece →
      ¬ CarriesKey gateway.adminKey request → handling.response.status = 401) ∧
    (400 ≤ handling.response.status →
      handling.gateway.registry.overrides = gateway.registry.overrides ∧
        handling.gateway.trail.rows = gateway.trail.rows) ∧
    (gateway.adminKey = "" → ∀ visits,
      (∀ turn ∈ turns gateway visits,
        turn.before.registry.overrides = gateway.registry.overrides ∧
          turn.handling.gateway.registry.overrides = gateway.registry.overrides) ∧
      (after gateway visits).registry.overrides = gateway.registry.overrides) := by
  intro handling
  have effect : Effect gateway request handling := effect_handle gateway request
  refine ⟨?_, ?_, ?_, ?_⟩
  · intro changed
    exact effect.overrides.resolve_left changed
  · intro piece path missing
    exact status_handle_of_not_carriesKey path missing
  · intro error
    rw [effect.gateway_eq_of_error error]
    exact ⟨rfl, rfl⟩
  · intro unkeyed visits
    exact overrides_of_run visits unkeyed

/-- A gateway with this key, where no tenant has a scorer of its own. -/
def guardedBy (key : String) : Gateway where
  registry := {
    default := {
      scorer := .builtIn (StandIn.scorer "1" "ACCEPT")
      subjectPlugins := ⟨[]⟩
      scoreTimeout := 10
      persistTimeout := 10 } }
  adminKey := key

/-- A request to give a tenant a scorer, with this key. -/
def configuring (key : String) : Request where
  method := "PUT"
  target := ⟨Route.scorerPath "00000000-0000-0000-0000-000000000003".toList, none⟩
  headers := [("content-type", "application/json"), ("x-internal-api-key", key)]
  body := "\x7b\"url\":\"http://scorer/\"\x7d"

theorem administration_guarded :
    (∃ tenant, Administers (guardedBy "key") (configuring "key") tenant
      ((guardedBy "key").handle (configuring "key")).gateway) ∧
    ((guardedBy "key").handle (configuring "")).response.status = 401 ∧
    ((guardedBy "key").handle (configuring "")).gateway.registry.overrides = [] ∧
    (after (guardedBy "") [⟨configuring "", (guardedBy "").registry.default.scorer, 0, none, none⟩]
      ).registry.overrides = [] := by
  have missing : ¬ CarriesKey (guardedBy "key").adminKey (configuring "") := by
    rw [← isAuthorized_iff]
    decide +kernel
  obtain ⟨-, refuses, keeps, -⟩ := administration (guardedBy "key") (configuring "")
  have refused := refuses _ rfl missing
  refine ⟨?_, refused, (keeps (by rw [refused]; decide)).1, ?_⟩
  · apply (administration (guardedBy "key") (configuring "key")).1
    apply mt (congrArg List.length)
    decide +kernel
  · exact ((administration (guardedBy "") (configuring "")).2.2.2 rfl _).2

end RiskScreen.Gateway
