import RiskScreen.Payment.Plugins
import RiskScreen.Uuid

/-!
# Tenants and their scorers

Every tenant is screened by the default configuration, save that a scorer of its own, with
its own time limit, may take the place of the default scorer.
-/

namespace RiskScreen

/-- The configuration by which a payment is screened. -/
structure TenantConfig (σ : Type) where
  scorer : σ
  subjectPlugins : SubjectPlugins
  /-- How many milliseconds the scorer may take. -/
  scoreTimeout : Nat
  /-- How many milliseconds recording the outcome may take. -/
  persistTimeout : Nat

/-- The configuration with another form of its scorer. -/
def TenantConfig.map {σ τ : Type} (f : σ → τ) (config : TenantConfig σ) : TenantConfig τ where
  scorer := f config.scorer
  subjectPlugins := config.subjectPlugins
  scoreTimeout := config.scoreTimeout
  persistTimeout := config.persistTimeout

/-- A tenant's own scorer. -/
structure ScorerOverride (σ : Type) where
  scorer : σ
  scoreTimeout : Nat

/-- The default configuration and the tenants that have a scorer of their own. -/
structure Registry (σ : Type) where
  default : TenantConfig σ
  overrides : List (Uuid × ScorerOverride σ) := []

namespace Registry

variable {σ : Type}

/-- The tenant's own scorer. -/
def override? (registry : Registry σ) (tenant : Uuid) : Option (ScorerOverride σ) :=
  registry.overrides.lookup tenant

/-- The configuration by which payments of `tenant` are screened. -/
def resolve (registry : Registry σ) (tenant : Uuid) : TenantConfig σ :=
  match registry.override? tenant with
  | none => registry.default
  | some own =>
      { registry.default with scorer := own.scorer, scoreTimeout := own.scoreTimeout }

/-- The scorers of the other tenants. -/
def others (registry : Registry σ) (tenant : Uuid) : List (Uuid × ScorerOverride σ) :=
  registry.overrides.filter fun entry => entry.1 ≠ tenant

/-- Gives `tenant` a scorer of its own. -/
def set (registry : Registry σ) (tenant : Uuid) (own : ScorerOverride σ) : Registry σ :=
  { registry with overrides := (tenant, own) :: registry.others tenant }

/-- Takes from `tenant` its own scorer. -/
def clear (registry : Registry σ) (tenant : Uuid) : Registry σ :=
  { registry with overrides := registry.others tenant }

/-- Whether `tenant` has a scorer of its own. -/
def hasOverride (registry : Registry σ) (tenant : Uuid) : Bool :=
  (registry.override? tenant).isSome

theorem lookup_filter_ne {tenant other : Uuid} (h : other ≠ tenant)
    (entries : List (Uuid × ScorerOverride σ)) :
    (entries.filter fun entry => entry.1 ≠ tenant).lookup other = entries.lookup other := by
  induction entries with
  | nil => rfl
  | cons entry entries ih =>
      by_cases he : entry.1 = tenant
      · have hn : (other == entry.1) = false := by simp [he, h]
        rw [List.filter_cons_of_neg (by simp [he]), List.lookup_cons, hn, ih]
      · rw [List.filter_cons_of_pos (by simp [he]), List.lookup_cons, List.lookup_cons, ih]

theorem lookup_filter_self (tenant : Uuid) (entries : List (Uuid × ScorerOverride σ)) :
    (entries.filter fun entry => entry.1 ≠ tenant).lookup tenant = none := by
  induction entries with
  | nil => rfl
  | cons entry entries ih =>
      by_cases he : entry.1 = tenant
      · rw [List.filter_cons_of_neg (by simp [he]), ih]
      · have hn : (tenant == entry.1) = false := by simp [Ne.symm he]
        rw [List.filter_cons_of_pos (by simp [he]), List.lookup_cons, hn, ih]

variable (registry : Registry σ) (tenant : Uuid) (own : ScorerOverride σ)

@[simp]
theorem override?_set_self : (registry.set tenant own).override? tenant = some own := by
  simp [override?, set]

theorem override?_set_ne {other : Uuid} (h : other ≠ tenant) :
    (registry.set tenant own).override? other = registry.override? other := by
  have hn : (other == tenant) = false := by simp [h]
  rw [override?, set, List.lookup_cons, hn]
  exact lookup_filter_ne h registry.overrides

@[simp]
theorem override?_clear_self : (registry.clear tenant).override? tenant = none :=
  lookup_filter_self tenant registry.overrides

theorem override?_clear_ne {other : Uuid} (h : other ≠ tenant) :
    (registry.clear tenant).override? other = registry.override? other :=
  lookup_filter_ne h registry.overrides

end Registry

end RiskScreen
