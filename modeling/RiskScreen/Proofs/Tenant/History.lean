import Mathlib.Data.List.Induction
import RiskScreen.Tenant.Registry

/-!
# Histories of the registry

A registry is asked to set a tenant's own scorer, to clear it, and for the configuration of a
tenant, each time in one step. Whatever came before, by whomever and about whatever tenants, the
configuration of a tenant is what the last setting of its own scorer says, unless that was
cleared since; and then it is the default.

## Implementation notes

`Stands` and `Resolves` speak of the history alone. A step changes what stands for a tenant in
the same way as it changes the entry of the tenant, so the two agree after every history.
-/

namespace RiskScreen.Registry

variable {σ : Type}

/-- What a registry can be asked. -/
inductive Operation (σ : Type) where
  /-- To give the tenant a scorer of its own. -/
  | set (tenant : Uuid) (own : ScorerOverride σ)
  /-- To take the tenant's own scorer away. -/
  | clear (tenant : Uuid)
  /-- For the configuration of the tenant. -/
  | resolve (tenant : Uuid)

namespace Operation

/-- The tenant that an operation is about. -/
def tenant : Operation σ → Uuid
  | set tenant _ => tenant
  | clear tenant => tenant
  | resolve tenant => tenant

/-- The operation sets or clears the tenant's own scorer. -/
def Changes (op : Operation σ) (tenant : Uuid) : Prop :=
  op = clear tenant ∨ ∃ own, op = set tenant own

end Operation

/-- What a registry answers. -/
inductive Answer (σ : Type) where
  | done
  /-- Whether there was a scorer to take away. -/
  | cleared (removed : Bool)
  | resolved (config : TenantConfig σ)

/-- What the registry answers to an operation, and the registry afterwards. -/
def perform (registry : Registry σ) : Operation σ → Answer σ × Registry σ
  | .set tenant own => (.done, registry.set tenant own)
  | .clear tenant => (.cleared (registry.hasOverride tenant), registry.clear tenant)
  | .resolve tenant => (.resolved (registry.resolve tenant), registry)

/-- The answers to operations one after another. -/
def answers : Registry σ → List (Operation σ) → List (Answer σ)
  | _, [] => []
  | registry, op :: rest => (registry.perform op).1 :: answers (registry.perform op).2 rest

/-- The registry after operations one after another. -/
def after (registry : Registry σ) (history : List (Operation σ)) : Registry σ :=
  history.foldl (fun registry op => (registry.perform op).2) registry

/-- The history sets `own` as the tenant's own scorer, and later neither sets nor clears it. -/
def Stands (history : List (Operation σ)) (tenant : Uuid) (own : ScorerOverride σ) : Prop :=
  ∃ front back, history = front ++ .set tenant own :: back ∧
    ∀ later ∈ back, ¬ later.Changes tenant

/-- The configuration of a tenant after a history: the scorer and the time limit that stand,
and the default for the rest, or the default alone where no scorer stands. -/
inductive Resolves (default : TenantConfig σ) (history : List (Operation σ)) (tenant : Uuid) :
    TenantConfig σ → Prop
  | own (own : ScorerOverride σ) (stands : Stands history tenant own) :
      Resolves default history tenant
        { scorer := own.scorer
          subjectPlugins := default.subjectPlugins
          scoreTimeout := own.scoreTimeout
          persistTimeout := default.persistTimeout }
  | default (bare : ∀ own, ¬ Stands history tenant own) : Resolves default history tenant default

variable {registry : Registry σ} {op : Operation σ} {history : List (Operation σ)}
  {tenant other : Uuid} {own : ScorerOverride σ} {config : TenantConfig σ}

/-! ### One operation -/

@[simp]
theorem default_perform (registry : Registry σ) (op : Operation σ) :
    (registry.perform op).2.default = registry.default := by
  cases op <;> rfl

/-- The entry of a tenant is what was just set, or what it was before. -/
theorem override?_perform_eq_some_iff :
    (registry.perform op).2.override? tenant = some own ↔
      op = .set tenant own ∨ (registry.override? tenant = some own ∧ ¬ op.Changes tenant) := by
  cases op with
  | set named new =>
    by_cases same : named = tenant
    · subst same
      simp [perform, Operation.Changes]
    · simp [perform, Operation.Changes, override?_set_ne registry named new (Ne.symm same), same]
  | clear named =>
    by_cases same : named = tenant
    · subst same
      simp [perform, Operation.Changes]
    · simp [perform, Operation.Changes, override?_clear_ne registry named (Ne.symm same), same]
  | resolve named => simp [perform, Operation.Changes]

/-- The configuration of a tenant depends on its entry and the default. -/
theorem resolve_congr {next : Registry σ} (default : next.default = registry.default)
    (entry : next.override? tenant = registry.override? tenant) :
    next.resolve tenant = registry.resolve tenant := by
  rw [resolve, resolve, default, entry]

/-- An operation about one tenant leaves the configurations of the others alone. -/
theorem resolve_perform_of_ne (apart : op.tenant ≠ other) :
    (registry.perform op).2.resolve other = registry.resolve other := by
  apply resolve_congr (default_perform registry op)
  cases op with
  | set named new => exact override?_set_ne registry named new (Ne.symm apart)
  | clear named => exact override?_clear_ne registry named (Ne.symm apart)
  | resolve named => rfl

/-- What an operation leaves of the entries does not depend on the default. -/
theorem overrides_perform {next : Registry σ} (same : next.overrides = registry.overrides) :
    (next.perform op).2.overrides = (registry.perform op).2.overrides := by
  cases op <;> simp [perform, set, clear, others, same]

/-! ### Histories -/

theorem after_append (registry : Registry σ) (front back : List (Operation σ)) :
    registry.after (front ++ back) = (registry.after front).after back :=
  List.foldl_append

theorem after_concat (registry : Registry σ) (history : List (Operation σ)) (op : Operation σ) :
    registry.after (history ++ [op]) = ((registry.after history).perform op).2 :=
  registry.after_append history [op]

/-- Every operation is answered by the registry that the operations before it leave. -/
theorem getElem?_answers (registry : Registry σ) (front : List (Operation σ)) (op : Operation σ)
    (back : List (Operation σ)) :
    (registry.answers (front ++ op :: back))[front.length]? =
      some ((registry.after front).perform op).1 := by
  induction front generalizing registry with
  | nil => rfl
  | cons first front ih => exact ih (registry.perform first).2

@[simp]
theorem default_after (registry : Registry σ) (history : List (Operation σ)) :
    (registry.after history).default = registry.default := by
  induction history generalizing registry with
  | nil => rfl
  | cons op history ih => exact (ih _).trans (default_perform registry op)

theorem overrides_after {next : Registry σ} (same : next.overrides = registry.overrides)
    (history : List (Operation σ)) :
    (next.after history).overrides = (registry.after history).overrides := by
  induction history generalizing next registry with
  | nil => exact same
  | cons op history ih => exact ih (overrides_perform same)

/-- One more operation makes its own scorer stand, and ends what it sets anew or clears. -/
theorem stands_concat_iff :
    Stands (history ++ [op]) tenant own ↔
      op = .set tenant own ∨ (Stands history tenant own ∧ ¬ op.Changes tenant) := by
  constructor
  · rintro ⟨front, back, split, kept⟩
    obtain rfl | ⟨back, last, rfl⟩ := List.eq_nil_or_concat back
    · exact Or.inl (List.cons.inj (List.append_inj' split rfl).2).1
    · rw [List.concat_eq_append] at split kept
      rw [← List.cons_append, ← List.append_assoc] at split
      obtain ⟨earlier, same⟩ := List.append_inj' split rfl
      obtain rfl : op = last := (List.cons.inj same).1
      rw [List.forall_mem_append, List.forall_mem_singleton] at kept
      exact Or.inr ⟨⟨front, back, earlier, kept.1⟩, kept.2⟩
  · rintro (rfl | ⟨⟨front, back, rfl, kept⟩, leaves⟩)
    · exact ⟨history, [], rfl, List.forall_mem_nil _⟩
    · refine ⟨front, back ++ [op], ?_, ?_⟩
      · rw [List.append_assoc, List.cons_append]
      · rw [List.forall_mem_append, List.forall_mem_singleton]
        exact ⟨kept, leaves⟩

/-- After any history of a fresh registry a tenant has the scorer of its own that stands. -/
theorem override?_after_eq_some_iff (default : TenantConfig σ) :
    ((⟨default, []⟩ : Registry σ).after history).override? tenant = some own ↔
      Stands history tenant own := by
  induction history using List.reverseRecOn with
  | nil => simp [after, override?, Stands]
  | append_singleton history op ih =>
    rw [after_concat, override?_perform_eq_some_iff, ih, stands_concat_iff]

theorem hasOverride_after_iff (default : TenantConfig σ) :
    ((⟨default, []⟩ : Registry σ).after history).hasOverride tenant = true ↔
      ∃ own, Stands history tenant own := by
  simp only [hasOverride, Option.isSome_iff_exists, override?_after_eq_some_iff]

/-- After any history of a fresh registry a tenant has the configuration that the history says. -/
theorem resolve_after_eq_iff (default : TenantConfig σ) :
    ((⟨default, []⟩ : Registry σ).after history).resolve tenant = config ↔
      Resolves default history tenant config := by
  let registry : Registry σ := (⟨default, []⟩ : Registry σ).after history
  have stands (own : ScorerOverride σ) :
      registry.override? tenant = some own ↔ Stands history tenant own :=
    override?_after_eq_some_iff default
  rw [resolve, default_after]
  cases entry : registry.override? tenant with
  | none =>
    have bare (own : ScorerOverride σ) : ¬ Stands history tenant own := by simp [← stands, entry]
    constructor
    · rintro rfl
      exact .default bare
    · rintro (⟨own, found⟩ | _)
      · exact absurd found (bare own)
      · rfl
  | some own =>
    have found := (stands own).mp entry
    constructor
    · rintro rfl
      exact .own own found
    · rintro (⟨other, otherFound⟩ | bare)
      · obtain rfl := Option.some.inj (entry.symm.trans ((stands other).mpr otherFound))
        rfl
      · exact absurd found (bare own)

/-! ### Answers -/

variable {front back : List (Operation σ)}

theorem answer_resolve_iff (default : TenantConfig σ) :
    ((⟨default, []⟩ : Registry σ).answers (front ++ .resolve tenant :: back))[front.length]? =
        some (.resolved config) ↔
      Resolves default front tenant config := by
  rw [getElem?_answers, ← resolve_after_eq_iff, perform, Option.some_inj, Answer.resolved.injEq]

theorem answer_clear_iff (default : TenantConfig σ) {removed : Bool} :
    ((⟨default, []⟩ : Registry σ).answers (front ++ .clear tenant :: back))[front.length]? =
        some (.cleared removed) ↔
      (removed = true ↔ ∃ own, Stands front tenant own) := by
  rw [getElem?_answers, ← hasOverride_after_iff default, perform, Option.some_inj,
    Answer.cleared.injEq, eq_comm, Bool.eq_iff_iff]

end RiskScreen.Registry
