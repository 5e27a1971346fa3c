import RiskScreen.Assessment.Basic

/-!
# What a decision rests on

A payment is decided by the verdict that the scorer gives on its payload in time, and by the
plugin of its payment method. A payload that cannot be made, a scorer that fails and a scorer
that is cut off all leave the payment without a verdict, and what becomes of the record
changes nothing.

## Implementation notes

`Judged` and `Unjudged` say in terms of the payload and of the scorer's answer when there is a
verdict and when there is none. They do not mention the assessment, so that the decision can
be compared with them.
-/

namespace RiskScreen

theorem verdictOf_eq_some_iff {said : Option ScoringResult} {verdict : Verdict} :
    verdictOf said = some verdict ↔ said = some (.ok verdict) := by
  rcases said with _ | _ | answered <;> simp [verdictOf]

theorem verdictOf_eq_none_iff {said : Option ScoringResult} :
    verdictOf said = none ↔ said = none ∨ ∃ cause, said = some (.error cause) := by
  rcases said with _ | _ | answered <;> simp [verdictOf]

namespace TenantConfig

variable (config : TenantConfig Scorer) (payload : String)

/-- The scorer answers the payload with this verdict, no later than it may. -/
def AnswersInTime (verdict : Verdict) : Prop :=
  (config.scorer.answer payload).delay ≤ config.scoreTimeout ∧
    (config.scorer.answer payload).value = .ok verdict

/-- The scorer takes longer than it may, or fails. -/
def Misses : Prop :=
  config.scoreTimeout < (config.scorer.answer payload).delay ∨
    ∃ cause, (config.scorer.answer payload).value = .error cause

theorem verdictOf_consult_eq_some_iff (verdict : Verdict) :
    verdictOf (config.consult payload) = some verdict ↔
      config.AnswersInTime payload verdict := by
  rw [verdictOf_eq_some_iff, consult, Timed.within_eq_some_iff, AnswersInTime]

theorem verdictOf_consult_eq_none_iff :
    verdictOf (config.consult payload) = none ↔ config.Misses payload := by
  rw [verdictOf_eq_none_iff, consult, Timed.within_eq_none_iff, Misses]
  simp only [Timed.within_eq_some_iff]
  constructor
  · rintro (late | ⟨cause, -, failed⟩)
    · exact Or.inl late
    · exact Or.inr ⟨cause, failed⟩
  · rintro (late | ⟨cause, failed⟩)
    · exact Or.inl late
    · apply (Nat.lt_or_ge config.scoreTimeout _).imp_right
      intro inTime
      exact ⟨cause, inTime, failed⟩

end TenantConfig

namespace Assessment

variable (marker : String) (config : TenantConfig Scorer) (properties : List Property)

/-- The payload of the properties was made, and the scorer answered it in time. -/
def Judged (verdict : Verdict) : Prop :=
  ∃ payload, buildPayload properties marker = .ok payload ∧ config.AnswersInTime payload verdict

/-- The payload was not made, or the scorer gave no verdict on it. -/
def Unjudged : Prop :=
  (∃ cause, buildPayload properties marker = .error cause) ∨
    ∃ payload, buildPayload properties marker = .ok payload ∧ config.Misses payload

/-- The verdict on the properties, if there is one. -/
def verdict? : Option Verdict :=
  match buildPayload properties marker with
  | .error _ => none
  | .ok payload => verdictOf (config.consult payload)

theorem verdict?_eq_some_iff (verdict : Verdict) :
    verdict? marker config properties = some verdict ↔
      Judged marker config properties verdict := by
  unfold verdict? Judged
  cases buildPayload properties marker with
  | error cause => simp
  | ok payload => simp [config.verdictOf_consult_eq_some_iff]

theorem verdict?_eq_none_iff :
    verdict? marker config properties = none ↔ Unjudged marker config properties := by
  unfold verdict? Unjudged
  cases buildPayload properties marker with
  | error cause => simp
  | ok payload => simp [config.verdictOf_consult_eq_none_iff]

/-- Judged and unjudged properties exclude each other, and there are no others. -/
theorem not_exists_judged_iff :
    (¬ ∃ verdict, Judged marker config properties verdict) ↔
      Unjudged marker config properties := by
  simp only [← verdict?_eq_some_iff, ← verdict?_eq_none_iff, Option.eq_none_iff_forall_ne_some,
    not_exists, ne_eq]

/-- The decision is made of the verdict and the context; the trail has no part in it. -/
theorem run_decision (trail : Trail) (context : Context) :
    (run marker config trail context properties).decision =
      Decision.ofVerdict config.subjectPlugins context (verdict? marker config properties) := by
  unfold run verdict?
  cases buildPayload properties marker with
  | error cause => rfl
  | ok payload => rfl

/-- A verdict stands behind a part of the decision exactly when the scorer gave it in time. -/
theorem any_verdict?_iff (test : Verdict → Bool) :
    (verdict? marker config properties).any test = true ↔
      ∃ verdict, Judged marker config properties verdict ∧ test verdict = true := by
  simp only [Option.any_eq_true, verdict?_eq_some_iff]

end Assessment

theorem Verdict.recommendsRejection_iff (verdict : Verdict) :
    verdict.recommendsRejection = true ↔ verdict.recommendationCode = some "REJECT" := by
  unfold recommendsRejection rejectionCode
  exact decide_eq_true_iff

theorem SubjectPlugins.honors_iff (plugins : SubjectPlugins) (name : String) :
    plugins.honors name = true ↔ name ∈ plugins.names := by
  simp [honors]

/-- A payment is subject to screening when it names a plugin that is. -/
theorem Decision.honored_iff (plugins : SubjectPlugins) (context : Context) :
    honored plugins context = true ↔
      ∃ plugin, context.paymentMethodPluginName = some plugin ∧ plugin ∈ plugins.names := by
  simp only [honored, Option.any_eq_true, SubjectPlugins.honors_iff]

namespace Assessment

/-- The decision on a payment, whatever the scorer and the trail do. It is stopped exactly
when its payload was made, the scorer answered `REJECT` in time, and its plugin is subject to
screening. -/
theorem decision_fails_open (marker : String) (config : TenantConfig Scorer) (trail : Trail)
    (context : Context) (properties : List Property) :
    let decision := (run marker config trail context properties).decision
    (decision.shouldReject = true ↔
      ∃ verdict, Judged marker config properties verdict ∧
        verdict.recommendationCode = some "REJECT") ∧
    (decision.shouldHonor = true ↔
      ∃ plugin, context.paymentMethodPluginName = some plugin ∧
        plugin ∈ config.subjectPlugins.names) ∧
    decision.abortPayment = (decision.shouldReject && decision.shouldHonor) ∧
    (∀ code, decision.recommendationCode = some code ↔
      ∃ verdict, Judged marker config properties verdict ∧
        verdict.recommendationCode = some code) ∧
    decision.context = context ∧
    (decision.abortPayment = true ↔
      (∃ payload verdict, buildPayload properties marker = .ok payload ∧
        config.AnswersInTime payload verdict ∧ verdict.recommendationCode = some "REJECT") ∧
      ∃ plugin, context.paymentMethodPluginName = some plugin ∧
        plugin ∈ config.subjectPlugins.names) ∧
    ((¬ ∃ verdict, Judged marker config properties verdict) ↔
      Unjudged marker config properties) ∧
    ∀ other : Trail, (run marker config other context properties).decision = decision := by
  intro decision
  have made : decision = Decision.ofVerdict config.subjectPlugins context
      (verdict? marker config properties) := run_decision marker config properties trail context
  have rejects : decision.shouldReject = true ↔
      ∃ verdict, Judged marker config properties verdict ∧
        verdict.recommendationCode = some "REJECT" := by
    rw [made]
    simp only [Decision.ofVerdict, any_verdict?_iff, Verdict.recommendsRejection_iff]
  have honors : decision.shouldHonor = true ↔
      ∃ plugin, context.paymentMethodPluginName = some plugin ∧
        plugin ∈ config.subjectPlugins.names := by
    rw [made]
    exact Decision.honored_iff config.subjectPlugins context
  have aborts : decision.abortPayment = (decision.shouldReject && decision.shouldHonor) := by
    rw [made]
    rfl
  refine ⟨rejects, honors, aborts, ?_, ?_, ?_, ?_, ?_⟩
  · intro code
    rw [made]
    simp only [Decision.ofVerdict, Option.bind_eq_some_iff, verdict?_eq_some_iff]
  · rw [made]
    rfl
  · rw [aborts, Bool.and_eq_true, rejects, honors]
    apply and_congr_left'
    constructor
    · rintro ⟨verdict, ⟨payload, built, answered⟩, code⟩
      exact ⟨payload, verdict, built, answered, code⟩
    · rintro ⟨payload, verdict, built, answered, code⟩
      exact ⟨verdict, ⟨payload, built, answered⟩, code⟩
  · exact not_exists_judged_iff marker config properties
  · intro other
    rw [made]
    exact run_decision marker config properties other context

end Assessment

end RiskScreen
