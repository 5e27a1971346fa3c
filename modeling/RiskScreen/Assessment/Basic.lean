import RiskScreen.Assessment.Event
import RiskScreen.Payment.Outcome
import RiskScreen.Scoring.Scorer
import RiskScreen.Tenant.Registry
import RiskScreen.Trail.Basic

/-!
# Assessing a payment

A payload is built from the properties of the payment, the scorer is asked once, the outcome
is recorded once, and the payment is decided. Every failure on the way counts as no verdict,
and a payment without a verdict goes ahead; what becomes of the record does not matter to the
decision.

## Implementation notes

An assessment is described by the decision, the trail afterwards and the steps in their
order. The steps show the call of the scorer and the write to the trail, also where they
fail: asking and recording each give a result together with their step.
-/

namespace RiskScreen

/-- One step of an assessment. -/
inductive Step where
  /-- The scorer of this name is asked about a payload. -/
  | ask (scorer payload : String)
  /-- The outcome is handed to the trail. -/
  | record (context : Context) (verdict : Option Verdict)
  /-- An event is reported. -/
  | report (event : Event)
  deriving DecidableEq, Repr

/-- A result, and the step that it was got by. -/
structure Stepped (α : Type) where
  result : α
  step : Step

namespace Decision

/-- Whether a payment made through this plugin, if any, is subject to screening. -/
def honored (plugins : SubjectPlugins) (context : Context) : Bool :=
  context.paymentMethodPluginName.any plugins.honors

/-- The decision on a payment with this verdict. -/
def ofVerdict (plugins : SubjectPlugins) (context : Context) (verdict : Option Verdict) :
    Decision where
  abortPayment := verdict.any Verdict.recommendsRejection && honored plugins context
  shouldReject := verdict.any Verdict.recommendsRejection
  shouldHonor := honored plugins context
  recommendationCode := verdict.bind Verdict.recommendationCode
  context

/-- The event that reports a decision. -/
def event (decision : Decision) : Event :=
  .decided decision.context.paymentExternalKey decision.abortPayment decision.shouldReject
    decision.shouldHonor

end Decision

/-- What the scorer of a configuration says about a payload, if it says it in time. -/
def TenantConfig.consult (config : TenantConfig Scorer) (payload : String) :
    Option ScoringResult :=
  (config.scorer.answer payload).within config.scoreTimeout

/-- Asks the scorer of a configuration about a payload. -/
def TenantConfig.ask (config : TenantConfig Scorer) (payload : String) :
    Stepped (Option ScoringResult) :=
  ⟨config.consult payload, .ask config.scorer.name payload⟩

/-- Hands an outcome to the trail: what became of the write, and the trail after it. -/
def Trail.record (trail : Trail) (limit : Nat) (context : Context) (verdict : Option Verdict) :
    Stepped (WriteResult × Trail) :=
  ⟨(trail.writeResult limit, trail.write limit context verdict), .record context verdict⟩

/-- The verdict in what a scorer said in time. -/
def verdictOf : Option ScoringResult → Option Verdict
  | some (.ok verdict) => some verdict
  | _ => none

/-- The event that reports what a scorer said in time. -/
def consultEvent (config : TenantConfig Scorer) (context : Context) :
    Option ScoringResult → Event
  | some (.ok verdict) => .recommended context.transactionId verdict
  | some (.error cause) => .scorerFailed config.scorer.name context.transactionId cause
  | none => .scorerCutOff config.scorer.name context.transactionId config.scoreTimeout

/-- The events that report what became of a write. -/
def writeEvents (config : TenantConfig Scorer) (context : Context) : WriteResult → List Event
  | .stored => []
  | .failed cause => [.recordFailed context.paymentExternalKey cause]
  | .cutOff => [.recordCutOff context.paymentExternalKey config.persistTimeout]

/-- An assessment. -/
structure Assessment where
  decision : Decision
  trail : Trail
  steps : List Step
  deriving Repr

namespace Assessment

/-- The marker of the properties that are meant for the scorer. -/
def defaultMarker : String := "accertify_"

/-- The assessment of a payment for which there is no payload. -/
def ofRefusal (config : TenantConfig Scorer) (trail : Trail) (context : Context)
    (cause : BuildError) : Assessment :=
  let decision := Decision.ofVerdict config.subjectPlugins context none
  ⟨decision, trail,
    [.report (.payloadRefused context.paymentExternalKey cause), .report decision.event]⟩

/-- The assessment of a payment by its payload. -/
def ofPayload (config : TenantConfig Scorer) (trail : Trail) (context : Context)
    (payload : String) : Assessment :=
  let asked := config.ask payload
  let verdict := verdictOf asked.result
  let decision := Decision.ofVerdict config.subjectPlugins context verdict
  let recorded := trail.record config.persistTimeout context verdict
  let (written, after) := recorded.result
  ⟨decision, after,
    [asked.step, .report (consultEvent config context asked.result), recorded.step] ++
      (writeEvents config context written).map .report ++ [.report decision.event]⟩

/-- Assesses a payment. -/
def run (marker : String) (config : TenantConfig Scorer) (trail : Trail) (context : Context)
    (properties : List Property) : Assessment :=
  match buildPayload properties marker with
  | .error cause => ofRefusal config trail context cause
  | .ok payload => ofPayload config trail context payload

/-- The payloads about which the scorer was asked. -/
def payloads (assessment : Assessment) : List String :=
  assessment.steps.filterMap fun
    | .ask _ payload => some payload
    | _ => none

/-- The events that were reported. -/
def events (assessment : Assessment) : List Event :=
  assessment.steps.filterMap fun
    | .report event => some event
    | _ => none

end Assessment

end RiskScreen
