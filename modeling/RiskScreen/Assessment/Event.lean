import RiskScreen.Json.Basic
import RiskScreen.Payload
import RiskScreen.Scoring.Error
import RiskScreen.Scoring.Verdict
import RiskScreen.Trail.Error
import RiskScreen.Uuid

/-!
# Events

What the service reports while it works. An event has a level, a message and named fields.
-/

namespace RiskScreen

/-- How serious an event is. -/
inductive Level where
  | info
  | warning
  deriving DecidableEq, Repr

/-- The word for a level. -/
def Level.label : Level → String
  | info => "INFO"
  | warning => "WARN"

/-- What the service reports. -/
inductive Event where
  /-- There is no payload for the payment. -/
  | payloadRefused (payment : String) (cause : BuildError)
  /-- The scorer answered. -/
  | recommended (transaction : Option Uuid) (verdict : Verdict)
  /-- The scorer failed. -/
  | scorerFailed (scorer : String) (transaction : Option Uuid) (cause : ScoringError)
  /-- The scorer took longer than the limit. -/
  | scorerCutOff (scorer : String) (transaction : Option Uuid) (limit : Nat)
  /-- The outcome was not recorded. -/
  | recordFailed (payment : String) (cause : StoreError)
  /-- Recording the outcome took longer than the limit. -/
  | recordCutOff (payment : String) (limit : Nat)
  /-- The payment is decided. -/
  | decided (payment : String) (abort reject honor : Bool)
  /-- A tenant has a scorer of its own. -/
  | scorerConfigured (tenant : Uuid) (url : String) (timeout : Nat)
  /-- An administrative request came without the key. -/
  | adminRefused (path : String)
  deriving DecidableEq, Repr

namespace Event

/-- The level of an event. -/
def level : Event → Level
  | recommended .. => .info
  | decided .. => .info
  | scorerConfigured .. => .info
  | _ => .warning

/-- The message of an event. -/
def message : Event → String
  | payloadRefused .. => "error while creating the scoring payload"
  | recommended .. => "scorer recommendation"
  | scorerFailed .. => "error while calling the scorer"
  | scorerCutOff .. => "scorer call timed out"
  | recordFailed .. => "error while storing the assessment outcome"
  | recordCutOff .. => "storing the assessment outcome timed out"
  | decided .. => "fraud assessment result"
  | scorerConfigured .. => "tenant scorer configured"
  | adminRefused .. => "rejected admin request without a valid key"

/-- How a field shows the transaction of a payment. -/
def shownTransaction : Option Uuid → String
  | none => "None"
  | some id => "Some(" ++ id.text ++ ")"

/-- A part of a verdict as a field: an absent one is empty. -/
def shownPart (part : Option String) : Json :=
  .text (part.getD "")

/-- The fields of an event. -/
def fields : Event → List (String × Json)
  | payloadRefused payment cause =>
      [("kb_payment_external_key", .text payment), ("error", .text cause.message)]
  | recommended transaction verdict =>
      [("kb_payment_transaction_id", .text (shownTransaction transaction)),
        ("recommendation_code", shownPart verdict.recommendationCode),
        ("total_score", shownPart verdict.totalScore),
        ("rules_tripped", shownPart verdict.rulesTripped),
        ("remarks", shownPart verdict.remarks)]
  | scorerFailed scorer transaction cause =>
      [("scorer", .text scorer),
        ("kb_payment_transaction_id", .text (shownTransaction transaction)),
        ("error", .text cause.message)]
  | scorerCutOff scorer transaction limit =>
      [("scorer", .text scorer),
        ("kb_payment_transaction_id", .text (shownTransaction transaction)),
        ("timeout_ms", .number limit)]
  | recordFailed payment cause =>
      [("kb_payment_external_key", .text payment), ("error", .text cause.message)]
  | recordCutOff payment limit =>
      [("kb_payment_external_key", .text payment), ("timeout_ms", .number limit)]
  | decided payment abort reject honor =>
      [("kb_payment_external_key", .text payment), ("abort_payment", .bool abort),
        ("should_reject", .bool reject), ("should_honor", .bool honor)]
  | scorerConfigured tenant url timeout =>
      [("tenant_id", .text tenant.text), ("url", .text url), ("timeout_ms", .number timeout)]
  | adminRefused path => [("path", .text path)]

end Event

end RiskScreen
