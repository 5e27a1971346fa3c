import RiskScreen.Payment.Outcome
import RiskScreen.Wire.Payment

/-!
# Verdicts, decisions and outcomes in JSON

The written forms and their readers. An item of a listing is an outcome with one more member,
which a reader of outcomes passes over.
-/

namespace RiskScreen

open Json

namespace Verdict

/-- The members of a written verdict. -/
def members (verdict : Verdict) : List (String × Json) :=
  [("transaction_id", .ofOption verdict.transactionId),
    ("cross_reference", .ofOption verdict.crossReference),
    ("rules_tripped", .ofOption verdict.rulesTripped),
    ("total_score", .ofOption verdict.totalScore),
    ("recommendation_code", .ofOption verdict.recommendationCode),
    ("remarks", .ofOption verdict.remarks),
    ("response_data", .ofOption verdict.responseData)]

/-- The written form of a verdict. -/
def toJson (verdict : Verdict) : Json :=
  .object verdict.members

/-- The fields of a verdict. -/
def fields : List Field :=
  [field "transaction_id" (readOption readText),
    field "cross_reference" (readOption readText),
    field "rules_tripped" (readOption readText),
    field "total_score" (readOption readText),
    field "recommendation_code" (readOption readText),
    field "remarks" (readOption readText),
    field "response_data" (readOption readText)]

/-- The verdict with the fields that were read. -/
def ofRecord (record : Record) : Except ReadFault Verdict := do
  let transactionId ← record.opt "transaction_id" readText
  let crossReference ← record.opt "cross_reference" readText
  let rulesTripped ← record.opt "rules_tripped" readText
  let totalScore ← record.opt "total_score" readText
  let recommendationCode ← record.opt "recommendation_code" readText
  let remarks ← record.opt "remarks" readText
  let responseData ← record.opt "response_data" readText
  return { transactionId, crossReference, rulesTripped, totalScore, recommendationCode,
           remarks, responseData }

/-- Reads a verdict. -/
def read : Reader Verdict := fun draft =>
  readRecord fields draft >>= ofRecord

end Verdict

namespace Decision

/-- The written form of a decision. -/
def toJson (decision : Decision) : Json :=
  .object [
    ("abort_payment", .bool decision.abortPayment),
    ("should_reject", .bool decision.shouldReject),
    ("should_honor", .bool decision.shouldHonor),
    ("recommendation_code", .ofOption decision.recommendationCode),
    ("context", decision.context.toJson)]

/-- The fields of a decision. -/
def fields : List Field :=
  [field "abort_payment" readBool,
    field "should_reject" readBool,
    field "should_honor" readBool,
    field "recommendation_code" (readOption readText),
    field "context" Context.read]

/-- The decision with the fields that were read. -/
def ofRecord (record : Record) : Except ReadFault Decision := do
  let abortPayment ← record.need "abort_payment" readBool
  let shouldReject ← record.need "should_reject" readBool
  let shouldHonor ← record.need "should_honor" readBool
  let recommendationCode ← record.opt "recommendation_code" readText
  let context ← record.need "context" Context.read
  return { abortPayment, shouldReject, shouldHonor, recommendationCode, context }

/-- Reads a decision. -/
def read : Reader Decision := fun draft =>
  readRecord fields draft >>= ofRecord

end Decision

namespace Outcome

/-- The members of a written outcome. -/
def members (outcome : Outcome) : List (String × Json) :=
  [("record_id", .number outcome.recordId),
    ("account_id", outcome.accountId.toJson),
    ("payment_external_key", .text outcome.paymentExternalKey),
    ("transaction_external_key", .text outcome.transactionExternalKey),
    ("transaction_type", outcome.transactionType.toJson),
    ("amount", .text outcome.amount.text),
    ("currency", .text outcome.currency),
    ("verdict", (outcome.verdict.map Verdict.toJson).getD .null),
    ("created_at", .text outcome.createdAt.text),
    ("tenant_id", outcome.tenantId.toJson)]

/-- The written form of an outcome. -/
def toJson (outcome : Outcome) : Json :=
  .object outcome.members

/-- The written form of an outcome in a listing: whether it recommends rejection comes last. -/
def toListingJson (outcome : Outcome) : Json :=
  .object (outcome.members ++ [("recommends_rejection", .bool outcome.recommendsRejection)])

/-- The fields of an outcome. -/
def fields : List Field :=
  [field "record_id" readInteger,
    field "account_id" readUuid,
    field "payment_external_key" readText,
    field "transaction_external_key" readText,
    field "transaction_type" TransactionType.read,
    field "amount" readAmount,
    field "currency" readText,
    field "verdict" (readOption Verdict.read),
    field "created_at" readTimestamp,
    field "tenant_id" readUuid]

/-- The outcome with the fields that were read. -/
def ofRecord (record : Record) : Except ReadFault Outcome := do
  let recordId ← record.need "record_id" readInteger
  let accountId ← record.need "account_id" readUuid
  let paymentExternalKey ← record.need "payment_external_key" readText
  let transactionExternalKey ← record.need "transaction_external_key" readText
  let transactionType ← record.need "transaction_type" TransactionType.read
  let amount ← record.need "amount" readAmount
  let currency ← record.need "currency" readText
  let verdict ← record.opt "verdict" Verdict.read
  let createdAt ← record.need "created_at" readTimestamp
  let tenantId ← record.need "tenant_id" readUuid
  return { recordId, accountId, paymentExternalKey, transactionExternalKey, transactionType,
           amount, currency, verdict, createdAt, tenantId }

/-- Reads an outcome. -/
def read : Reader Outcome := fun draft =>
  readRecord fields draft >>= ofRecord

end Outcome

end RiskScreen
