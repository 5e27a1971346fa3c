import RiskScreen.Payment.Context
import RiskScreen.Scoring.Verdict
import RiskScreen.Timestamp

/-!
# Decisions and outcomes

The decision answers a payment attempt. The outcome is what the audit trail keeps of it.
-/

namespace RiskScreen

/-- What is done with a payment attempt, and on what grounds. -/
structure Decision where
  abortPayment : Bool
  shouldReject : Bool
  shouldHonor : Bool
  recommendationCode : Option String
  context : Context
  deriving DecidableEq, Repr

/-- A row of the audit trail. -/
structure Outcome where
  recordId : Int
  accountId : Uuid
  paymentExternalKey : String
  transactionExternalKey : String
  transactionType : TransactionType
  amount : Decimal
  currency : String
  verdict : Option Verdict
  createdAt : Timestamp
  tenantId : Uuid
  deriving DecidableEq, Repr

namespace Outcome

/-- Whether the recorded verdict, if there is one, advises against the payment. -/
def recommendsRejection (outcome : Outcome) : Bool :=
  outcome.verdict.any Verdict.recommendsRejection

/-- The row of a payment with this verdict. -/
def ofContext (recordId : Int) (createdAt : Timestamp) (context : Context)
    (verdict : Option Verdict) : Outcome where
  recordId
  accountId := context.accountId
  paymentExternalKey := context.paymentExternalKey
  transactionExternalKey := context.transactionExternalKey
  transactionType := context.transactionType
  amount := context.amount
  currency := context.currency
  verdict
  createdAt
  tenantId := context.tenantId

/-- Whether the row belongs to this payment of this tenant. -/
def belongsTo (paymentExternalKey : String) (tenantId : Uuid) (outcome : Outcome) : Bool :=
  outcome.paymentExternalKey = paymentExternalKey && outcome.tenantId = tenantId

end Outcome

end RiskScreen
