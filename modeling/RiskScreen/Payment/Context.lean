import RiskScreen.Number.Decimal
import RiskScreen.Uuid

/-!
# Payments under control

The context of a payment attempt: who pays what, by which means and for which tenant.
-/

namespace RiskScreen

/-- The kinds of payment transactions. -/
inductive TransactionType where
  | authorize
  | capture
  | chargeback
  | credit
  | purchase
  | refund
  | void
  deriving DecidableEq, Repr

namespace TransactionType

/-- The kinds with their names, in the order of the alphabet. -/
def named : List (String × TransactionType) :=
  [("AUTHORIZE", .authorize), ("CAPTURE", .capture), ("CHARGEBACK", .chargeback),
    ("CREDIT", .credit), ("PURCHASE", .purchase), ("REFUND", .refund), ("VOID", .void)]

/-- The name of a kind. -/
def name : TransactionType → String
  | authorize => "AUTHORIZE"
  | capture => "CAPTURE"
  | chargeback => "CHARGEBACK"
  | credit => "CREDIT"
  | purchase => "PURCHASE"
  | refund => "REFUND"
  | void => "VOID"

/-- The kind with this name. -/
def ofName? (name : String) : Option TransactionType :=
  named.lookup name

theorem ofName?_name (type : TransactionType) : ofName? type.name = some type := by
  cases type <;> decide

end TransactionType

/-- What is known of a payment attempt. -/
structure Context where
  accountId : Uuid
  paymentExternalKey : String
  transactionExternalKey : String
  transactionId : Option Uuid
  transactionType : TransactionType
  amount : Decimal
  currency : String
  paymentMethodId : Uuid
  paymentMethodPluginName : Option String
  tenantId : Uuid
  deriving DecidableEq, Repr

end RiskScreen
