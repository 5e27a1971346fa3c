import RiskScreen.Number.Decimal
import RiskScreen.Timestamp
import RiskScreen.Uuid

/-!
# Columns of the table of outcomes

Each column has a name and holds values of one kind. A statement names columns in an order of
its own; the values that go with it are matched to the columns by their position, and read by
the name of the column.
-/

namespace RiskScreen

/-- The columns. -/
inductive Column where
  | recordId
  | accountId
  | paymentExternalKey
  | transactionExternalKey
  | transactionType
  | amount
  | currency
  /-- Whether there was a verdict. -/
  | scored
  | transactionId
  | crossReference
  | rulesTripped
  | totalScore
  | recommendationCode
  | remarks
  /-- The data of the response that the verdict was read from. -/
  | additionalData
  | createdDate
  | tenantId
  deriving DecidableEq, Repr

namespace Column

/-- The name of a column. -/
def name : Column → String
  | recordId => "record_id"
  | accountId => "kb_account_id"
  | paymentExternalKey => "kb_payment_external_key"
  | transactionExternalKey => "kb_payment_transaction_external_key"
  | transactionType => "transaction_type"
  | amount => "amount"
  | currency => "currency"
  | scored => "scored"
  | transactionId => "transaction_id"
  | crossReference => "cross_reference"
  | rulesTripped => "rules_tripped"
  | totalScore => "total_score"
  | recommendationCode => "recommendation_code"
  | remarks => "remarks"
  | additionalData => "additional_data"
  | createdDate => "created_date"
  | tenantId => "kb_tenant_id"

/-- What a column holds. Only the columns of the verdict can be empty. -/
@[reducible]
def Value : Column → Type
  | recordId => Int
  | accountId => Uuid
  | paymentExternalKey => String
  | transactionExternalKey => String
  | transactionType => String
  | amount => Decimal
  | currency => String
  | scored => Bool
  | transactionId => Option String
  | crossReference => Option String
  | rulesTripped => Option String
  | totalScore => Option String
  | recommendationCode => Option String
  | remarks => Option String
  | additionalData => Option String
  | createdDate => Timestamp
  | tenantId => Uuid

end Column

/-- A value for each of these columns, in their order. -/
inductive Values : List Column → Type where
  | nil : Values []
  | cons {column : Column} {columns : List Column} (value : column.Value)
      (others : Values columns) : Values (column :: columns)

/-- The value of this column. -/
def Values.get : {columns : List Column} → Values columns → (column : Column) →
    column ∈ columns → column.Value
  | _, @cons first _ value others, column, mem =>
      if same : first = column then same ▸ value
      else others.get column ((List.mem_cons.mp mem).resolve_left (Ne.symm same))

end RiskScreen
