import RiskScreen.Json.Basic
import RiskScreen.Json.Decode
import RiskScreen.Payment.Context
import RiskScreen.Payment.Property

/-!
# Payments in JSON

The written form of a context and of a property, and the readers for it. Fields are written
in the order of their declaration, absent ones as null.
-/

namespace RiskScreen

open Json

/-- The written form of an identifier. -/
def Uuid.toJson (id : Uuid) : Json :=
  .text id.text

/-- The written form of a kind of transaction. -/
def TransactionType.toJson (type : TransactionType) : Json :=
  .text type.name

namespace TransactionType

/-- Reads a kind of transaction. -/
def read : Reader TransactionType :=
  readChoice named

end TransactionType

/-- The written form of a context. -/
def Context.toJson (context : Context) : Json :=
  .object [
    ("account_id", context.accountId.toJson),
    ("payment_external_key", .text context.paymentExternalKey),
    ("transaction_external_key", .text context.transactionExternalKey),
    ("transaction_id", .ofOption (context.transactionId.map Uuid.text)),
    ("transaction_type", context.transactionType.toJson),
    ("amount", .text context.amount.text),
    ("currency", .text context.currency),
    ("payment_method_id", context.paymentMethodId.toJson),
    ("payment_method_plugin_name", .ofOption context.paymentMethodPluginName),
    ("tenant_id", context.tenantId.toJson)]

namespace Context

/-- The fields of a context. -/
def fields : List Field :=
  [field "account_id" readUuid,
    field "payment_external_key" readText,
    field "transaction_external_key" readText,
    fieldWithDefault "transaction_id" (readOption readUuid),
    field "transaction_type" TransactionType.read,
    field "amount" readAmount,
    field "currency" readText,
    field "payment_method_id" readUuid,
    fieldWithDefault "payment_method_plugin_name" (readOption readText),
    field "tenant_id" readUuid]

/-- The context with the fields that were read. -/
def ofRecord (record : Record) : Except ReadFault Context := do
  let accountId ← record.need "account_id" readUuid
  let paymentExternalKey ← record.need "payment_external_key" readText
  let transactionExternalKey ← record.need "transaction_external_key" readText
  let transactionId ← record.opt "transaction_id" readUuid
  let transactionType ← record.need "transaction_type" TransactionType.read
  let amount ← record.need "amount" readAmount
  let currency ← record.need "currency" readText
  let paymentMethodId ← record.need "payment_method_id" readUuid
  let paymentMethodPluginName ← record.opt "payment_method_plugin_name" readText
  let tenantId ← record.need "tenant_id" readUuid
  return { accountId, paymentExternalKey, transactionExternalKey, transactionId,
           transactionType, amount, currency, paymentMethodId, paymentMethodPluginName,
           tenantId }

/-- Reads a context. -/
def read : Reader Context := fun draft =>
  readRecord fields draft >>= ofRecord

end Context

/-- The written form of a property. -/
def Property.toJson (property : Property) : Json :=
  .object [("key", .ofOption property.key), ("value", .ofOption property.value)]

namespace Property

/-- The fields of a property. -/
def fields : List Field :=
  [field "key" (readOption readText), field "value" (readOption readText)]

/-- The property with the fields that were read. -/
def ofRecord (record : Record) : Except ReadFault Property := do
  let key ← record.opt "key" readText
  let value ← record.opt "value" readText
  return { key, value }

/-- Reads a property. -/
def read : Reader Property := fun draft =>
  readRecord fields draft >>= ofRecord

end Property

end RiskScreen
