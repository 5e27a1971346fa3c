import RiskScreen.Trail.Table
import RiskScreen.Wire.Outcome

/-!
# Rows of the table in JSON

A row is written as an object with a member for each column. A column is changed by the
written form of its new value; a value of another form changes nothing.
-/

namespace RiskScreen

open Json

namespace Column

/-- The written form of a value of a column. -/
def valueToJson : (column : Column) → column.Value → Json
  | recordId, n => .number n
  | accountId, id => id.toJson
  | paymentExternalKey, word => .text word
  | transactionExternalKey, word => .text word
  | transactionType, word => .text word
  | amount, sum => .text sum.text
  | currency, word => .text word
  | scored, flag => .bool flag
  | transactionId, part => .ofOption part
  | crossReference, part => .ofOption part
  | rulesTripped, part => .ofOption part
  | totalScore, part => .ofOption part
  | recommendationCode, part => .ofOption part
  | remarks, part => .ofOption part
  | additionalData, part => .ofOption part
  | createdDate, time => .text time.text
  | tenantId, id => id.toJson

/-- Reads a value of a column. -/
def readValue : (column : Column) → Reader column.Value
  | recordId => readInteger
  | accountId => readUuid
  | paymentExternalKey => readText
  | transactionExternalKey => readText
  | transactionType => readText
  | amount => readAmount
  | currency => readText
  | scored => readBool
  | transactionId => readOption readText
  | crossReference => readOption readText
  | rulesTripped => readOption readText
  | totalScore => readOption readText
  | recommendationCode => readOption readText
  | remarks => readOption readText
  | additionalData => readOption readText
  | createdDate => readTimestamp
  | tenantId => readUuid

/-- The column with this name. -/
def ofName? (text : String) : Option Column :=
  StoredRow.selectColumns.find? fun column => column.name = text

end Column

namespace StoredRow

/-- The written form of a row. -/
def toJson (row : StoredRow) : Json :=
  .object (selectColumns.map fun column => (column.name, column.valueToJson (row.value column)))

/-- Changes one column. -/
def change (name : String) (value : Draft) (row : StoredRow) : StoredRow :=
  match Column.ofName? name with
  | none => row
  | some column =>
      match column.readValue value with
      | .error _ => row
      | .ok value => row.set column value

end StoredRow

end RiskScreen
