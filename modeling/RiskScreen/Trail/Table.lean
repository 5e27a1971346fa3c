import RiskScreen.Payment.Outcome
import RiskScreen.Trail.Column
import RiskScreen.Trail.Error

/-!
# The audit trail as a table

A table keeps outcomes as rows of columns. A row says whether there was a verdict apart from
the columns of the verdict, and names the kind of the transaction by a text, which may turn out
to name none. Every column keeps the value that was bound to it.

## Implementation notes

Numbers of rows are given out in the order of the writes and never again. A listing shows rows
in the order of their numbers, also where a number has been changed. The statements that write
and list rows name their columns in lists of their own, which are kept apart from the values.
-/

namespace RiskScreen

/-- A row of the table. -/
structure StoredRow where
  value : (column : Column) → column.Value

namespace StoredRow

/-! ### Writing a row -/

/-- The columns of the statement that writes a row. -/
def insertColumns : List Column :=
  [.accountId, .paymentExternalKey, .transactionExternalKey, .transactionType, .amount,
    .currency, .scored, .transactionId, .crossReference, .rulesTripped, .totalScore,
    .recommendationCode, .remarks, .additionalData, .createdDate, .tenantId]

/-- The values that are bound to the statement that writes a row. -/
def binds (context : Context) (verdict : Option Verdict) (createdAt : Timestamp) :
    Values insertColumns :=
  .cons context.accountId <|
  .cons context.paymentExternalKey <|
  .cons context.transactionExternalKey <|
  .cons context.transactionType.name <|
  .cons context.amount <|
  .cons context.currency <|
  .cons verdict.isSome <|
  .cons (verdict.bind Verdict.transactionId) <|
  .cons (verdict.bind Verdict.crossReference) <|
  .cons (verdict.bind Verdict.rulesTripped) <|
  .cons (verdict.bind Verdict.totalScore) <|
  .cons (verdict.bind Verdict.recommendationCode) <|
  .cons (verdict.bind Verdict.remarks) <|
  .cons (verdict.bind Verdict.responseData) <|
  .cons createdAt <|
  .cons context.tenantId .nil

/-- Every column is written but the number of the row. -/
theorem mem_insertColumns {column : Column} (h : column ≠ .recordId) :
    column ∈ insertColumns := by
  cases column
  case recordId => exact absurd rfl h
  all_goals decide

/-- The row of a payment with this verdict. -/
def ofContext (recordId : Int) (createdAt : Timestamp) (context : Context)
    (verdict : Option Verdict) : StoredRow where
  value column :=
    if number : column = .recordId then number ▸ recordId
    else (binds context verdict createdAt).get column (mem_insertColumns number)

/-- The row with another value in a column. -/
def set (row : StoredRow) (column : Column) (value : column.Value) : StoredRow where
  value other := if same : column = other then same ▸ value else row.value other

/-! ### Reading a row -/

/-- The columns of the statement that lists rows. -/
def selectColumns : List Column :=
  [.recordId, .accountId, .paymentExternalKey, .transactionExternalKey, .transactionType,
    .amount, .currency, .scored, .transactionId, .crossReference, .rulesTripped, .totalScore,
    .recommendationCode, .remarks, .additionalData, .createdDate, .tenantId]

/-- Every column is listed. -/
theorem mem_selectColumns (column : Column) : column ∈ selectColumns := by
  cases column <;> decide

/-- The values of these columns. -/
def select (row : StoredRow) : (columns : List Column) → Values columns
  | [] => .nil
  | column :: columns => .cons (row.value column) (row.select columns)

/-- Whether the row belongs to this payment of this tenant. -/
def belongsTo (paymentExternalKey : String) (tenantId : Uuid) (row : StoredRow) : Bool :=
  row.value .paymentExternalKey = paymentExternalKey && row.value .tenantId = tenantId

/-- Why a row with this number and this text for the kind of its transaction cannot be read. -/
def corruption (recordId : Int) (transactionType : String) : StoreError :=
  .corrupt recordId ("unknown transaction type `" ++ transactionType ++ "`")

/-- The outcome that a listed row tells of. -/
def outcomeOf (listed : Values selectColumns) : Except StoreError Outcome :=
  let get (column : Column) : column.Value := listed.get column (mem_selectColumns column)
  match TransactionType.ofName? (get .transactionType) with
  | none => .error (corruption (get .recordId) (get .transactionType))
  | some transactionType =>
      .ok {
        recordId := get .recordId
        accountId := get .accountId
        paymentExternalKey := get .paymentExternalKey
        transactionExternalKey := get .transactionExternalKey
        transactionType
        amount := get .amount
        currency := get .currency
        verdict :=
          if get .scored then
            some {
              transactionId := get .transactionId
              crossReference := get .crossReference
              rulesTripped := get .rulesTripped
              totalScore := get .totalScore
              recommendationCode := get .recommendationCode
              remarks := get .remarks
              responseData := get .additionalData }
          else none
        createdAt := get .createdDate
        tenantId := get .tenantId }

/-- The outcomes that rows tell of, or why the first of them that cannot be read cannot. -/
def outcomes : List StoredRow → Except StoreError (List Outcome)
  | [] => .ok []
  | row :: rest =>
      match outcomeOf (row.select selectColumns) with
      | .error cause => .error cause
      | .ok outcome =>
          match outcomes rest with
          | .error cause => .error cause
          | .ok others => .ok (outcome :: others)

end StoredRow

/-- The table: its rows, how many have been written, and the reason for which the next statement
is refused, if it is. -/
structure Table where
  rows : List StoredRow := []
  written : Nat := 0
  refusal : Option String := none

namespace Table

/-- The result of a statement, and the table after it. A refused statement has no effect, and
the one after it is not refused. -/
def statement {α : Type} (table : Table) (run : Table → Except StoreError α × Table) :
    Except StoreError α × Table :=
  match table.refusal with
  | some reason => (.error (.database (.refused reason)), { table with refusal := none })
  | none => run table

/-- Writes the row of a payment. -/
def add (table : Table) (context : Context) (verdict : Option Verdict) (createdAt : Timestamp) :
    Except StoreError StoredRow × Table :=
  table.statement fun table =>
    let row := StoredRow.ofContext (table.written + 1) createdAt context verdict
    (.ok row, { table with rows := table.rows ++ [row], written := table.written + 1 })

/-- The rows of one payment of one tenant, in the order of their numbers. -/
def select (table : Table) (paymentExternalKey : String) (tenantId : Uuid) : List StoredRow :=
  (table.rows.filter (StoredRow.belongsTo paymentExternalKey tenantId)).mergeSort
    fun first second => first.value .recordId ≤ second.value .recordId

/-- Lists the outcomes of one payment of one tenant. -/
def list (table : Table) (paymentExternalKey : String) (tenantId : Uuid) :
    Except StoreError (List Outcome) × Table :=
  table.statement fun table =>
    (StoredRow.outcomes (table.select paymentExternalKey tenantId), table)

/-- Asks whether the table can be used. -/
def ping (table : Table) : Except StoreError Unit × Table :=
  table.statement fun table => (.ok (), table)

/-- Changes the first row with this number, if there is one. -/
def patch (table : Table) (recordId : Int) (change : StoredRow → StoredRow) : Option Table :=
  match table.rows.findIdx? fun row => row.value .recordId = recordId with
  | none => none
  | some index => some { table with rows := table.rows.modify index change }

end Table

end RiskScreen
