import Mathlib.Data.Int.Order.Basic
import Mathlib.Data.List.Nodup
import RiskScreen.Proofs.Trail.Table

/-!
# Listing rows that may be damaged

Rows are listed one outcome for each, in their order, if every one of them names a kind of
transaction. Otherwise nothing is listed, and the first row that names none is reported with its
number and its text. Whether an outcome has a verdict is said by the flag of its row alone.
-/

namespace RiskScreen

/-- A kind is found under its own name only. -/
theorem TransactionType.ofName?_eq_some_iff {text : String} {type : TransactionType} :
    ofName? text = some type ↔ type.name = text := by
  constructor
  · intro found
    obtain ⟨front, back, split, -⟩ := List.lookup_eq_some_iff.mp found
    have named : ∀ entry ∈ TransactionType.named, entry.2.name = entry.1 := by decide
    apply named (text, type)
    rw [split]
    exact List.mem_append_right front List.mem_cons_self
  · rintro rfl
    exact ofName?_name type

namespace StoredRow

/-- The text for the kind of the transaction names one. -/
def IsKnown (row : StoredRow) : Prop :=
  ∃ type : TransactionType, row.value .transactionType = type.name

/-- The columns of the verdict, whatever they hold. -/
def verdict (row : StoredRow) : Verdict where
  transactionId := row.value .transactionId
  crossReference := row.value .crossReference
  rulesTripped := row.value .rulesTripped
  totalScore := row.value .totalScore
  recommendationCode := row.value .recommendationCode
  remarks := row.value .remarks
  responseData := row.value .additionalData

/-- The row tells of this outcome. -/
structure TellsOf (row : StoredRow) (outcome : Outcome) : Prop where
  recordId : outcome.recordId = row.value .recordId
  accountId : outcome.accountId = row.value .accountId
  paymentExternalKey : outcome.paymentExternalKey = row.value .paymentExternalKey
  transactionExternalKey : outcome.transactionExternalKey = row.value .transactionExternalKey
  transactionType : outcome.transactionType.name = row.value .transactionType
  amount : outcome.amount = row.value .amount
  currency : outcome.currency = row.value .currency
  verdict : outcome.verdict = if row.value .scored then some row.verdict else none
  createdAt : outcome.createdAt = row.value .createdDate
  tenantId : outcome.tenantId = row.value .tenantId

/-- The first of the rows whose text names no kind of transaction. -/
def FirstUnknown (row : StoredRow) (rows : List StoredRow) : Prop :=
  ∃ front back, rows = front ++ row :: back ∧ (∀ earlier ∈ front, earlier.IsKnown) ∧
    ¬ row.IsKnown

variable {row : StoredRow} {rows : List StoredRow} {outcome : Outcome} {listed : List Outcome}
  {cause : StoreError}

/-! ### One row -/

theorem TellsOf.isKnown (tells : row.TellsOf outcome) : row.IsKnown :=
  ⟨outcome.transactionType, tells.transactionType.symm⟩

theorem TellsOf.isSome_verdict (tells : row.TellsOf outcome) :
    outcome.verdict.isSome = row.value .scored := by
  rw [tells.verdict]
  cases row.value .scored <;> rfl

/-- What is read of a row is what it tells of. -/
theorem outcomeOf_eq_ok_iff :
    outcomeOf (row.select selectColumns) = .ok outcome ↔ row.TellsOf outcome := by
  simp only [outcomeOf, get_select]
  constructor
  · intro read
    cases named : TransactionType.ofName? (row.value .transactionType) with
    | none => simp [named] at read
    | some type =>
      rw [named] at read
      obtain rfl := Except.ok.inj read
      exact ⟨rfl, rfl, rfl, rfl, TransactionType.ofName?_eq_some_iff.mp named, rfl, rfl, rfl, rfl,
        rfl⟩
  · intro tells
    rw [TransactionType.ofName?_eq_some_iff.mpr tells.transactionType]
    obtain ⟨_, _, _, _, _, _, _, _, _, _⟩ := outcome
    obtain ⟨rfl, rfl, rfl, rfl, -, rfl, rfl, rfl, rfl, rfl⟩ := tells
    rfl

/-- A row whose kind is unknown is reported with its number and its text. -/
theorem outcomeOf_eq_error_iff :
    outcomeOf (row.select selectColumns) = .error cause ↔
      ¬ row.IsKnown ∧ cause = corruption (row.value .recordId) (row.value .transactionType) := by
  simp only [outcomeOf, get_select]
  cases named : TransactionType.ofName? (row.value .transactionType) with
  | none =>
    have unknown : ¬ row.IsKnown := by
      rintro ⟨type, text⟩
      rw [text, TransactionType.ofName?_name] at named
      contradiction
    simp [unknown, eq_comm]
  | some type =>
    have known : row.IsKnown := ⟨type, (TransactionType.ofName?_eq_some_iff.mp named).symm⟩
    simp [known]

/-! ### All rows -/

/-- Rows are listed as the outcomes they tell of. -/
theorem outcomes_eq_ok_iff : outcomes rows = .ok listed ↔ List.Forall₂ TellsOf rows listed := by
  induction rows generalizing listed with
  | nil => simp [outcomes, eq_comm]
  | cons row rows ih =>
    rw [outcomes, List.forall₂_cons_left_iff]
    simp only [← outcomeOf_eq_ok_iff, ← ih]
    cases outcomeOf (row.select selectColumns) with
    | error cause => simp
    | ok outcome => cases outcomes rows <;> simp [eq_comm]

theorem firstUnknown_cons_iff {first : StoredRow} :
    row.FirstUnknown (first :: rows) ↔
      (row = first ∧ ¬ first.IsKnown) ∨ (first.IsKnown ∧ row.FirstUnknown rows) := by
  simp only [FirstUnknown, List.cons_eq_append_iff]
  constructor
  · rintro ⟨front, back, ⟨rfl, same⟩ | ⟨others, rfl, split⟩, known, unknown⟩
    · obtain ⟨rfl, -⟩ := List.cons.inj same
      exact Or.inl ⟨rfl, unknown⟩
    · obtain ⟨firstKnown, known⟩ := List.forall_mem_cons.mp known
      exact Or.inr ⟨firstKnown, others, back, split, known, unknown⟩
  · rintro (⟨rfl, unknown⟩ | ⟨firstKnown, front, back, split, known, unknown⟩)
    · exact ⟨[], rows, Or.inl ⟨rfl, rfl⟩, List.forall_mem_nil _, unknown⟩
    · exact ⟨first :: front, back, Or.inr ⟨front, rfl, split⟩,
        List.forall_mem_cons.mpr ⟨firstKnown, known⟩, unknown⟩

/-- Nothing is listed because of the first row whose kind is unknown. -/
theorem outcomes_eq_error_iff :
    outcomes rows = .error cause ↔
      ∃ row : StoredRow, row.FirstUnknown rows ∧
        cause = corruption (row.value .recordId) (row.value .transactionType) := by
  induction rows with
  | nil => simp [outcomes, FirstUnknown]
  | cons first rows ih =>
    rw [outcomes]
    simp only [firstUnknown_cons_iff]
    cases read : outcomeOf (first.select selectColumns) with
    | error fault =>
      obtain ⟨unknown, rfl⟩ := outcomeOf_eq_error_iff.mp read
      simp [unknown, eq_comm]
    | ok outcome =>
      have known := (outcomeOf_eq_ok_iff.mp read).isKnown
      cases below : outcomes rows <;> simp [known, below, ← ih]

theorem exists_outcomes_iff :
    (∃ listed, outcomes rows = .ok listed) ↔ ∀ row ∈ rows, row.IsKnown := by
  constructor
  · rintro ⟨listed, read⟩
    have tells := (outcomes_eq_ok_iff.mp read).imp fun _ _ tells => And.intro tells.isKnown tells
    exact ((List.forall₂_and_left _ _).mp tells).1
  · intro known
    cases read : outcomes rows with
    | ok listed => exact ⟨listed, rfl⟩
    | error cause =>
      obtain ⟨row, ⟨front, back, rfl, -, unknown⟩, -⟩ := outcomes_eq_error_iff.mp read
      exact absurd (known row (List.mem_append_right front List.mem_cons_self)) unknown

end StoredRow

namespace Table

variable {table : Table} {rows : List StoredRow}

/-- The rows of a payment of a tenant in the order of their numbers, whatever other rows there
are. -/
theorem select_eq_of_perm {paymentExternalKey : String} {tenantId : Uuid}
    (same : (table.rows.filter (StoredRow.belongsTo paymentExternalKey tenantId)).Perm rows)
    (ascending : rows.Pairwise fun first second =>
      first.value .recordId < second.value .recordId) :
    table.select paymentExternalKey tenantId = rows := by
  have sorted : (table.select paymentExternalKey tenantId).Pairwise fun first second =>
      first.value .recordId ≤ second.value .recordId := by
    apply (List.pairwise_mergeSort _ _ _).imp
    · simp
    · intro first second third
      simpa using le_trans
    · intro first second
      simpa using le_total (first.value .recordId) (second.value .recordId)
  have perm : (table.select paymentExternalKey tenantId).Perm rows :=
    (List.mergeSort_perm _ _).trans same
  refine perm.eq_of_pairwise ?_ sorted (ascending.imp le_of_lt)
  -- Rows with one number are the same row, as the numbers ascend.
  intro first second mem other less more
  have distinct : (rows.map fun row => row.value .recordId).Nodup :=
    List.pairwise_map.mpr (ascending.imp ne_of_lt)
  exact List.inj_on_of_nodup_map distinct (perm.mem_iff.mp mem) other (le_antisymm less more)

/-- Only the rows of the payment of the tenant count for a listing. -/
theorem list_of_perm {paymentExternalKey : String} {tenantId : Uuid}
    (accepts : table.refusal = none)
    (same : (table.rows.filter (StoredRow.belongsTo paymentExternalKey tenantId)).Perm rows)
    (ascending : rows.Pairwise fun first second =>
      first.value .recordId < second.value .recordId) :
    table.list paymentExternalKey tenantId = (StoredRow.outcomes rows, table) := by
  simp only [list, statement, accepts, select_eq_of_perm same ascending]

end Table

end RiskScreen
