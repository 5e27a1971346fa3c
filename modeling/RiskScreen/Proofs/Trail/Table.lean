import RiskScreen.Proofs.Assessment.Effects
import RiskScreen.Trail.Table

/-!
# What the table keeps of outcomes

Rows that were written are listed as the outcomes they were written for, in the order of the
writes. The values are bound in the order of one list of columns and read by the names of another,
and yet each of them comes back as what it was, a missing verdict as a missing one.

## Implementation notes

The numbers of rows are to ascend, but need not be without gaps. So a write may have the table
pass over some of them first.
-/

namespace RiskScreen

/-- A row to be written, and how many numbers the table passes over before it. -/
structure Write where
  context : Context
  verdict : Option Verdict
  createdAt : Timestamp
  skipped : Nat := 0

/-- Whether the row is one of this payment of this tenant. -/
def Write.isOf (paymentExternalKey : String) (tenantId : Uuid) (write : Write) : Bool :=
  write.context.paymentExternalKey = paymentExternalKey && write.context.tenantId = tenantId

/-- The outcome tells what was written. -/
structure Write.KeptAs (write : Write) (outcome : Outcome) : Prop
    extends outcome.Describes write.context where
  verdict : outcome.verdict = write.verdict
  createdAt : outcome.createdAt = write.createdAt

/-! ### One row -/

namespace StoredRow

/-- What is listed of a row does not depend on the order of the columns. -/
theorem get_select (row : StoredRow) {columns : List Column} {column : Column}
    (mem : column ∈ columns) : (row.select columns).get column mem = row.value column := by
  induction columns with
  | nil => exact absurd mem List.not_mem_nil
  | cons first columns ih =>
    rw [select, Values.get]
    split
    · rename_i same
      subst same
      rfl
    · exact ih _

variable (recordId : Int) (createdAt : Timestamp) (context : Context) (verdict : Option Verdict)

/-- A row that was written tells of the outcome it was written for. -/
theorem outcomeOf_ofContext :
    outcomeOf ((ofContext recordId createdAt context verdict).select selectColumns) =
      .ok (.ofContext recordId createdAt context verdict) := by
  have known : TransactionType.ofName?
      ((ofContext recordId createdAt context verdict).value .transactionType) =
        some context.transactionType :=
    TransactionType.ofName?_name context.transactionType
  simp only [outcomeOf, get_select, known]
  cases verdict <;> rfl

end StoredRow

namespace Write

/-- The row of a write with this number. -/
def row (entry : Nat × Write) : StoredRow :=
  .ofContext entry.1 entry.2.createdAt entry.2.context entry.2.verdict

/-- The outcome that is listed of a write with this number. -/
def outcome (entry : Nat × Write) : Outcome :=
  .ofContext entry.1 entry.2.createdAt entry.2.context entry.2.verdict

theorem keptAs_outcome (entry : Nat × Write) : entry.2.KeptAs (outcome entry) :=
  ⟨.ofContext _ _ _ _, rfl, rfl⟩

/-- The writes with the numbers that a table gives them after the number `last`. -/
def numbered : Nat → List Write → List (Nat × Write)
  | _, [] => []
  | last, write :: writes =>
      (last + write.skipped + 1, write) :: numbered (last + write.skipped + 1) writes

theorem map_snd_numbered (last : Nat) (writes : List Write) :
    (numbered last writes).map Prod.snd = writes := by
  induction writes generalizing last with
  | nil => rfl
  | cons write writes ih => rw [numbered, List.map_cons, ih]

theorem lt_of_mem_numbered {last : Nat} {writes : List Write} {entry : Nat × Write}
    (h : entry ∈ numbered last writes) : last < entry.1 := by
  induction writes generalizing last with
  | nil => exact absurd h List.not_mem_nil
  | cons write writes ih =>
    obtain rfl | later := List.mem_cons.mp h
    · simp only
      omega
    · have := ih later
      omega

/-- The numbers ascend. -/
theorem pairwise_numbered (last : Nat) (writes : List Write) :
    (numbered last writes).Pairwise fun first second => first.1 < second.1 := by
  induction writes generalizing last with
  | nil => exact .nil
  | cons write writes ih => exact List.pairwise_cons.mpr ⟨fun _ => lt_of_mem_numbered, ih _⟩

end Write

/-! ### Writing one row after the other -/

namespace Table

/-- The table after it has passed over some numbers. -/
def skip (count : Nat) (table : Table) : Table :=
  { table with written := table.written + count }

/-- The table after a write, or why it fails. -/
def write (table : Table) (write : Write) : Except StoreError Table :=
  match (table.skip write.skipped).add write.context write.verdict write.createdAt with
  | (.ok _, next) => .ok next
  | (.error cause, _) => .error cause

/-- The table after a series of writes, or why one of them fails. -/
def writeAll : Table → List Write → Except StoreError Table
  | table, [] => .ok table
  | table, first :: writes =>
      match table.write first with
      | .ok next => next.writeAll writes
      | .error cause => .error cause

variable {table : Table}

/-- A write to a table that refuses nothing adds the row with the next number. -/
theorem write_eq_ok (write : Write) (accepts : table.refusal = none) :
    table.write write = .ok {
      rows := table.rows ++ [Write.row (table.written + write.skipped + 1, write)]
      written := table.written + write.skipped + 1 } := by
  simp only [Table.write, add, statement, skip, accepts]
  rfl

/-- A series of writes adds their rows. -/
theorem writeAll_eq_ok (table : Table) (writes : List Write) (accepts : table.refusal = none) :
    ∃ next, table.writeAll writes = .ok next ∧ next.refusal = none ∧
      next.rows = table.rows ++ (Write.numbered table.written writes).map Write.row := by
  induction writes generalizing table with
  | nil => exact ⟨table, rfl, accepts, (List.append_nil _).symm⟩
  | cons first writes ih =>
    obtain ⟨next, written, still, rows⟩ := ih {
      rows := table.rows ++ [Write.row (table.written + first.skipped + 1, first)]
      written := table.written + first.skipped + 1 } rfl
    refine ⟨next, ?_, still, ?_⟩
    · rw [writeAll, write_eq_ok first accepts]
      exact written
    · rw [rows, Write.numbered, List.map_cons, List.append_assoc, List.singleton_append]

/-! ### Listing -/

theorem outcomes_map_row (entries : List (Nat × Write)) :
    StoredRow.outcomes (entries.map Write.row) = .ok (entries.map Write.outcome) := by
  induction entries with
  | nil => rfl
  | cons entry entries ih =>
    have read : StoredRow.outcomeOf ((Write.row entry).select StoredRow.selectColumns) =
        .ok (Write.outcome entry) := StoredRow.outcomeOf_ofContext ..
    rw [List.map_cons, StoredRow.outcomes, read, ih]
    rfl

/-- Rows that stand in the order of their numbers are listed as they stand. -/
theorem select_eq_filter {rows : List StoredRow}
    (ascending : rows.Pairwise fun first second =>
      first.value .recordId < second.value .recordId)
    (paymentExternalKey : String) (tenantId : Uuid) (same : table.rows = rows) :
    table.select paymentExternalKey tenantId =
      rows.filter (StoredRow.belongsTo paymentExternalKey tenantId) := by
  rw [select, same]
  apply List.mergeSort_of_pairwise
  apply (ascending.filter _).imp
  intro first second less
  exact decide_eq_true (Int.le_of_lt less)

/-- After a series of writes to an empty table, the outcomes of the writes that are asked for
are listed in the order of the writes. -/
theorem exists_writeAll (writes : List Write) (paymentExternalKey : String) (tenantId : Uuid) :
    ∃ table, Table.writeAll {} writes = .ok table ∧
      table.list paymentExternalKey tenantId =
        (.ok ((Write.numbered 0 writes).filter (fun entry =>
          entry.2.isOf paymentExternalKey tenantId) |>.map Write.outcome), table) := by
  obtain ⟨table, written, accepts, rows⟩ := writeAll_eq_ok {} writes rfl
  rw [List.nil_append] at rows
  have numbers : ((Write.numbered 0 writes).map Write.row).Pairwise fun first second =>
      first.value .recordId < second.value .recordId :=
    List.pairwise_map.mpr ((Write.pairwise_numbered 0 writes).imp Int.ofNat_lt.mpr)
  refine ⟨table, written, ?_⟩
  -- The numbers ascend from write to write, so that sorting the rows by them changes nothing.
  simp only [list, statement, accepts, select_eq_filter numbers paymentExternalKey tenantId rows]
  rw [List.filter_map, outcomes_map_row]
  rfl

/-- Any series of writes to an empty table succeeds. Then the outcomes of a payment of a tenant
are one for each write of it, in the order of the writes, and tell what was written; their
numbers ascend, and the table stays as it is. -/
theorem list_writeAll (writes : List Write) (paymentExternalKey : String) (tenantId : Uuid) :
    ∃ table outcomes, Table.writeAll {} writes = .ok table ∧
      table.list paymentExternalKey tenantId = (.ok outcomes, table) ∧
      List.Forall₂ Write.KeptAs (writes.filter (Write.isOf paymentExternalKey tenantId))
        outcomes ∧
      (outcomes.map Outcome.recordId).Pairwise (· < ·) := by
  obtain ⟨table, written, listed⟩ := exists_writeAll writes paymentExternalKey tenantId
  refine ⟨table, _, written, listed, ?_, ?_⟩
  · conv in writes.filter _ => rw [← Write.map_snd_numbered 0 writes, List.filter_map]
    rw [List.forall₂_map_left_iff, List.forall₂_map_right_iff]
    apply List.forall₂_same.mpr
    intro entry _
    exact Write.keptAs_outcome entry
  · rw [List.map_map, List.pairwise_map]
    exact ((Write.pairwise_numbered 0 writes).filter _).imp Int.ofNat_lt.mpr

end Table

end RiskScreen
