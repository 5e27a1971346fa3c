import RiskScreen.Proofs.Gateway.Answer
import RiskScreen.Proofs.Gateway.Route
import RiskScreen.Proofs.Trail.Listing

/-!
# Listings of damaged rows

Who asks for the outcomes of a payment gets all that the trail lists, or one failure. Rows that
cannot be read are such a failure, so that a listing is never shortened by them.
-/

namespace RiskScreen.Gateway

open Http
open StoredRow (TellsOf)

/-- The request asks for the outcomes of this payment of this tenant. -/
structure Asks (request : Request) (key : String) (tenant : Uuid) : Prop where
  method : request.method = "GET"
  path : ∃ piece, piece ≠ [] ∧ '/' ∉ piece ∧ request.target.path = Route.outcomesPath piece ∧
    readPiece piece = .ok key
  query : readTenantQuery request.target.query = .ok tenant

variable {gateway : Gateway} {request : Request} {key : String} {tenant : Uuid}

/-- Who asks for outcomes gets the listing of the trail, and nothing else happens. -/
theorem handle_of_asks (gateway : Gateway) (asks : Asks request key tenant) :
    gateway.handle request = ⟨gateway.listing key tenant, gateway, []⟩ := by
  obtain ⟨piece, nonempty, free, path, named⟩ := asks.path
  have route := Route.ofPath_eq_outcomes_iff.mpr ⟨nonempty, free, path⟩
  simp only [handle, route, outcomes, named, asks.query, present, asks.method, if_true, respond]

/-- Rows are listed if and only if each of them names a kind of transaction. Then each gives one
outcome, in their order, which has a verdict where the flag of the row is set, whatever the
columns of the verdict hold. Otherwise nothing is listed, and the first row that names no kind is
reported. The other rows of a table do not count. The answer to a request for the outcomes shows
all that is listed, or the one failure, and neither takes a step nor changes the gateway. -/
theorem listing_of_rows (rows : List StoredRow) :
    ((∃ listed, StoredRow.outcomes rows = .ok listed) ↔ ∀ row ∈ rows, row.IsKnown) ∧
    (∀ listed, StoredRow.outcomes rows = .ok listed →
      List.Forall₂ TellsOf rows listed ∧
        listed.map (fun outcome => outcome.verdict.isSome) = rows.map (·.value .scored)) ∧
    (∀ cause, StoredRow.outcomes rows = .error cause ↔
      ∃ row : StoredRow, row.FirstUnknown rows ∧
        cause = .corrupt (row.value .recordId)
          ("unknown transaction type `" ++ row.value .transactionType ++ "`")) ∧
    (∀ (table : Table) key tenant, table.refusal = none →
      (table.rows.filter (StoredRow.belongsTo key tenant)).Perm rows →
      (rows.Pairwise fun first second => first.value .recordId < second.value .recordId) →
      table.list key tenant = (StoredRow.outcomes rows, table)) ∧
    ∀ (gateway : Gateway) request key tenant, Asks request key tenant →
      gateway.trail.list key tenant = StoredRow.outcomes rows →
      let handling := gateway.handle request
      (∀ listed, StoredRow.outcomes rows = .ok listed →
        handling.response = .json 200 (.array (listed.map Outcome.toListingJson)) ∧
          handling.response.Shows listed) ∧
      (∀ row : StoredRow, row.FirstUnknown rows →
        handling.response = .failure 500 ("outcome " ++ toString (row.value .recordId) ++
          " is unreadable: " ++ "unknown transaction type `" ++
            row.value .transactionType ++ "`")) ∧
      handling.steps = [] ∧ handling.gateway = gateway := by
  refine ⟨StoredRow.exists_outcomes_iff, ?_, ?_, ?_, ?_⟩
  · intro listed read
    have tells := StoredRow.outcomes_eq_ok_iff.mp read
    refine ⟨tells, ?_⟩
    rw [← List.forall₂_eq_eq_eq, List.forall₂_map_left_iff, List.forall₂_map_right_iff]
    exact tells.flip.imp fun _ _ tells => tells.isSome_verdict
  · intro cause
    exact StoredRow.outcomes_eq_error_iff
  · intro table key tenant accepts same ascending
    exact Table.list_of_perm accepts same ascending
  · intro gateway request key tenant asks lists handling
    have handled : handling = _ := handle_of_asks gateway asks
    have answered : handling.response = gateway.listing key tenant := by rw [handled]
    rw [listing, lists] at answered
    refine ⟨?_, ?_, by rw [handled], by rw [handled]⟩
    · intro listed read
      rw [read] at answered
      exact ⟨answered, answered ▸ Response.shows_json listed⟩
    · intro row first
      rw [StoredRow.outcomes_eq_error_iff.mpr ⟨row, first, rfl⟩] at answered
      rw [answered]
      simp only [StoredRow.corruption, StoreError.message, String.append_assoc]

/-! ### A damaged table -/

/-- Three rows of a payment: a verdict of which nothing is filled in, columns of a verdict that was
not given, and a kind of transaction that there is none of. -/
def damagedRows : List StoredRow :=
  let time : Timestamp := .ofEpochSeconds 0
  let row (recordId : Int) (verdict : Option Verdict) : StoredRow :=
    .ofContext recordId time Assessment.cardPayment verdict
  [row 1 (some {}), (row 2 (some { remarks := some "stolen" })).set .scored false,
    (row 4 none).set .transactionType "SETTLE"]

/-- A table that holds them behind a damaged row of another payment. -/
def damagedTable : Table where
  rows := ((damagedRows[0].set .paymentExternalKey "other").set .transactionType "") ::
    damagedRows.reverse

/-- A gateway whose trail lists what that table lists. -/
def damagedGateway : Gateway where
  registry := { default := Assessment.rejecting.map .builtIn }
  trail := { fault := some (.corrupt 4 "unknown transaction type `SETTLE`") }
  adminKey := ""

/-- A request for the outcomes of the payment. -/
def listingRequest : Request where
  method := "GET"
  target := ⟨Route.outcomesPath "p%61yment".toList,
    some "tenant_id=00000000-0000-0000-0000-000000000003".toList⟩

theorem listing_of_rows_damaged :
    (∃ listed, StoredRow.outcomes damagedRows.dropLast = .ok listed ∧
      listed.map (fun outcome => outcome.verdict.isSome) = [true, false]) ∧
    (damagedTable.list "payment" ⟨3, by decide⟩).1 =
      .error (.corrupt 4 "unknown transaction type `SETTLE`") ∧
    (damagedGateway.handle listingRequest).response =
      .failure 500 "outcome 4 is unreadable: unknown transaction type `SETTLE`" := by
  have known : ∀ row ∈ damagedRows.dropLast, row.IsKnown := by
    intro row mem
    obtain rfl | rfl : row = damagedRows[0] ∨ row = damagedRows[1] := by
      simpa [damagedRows] using mem
    all_goals exact ⟨.purchase, rfl⟩
  have first : damagedRows[2].FirstUnknown damagedRows := by
    refine ⟨damagedRows.dropLast, [], rfl, known, ?_⟩
    rintro ⟨type, text⟩
    revert text
    cases type <;> decide
  have asks : Asks listingRequest "payment" ⟨3, by decide⟩ := by
    refine ⟨rfl, ⟨"p%61yment".toList, ?_, ?_, rfl, ?_⟩, ?_⟩ <;> decide +kernel
  have unread : StoredRow.outcomes damagedRows =
      .error (.corrupt 4 "unknown transaction type `SETTLE`") :=
    ((listing_of_rows damagedRows).2.2.1 _).mpr ⟨_, first, rfl⟩
  refine ⟨?_, ?_, ?_⟩
  · obtain ⟨listed, read⟩ := (listing_of_rows damagedRows.dropLast).1.mpr known
    exact ⟨listed, read, ((listing_of_rows damagedRows.dropLast).2.1 listed read).2⟩
  · have same : (damagedTable.rows.filter
        (StoredRow.belongsTo "payment" ⟨3, by decide⟩)).Perm damagedRows :=
      List.reverse_perm damagedRows
    have ascending : damagedRows.Pairwise fun first second =>
        first.value .recordId < second.value .recordId := by
      decide
    rw [(listing_of_rows damagedRows).2.2.2.1 damagedTable "payment" ⟨3, by decide⟩ rfl same
      ascending, unread]
  · have handled := (listing_of_rows damagedRows).2.2.2.2 damagedGateway listingRequest _ _ asks
      unread.symm
    rw [handled.2.1 _ first]
    rfl

end RiskScreen.Gateway
