import RiskScreen.Proofs.Assessment.Effects
import RiskScreen.Proofs.Gateway.Answer
import RiskScreen.Proofs.Gateway.Effect
import RiskScreen.Proofs.Gateway.Run

/-!
# The trail of a run

Over a run the trail only grows, by at most one row for each assessment that is posted. A
listing is read as the rows of its payment and tenant, and beside each is printed what the answer
to the posted assessment said of rejection.

## Implementation notes

Answers are taken for what is read of them. A row can be read back if its number and its time are in
range, which they are for all rows of a run that starts with such rows, as long as the clock of the
trail does not run past the last year.
-/

namespace RiskScreen.Gateway

open Http

namespace Turn

/-- The rows that a turn adds to the trail. -/
def added (turn : Turn) : List Outcome :=
  turn.handling.gateway.trail.rows.drop turn.before.trail.rows.length

/-- The turn answers a posted assessment with a decision, and the row is that of the payment
and says of rejection what the decision says. -/
structure Records (turn : Turn) (wanted : AssessmentRequest) (decision : Decision)
    (row : Outcome) : Prop where
  posts : Posts turn.request wanted
  answer : turn.handling.response.Tells 200 Decision.read decision.unsignedZero
  payment : decision.context = wanted.context
  describes : row.Describes wanted.context
  rejection : row.recommendsRejection = decision.shouldReject
  readable : turn.before.trail.rows.length < Timestamp.lastSecond → row.Readable

/-- The turn keeps the rows of the trail, and adds no more than the row of a payment whose
assessment it answers. -/
structure KeepsTrail (turn : Turn) : Prop where
  kept : turn.handling.gateway.trail.rows = turn.before.trail.rows ++ turn.added
  single : turn.added.length ≤ 1
  recorded : ∀ row ∈ turn.added, ∃ wanted decision, turn.Records wanted decision row

/-- The turn lists the outcomes of the payment that `piece` stands for. -/
structure Lists (turn : Turn) (piece : List Char) : Prop where
  method : turn.request.method = "GET"
  nonempty : piece ≠ []
  free : '/' ∉ piece
  path : turn.request.target.path = Route.outcomesPath piece
  success : turn.handling.response.status = 200

end Turn

variable {gateway : Gateway} {request : Request} {turn : Turn}

/-! ### One turn -/

/-- The rows stay as they are, unless an assessment is posted. -/
theorem Effect.rows {handling : Handling} (effect : Effect gateway request handling) :
    handling.gateway.trail.rows = gateway.trail.rows ∨
      ∃ wanted, Posts request wanted ∧ handling = gateway.assess wanted := by
  cases effect with
  | answered => exact Or.inl rfl
  | assessed wanted posts => exact Or.inr ⟨wanted, posts, rfl⟩
  | configured => exact Or.inl rfl
  | cleared => exact Or.inl rfl

/-- The call that an assessment makes. -/
def callOf (gateway : Gateway) (wanted : AssessmentRequest) : Call where
  config := (gateway.registry.resolve wanted.context.tenantId).map (·.scorer gateway.peer)
  context := wanted.context
  properties := wanted.properties
  delay := gateway.trail.delay
  fault := gateway.trail.fault

theorem response_assess (wanted : AssessmentRequest) :
    (gateway.assess wanted).response = .json 200
      ((gateway.callOf wanted).assess gateway.marker gateway.trail.rows).decision.toJson :=
  rfl

theorem rows_assess (wanted : AssessmentRequest) :
    (gateway.assess wanted).gateway.trail.rows =
      ((gateway.callOf wanted).assess gateway.marker gateway.trail.rows).trail.rows :=
  rfl

theorem keepsTrail_of_rows_eq
    (same : turn.handling.gateway.trail.rows = turn.before.trail.rows) : turn.KeepsTrail := by
  have none : turn.added = [] := by simp [Turn.added, same]
  exact ⟨by simp [none, same], by simp [none], by simp [none]⟩

/-- A row that is written while the clock of the trail runs has a number and a time in range. -/
theorem readable_nextRow {trail : Trail} (short : trail.rows.length < Timestamp.lastSecond)
    (context : Context) (verdict : Option Verdict) : (trail.nextRow context verdict).Readable := by
  have bound : trail.rows.length + 1 ≤ 8210266876799 := short
  refine ⟨?_, ?_, Timestamp.proper_ofEpochSeconds short⟩
  · simp only [Trail.nextRow, Outcome.ofContext]
    omega
  · simp only [Trail.nextRow, Outcome.ofContext]
    omega

theorem keepsTrail_of_assess {wanted : AssessmentRequest} (posts : Posts turn.request wanted)
    (assessed : turn.handling = turn.before.assess wanted) : turn.KeepsTrail := by
  let call := turn.before.callOf wanted
  let assessment := call.assess turn.before.marker turn.before.trail.rows
  let row := call.row turn.before.marker turn.before.trail.rows
  have rows : turn.handling.gateway.trail.rows = assessment.trail.rows := by
    rw [assessed, rows_assess]
  have written := call.rows_assess turn.before.marker turn.before.trail.rows
  by_cases stored : call.IsStored turn.before.marker
  · rw [if_pos stored] at written
    have single : turn.added = [row] := by
      rw [Turn.added, rows, written, List.drop_left]
    refine ⟨by rw [rows, written, single], by simp [single], ?_⟩
    rw [single, List.forall_mem_singleton]
    have records := call.records_row turn.before.marker turn.before.trail.rows
    refine ⟨wanted, assessment.decision, posts, ?_, ?_, records.describes, records.rejection,
      fun short => readable_nextRow short _ _⟩
    · rw [assessed, response_assess]
      exact Response.tells_json assessment.decision.reads 200
    · exact congrArg Decision.context (Assessment.run_decision ..)
  · rw [if_neg stored] at written
    exact keepsTrail_of_rows_eq (rows.trans written)

/-- Every turn keeps the trail. -/
theorem keepsTrail (turn : Turn) : turn.KeepsTrail := by
  obtain same | ⟨wanted, posts, assessed⟩ := (effect_handle turn.before turn.request).rows
  · exact keepsTrail_of_rows_eq same
  · exact keepsTrail_of_assess posts assessed

/-! ### Listings -/

theorem readPiece_error {piece : List Char} {refusal : Response}
    (h : readPiece piece = .error refusal) : refusal = badPath := by
  unfold readPiece at h
  split at h
  · contradiction
  · exact (Except.error.inj h).symm

theorem readTenantQuery_error {query : Option (List Char)} {refusal : Response}
    (h : readTenantQuery query = .error refusal) : refusal = badQuery := by
  unfold readTenantQuery at h
  split at h
  · split at h
    · contradiction
    · exact (Except.error.inj h).symm
  · exact (Except.error.inj h).symm

theorem rowsOf_eq (trail : Trail) (key : String) (tenant : Uuid) :
    trail.rowsOf key tenant =
      trail.rows.filter fun row => row.paymentExternalKey = key ∧ row.tenantId = tenant := by
  apply List.filter_congr
  intro row _
  exact (Bool.decide_and _ _).symm

/-- A listing that succeeds shows the rows of its payment and tenant. -/
theorem outcomes_of_success {piece : List Char} {query : Option (List Char)}
    (success : (gateway.outcomes piece query).status = 200) :
    ∃ key tenant, readPiece piece = .ok key ∧ readTenantQuery query = .ok tenant ∧
      (gateway.outcomes piece query).Shows (gateway.trail.rowsOf key tenant) := by
  unfold outcomes at success ⊢
  cases named : readPiece piece with
  | error refusal => simp [named, readPiece_error named, badPath, Response.plain] at success
  | ok key =>
    cases asked : readTenantQuery query with
    | error refusal =>
      simp [named, asked, readTenantQuery_error asked, badQuery, Response.plain] at success
    | ok tenant =>
      refine ⟨key, tenant, rfl, rfl, ?_⟩
      simp only [named, asked] at success ⊢
      unfold listing Trail.list at success ⊢
      cases broken : gateway.trail.fault with
      | none => exact Response.shows_json _
      | some cause => simp [broken, Response.failure, Response.json] at success

theorem shows_of_lists {piece : List Char} (lists : turn.Lists piece) :
    ∃ key tenant, readPiece piece = .ok key ∧
      readTenantQuery turn.request.target.query = .ok tenant ∧
      turn.handling.response.Shows (turn.before.trail.rows.filter fun row =>
        row.paymentExternalKey = key ∧ row.tenantId = tenant) := by
  have route := Route.ofPath_eq_outcomes_iff.mpr ⟨lists.nonempty, lists.free, lists.path⟩
  have answer : turn.handling.response =
      turn.before.outcomes piece turn.request.target.query := by
    simp only [Turn.handling, handle, route, respond, present, lists.method, if_true]
  obtain ⟨key, tenant, named, asked, shows⟩ := outcomes_of_success (answer ▸ lists.success)
  rw [rowsOf_eq] at shows
  exact ⟨key, tenant, named, asked, answer ▸ shows⟩

/-! ### Runs -/

/-- After a run there are the rows from before and what the turns added, in their order. -/
theorem rows_after (gateway : Gateway) (visits : List Visit) :
    (after gateway visits).trail.rows =
      gateway.trail.rows ++ (turns gateway visits).flatMap Turn.added := by
  induction visits generalizing gateway with
  | nil => exact (List.append_nil _).symm
  | cons visit visits ih =>
    have kept := (keepsTrail (gateway.turn visit)).kept
    rw [after, ih, kept, turns, List.flatMap_cons, List.append_assoc]
    rfl

/-- As long as the clock of the trail runs, the rows that a run starts with and those that it adds
have numbers and times in range. -/
theorem readable_rows_after (gateway : Gateway) (visits : List Visit)
    (start : ∀ row ∈ gateway.trail.rows, row.Readable)
    (short : (after gateway visits).trail.rows.length ≤ Timestamp.lastSecond) :
    ∀ row ∈ (after gateway visits).trail.rows, row.Readable := by
  let InRange (gateway : Gateway) : Prop :=
    gateway.trail.rows.length ≤ Timestamp.lastSecond → ∀ row ∈ gateway.trail.rows, row.Readable
  have handles (gateway : Gateway) (request : Request) (inRange : InRange gateway) :
      InRange (gateway.handle request).gateway := by
    have keeps := keepsTrail ⟨gateway, request⟩
    have kept : (gateway.handle request).gateway.trail.rows =
      gateway.trail.rows ++ Turn.added ⟨gateway, request⟩ := keeps.kept
    intro short
    rw [kept, List.length_append] at short
    rw [kept, List.forall_mem_append]
    refine ⟨inRange (Nat.le_of_add_right_le short), ?_⟩
    intro row mem
    obtain ⟨wanted, decision, records⟩ := keeps.recorded row mem
    exact records.readable (Nat.lt_of_lt_of_le
      (Nat.lt_add_of_pos_right (List.length_pos_of_mem mem)) short)
  exact (run_invariant InRange visits (fun _ => start) (fun _ _ inRange => inRange) handles).2 short

/-- The trail over a run. Each turn keeps the rows and adds at most one, for an assessment
that is posted with a body that can be read; that row is of the payment, and says of rejection
what the answer says. So at each turn, and at the end, the rows are those from the start and those
added since, and a listing is read as exactly the rows among them that are of its payment and
tenant, in their order. -/
theorem trail_of_run (gateway : Gateway) (visits : List Visit) :
    (∀ turn ∈ turns gateway visits, turn.KeepsTrail) ∧
    (∀ front turn back, turns gateway visits = front ++ turn :: back →
      let rows := gateway.trail.rows ++ front.flatMap Turn.added
      turn.before.trail.rows = rows ∧
      ∀ piece, turn.Lists piece → ∃ key tenant,
        readPiece piece = .ok key ∧
        readTenantQuery turn.request.target.query = .ok tenant ∧
        turn.handling.response.Shows
          (rows.filter fun row => row.paymentExternalKey = key ∧ row.tenantId = tenant)) ∧
    (after gateway visits).trail.rows =
      gateway.trail.rows ++ (turns gateway visits).flatMap Turn.added ∧
    ((∀ row ∈ gateway.trail.rows, row.Readable) →
      (after gateway visits).trail.rows.length ≤ Timestamp.lastSecond →
      ∀ row ∈ (after gateway visits).trail.rows, row.Readable) := by
  refine ⟨fun turn _ => keepsTrail turn, ?_, rows_after gateway visits,
    readable_rows_after gateway visits⟩
  intro front turn back split rows
  have before : turn.before.trail.rows = rows := by
    obtain ⟨earlier, visit, rfl, rfl⟩ := exists_turn_of_turns_eq split
    exact rows_after gateway earlier
  refine ⟨before, ?_⟩
  intro piece lists
  rw [← before]
  exact shows_of_lists lists

/-- A gateway that rejects every payment of its own accord. -/
def rejecting : Gateway where
  registry := { default := Assessment.rejecting.map .builtIn }
  adminKey := ""

/-- The same gateway with rows of the payment `pay` for another tenant and of another payment. -/
def rejectingAmongOthers : Gateway :=
  let row (key : String) (tenant : Nat) (fits : tenant < 2 ^ 128) : Outcome :=
    { Outcome.ofContext 7 (.ofEpochSeconds 0) Assessment.cardPayment none with
      paymentExternalKey := key
      tenantId := ⟨tenant, fits⟩ }
  { rejecting with trail := { rows := [row "pay" 4 (by decide), row "other" 3 (by decide)] } }

/-- A payment is assessed, and then its outcomes are listed. -/
def assessAndList : List Visit :=
  let scorer := rejecting.registry.default.scorer
  let posted := "[[\"00000000000000000000000000000001\",\"pay\",\"transaction\",null,\"VOID\",\"1\",
    \"USD\",\"00000000000000000000000000000002\",null,\"00000000000000000000000000000003\"]]"
  [⟨⟨"POST", ⟨Route.assessmentsPath, none⟩, [("Content-Type", "application/json")], posted⟩,
      scorer, 10, none, none⟩,
    ⟨⟨"GET", ⟨Route.outcomesPath "p%61y".toList,
        some "tenant_id=00000000-0000-0000-0000-000000000003".toList⟩, [], ""⟩,
      scorer, 0, none, none⟩]

theorem trail_of_run_assessAndList :
    ∃ first second row wanted decision,
      turns rejectingAmongOthers assessAndList = [first, second] ∧
      first.Records wanted decision row ∧ row.paymentExternalKey = "pay" ∧
      second.handling.response.Tells 200 (Json.readList Outcome.readFlag) [decision.shouldReject] ∧
      second.handling.response.Tells 200 (Json.readList Outcome.read) [row.unsignedZero] := by
  obtain ⟨keeps, shows, -⟩ := trail_of_run rejectingAmongOthers assessAndList
  let first := rejectingAmongOthers.turn assessAndList[0]
  let second := first.handling.gateway.turn assessAndList[1]
  have single : first.added.length = 1 := by decide +kernel
  obtain ⟨row, one⟩ := List.length_eq_one_iff.mp single
  have own : ∀ row ∈ first.added,
      row.paymentExternalKey = "pay" ∧ row.tenantId = ⟨3, by decide⟩ := by decide +kernel
  have others : ∀ row ∈ rejectingAmongOthers.trail.rows,
      ¬ (row.paymentExternalKey = "pay" ∧ row.tenantId = ⟨3, by decide⟩) := by decide +kernel
  obtain ⟨wanted, decision, records⟩ :=
    (keeps first (.head _)).recorded row (one ▸ List.mem_singleton_self row)
  obtain ⟨key, tenant, named, asked, response⟩ := (shows [first] second [] rfl).2 "p%61y".toList
    ⟨rfl, by decide, by decide, rfl, rfl⟩
  have key_eq : readPiece "p%61y".toList = .ok "pay" := by decide +kernel
  have tenant_eq : readTenantQuery second.request.target.query = .ok ⟨3, by decide⟩ := by
    decide +kernel
  obtain rfl : "pay" = key := Except.ok.inj (key_eq.symm.trans named)
  obtain rfl := Except.ok.inj (tenant_eq.symm.trans asked)
  have listed : (rejectingAmongOthers.trail.rows ++ [first].flatMap Turn.added).filter
      (fun row => row.paymentExternalKey = "pay" ∧ row.tenantId = ⟨3, by decide⟩) = [row] := by
    rw [List.filter_append, List.filter_eq_nil_iff.mpr (by simpa using others),
      List.flatMap_singleton, List.filter_eq_self.mpr (by simpa using own), one, List.nil_append]
  rw [listed] at response
  have readable : ∀ listed ∈ [row], Outcome.Readable listed :=
    List.forall_mem_singleton.mpr (records.readable (by decide))
  refine ⟨first, second, row, wanted, decision, rfl, records, ?_, ?_, response.rows readable⟩
  · exact (own row (one ▸ List.mem_singleton_self row)).1
  · rw [← records.rejection]
    exact response.flags

end RiskScreen.Gateway
