import Mathlib.Data.List.Forall2
import RiskScreen.Proofs.Assessment.Decision

/-!
# What an assessment does besides deciding

An assessment without a payload reaches neither the scorer nor the trail. With a payload it
asks the scorer once and afterwards hands over one outcome, which has the verdict that the
payment is decided by. So the rows that a series of assessments leaves behind agree with the
decisions, one row for each outcome that was written in time.

## Implementation notes

A `Call` carries the behavior of the trail, so that every assessment of a series may meet
another one. The rows are handed from one assessment to the next.
-/

namespace RiskScreen

instance (properties : List Property) (marker : String) :
    Decidable (∃ payload, buildPayload properties marker = .ok payload) :=
  match buildPayload properties marker with
  | .error _ => isFalse fun ⟨_, made⟩ => nomatch made
  | .ok payload => isTrue ⟨payload, rfl⟩

/-- An assessment to be made: what it is about, and how the trail takes the outcome. -/
structure Call where
  config : TenantConfig Scorer
  context : Context
  properties : List Property
  /-- How many milliseconds writing to the trail takes. -/
  delay : Nat
  /-- Why writing to the trail fails, if it does. -/
  fault : Option StoreError

namespace Call

/-- The assessment that a call makes where the trail has these rows. -/
def assess (marker : String) (rows : List Outcome) (call : Call) : Assessment :=
  Assessment.run marker call.config ⟨rows, call.delay, call.fault⟩ call.context call.properties

/-- The payload of the call is made, and the trail writes the outcome in time. -/
def IsStored (marker : String) (call : Call) : Prop :=
  (∃ payload, buildPayload call.properties marker = .ok payload) ∧
    call.fault = none ∧ call.delay ≤ call.config.persistTimeout

instance (marker : String) (call : Call) : Decidable (call.IsStored marker) :=
  inferInstanceAs (Decidable (_ ∧ _ ∧ _))

/-- The calls one after another, each with its assessment. -/
def assessAll (marker : String) : List Outcome → List Call → List (Call × Assessment)
  | _, [] => []
  | rows, call :: calls =>
      (call, call.assess marker rows) ::
        assessAll marker (call.assess marker rows).trail.rows calls

/-- The rows of the trail after the calls. -/
def rowsAfter (marker : String) : List Outcome → List Call → List Outcome
  | rows, [] => rows
  | rows, call :: calls => rowsAfter marker (call.assess marker rows).trail.rows calls

end Call

/-- The row has what a row keeps of the payment. -/
structure Outcome.Describes (row : Outcome) (context : Context) : Prop where
  accountId : row.accountId = context.accountId
  paymentExternalKey : row.paymentExternalKey = context.paymentExternalKey
  transactionExternalKey : row.transactionExternalKey = context.transactionExternalKey
  transactionType : row.transactionType = context.transactionType
  amount : row.amount = context.amount
  currency : row.currency = context.currency
  tenantId : row.tenantId = context.tenantId

theorem Outcome.Describes.ofContext (recordId : Int) (createdAt : Timestamp) (context : Context)
    (verdict : Option Verdict) :
    (Outcome.ofContext recordId createdAt context verdict).Describes context :=
  ⟨rfl, rfl, rfl, rfl, rfl, rfl, rfl⟩

/-- The row is that of the call, and agrees with the decision. -/
structure Outcome.Records (row : Outcome) (call : Call) (decision : Decision) : Prop where
  describes : row.Describes call.context
  rejection : row.recommendsRejection = decision.shouldReject
  code : row.verdict.bind Verdict.recommendationCode = decision.recommendationCode

/-! ### Writing to the trail -/

namespace Trail

variable (trail : Trail) (limit : Nat) (context : Context) (verdict : Option Verdict)

theorem writeResult_eq_stored_iff :
    trail.writeResult limit = .stored ↔ trail.fault = none ∧ trail.delay ≤ limit := by
  unfold writeResult Timed.within conduct
  by_cases inTime : trail.delay ≤ limit
  · cases trail.fault <;> simp [inTime]
  · simp [inTime]

theorem rows_write :
    (trail.write limit context verdict).rows =
      if trail.fault = none ∧ trail.delay ≤ limit then
        trail.rows ++ [trail.nextRow context verdict]
      else trail.rows := by
  simp only [write, writeResult_eq_stored_iff]
  split
  · exact trail.rows_append context verdict
  · rfl

end Trail

/-! ### One assessment -/

namespace Assessment

variable (marker : String) (config : TenantConfig Scorer) (trail : Trail) (context : Context)
  (properties : List Property)

/-- Without a payload nothing is asked and nothing is handed over. -/
theorem run_of_refused {cause : BuildError} (h : buildPayload properties marker = .error cause) :
    run marker config trail context properties = ofRefusal config trail context cause := by
  rw [run, h]

theorem run_of_payload {payload : String} (h : buildPayload properties marker = .ok payload) :
    run marker config trail context properties = ofPayload config trail context payload := by
  rw [run, h]

/-- The trail keeps its rows, or has one more, which is that of the verdict. -/
theorem run_rows :
    (run marker config trail context properties).trail.rows =
      if (∃ payload, buildPayload properties marker = .ok payload) ∧
          trail.fault = none ∧ trail.delay ≤ config.persistTimeout then
        trail.rows ++ [trail.nextRow context (verdict? marker config properties)]
      else trail.rows := by
  by_cases built : ∃ payload, buildPayload properties marker = .ok payload
  · obtain ⟨payload, made⟩ := built
    rw [run_of_payload marker config trail context properties made]
    simp [ofPayload, TenantConfig.ask, Trail.record, Trail.rows_write, verdict?, made]
  · rw [if_neg fun stored => built stored.1]
    cases made : buildPayload properties marker with
    | error cause => rw [run_of_refused marker config trail context properties made, ofRefusal]
    | ok payload => exact absurd ⟨payload, made⟩ built

/-- With a payload the scorer is asked about it, and the verdict that it gives in time is handed
over and decides. -/
theorem run_by_payload {payload : String} (built : buildPayload properties marker = .ok payload) :
    let assessment := run marker config trail context properties
    ∃ (verdict : Option Verdict) (events : List Event),
      assessment.steps =
        [.ask config.scorer.name payload,
          .report (consultEvent config context (config.consult payload)),
          .record context verdict] ++ events.map .report ∧
      (∀ answer, verdict = some answer ↔ config.AnswersInTime payload answer) ∧
      assessment.trail = trail.write config.persistTimeout context verdict ∧
      assessment.decision = Decision.ofVerdict config.subjectPlugins context verdict := by
  intro assessment
  have made := run_of_payload marker config trail context properties built
  refine ⟨verdictOf (config.consult payload), writeEvents config context
    (trail.writeResult config.persistTimeout) ++ [assessment.decision.event], ?_,
    config.verdictOf_consult_eq_some_iff payload, ?_, ?_⟩
  · simp [assessment, made, ofPayload, TenantConfig.ask, Trail.record]
  · simp only [assessment, made, ofPayload, TenantConfig.ask, Trail.record]
  · simp only [assessment, made, ofPayload, TenantConfig.ask]

/-- Where a scorer gives no verdict, the payment goes ahead, and its outcome has none. -/
theorem run_of_misses {payload : String} (built : buildPayload properties marker = .ok payload)
    (misses : config.Misses payload) :
    let assessment := run marker config trail context properties
    assessment.decision.abortPayment = false ∧ assessment.decision.shouldReject = false ∧
      .record context none ∈ assessment.steps ∧
      (∀ other verdict, .record other (some verdict) ∉ assessment.steps) ∧
      ∀ row ∈ assessment.trail.rows, row ∈ trail.rows ∨ row.verdict = none := by
  intro assessment
  obtain ⟨verdict, events, steps, answered, kept, decided⟩ :=
    run_by_payload marker config trail context properties built
  obtain rfl : verdict = none := by
    rw [Option.eq_none_iff_forall_ne_some]
    intro answer given
    have said :=
      (config.verdictOf_consult_eq_some_iff payload answer).mpr ((answered answer).mp given)
    rw [(config.verdictOf_consult_eq_none_iff payload).mpr misses] at said
    contradiction
  refine ⟨?_, ?_, ?_, ?_, ?_⟩
  · rw [decided]
    rfl
  · rw [decided]
    rfl
  · rw [steps]
    simp
  · intro other verdict
    rw [steps]
    simp
  · intro row mem
    rw [kept, Trail.rows_write] at mem
    split at mem
    · rcases List.mem_append.mp mem with there | new
      · exact Or.inl there
      · rw [List.mem_singleton.mp new]
        exact Or.inr rfl
    · exact Or.inl mem

end Assessment

/-! ### A series of assessments -/

namespace Call

variable (marker : String)

/-- The row that a call adds if it is stored. -/
def row (rows : List Outcome) (call : Call) : Outcome :=
  Trail.nextRow ⟨rows, call.delay, call.fault⟩ call.context
    (Assessment.verdict? marker call.config call.properties)

theorem records_row (rows : List Outcome) (call : Call) :
    (call.row marker rows).Records call (call.assess marker rows).decision := by
  have decided : (call.assess marker rows).decision = Decision.ofVerdict
      call.config.subjectPlugins call.context
      (Assessment.verdict? marker call.config call.properties) :=
    Assessment.run_decision marker call.config call.properties _ call.context
  rw [decided]
  exact ⟨.ofContext _ _ _ _, rfl, rfl⟩

/-- One call leaves the rows as they are, or adds its own. -/
theorem rows_assess (rows : List Outcome) (call : Call) :
    (call.assess marker rows).trail.rows =
      if call.IsStored marker then rows ++ [call.row marker rows] else rows := by
  rw [assess, Assessment.run_rows marker call.config _ call.context call.properties]
  rfl

/-- The rows after a series of calls: those before, and one for each call that is stored, in
the order of the calls. -/
theorem rowsAfter_eq (rows : List Outcome) (calls : List Call) :
    ∃ added, rowsAfter marker rows calls = rows ++ added ∧
      List.Forall₂ (fun (entry : Call × Assessment) (row : Outcome) =>
          row.Records entry.1 entry.2.decision)
        ((assessAll marker rows calls).filter fun entry => entry.1.IsStored marker) added := by
  induction calls generalizing rows with
  | nil => exact ⟨[], (List.append_nil rows).symm, .nil⟩
  | cons call calls ih =>
    have written := rows_assess marker rows call
    obtain ⟨added, after, agrees⟩ := ih (call.assess marker rows).trail.rows
    rw [rowsAfter, assessAll, after]
    by_cases stored : call.IsStored marker
    · rw [if_pos stored] at written
      refine ⟨call.row marker rows :: added, ?_, ?_⟩
      · rw [written, List.append_assoc, List.singleton_append]
      · rw [List.filter_cons_of_pos (by simpa using stored)]
        exact .cons (records_row marker rows call) agrees
    · rw [if_neg stored] at written
      refine ⟨added, ?_, ?_⟩
      · rw [written]
      · rw [List.filter_cons_of_neg (by simpa using stored)]
        exact agrees

theorem map_fst_assessAll (rows : List Outcome) (calls : List Call) :
    (assessAll marker rows calls).map Prod.fst = calls := by
  induction calls generalizing rows with
  | nil => rfl
  | cons call calls ih => rw [assessAll, List.map_cons, ih]

/-- As many calls are stored as have an assessment that is stored. -/
theorem length_stored (rows : List Outcome) (calls : List Call) :
    ((assessAll marker rows calls).filter fun entry => entry.1.IsStored marker).length =
      calls.countP fun call => call.IsStored marker := by
  rw [← List.countP_eq_length_filter]
  conv_rhs => rw [← map_fst_assessAll marker rows calls, List.countP_map]
  rfl

end Call

namespace Assessment

/-- Without a payload an assessment does nothing but report. With one it asks the scorer about
that payload, then hands over the verdict by which it decides, and reports around that. After
any series of assessments there is one more row for each payload whose outcome was written in
time, and these rows agree with the decisions. -/
theorem run_asks_and_records_once (marker : String) :
    (∀ config trail context properties,
      let assessment := run marker config trail context properties
      (∀ cause, buildPayload properties marker = .error cause →
        (∃ events : List Event, assessment.steps = events.map .report) ∧
          assessment.trail = trail ∧
          assessment.decision = Decision.ofVerdict config.subjectPlugins context none) ∧
      ∀ payload, buildPayload properties marker = .ok payload →
        ∃ (verdict : Option Verdict) (events : List Event),
          assessment.steps =
            [.ask config.scorer.name payload,
              .report (consultEvent config context (config.consult payload)),
              .record context verdict] ++ events.map .report ∧
          (∀ answer, verdict = some answer ↔ config.AnswersInTime payload answer) ∧
          assessment.trail = trail.write config.persistTimeout context verdict ∧
          assessment.decision = Decision.ofVerdict config.subjectPlugins context verdict) ∧
    ∀ rows calls, ∃ added,
      Call.rowsAfter marker rows calls = rows ++ added ∧
      List.Forall₂ (fun (entry : Call × Assessment) (row : Outcome) =>
          row.Records entry.1 entry.2.decision)
        ((Call.assessAll marker rows calls).filter fun entry => entry.1.IsStored marker) added ∧
      added.length = calls.countP fun call => call.IsStored marker := by
  refine ⟨?_, ?_⟩
  · intro config trail context properties assessment
    refine ⟨?_, ?_⟩
    · intro cause refused
      have made := run_of_refused marker config trail context properties refused
      refine ⟨⟨[.payloadRefused context.paymentExternalKey cause, assessment.decision.event], ?_⟩,
        ?_, ?_⟩
      all_goals
        simp only [assessment, made]
        rfl
    · intro payload built
      exact run_by_payload marker config trail context properties built
  · intro rows calls
    obtain ⟨added, after, agrees⟩ := Call.rowsAfter_eq marker rows calls
    exact ⟨added, after, agrees,
      agrees.length_eq.symm.trans (Call.length_stored marker rows calls)⟩

/-- A configuration whose scorer rejects every payment at once. -/
def rejecting : TenantConfig Scorer where
  scorer := StandIn.scorer "1" "REJECT"
  subjectPlugins := ⟨["card"]⟩
  scoreTimeout := 10
  persistTimeout := 10

/-- A payment by a plugin that is subject to screening. -/
def cardPayment : Context where
  accountId := ⟨1, by decide⟩
  paymentExternalKey := "payment"
  transactionExternalKey := "transaction"
  transactionId := none
  transactionType := .purchase
  amount := ⟨false, 100, 2, by decide, by decide⟩
  currency := "USD"
  paymentMethodId := ⟨2, by decide⟩
  paymentMethodPluginName := some "card"
  tenantId := ⟨3, by decide⟩

/-- Three payments: the record of the first is cut off, the second has a path that cannot be
read, the third is recorded. -/
def mixedCalls : List Call :=
  [⟨rejecting, cardPayment, [], 11, none⟩,
    ⟨rejecting, cardPayment, [⟨some "x_", none⟩], 0, none⟩,
    ⟨rejecting, cardPayment, [⟨some "y", none⟩], 10, none⟩]

theorem run_asks_and_records_once_mixedCalls :
    buildPayload [⟨some "x_", none⟩] "x_" = .error (.path .empty) ∧
    (run "x_" rejecting {} cardPayment [⟨some "x_", none⟩]).trail = {} ∧
    buildPayload [] "x_" = .ok "<transactions/>" ∧
    (∃ verdict, Step.record cardPayment (some verdict) ∈
      (run "x_" rejecting {} cardPayment []).steps ∧
        verdict.recommendationCode = some "REJECT") ∧
    ∃ row, Call.rowsAfter "x_" [] mixedCalls = [row] ∧ row.recommendsRejection = true := by
  have refused : buildPayload [⟨some "x_", none⟩] "x_" = .error (.path .empty) := by rfl
  have built : buildPayload [] "x_" = .ok "<transactions/>" := by rfl
  have one := (run_asks_and_records_once "x_").1 rejecting {} cardPayment
  obtain ⟨verdict, events, steps, answered, -, -⟩ := (one []).2 "<transactions/>" built
  have answer : verdict = some (StandIn.verdict "1" "REJECT") :=
    (answered _).mpr ⟨by decide, rfl⟩
  obtain ⟨added, after, agrees, count⟩ := (run_asks_and_records_once "x_").2 [] mixedCalls
  refine ⟨refused, ((one _).1 _ refused).2.1, built, ⟨StandIn.verdict "1" "REJECT", ?_, rfl⟩, ?_⟩
  · rw [steps, answer]
    simp
  · have single : added.length = 1 := count.trans (by decide +kernel)
    obtain ⟨row, rfl⟩ := List.length_eq_one_iff.mp single
    refine ⟨row, after, ?_⟩
    have last : (Call.assessAll "x_" [] mixedCalls).filter
        (fun entry => entry.1.IsStored "x_") =
          [(mixedCalls[2], mixedCalls[2].assess "x_" [])] := by rfl
    rw [last] at agrees
    obtain ⟨records, -⟩ := List.forall₂_cons.mp agrees
    rw [records.rejection]
    rfl

end Assessment

end RiskScreen
