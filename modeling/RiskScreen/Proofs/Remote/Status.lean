import RiskScreen.Proofs.Assessment.Effects
import RiskScreen.Proofs.Remote.Exchange

/-!
# What a status says

The status of the final reply tells the failures of a request apart: it was not authorized, it was
wrong, or the scorer failed. None of them gives a verdict, whatever the body says, and a payment
goes ahead after each. Every other status leaves the word to the body, also one of 600 or more.
-/

namespace RiskScreen

/-- The body of the reply as text, whatever its status. -/
def Reply.content (reply : Reply) : String :=
  String.ofList (Text.Utf8.decodeLossy reply.body)

/-- The reply arrives and reports that the request failed. -/
structure Reply.Failed (reply : Reply) : Prop where
  arrives : reply.delivery = .complete
  low : 400 ≤ reply.status
  high : reply.status < 600

namespace ScoringClient

variable {client : ScoringClient} {status : Nat} {body payload : String} {verdict : Verdict}
  {reply : Reply} {peer : Option Peer}

/-! ### Statuses -/

theorem interpret_unauthorized (body : String) : interpret 401 body = .error (.unauthorized body) :=
  rfl

theorem interpret_server (low : 500 ≤ status) (high : status < 600) (body : String) :
    interpret status body = .error (.server status body) := by
  have other : status ≠ 401 := by omega
  simp [interpret, other, low, high]

theorem interpret_invalidRequest (low : 400 ≤ status) (high : status < 500) (other : status ≠ 401)
    (body : String) : interpret status body = .error (.invalidRequest status body) := by
  have notServer : ¬ 500 ≤ status := by omega
  simp [interpret, other, notServer, low, high]

theorem interpret_other (h : status < 400 ∨ 600 ≤ status) (body : String) :
    interpret status body = readVerdict body := by
  have authorized : status ≠ 401 := by omega
  have notServer : ¬ (500 ≤ status ∧ status < 600) := by omega
  have notInvalid : ¬ (400 ≤ status ∧ status < 500) := by omega
  simp [interpret, authorized, notServer, notInvalid]

/-- A status from 400 to 599 gives no verdict. -/
theorem interpret_ne_ok (low : 400 ≤ status) (high : status < 600) (body : String)
    (verdict : Verdict) : interpret status body ≠ .ok verdict := by
  by_cases authorized : status = 401
  · simp [authorized, interpret_unauthorized]
  · by_cases server : 500 ≤ status
    · simp [interpret_server server high]
    · simp [interpret_invalidRequest low (by omega) authorized]

theorem interpret_eq_ok_iff : interpret status body = .ok verdict ↔
    (status < 400 ∨ 600 ≤ status) ∧ readVerdict body = .ok verdict := by
  by_cases other : status < 400 ∨ 600 ≤ status
  · rw [interpret_other other, and_iff_right other]
  · exact iff_of_false (interpret_ne_ok (by omega) (by omega) body verdict) fun h => other h.1

/-- A reply that reports a failure has a body. -/
theorem text_of_le (low : 400 ≤ reply.status) : reply.text = reply.content := by
  have bodied : Reply.isBodiless reply.status = false := by
    simp only [Reply.isBodiless, Bool.or_eq_false_iff, decide_eq_false_iff_not]
    omega
  rw [Reply.text, bodied]
  rfl

/-! ### Replies -/

theorem readReply_of_complete (arrives : reply.delivery = .complete) :
    client.readReply reply = interpret reply.status reply.text := by
  rw [readReply, arrives]

theorem readReply_eq_ok_iff : client.readReply reply = .ok verdict ↔
    reply.delivery = .complete ∧ (reply.status < 400 ∨ 600 ≤ reply.status) ∧
      readVerdict reply.text = .ok verdict := by
  rw [← interpret_eq_ok_iff, readReply]
  cases reply.delivery <;> simp

/-- A request that failed has an error for an answer. -/
theorem FinalReply.exists_error (final : client.FinalReply payload peer reply)
    (failed : reply.Failed) : ∃ cause, (client.assess payload peer).1 = .error cause := by
  cases answer : (client.assess payload peer).1 with
  | error cause => exact ⟨cause, rfl⟩
  | ok verdict =>
    rw [final.assess_eq, readReply_of_complete failed.arrives] at answer
    exact absurd answer (interpret_ne_ok failed.low failed.high _ _)

/-! ### Answers and assessments -/

/-- The answer to a payload follows the status of the final reply. From 400 to 599 it is an error
with the body of that reply, and no such reply is ever followed; a payment whose request failed in
this way goes ahead and is recorded without a verdict. With any other status the body is read as a
verdict, and there is no verdict from anything else. -/
theorem assess_of_status (client : ScoringClient) (peer : Option Peer) :
    (∀ payload reply, client.FinalReply payload peer reply → reply.delivery = .complete →
      let answer := (client.assess payload peer).1
      (reply.status = 401 → answer = .error (.unauthorized reply.content)) ∧
      (400 ≤ reply.status → reply.status < 500 → reply.status ≠ 401 →
        answer = .error (.invalidRequest reply.status reply.content)) ∧
      (500 ≤ reply.status → reply.status < 600 →
        answer = .error (.server reply.status reply.content)) ∧
      (reply.status < 400 ∨ 600 ≤ reply.status → answer = readVerdict reply.text)) ∧
    (∀ redirects outgoing before reply next, client.send outgoing before = some (reply, next) →
      400 ≤ reply.status → client.EndsAt redirects outgoing before reply (some next)) ∧
    (∀ payload verdict, (client.assess payload peer).1 = .ok verdict →
      ∃ reply, client.FinalReply payload peer reply ∧ reply.delivery = .complete ∧
        (reply.status < 400 ∨ 600 ≤ reply.status) ∧ readVerdict reply.text = .ok verdict) ∧
    ∀ marker config trail context properties payload reply, config.scorer = client.scorer peer →
      buildPayload properties marker = .ok payload → client.FinalReply payload peer reply →
      reply.Failed →
      let assessment := Assessment.run marker config trail context properties
      assessment.decision.abortPayment = false ∧ assessment.decision.shouldReject = false ∧
        .record context none ∈ assessment.steps ∧
        (∀ other verdict, .record other (some verdict) ∉ assessment.steps) ∧
        ∀ row ∈ assessment.trail.rows, row ∈ trail.rows ∨ row.verdict = none := by
  refine ⟨?_, ?_, ?_, ?_⟩
  · intro payload reply final arrives answer
    have told : answer = interpret reply.status reply.text :=
      final.assess_eq.trans (readReply_of_complete arrives)
    refine ⟨?_, ?_, ?_, ?_⟩
    · intro unauthorized
      rw [told, text_of_le (by omega), unauthorized, interpret_unauthorized]
    · intro low high other
      rw [told, text_of_le low, interpret_invalidRequest low high other]
    · intro low high
      rw [told, text_of_le (by omega), interpret_server low high]
    · intro other
      rw [told, interpret_other other]
  · intro redirects outgoing before reply next sent failed
    exact endsAt_of_le sent failed
  · intro payload verdict answered
    obtain ⟨reply, final, told⟩ := assess_eq_ok_iff.mp answered
    exact ⟨reply, final, readReply_eq_ok_iff.mp told⟩
  · intro marker config trail context properties payload reply asks built final failed
    obtain ⟨cause, answer⟩ := final.exists_error failed
    have misses : config.Misses payload := by
      refine Or.inr ⟨cause, ?_⟩
      rw [asks]
      exact answer
    exact Assessment.run_of_misses marker config trail context properties built misses

/-- A client without credentials and without a proxy. -/
def plainClient : ScoringClient where
  url := "http://scorer/transactions"
  address := ⟨"http".toList, [], none, some (.name "scorer".toList), none, ["transactions".toList],
    none⟩
  username := none
  password := none
  proxy := none
  timeout := 500

/-- A complete document that recommends to reject the payment. -/
def rejection : String :=
  "<transaction-results><recommendation-code>REJECT</recommendation-code></transaction-results>"

/-- A peer that recommends to reject every payment, in replies of this status. -/
def rejectingPeer (status : Nat) : Peer where
  address := "scorer:80".toList
  replies := [⟨status, none, Text.Utf8.encode rejection.toList, .complete⟩]

/-- A payment that is screened by that peer. -/
def screened (status : Nat) : Assessment :=
  Assessment.run "x_"
    { Assessment.rejecting with scorer := plainClient.scorer (some (rejectingPeer status)) } {}
    Assessment.cardPayment []

theorem assess_of_status_unavailable :
    (plainClient.assess "<transactions/>" (some (rejectingPeer 503))).1 =
      .error (.server 503 rejection) ∧ (screened 503).decision.abortPayment = false := by
  have sent : ∃ next, plainClient.send (plainClient.firstRequest "<transactions/>")
      (some (rejectingPeer 503)) = some ((rejectingPeer 503).replies[0], next) := ⟨_, rfl⟩
  obtain ⟨next, sent⟩ := sent
  obtain ⟨answers, ends, -, goesAhead⟩ :=
    assess_of_status plainClient (some (rejectingPeer 503))
  have final : plainClient.FinalReply "<transactions/>" (some (rejectingPeer 503))
      (rejectingPeer 503).replies[0] := ⟨some next, ends _ _ _ _ _ sent (by decide)⟩
  have content : (rejectingPeer 503).replies[0].content = rejection := by decide +kernel
  constructor
  · rw [← content]
    exact (answers _ _ final rfl).2.2.1 (by decide) (by decide)
  · exact (goesAhead "x_" _ {} Assessment.cardPayment [] "<transactions/>" _ rfl rfl final
      ⟨rfl, by decide, by decide⟩).1

/-- With a status of 600 the body is believed, and the payment is stopped. -/
theorem assess_of_status_beyond :
    (∃ reply, plainClient.FinalReply "<transactions/>" (some (rejectingPeer 600)) reply ∧
      reply.delivery = .complete ∧ 400 ≤ reply.status) ∧
    (plainClient.assess "<transactions/>" (some (rejectingPeer 600))).1 =
      .ok { recommendationCode := some "REJECT" } ∧
    (screened 600).decision.abortPayment = true := by
  have sent : ∃ next, plainClient.send (plainClient.firstRequest "<transactions/>")
      (some (rejectingPeer 600)) = some ((rejectingPeer 600).replies[0], next) := ⟨_, rfl⟩
  obtain ⟨next, sent⟩ := sent
  refine ⟨⟨_, ⟨some next, endsAt_of_le sent (by decide)⟩, rfl, by decide⟩, ?_, ?_⟩
  · decide +kernel
  · decide +kernel

end ScoringClient

end RiskScreen
