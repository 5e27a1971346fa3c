import RiskScreen.Remote.Exchange

/-!
# How an exchange ends

An exchange goes from reply to reply as long as these point elsewhere, and ends at the first one
that does not. What that reply says is the answer; an exchange that ends at no reply fails. A reply
that reports a failure points nowhere, so every exchange ends at it.
-/

namespace RiskScreen.ScoringClient

/-- A reply that is not followed: it points nowhere, or its head does not arrive. -/
def IsFinal (outgoing : Outgoing) (reply : Reply) : Prop :=
  redirected outgoing reply = none ∨ hasBegun reply = false

/-- The exchange that a request begins ends at a reply, if replies are followed at most so often.
It leaves the peer as it is afterwards. -/
inductive EndsAt (client : ScoringClient) :
    Nat → Outgoing → Option Peer → Reply → Option Peer → Prop
  | answered {redirects : Nat} {outgoing : Outgoing} {peer : Option Peer} {reply : Reply}
      {next : Peer} (sent : client.send outgoing peer = some (reply, next))
      (final : IsFinal outgoing reply) : EndsAt client redirects outgoing peer reply (some next)
  | followed {left : Nat} {outgoing further : Outgoing} {peer last : Option Peer}
      {reply final : Reply} {next : Peer} (sent : client.send outgoing peer = some (reply, next))
      (points : redirected outgoing reply = some further) (begun : hasBegun reply = true)
      (rest : EndsAt client left further (some next) final last) :
      EndsAt client (left + 1) outgoing peer final last

/-- The reply at which the exchange about a payload ends. -/
def FinalReply (client : ScoringClient) (payload : String) (peer : Option Peer) (reply : Reply) :
    Prop :=
  ∃ last, client.EndsAt maxRedirects (client.firstRequest payload) peer reply last

variable {client : ScoringClient} {redirects : Nat} {outgoing : Outgoing} {peer last : Option Peer}
  {reply : Reply} {next : Peer} {payload : String} {verdict : Verdict}

/-! ### Replies that are followed -/

theorem redirected_eq_none (drops : dropsBody reply.status = false)
    (keeps : keepsBody reply.status = false) : redirected outgoing reply = none := by
  unfold redirected
  cases reply.location with
  | none => rfl
  | some location =>
    cases Url.read (some outgoing.url) location.toList <;> simp [drops, keeps]

/-- A reply that reports a failure is not followed, wherever it points. -/
theorem isFinal_of_le (failed : 400 ≤ reply.status) : IsFinal outgoing reply := by
  refine Or.inl (redirected_eq_none ?_ ?_)
  · simp only [dropsBody, Bool.or_eq_false_iff, decide_eq_false_iff_not]
    omega
  · simp only [keepsBody, Bool.or_eq_false_iff, decide_eq_false_iff_not]
    omega

theorem endsAt_of_le (sent : client.send outgoing peer = some (reply, next))
    (failed : 400 ≤ reply.status) : client.EndsAt redirects outgoing peer reply (some next) :=
  .answered sent (isFinal_of_le failed)

theorem filter_redirected_eq_none_iff :
    ((redirected outgoing reply).filter fun _ => hasBegun reply) = none ↔
      IsFinal outgoing reply := by
  cases further : redirected outgoing reply <;> simp [IsFinal, further]

/-! ### The answer -/

/-- The answer is what the reply says at which the exchange ends. -/
theorem EndsAt.follow_eq (ends : client.EndsAt redirects outgoing peer reply last) :
    client.follow redirects outgoing peer = (client.readReply reply, last) := by
  induction ends with
  | answered sent final =>
    rw [follow, sent]
    simp only [filter_redirected_eq_none_iff.mpr final]
  | followed sent points begun rest ih =>
    rw [follow, sent]
    simp only [points, begun, Option.filter_some, if_true, ih]

/-- An exchange ends at a reply, or fails. -/
theorem follow_cases (client : ScoringClient) (redirects : Nat) (outgoing : Outgoing)
    (peer : Option Peer) :
    (∃ reply last, client.EndsAt redirects outgoing peer reply last) ∨
      (client.follow redirects outgoing peer).1 = .error .transport := by
  fun_induction client.follow redirects outgoing peer with
  | case1 => exact Or.inr rfl
  | case2 redirects outgoing peer reply next sent stays =>
    have final : IsFinal outgoing reply := filter_redirected_eq_none_iff.mp stays
    exact Or.inl ⟨reply, some next, .answered sent final⟩
  | case3 => exact Or.inr rfl
  | case4 outgoing peer reply next sent further points left ih =>
    obtain ⟨goes, begun⟩ := Option.filter_eq_some_iff.mp points
    rcases ih with ⟨final, last, ends⟩ | failed
    · exact Or.inl ⟨final, last, .followed sent goes begun ends⟩
    · exact Or.inr failed

theorem FinalReply.assess_eq (final : client.FinalReply payload peer reply) :
    (client.assess payload peer).1 = client.readReply reply := by
  obtain ⟨last, ends⟩ := final
  rw [assess, ends.follow_eq]

/-- A verdict is what a final reply says. -/
theorem assess_eq_ok_iff : (client.assess payload peer).1 = .ok verdict ↔
    ∃ reply, client.FinalReply payload peer reply ∧ client.readReply reply = .ok verdict := by
  constructor
  · intro answered
    rcases follow_cases client maxRedirects (client.firstRequest payload) peer with
      ⟨reply, last, ends⟩ | failed
    · have final : client.FinalReply payload peer reply := ⟨last, ends⟩
      exact ⟨reply, final, final.assess_eq ▸ answered⟩
    · rw [assess, failed] at answered
      simp at answered
  · rintro ⟨reply, final, told⟩
    rw [final.assess_eq, told]

end RiskScreen.ScoringClient
