import RiskScreen.Scoring.Error
import RiskScreen.Scoring.Verdict
import RiskScreen.Timed

/-!
# Scorers

A scorer answers a payload with a verdict or with the reason for none, after some time. The
stand-in scorer answers every payload alike and needs no connection.
-/

namespace RiskScreen

/-- What a scorer says about a payload. -/
abbrev ScoringResult := Except ScoringError Verdict

/-- A scorer. -/
structure Scorer where
  /-- The name by which events call it. -/
  name : String
  /-- Its answer to a payload. -/
  answer : String → Timed ScoringResult

namespace StandIn

/-- The name of the stand-in scorer. -/
def name : String := "mock"

/-- The verdict with this recommendation code. `ticket` tells one call from another. -/
def verdict (ticket code : String) : Verdict where
  transactionId := some ("mock_txn_" ++ ticket)
  totalScore := some "0"
  recommendationCode := some code
  remarks := some "mock verdict"

/-- The answer of the stand-in scorer: two behaviors stand for failures, every other one is
the code it recommends. -/
def result (ticket behavior : String) : ScoringResult :=
  if behavior = "ALWAYS_TIMEOUT" then .error (.timeout 0)
  else if behavior = "ALWAYS_ERROR" then .error (.server 503 "mock outage")
  else .ok (verdict ticket behavior)

/-- The stand-in scorer with this behavior. -/
def scorer (ticket behavior : String) : Scorer :=
  ⟨name, fun _ => .now (result ticket behavior)⟩

end StandIn

end RiskScreen
