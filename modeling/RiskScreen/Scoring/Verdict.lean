/-!
# Verdicts

What a scorer says about a payment. Every part may be absent; only the recommendation code
`REJECT` has a consequence.
-/

namespace RiskScreen

/-- The answer of a scorer. -/
structure Verdict where
  transactionId : Option String := none
  crossReference : Option String := none
  rulesTripped : Option String := none
  totalScore : Option String := none
  recommendationCode : Option String := none
  remarks : Option String := none
  responseData : Option String := none
  deriving DecidableEq, Repr, Inhabited

namespace Verdict

/-- The recommendation code that advises against a payment. -/
def rejectionCode : String := "REJECT"

/-- Whether the verdict advises against the payment. -/
def recommendsRejection (verdict : Verdict) : Bool :=
  verdict.recommendationCode = some rejectionCode

end Verdict

end RiskScreen
