/-!
# Failures of scoring

Why a scorer gave no verdict: its address is wrong, it refused or failed the request, it did
not answer, or its answer says nothing usable.
-/

namespace RiskScreen

/-- Why there is no verdict. -/
inductive ScoringError where
  | invalidUrl (url : String)
  | unauthorized (body : String)
  | invalidRequest (status : Nat) (body : String)
  | server (status : Nat) (body : String)
  | timeout (milliseconds : Nat)
  | transport
  | parse (reason : String)
  | vendor (text : String)
  deriving DecidableEq, Repr

/-- The text shown for a failure of scoring. -/
def ScoringError.message : ScoringError → String
  | invalidUrl url => "invalid scorer url `" ++ url ++ "`"
  | unauthorized body => "unauthorized request: " ++ body
  | invalidRequest status body => "invalid request (" ++ toString status ++ "): " ++ body
  | server status body => "scorer error (" ++ toString status ++ "): " ++ body
  | timeout milliseconds => "scorer timed out after " ++ toString milliseconds ++ " ms"
  | transport => "transport error"
  | parse reason => "unparseable scorer response: " ++ reason
  | vendor text => "scorer returned an error: " ++ text

end RiskScreen
