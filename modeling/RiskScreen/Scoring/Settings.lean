/-!
# Settings of a remote scorer

Where the scorer is, how to sign in, through which proxy to reach it, and how long to wait.
-/

namespace RiskScreen

/-- The settings of a remote scorer. -/
structure ScorerSettings where
  url : String
  username : Option String
  password : Option String
  proxyHost : Option String
  proxyPort : Option Nat
  /-- Whether the certificate of the scorer has to be valid. -/
  strictSsl : Bool
  /-- How many milliseconds an answer may take. -/
  timeout : Nat
  deriving DecidableEq, Repr

namespace ScorerSettings

/-- Certificates are checked unless this is switched off. -/
def defaultStrictSsl : Bool := true

/-- The milliseconds an answer may take unless another limit is given. -/
def defaultTimeout : Nat := 10000

end ScorerSettings

end RiskScreen
