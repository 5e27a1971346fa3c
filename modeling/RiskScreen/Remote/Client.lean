import RiskScreen.Scoring.Response
import RiskScreen.Scoring.Scorer
import RiskScreen.Scoring.Settings
import RiskScreen.Url.Reader

/-!
# Remote scorers

A client is made from settings whose addresses can be read. It takes the body of an answer for
a verdict unless the status says that the request failed.
-/

namespace RiskScreen

/-- A client of a remote scorer. -/
structure ScoringClient where
  /-- The address of the scorer as it is configured. -/
  url : String
  /-- The address of the scorer as it is read. -/
  address : Url
  username : Option String
  password : Option String
  /-- The proxy through which requests go. -/
  proxy : Option Url
  /-- How many milliseconds an answer may take. -/
  timeout : Nat
  deriving Repr

namespace ScoringClient

/-- The name by which events call a remote scorer. -/
def name : String := "http"

/-- The address of the proxy that the settings ask for: both its parts have to be there. -/
def proxyUrl (settings : ScorerSettings) : Option String :=
  match settings.proxyHost, settings.proxyPort with
  | some host, some port => some ("http://" ++ host ++ ":" ++ toString port)
  | _, _ => none

/-- Reads an address. -/
def readUrl (url : String) : Except ScoringError Url :=
  match Url.read none url.toList with
  | some address => .ok address
  | none => .error (.invalidUrl url)

/-- The client with these settings. -/
def ofSettings (settings : ScorerSettings) : Except ScoringError ScoringClient :=
  match readUrl settings.url with
  | .error e => .error e
  | .ok address =>
      match (proxyUrl settings).mapM readUrl with
      | .error e => .error e
      | .ok proxy =>
          .ok {
            url := settings.url
            address
            username := settings.username
            password := settings.password
            proxy
            timeout := settings.timeout }

/-- What an answer with this status and body says. -/
def interpret (status : Nat) (body : String) : ScoringResult :=
  if status = 401 then .error (.unauthorized body)
  else if 500 ≤ status && status < 600 then .error (.server status body)
  else if 400 ≤ status && status < 500 then .error (.invalidRequest status body)
  else readVerdict body

end ScoringClient

end RiskScreen
