import RiskScreen.Document.Insert
import RiskScreen.Document.Markup
import RiskScreen.Payment.Property

/-!
# The payload of a scoring request

The entries of a payment are written one after another into a blank document, whose text is
the payload. The first entry that is refused decides the error.
-/

namespace RiskScreen

/-- Why no payload was made. -/
inductive BuildError where
  | path (cause : PathError)
  | serialization (cause : NameError)
  deriving DecidableEq, Repr

/-- The text shown for a payload that could not be made. -/
def BuildError.message : BuildError → String
  | path cause => "invalid property path: " ++ cause.message
  | serialization cause => "cannot serialize request: " ++ cause.message

namespace Document

/-- Writes the entries one after another, up to the first one that is refused. -/
def insertAll : Document → List Entry → Except PathError Document
  | document, [] => .ok document
  | document, entry :: rest =>
      match document.insert entry.path entry.value with
      | (_, some e) => .error e
      | (next, none) => insertAll next rest

end Document

/-- The payload for the properties whose keys start with `marker`. -/
def buildPayload (properties : List Property) (marker : String) : Except BuildError String :=
  match Document.blank.insertAll (Property.entries marker properties) with
  | .error e => .error (.path e)
  | .ok document =>
      match document.render with
      | .error e => .error (.serialization e)
      | .ok text => .ok text

end RiskScreen
