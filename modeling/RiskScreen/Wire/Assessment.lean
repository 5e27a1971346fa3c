import RiskScreen.Wire.Payment

/-!
# Requests for an assessment in JSON

A request names the context of a payment and, if there are any, its properties.
-/

namespace RiskScreen

open Json

/-- What is sent to have a payment assessed. -/
structure AssessmentRequest where
  context : Context
  properties : List Property
  deriving DecidableEq, Repr

namespace AssessmentRequest

/-- The fields of a request. -/
def fields : List Field :=
  [field "context" Context.read, fieldWithDefault "properties" (readList Property.read)]

/-- The request with the fields that were read. -/
def ofRecord (record : Record) : Except ReadFault AssessmentRequest := do
  let context ← record.need "context" Context.read
  let properties ← record.getD "properties" (readList Property.read) []
  return { context, properties }

/-- Reads a request. -/
def read : Reader AssessmentRequest := fun draft =>
  readRecord fields draft >>= ofRecord

end AssessmentRequest

end RiskScreen
