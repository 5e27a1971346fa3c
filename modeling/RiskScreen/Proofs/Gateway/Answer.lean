import RiskScreen.Gateway.Handle
import RiskScreen.Proofs.Wire.RoundTrip

/-!
# What an answer tells

An answer in JSON tells what can be read of its body, whatever the body looks like. A decision that
is answered is read as it was made, and a listing is read as the rows that it lists, each with the
flag that is printed beside it.
-/

namespace RiskScreen.Http.Response

open Json (Reader Reads readList)

/-- The response has this status, and its body is JSON that is read as this value. -/
structure Tells {α : Type} (response : Response) (status : Nat) (reader : Reader α) (value : α) :
    Prop where
  status : response.status = status
  contentType : response.contentType = some "application/json"
  body : Json.decode reader response.body = .ok value

/-- The response lists these rows, in this order. Of each it prints whether the row recommends
rejection; and where the numbers and times of the rows are in range, it is read as the rows, but
for the sign of a zero. -/
structure Shows (response : Response) (rows : List Outcome) : Prop where
  flags : response.Tells 200 (readList Outcome.readFlag) (rows.map Outcome.recommendsRejection)
  rows : (∀ row ∈ rows, row.Readable) →
    response.Tells 200 (readList Outcome.read) (rows.map Outcome.unsignedZero)

theorem tells_json {α : Type} {reader : Reader α} {json : Json} {value : α}
    (reads : Reads reader json value) (status : Nat) :
    (Response.json status json).Tells status reader value :=
  ⟨rfl, rfl, reads.decode⟩

theorem shows_json (rows : List Outcome) :
    (Response.json 200 (.array (rows.map Outcome.toListingJson))).Shows rows :=
  ⟨tells_json (Outcome.reads_flags rows) 200, fun readable =>
    tells_json (Outcome.reads_listings readable) 200⟩

end RiskScreen.Http.Response
