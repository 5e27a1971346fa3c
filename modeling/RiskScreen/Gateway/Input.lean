import RiskScreen.Http.ContentType
import RiskScreen.Http.Message
import RiskScreen.Json.Decode
import RiskScreen.Text.Percent

/-!
# Reading the parts of a request

A part that cannot be read is answered by a plain-text refusal. The order of the checks on a
body is: its media type, its size, its text, its shape.
-/

namespace RiskScreen.Gateway

open Http

/-- The refusal of a path whose variable piece cannot be read. -/
def badPath : Response :=
  .plain 400 "Invalid URL"

/-- The refusal of a query that cannot be read. -/
def badQuery : Response :=
  .plain 400 "Failed to deserialize query string"

/-- The refusal of a body that is not declared as JSON. -/
def notJsonType : Response :=
  .plain 415 "Expected request with `Content-Type: application/json`"

/-- The refusal of a body that is too large. -/
def tooLarge : Response :=
  .plain 413 "Failed to buffer the request body"

/-- The refusal of a body that cannot be read. -/
def badBody : ReadFault → Response
  | .notJson _ => .plain 400 "Failed to parse the request body as JSON"
  | _ => .plain 422 "Failed to deserialize the JSON body into the target type"

/-- The largest number of bytes of a body. -/
def maxBody : Nat := 2 * 1024 * 1024

/-- Whether a request declares its body as JSON. -/
def declaresJson (request : Request) : Bool :=
  (request.headers.text? "content-type").any fun value => ContentType.isJson value.toList

/-- Reads the body of a request. -/
def readBody {α : Type} (reader : Json.Reader α) (request : Request) : Except Response α :=
  if !declaresJson request then .error notJsonType
  else if maxBody < request.body.utf8ByteSize then .error tooLarge
  else
    match Json.decodeFront reader request.body with
    | .error fault => .error (badBody fault)
    | .ok value => .ok value

/-- Reads a piece of a path as text. -/
def readPiece (piece : List Char) : Except Response String :=
  match Text.Percent.text? piece with
  | some text => .ok (String.ofList text)
  | none => .error badPath

/-- Reads a piece of a path as an identifier. -/
def readTenant (piece : List Char) : Except Response Uuid :=
  match (Text.Percent.text? piece).bind Uuid.read with
  | some tenant => .ok tenant
  | none => .error badPath

/-- The name under which a query names a tenant. -/
def tenantName : List Char := "tenant_id".toList

/-- Reads the tenant of a query, which has to be named once. -/
def readTenantQuery (query : Option (List Char)) : Except Response Uuid :=
  match (Text.Percent.form (query.getD [])).filter fun pair => pair.1 = tenantName with
  | [(_, value)] =>
      match Uuid.read value with
      | some tenant => .ok tenant
      | none => .error badQuery
  | _ => .error badQuery

end RiskScreen.Gateway
