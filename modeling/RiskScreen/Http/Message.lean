import RiskScreen.Http.Header
import RiskScreen.Http.Target
import RiskScreen.Json.Basic

/-!
# Requests and responses

A request is well formed when its method and the names and values of its headers are; its
target has been read. A response has a body of one of two media types, or none at all.
-/

namespace RiskScreen.Http

/-- A request. -/
structure Request where
  method : String
  target : Target
  headers : Headers := []
  body : String := ""
  deriving Repr

/-- Why there is no request. -/
inductive RequestFault where
  | method
  | target (fault : TargetFault)
  | headerName
  | headerValue
  deriving DecidableEq, Repr

/-- The text shown where there is no request. -/
def RequestFault.message : RequestFault → String
  | method => "invalid HTTP method"
  | target fault => fault.message
  | headerName => "invalid HTTP header name"
  | headerValue => "failed to parse header value"

namespace Request

/-- The first fault of a list of header fields. -/
def headerFault : Headers → Option RequestFault
  | [] => none
  | (name, value) :: rest =>
      if !isToken name.toList then some .headerName
      else if !value.toList.all isValueChar then some .headerValue
      else headerFault rest

/-- The request with these parts. -/
def ofParts (method target : String) (headers : Headers) (body : String) :
    Except RequestFault Request :=
  if !isToken method.toList then .error .method
  else
    match Target.read target.toList with
    | .error fault => .error (.target fault)
    | .ok target =>
        match headerFault headers with
        | some fault => .error fault
        | none => .ok { method, target, headers, body }

end Request

/-- A response. -/
structure Response where
  status : Nat
  contentType : Option String := none
  /-- The methods that a resource allows, where another one was tried. -/
  allow : Option String := none
  body : String := ""
  deriving DecidableEq, Repr

namespace Response

/-- A response in JSON. -/
def json (status : Nat) (value : Json) : Response where
  status
  contentType := some "application/json"
  body := value.render

/-- A response in plain text. -/
def plain (status : Nat) (text : String) : Response where
  status
  contentType := some "text/plain; charset=utf-8"
  body := text

/-- A response that is an error in JSON. -/
def failure (status : Nat) (text : String) : Response :=
  json status (.object [("error", .text text)])

/-- The response without its body. -/
def withoutBody (response : Response) : Response :=
  { response with body := "" }

end Response

end RiskScreen.Http
