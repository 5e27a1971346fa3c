import RiskScreen.Text.Split

/-!
# The resources of the gateway

A path names a resource by its pieces between slashes. Pieces that stand for a payment or a
tenant may be anything but empty, and stay in percent encoding.
-/

namespace RiskScreen.Gateway

/-- The resources. -/
inductive Route where
  | health
  | liveness
  | readiness
  | assessments
  /-- The outcomes of one payment. -/
  | outcomes (payment : List Char)
  /-- The scorer of one tenant. -/
  | tenantScorer (tenant : List Char)
  | unknown
  deriving DecidableEq, Repr

namespace Route

/-- The resource that pieces of a path name. -/
def ofPieces : List String → Route
  | ["health"] => health
  | ["ops", "liveness"] => liveness
  | ["ops", "readiness"] => readiness
  | ["payments", "assessments"] => assessments
  | ["payments", payment, "assessments"] =>
      if payment.isEmpty then unknown else outcomes payment.toList
  | ["admin", "tenants", tenant, "scorer"] =>
      if tenant.isEmpty then unknown else tenantScorer tenant.toList
  | _ => unknown

/-- The resource that a path names. A path starts with a slash. -/
def ofPath (path : List Char) : Route :=
  match Text.splitOn '/' path with
  | [] :: pieces => ofPieces (pieces.map String.ofList)
  | _ => unknown

end Route

end RiskScreen.Gateway
