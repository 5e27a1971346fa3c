/-!
# Failures of the audit trail

Why a row was not written, or the rows were not listed.
-/

namespace RiskScreen

/-- What went wrong at the database. -/
inductive DatabaseFault where
  /-- No connection became free in time. -/
  | poolTimedOut
  /-- A row that should be there is not. -/
  | rowNotFound
  /-- The database refused the statement. -/
  | refused (reason : String)
  deriving DecidableEq, Repr

/-- The text shown for a fault of the database. -/
def DatabaseFault.message : DatabaseFault → String
  | poolTimedOut => "pool timed out while waiting for an open connection"
  | rowNotFound => "no rows returned by a query that expected to return at least one row"
  | refused reason => "error returned from database: " ++ reason

/-- Why the audit trail could not be written or read. -/
inductive StoreError where
  | database (fault : DatabaseFault)
  /-- A row holds what no outcome can hold. -/
  | corrupt (recordId : Int) (reason : String)
  deriving DecidableEq, Repr

/-- The text shown for a failure of the audit trail. -/
def StoreError.message : StoreError → String
  | database fault => "database error: " ++ fault.message
  | corrupt recordId reason =>
      "outcome " ++ toString recordId ++ " is unreadable: " ++ reason

end RiskScreen
