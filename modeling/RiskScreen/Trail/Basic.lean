import RiskScreen.Payment.Outcome
import RiskScreen.Timed
import RiskScreen.Trail.Error

/-!
# The audit trail

The trail keeps a row for each assessed payment. It may be slow to write and it may fail;
rows that are there are never changed. Rows are numbered from one, and the clock of the trail
gives each row as many seconds as its number.
-/

namespace RiskScreen

/-- An audit trail: its rows, how long a write takes, and why it fails, if it does. -/
structure Trail where
  rows : List Outcome := []
  delay : Nat := 0
  fault : Option StoreError := none
  deriving Repr

/-- What became of a write. -/
inductive WriteResult where
  | stored
  | failed (cause : StoreError)
  /-- It took too long. -/
  | cutOff
  deriving DecidableEq, Repr

namespace Trail

/-- The row that is written next. -/
def nextRow (trail : Trail) (context : Context) (verdict : Option Verdict) : Outcome :=
  .ofContext (trail.rows.length + 1) (Timestamp.ofEpochSeconds (trail.rows.length + 1))
    context verdict

/-- The trail with one more row. -/
def append (trail : Trail) (context : Context) (verdict : Option Verdict) : Trail :=
  { trail with rows := trail.rows ++ [trail.nextRow context verdict] }

/-- What a write ends with when there is time enough. -/
def conduct (trail : Trail) : Timed WriteResult :=
  ⟨trail.delay, (trail.fault.map .failed).getD .stored⟩

/-- What a write ends with after at most `limit` milliseconds. -/
def writeResult (trail : Trail) (limit : Nat) : WriteResult :=
  (trail.conduct.within limit).getD .cutOff

/-- Writes a row. A write that fails or is cut off leaves the trail as it is. -/
def write (trail : Trail) (limit : Nat) (context : Context) (verdict : Option Verdict) :
    Trail :=
  if trail.writeResult limit = .stored then trail.append context verdict else trail

/-- The rows of one payment of one tenant, in the order they were written. -/
def rowsOf (trail : Trail) (paymentExternalKey : String) (tenantId : Uuid) : List Outcome :=
  trail.rows.filter (Outcome.belongsTo paymentExternalKey tenantId)

/-- Lists the rows of one payment of one tenant. -/
def list (trail : Trail) (paymentExternalKey : String) (tenantId : Uuid) :
    Except StoreError (List Outcome) :=
  match trail.fault with
  | some cause => .error cause
  | none => .ok (trail.rowsOf paymentExternalKey tenantId)

/-- Whether the trail can be used. -/
def isReady (trail : Trail) : Bool :=
  trail.fault.isNone

theorem rows_append (trail : Trail) (context : Context) (verdict : Option Verdict) :
    (trail.append context verdict).rows = trail.rows ++ [trail.nextRow context verdict] :=
  rfl

end Trail

end RiskScreen
