import RiskScreen.Gateway.Handle

/-!
# Runs of the gateway

In a run one request is handled after the other. What lies outside the gateway may be another
for each of them: the answers of the scorers, how long the trail takes to write and why it
fails. The registry, the rows and the key are handed from one request to the next.

## Implementation notes

Scorers of the tenants are reached through the peer, so the scorer of the default configuration
and the peer are all that a request can meet of scorers.
-/

namespace RiskScreen.Gateway

/-- A request, and what lies outside the gateway when it is handled. -/
structure Visit where
  request : Http.Request
  /-- The scorer of the default configuration. -/
  scorer : ScorerSource
  /-- How many milliseconds writing to the trail takes. -/
  delay : Nat := 0
  /-- Why the trail fails, if it does. -/
  fault : Option StoreError := none
  peer : Option Peer := none

/-- The gateway with what lies outside it on this visit. -/
def facing (gateway : Gateway) (visit : Visit) : Gateway :=
  { gateway with
    registry := { gateway.registry with
      default := { gateway.registry.default with scorer := visit.scorer } }
    trail := { gateway.trail with delay := visit.delay, fault := visit.fault }
    peer := visit.peer }

/-- A request with the gateway that it comes to. -/
structure Turn where
  before : Gateway
  request : Http.Request

/-- What comes of a turn. -/
def Turn.handling (turn : Turn) : Handling :=
  turn.before.handle turn.request

/-- The turn of a visit. -/
def turn (gateway : Gateway) (visit : Visit) : Turn :=
  ⟨gateway.facing visit, visit.request⟩

/-- The turns of a run. -/
def turns : Gateway → List Visit → List Turn
  | _, [] => []
  | gateway, visit :: visits =>
      gateway.turn visit :: turns (gateway.turn visit).handling.gateway visits

/-- The gateway after a run. -/
def after : Gateway → List Visit → Gateway
  | gateway, [] => gateway
  | gateway, visit :: visits => after (gateway.turn visit).handling.gateway visits

variable {gateway : Gateway} {visits : List Visit}

/-- A turn of a run is that of a visit to the gateway after the turns before it. -/
theorem exists_turn_of_turns_eq {front back : List Turn} {middle : Turn}
    (split : turns gateway visits = front ++ middle :: back) :
    ∃ earlier visit, turns gateway earlier = front ∧
      middle = (after gateway earlier).turn visit := by
  induction visits generalizing gateway front with
  | nil => simp [turns] at split
  | cons visit visits ih =>
    cases front with
    | nil =>
      obtain ⟨rfl, -⟩ := List.cons.inj split
      exact ⟨[], visit, rfl, rfl⟩
    | cons first front =>
      obtain ⟨rfl, rest⟩ := List.cons.inj split
      obtain ⟨earlier, next, rfl, rfl⟩ := ih rest
      exact ⟨visit :: earlier, next, rfl, rfl⟩

/-- What holds at the start, and is kept by what lies outside and by every request, holds at
every turn and at the end. -/
theorem run_invariant (P : Gateway → Prop) (visits : List Visit) (start : P gateway)
    (faces : ∀ gateway visit, P gateway → P (facing gateway visit))
    (handles : ∀ gateway request, P gateway → P (handle gateway request).gateway) :
    (∀ turn ∈ turns gateway visits, P turn.before ∧ P turn.handling.gateway) ∧
      P (after gateway visits) := by
  induction visits generalizing gateway with
  | nil => exact ⟨List.forall_mem_nil _, start⟩
  | cons visit visits ih =>
    have before : P (gateway.turn visit).before := faces gateway visit start
    have handled : P (gateway.turn visit).handling.gateway := handles _ visit.request before
    obtain ⟨later, last⟩ := ih handled
    exact ⟨List.forall_mem_cons.mpr ⟨⟨before, handled⟩, later⟩, last⟩

end RiskScreen.Gateway
