/-
This file holds the data of the committed-route manager: the lifecycle enumeration, the
waypoints and candidates the planner hands over, the record other nodes read through
`current`, and the manager object with its configuration, counters and flags.

A C++ `double` is a `Float`, so that comparisons, NaN included, are those of the code; a
`std::uint32_t` is a `UInt32`, so that counters wrap as they do there.
-/

import Mathlib.Data.List.Basic
import Mathlib.Tactic.Common

namespace MassL3.M5.CommittedRoute

/-! ### Lifecycle -/

/-- Where a committed route stands. -/
inductive LifecycleState where
  | idle
  | candidateEvaluating
  | committed
  | heartbeatOnly
  | keepLast
  | stale
  | degradedHold
  | released
  /-- BC-MPC has taken over and the committed route follows it. -/
  | bcMpcFollow
  /-- BC-MPC is handing back to Mid-MPC; the override is still active. -/
  | handoverNeutral
  /-- BC-MPC failed and Mid-MPC did not recover: M5 is silent. -/
  | finalDegrade
  deriving DecidableEq, Repr

/-! ### Waypoints and candidates -/

/-- A waypoint in WGS84 degrees. -/
structure GeoWP where
  latDeg : Float := 0.0
  lonDeg : Float := 0.0
  speedMps : Float := 0.0
  navMode : String := ""
  deriving DecidableEq

/-- What the planner offers for commitment. -/
structure CommittedRouteCandidate where
  planId : String := ""
  geometry : List GeoWP := []
  frozenPrefixCount : Nat := 0
  validUntilS : Float := 0.0
  nlpOk : Bool := true
  targetHeadingDeltaDeg : Float := 0.0
  cpaDriftFraction : Float := 0.0
  currentCpaM : Float := 1.0e9
  cpaHardM : Float := 0.0
  terminalCpaM : Float := 1.0e9
  targetOpening : Bool := false

/-! ### The manager object -/

/-- The record other nodes read: the committed payload and the lifecycle. -/
structure CommittedAvoidanceRouteState where
  planId : String := ""
  revision : UInt32 := 0
  routeHash : UInt32 := 0
  staleCommittedAtS : Float := 0.0
  validUntilS : Float := 0.0
  state : LifecycleState := .idle
  committedPrefix : List GeoWP := []
  activeGeometry : List GeoWP := []
  safetyConcernEvent : String := ""

/-- The manager: `current` together with its thresholds, counters and flags. -/
structure CommittedAvoidanceRoute where
  current : CommittedAvoidanceRouteState := {}
  staleRouteMaxAgeS : Float := 45.0
  bcFinalDegradeThreshold : UInt32 := 5
  midUnrecoveredThreshold : UInt32 := 3
  cpaSafeM : Float := 1852.0
  consecutiveNlpFailures : UInt32 := 0
  lastSolverConsecutiveFailures : UInt32 := 0
  targetHeadingTrigger : Bool := false
  cpaDriftTrigger : Bool := false
  cpaHardTrigger : Bool := false
  bcMpcTakeoverRequested : Bool := false
  handoverHysteresisCount : UInt32 := 0
  bcOverrideNoImproveCount : UInt32 := 0
  bcLastWorstCaseCpaM : Float := 1.0e9
  bcHealthReceived : Bool := false
  midUnrecoveredCount : UInt32 := 0
  lastMidConverged : Bool := true

/-- `CommittedAvoidanceRoute::kHandoverHysteresisThreshold`. -/
def handoverHysteresisThreshold : UInt32 := 2

/-- The constructor: the thresholds are given, everything else starts at its default. -/
def CommittedAvoidanceRoute.construct (staleRouteMaxAgeS : Float)
    (bcFinalDegradeThreshold midUnrecoveredThreshold : UInt32) (cpaSafeM : Float) :
    CommittedAvoidanceRoute :=
  { staleRouteMaxAgeS, bcFinalDegradeThreshold, midUnrecoveredThreshold, cpaSafeM }

namespace CommittedAvoidanceRoute

variable (route : CommittedAvoidanceRoute) (state : LifecycleState) (event : String)

/-- Move to a lifecycle state, giving the reason other nodes may read. -/
def settle : CommittedAvoidanceRoute :=
  { route with current := { route.current with state := state, safetyConcernEvent := event } }

/-- Write the commit counter. -/
def withNlpFailures (failures : UInt32) : CommittedAvoidanceRoute :=
  { route with consecutiveNlpFailures := failures }

/-- Write the cached solver counter. -/
def withSolverFailures (failures : UInt32) : CommittedAvoidanceRoute :=
  { route with lastSolverConsecutiveFailures := failures }

variable (failures : UInt32)

@[simp] theorem settle_state : (route.settle state event).current.state = state := rfl

@[simp] theorem settle_committedPrefix :
    (route.settle state event).current.committedPrefix = route.current.committedPrefix := rfl

@[simp] theorem settle_consecutiveNlpFailures :
    (route.settle state event).consecutiveNlpFailures = route.consecutiveNlpFailures := rfl

@[simp] theorem settle_bcMpcTakeoverRequested :
    (route.settle state event).bcMpcTakeoverRequested = route.bcMpcTakeoverRequested := rfl

@[simp] theorem withNlpFailures_current :
    (route.withNlpFailures failures).current = route.current := rfl

@[simp] theorem withNlpFailures_consecutiveNlpFailures :
    (route.withNlpFailures failures).consecutiveNlpFailures = failures := rfl

@[simp] theorem withNlpFailures_bcMpcTakeoverRequested :
    (route.withNlpFailures failures).bcMpcTakeoverRequested = route.bcMpcTakeoverRequested :=
  rfl

@[simp] theorem withSolverFailures_current :
    (route.withSolverFailures failures).current = route.current := rfl

@[simp] theorem withSolverFailures_consecutiveNlpFailures :
    (route.withSolverFailures failures).consecutiveNlpFailures =
      route.consecutiveNlpFailures := rfl

@[simp] theorem withSolverFailures_bcMpcTakeoverRequested :
    (route.withSolverFailures failures).bcMpcTakeoverRequested =
      route.bcMpcTakeoverRequested := rfl

end CommittedAvoidanceRoute

end MassL3.M5.CommittedRoute
