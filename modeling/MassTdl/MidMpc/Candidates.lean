/-
This file holds the avoidance plan the planner publishes and its reading as a candidate for
commitment. A segment label overrides the navigation mode of its waypoint, the risk fields are
those of the snapshot, and the frozen-prefix count is the one computed from the plan's stations.

Together with the manager this settles what a commitment freezes of the waypoints the ship is
about to reach.
-/

import MassTdl.CommittedRoute.CandidateGeometry
import MassTdl.CommittedRoute.Effects

namespace MassL3.M5.MidMpc

open CommittedRoute CommittedAvoidanceRoute

/-! ### Avoidance plans -/

/-- A waypoint of the audit trail; speeds are in knots. -/
structure AvoidanceWaypoint where
  schemaVersion : UInt16 := 112
  latitude : Float := 0.0
  longitude : Float := 0.0
  altitude : Float := 0.0
  targetSpeedKn : Float := 0.0
  confidence : Float32 := 0.0
  rationale : String := ""

namespace SegmentSource

def midMpcOptimized : UInt8 := 0

def midMpcTerminalHold : UInt8 := 1

def rejoinToL2 : UInt8 := 2

def l2NominalSuffix : UInt8 := 3

def degradedCorridor : UInt8 := 4

end SegmentSource

/-- `NLP_NONCONVERGED`. -/
def nlpNonconverged : UInt8 := 1

/-- The plan message. Times and the parts that only bookkeeping reads are left out. -/
structure AvoidancePlan where
  schemaVersion : UInt16 := 116
  status : String := ""
  planId : String := ""
  parentRouteId : String := ""
  behaviorMode : String := ""
  commandSource : String := ""
  allowDegradedExecution : Bool := false
  hasReturnToRoutePoint : Bool := false
  returnLatitude : Float := 0.0
  returnLongitude : Float := 0.0
  nlpSolverStatus : UInt8 := 0
  nlpKktResidual : Float32 := 0.0
  nlpTailGateFailed : Bool := false
  confidence : Float32 := 0.0
  rationale : String := ""
  latitude : List Float := []
  longitude : List Float := []
  commandSpeedMps : List Float := []
  navigationMode : List String := []
  segmentSource : List UInt8 := []
  waypoints : List AvoidanceWaypoint := []

/-! ### The optimized candidate -/

/-- What the commit gate knows of the targets and of the ship's position. -/
structure CommittedCandidateRiskContext where
  ownLatDeg : Float := 0.0
  ownLonDeg : Float := 0.0
  minTargetCurrentRangeM : Float := 1.0e9
  hasTarget : Bool := false
  primaryTargetClosingSpeedMps : Float := 0.0
  candidateTerminalCpaM : Float := 1.0e9

/-- The navigation mode a segment label stands for; other labels keep the waypoint's own. -/
def labelledNavMode (segmentSource : UInt8) (navMode : String) : String :=
  if segmentSource = SegmentSource.midMpcOptimized then "MID_MPC_OPTIMIZED"
  else if segmentSource = SegmentSource.midMpcTerminalHold then "MID_MPC_TERMINAL_HOLD"
  else if segmentSource = SegmentSource.rejoinToL2 then "REJOIN_TO_L2"
  else if segmentSource = SegmentSource.l2NominalSuffix then "L2_NOMINAL_SUFFIX"
  else if segmentSource = SegmentSource.degradedCorridor then "DEGRADED_CORRIDOR"
  else navMode

/-- The waypoints of a plan, as many as its shortest array has. -/
def planGeometry (plan : AvoidancePlan) : List GeoWP :=
  (plan.latitude.zip (plan.longitude.zip (plan.commandSpeedMps.zip
    (plan.navigationMode.zip plan.segmentSource)))).map
      fun (latDeg, lonDeg, speedMps, navMode, segmentSource) =>
        { latDeg, lonDeg, speedMps, navMode := labelledNavMode segmentSource navMode }

/-- `committed_candidate_from_plan`. -/
def committedCandidateFromPlan (lib : MathLibrary) (plan : AvoidancePlan) (nlpOk : Bool)
    (validUntilS : Float) (risk : CommittedCandidateRiskContext) (cpaHardM : Float) :
    CommittedRouteCandidate :=
  { planId := plan.planId
    geometry := planGeometry plan
    frozenPrefixCount :=
      (computeFrozenPrefixCount lib plan.latitude plan.longitude risk.ownLatDeg risk.ownLonDeg
        kMinFirstChangedDistanceM).frozenPrefixCount
    validUntilS := validUntilS
    nlpOk := nlpOk
    targetHeadingDeltaDeg := 0.0
    cpaDriftFraction := 0.0
    currentCpaM := risk.minTargetCurrentRangeM
    cpaHardM := cpaHardM
    terminalCpaM := risk.candidateTerminalCpaM
    targetOpening := risk.hasTarget && decide (risk.primaryTargetClosingSpeedMps ≤ 0.0) }

/-! ### What a commitment freezes -/

variable (lib : MathLibrary) (plan : AvoidancePlan) (nlpOk : Bool) (validUntilS : Float)
  (risk : CommittedCandidateRiskContext) (cpaHardM : Float)

/-- The plan's waypoints seen from the ship. -/
def planPoints : List NedPoint :=
  nedPoints lib plan.latitude plan.longitude risk.ownLatDeg risk.ownLonDeg

/-- The waypoint of an index is ahead of the ship, within the guard distance. -/
def Guarded (index : Nat) : Prop :=
  let ownStationM := (computeFrozenPrefixCount lib plan.latitude plan.longitude risk.ownLatDeg
    risk.ownLonDeg kMinFirstChangedDistanceM).ownStationM
  ∃ station, (stations lib (planPoints lib plan risk))[index]? = some station ∧
    InGuard ownStationM (ownStationM + kMinFirstChangedDistanceM) station

/-- Every waypoint of the plan in the guard window stands, at its place, in a frozen slice. -/
def FreezesGuard (committedPrefix : List GeoWP) : Prop :=
  ∀ index, Guarded lib plan risk index →
    ∃ waypoint, (planGeometry plan)[index]? = some waypoint ∧
      committedPrefix[index]? = some waypoint

/-- The plan's arrays reach every waypoint of the guard window, and the manager takes it over: it
holds no route, or one of another hash, or this waypoint already. -/
def TakesOverGuard (route : CommittedAvoidanceRoute) : Prop :=
  ∀ index, Guarded lib plan risk index →
    ∃ waypoint, (planGeometry plan)[index]? = some waypoint ∧
      (route.current.activeGeometry = [] ∨
        hashGeometry (planGeometry plan) ≠ route.current.routeHash ∨
        route.current.activeGeometry[index]? = some waypoint)

/-- The count reaches the waypoints of the guard window exactly when the ship has overrun no
waypoint or has none in the window. -/
theorem guarded_lt_frozenPrefixCount_iff :
    (∀ index, Guarded lib plan risk index →
        index < (committedCandidateFromPlan lib plan nlpOk validUntilS risk
          cpaHardM).frozenPrefixCount) ↔
      NothingOverrunOrAhead lib (planPoints lib plan risk) kMinFirstChangedDistanceM := by
  have counted : (committedCandidateFromPlan lib plan nlpOk validUntilS risk
      cpaHardM).frozenPrefixCount =
        ((ownStation lib (planPoints lib plan risk)).map
          (frozenCount lib (planPoints lib plan risk) · kMinFirstChangedDistanceM)).getD 0 :=
    computeFrozenPrefixCount_eq lib _ _ _ _ _
  rw [counted, ← coversGuard_iff]
  unfold Guarded
  rw [computeFrozenPrefixCount_ownStationM]
  exact forall_congr' fun _ => ⟨fun covered _ present inGuard => covered ⟨_, present, inGuard⟩,
    fun covered ⟨_, present, inGuard⟩ => covered _ present inGuard⟩

variable (route : CommittedAvoidanceRoute) (candidate : CommittedRouteCandidate)

/-- After a commitment the waypoint of an index is the candidate's if the route is new to the
manager, or if it was held there before. -/
theorem commitCandidate_getElem?_iff {index : Nat} {waypoint : GeoWP} (nowS : Float)
    (offered : candidate.geometry[index]? = some waypoint) :
    (route.commitCandidate candidate nowS).current.activeGeometry[index]? = some waypoint ↔
      route.current.activeGeometry = [] ∨
        hashGeometry candidate.geometry ≠ route.current.routeHash ∨
        route.current.activeGeometry[index]? = some waypoint := by
  have changed : route.geometryChanged candidate = true ↔ route.current.activeGeometry = [] ∨
      hashGeometry candidate.geometry ≠ route.current.routeHash := by
    unfold geometryChanged
    rw [Bool.or_eq_true, List.isEmpty_iff, bne_iff_ne]
  rw [commitCandidate_activeGeometry, ← or_assoc, ← changed]
  split_ifs with new
  · exact iff_of_true offered (.inl new)
  · exact (or_iff_right new).symm

variable {route}

/-- A manager that accepts a plan's candidate freezes the waypoints of the guard window exactly
when the ship has overrun no waypoint or has none in the window, and the manager takes those of
the window over. -/
theorem guard_frozen_iff (nowS : Float) (failures : UInt32)
    (accepted : route.Accepts
      (committedCandidateFromPlan lib plan nlpOk validUntilS risk cpaHardM)) :
    FreezesGuard lib plan risk
        (route.tryRevise (committedCandidateFromPlan lib plan nlpOk validUntilS risk cpaHardM)
          nowS failures).1.current.committedPrefix ↔
      NothingOverrunOrAhead lib (planPoints lib plan risk) kMinFirstChangedDistanceM ∧
        TakesOverGuard lib plan risk route := by
  have taken {index : Nat} {waypoint : GeoWP}
      (offered : (planGeometry plan)[index]? = some waypoint) :
      ((route.withSolverFailures failures).commitCandidate (committedCandidateFromPlan lib plan
          nlpOk validUntilS risk cpaHardM) nowS).current.activeGeometry[index]? = some waypoint ↔
        route.current.activeGeometry = [] ∨
          hashGeometry (planGeometry plan) ≠ route.current.routeHash ∨
          route.current.activeGeometry[index]? = some waypoint :=
    commitCandidate_getElem?_iff _ _ nowS offered
  rw [route.tryRevise_of_accepts _ nowS failures accepted,
    ← guarded_lt_frozenPrefixCount_iff lib plan nlpOk validUntilS risk cpaHardM]
  dsimp only
  rw [commitCandidate_committedPrefix_eq_take]
  constructor
  · intro frozen
    refine ⟨fun index guarded => ?_, fun index guarded => ?_⟩ <;>
      obtain ⟨waypoint, offered, held⟩ := frozen index guarded
    · obtain ⟨inRange, -⟩ := List.getElem?_eq_some_iff.mp held
      rw [List.length_take] at inRange
      exact inRange.trans_le (Nat.min_le_left _ _)
    · refine ⟨waypoint, offered, (taken offered).mp ?_⟩
      rw [List.getElem?_take] at held
      exact (ite_eq_iff.mp held).resolve_right (by simp) |>.2
  · rintro ⟨counted, takesOver⟩ index guarded
    obtain ⟨waypoint, offered, kept⟩ := takesOver index guarded
    refine ⟨waypoint, offered, ?_⟩
    rw [List.getElem?_take_of_lt (counted index guarded)]
    exact (taken offered).mpr kept

/-- A mathematics library for routes along a meridian, seen from the equator. -/
def meridianLibrary : MathLibrary where
  cos := fun _ => 1.0
  hypot := fun first second => if second == 0.0 then first.abs else second.abs
  hypot_not_neg := by
    intro first second
    split
    · exact Binary64.abs_not_neg first
    · exact Binary64.abs_not_neg second

/-- Waypoints of a meridian. -/
def meridianPlan (latitude : List Float) : AvoidancePlan :=
  { planId := "plan-1"
    latitude := latitude
    longitude := latitude.map fun _ => 122.0
    commandSpeedMps := latitude.map fun _ => 5.0
    navigationMode := latitude.map fun _ => "emergency_avoidance"
    segmentSource := latitude.map fun _ => SegmentSource.midMpcOptimized }

/-- Two waypoints, fifty and a hundred and twenty metres ahead of the ship. -/
def aheadPlan : AvoidancePlan := meridianPlan [0.00045, 0.0011]

/-- Three waypoints, one more three hundred metres behind the ship. -/
def overrunPlan : AvoidancePlan := meridianPlan [-0.0027, 0.00045, 0.0011]

/-- What the manager has frozen that committed a plan first, for a ship on the equator. -/
def firstFrozen (plan : AvoidancePlan) : List GeoWP :=
  ((construct 45.0 5 3 1852.0).tryRevise
    (committedCandidateFromPlan meridianLibrary plan true 60.0 { ownLonDeg := 122.0 } 1852.0) 10.0
    0).1.current.committedPrefix

/-- The nearer one of two waypoints ahead is frozen. -/
theorem guard_frozen_ahead :
    Guarded meridianLibrary aheadPlan { ownLonDeg := 122.0 } 0 ∧
      FreezesGuard meridianLibrary aheadPlan { ownLonDeg := 122.0 } (firstFrozen aheadPlan) := by
  have accepted : (construct 45.0 5 3 1852.0).Accepts (committedCandidateFromPlan meridianLibrary
      aheadPlan true 60.0 { ownLonDeg := 122.0 } 1852.0) :=
    (tryRevise_snd_eq_true_iff _ _ 10.0 0).mp (by decide +kernel)
  have ahead : NothingOverrunOrAhead meridianLibrary
      (planPoints meridianLibrary aheadPlan { ownLonDeg := 122.0 })
      kMinFirstChangedDistanceM := .inl (by decide +kernel)
  refine ⟨⟨_, rfl, by decide +kernel⟩, (guard_frozen_iff meridianLibrary aheadPlan true 60.0
    { ownLonDeg := 122.0 } 1852.0 10.0 0 accepted).mpr ⟨ahead, fun index guarded => ?_⟩⟩
  obtain ⟨station, present, -⟩ := guarded
  have size : (stations meridianLibrary (planPoints meridianLibrary aheadPlan
      { ownLonDeg := 122.0 })).length = (planGeometry aheadPlan).length := by decide +kernel
  have inRange := size ▸ (List.getElem?_eq_some_iff.mp present).1
  exact ⟨_, List.getElem?_eq_getElem inRange, .inl rfl⟩

/-- One waypoint is counted, the one fifty metres ahead, and the slice holds the one astern. -/
theorem overrun_waypoint_frozen :
    ¬ ∀ (lib : MathLibrary) (plan : AvoidancePlan) (risk : CommittedCandidateRiskContext)
        (cpaHardM : Float) (route : CommittedAvoidanceRoute) (nowS : Float) (failures : UInt32),
        route.Accepts (committedCandidateFromPlan lib plan true 60.0 risk cpaHardM) →
        FreezesGuard lib plan risk
          (route.tryRevise (committedCandidateFromPlan lib plan true 60.0 risk cpaHardM) nowS
            failures).1.current.committedPrefix := by
  intro freezes
  have accepted : (construct 45.0 5 3 1852.0).Accepts (committedCandidateFromPlan meridianLibrary
      overrunPlan true 60.0 { ownLonDeg := 122.0 } 1852.0) :=
    (tryRevise_snd_eq_true_iff _ _ 10.0 0).mp (by decide +kernel)
  have guarded : Guarded meridianLibrary overrunPlan { ownLonDeg := 122.0 } 1 :=
    ⟨_, rfl, by decide +kernel⟩
  obtain ⟨waypoint, -, held⟩ := freezes meridianLibrary overrunPlan { ownLonDeg := 122.0 } 1852.0
    _ 10.0 0 accepted 1 guarded
  have slice : (firstFrozen overrunPlan)[1]? = none := by decide +kernel
  change (firstFrozen overrunPlan)[1]? = some waypoint at held
  rw [slice] at held
  cases held

end MassL3.M5.MidMpc
