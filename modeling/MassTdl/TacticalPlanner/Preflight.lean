/-
This file translates the check that an avoidance route goes through before it is handed to
guidance: the distance to the first maneuver point, the length of the segments, the room for every
turn, and the room to slow down. The first fault that is found is the answer.

The numbers are of any kind, so that the check can be read over the reals as well as on machine
numbers. A turn radius may be infinite. Over the reals it is one of the extended numbers, and on
machine numbers both kinds are the same.
-/

import MassTdl.Clamps

namespace MassL3.M5.Preflight

open Clamps

/-! ### Numbers -/

/-- The functions of the mathematics library, the ratio of a half circle to its radius, and the
numbers that may be infinite. -/
structure Functions (Scalar Extended : Type) where
  pi : Scalar
  cos : Scalar → Scalar
  acos : Scalar → Scalar
  tan : Scalar → Scalar
  abs : Scalar → Scalar
  hypot : Scalar → Scalar → Scalar
  isFinite : Scalar → Bool
  count : Nat → Scalar
  extend : Scalar → Extended
  infinity : Extended

/-! ### Data -/

structure WaypointLatLon (Scalar : Type) where
  lat : Scalar
  lon : Scalar
  deriving DecidableEq

structure GncAvoidancePreflightConfig (Scalar : Type) where
  maxCommandSpeedMps : Scalar
  emergencyMinSegmentLengthM : Scalar
  emergencyMinTurnRadiusM : Scalar
  maxLateralAccelMps2 : Scalar
  emergencyMaxYawRateDegS : Scalar
  maxDecelMps2 : Scalar
  emergencyGuidanceSpeedCapMps : Scalar
  emergencyWheelOverDistanceM : Scalar
  highSpeedFlybyMinSegmentM : Scalar
  rawRouteRejoinThresholdM : Scalar

/-- The emergency-avoidance profile. -/
def defaultConfig (Scalar : Type) [OfScientific Scalar] : GncAvoidancePreflightConfig Scalar where
  maxCommandSpeedMps := 8.0
  emergencyMinSegmentLengthM := 15.0
  emergencyMinTurnRadiusM := 45.0
  maxLateralAccelMps2 := 0.5
  emergencyMaxYawRateDegS := 3.5
  maxDecelMps2 := 0.20
  emergencyGuidanceSpeedCapMps := 3.2
  emergencyWheelOverDistanceM := 120.0
  highSpeedFlybyMinSegmentM := 120.0
  rawRouteRejoinThresholdM := 60.0

structure GncAvoidancePreflightResult (Extended : Type) where
  feasible : Bool
  reason : String
  index : Nat
  requiredM : Extended
  availableM : Extended

section Model

variable {Scalar Extended : Type} [Add Scalar] [Sub Scalar] [Mul Scalar] [Div Scalar]
  [Neg Scalar] [OfScientific Scalar] [LE Scalar] [LT Scalar] [DecidableLE Scalar]
  [DecidableLT Scalar] [Add Extended] [LT Extended] [DecidableLT Extended]

variable (lib : Functions Scalar Extended)

/-! ### Measures -/

def kMetersPerDegLat : Scalar := 111320.0

def metersPerDegLon (refLatDeg : Scalar) : Scalar :=
  kMetersPerDegLat * lib.cos (refLatDeg * lib.pi / 180.0)

/-- A position in the local frame: north, east. -/
def toXy (refLatDeg : Scalar) (point : WaypointLatLon Scalar) : Scalar × Scalar :=
  (point.lat * kMetersPerDegLat, point.lon * metersPerDegLon lib refLatDeg)

def gncDistanceM (a b : WaypointLatLon Scalar) (refLatDeg : Scalar) : Scalar :=
  let dlat := (b.lat - a.lat) * kMetersPerDegLat
  let dlon := (b.lon - a.lon) * kMetersPerDegLat * lib.cos (refLatDeg * lib.pi / 180.0)
  lib.hypot dlat dlon

/-- The radius by the lengths of two legs and the angle between them. Where a leg has no length, or
the legs are almost straight, or the heading is almost reversed, it is infinite. -/
def turnRadiusOf (len1 len2 angle : Scalar) : Extended :=
  if len1 < 1.0e-6 ∨ len2 < 1.0e-6 then lib.infinity
  else if angle < lib.pi / 180.0 then lib.infinity
  else if angle > lib.pi - lib.pi / 180.0 then lib.infinity
  else lib.extend (stdMin len1 len2 / lib.tan (angle * 0.5))

/-- The turn radius that the legs before and after a waypoint leave room for. -/
def gncAvailableTurnRadiusM (a b c : WaypointLatLon Scalar) (refLatDeg : Scalar) : Extended :=
  let aXy := toXy lib refLatDeg a
  let bXy := toXy lib refLatDeg b
  let cXy := toXy lib refLatDeg c
  let v1x := bXy.1 - aXy.1
  let v1y := bXy.2 - aXy.2
  let v2x := cXy.1 - bXy.1
  let v2y := cXy.2 - bXy.2
  let len1 := lib.hypot v1x v1y
  let len2 := lib.hypot v2x v2y
  let dot := stdClamp ((v1x * v2x + v1y * v2y) / (len1 * len2)) (-1.0) 1.0
  turnRadiusOf lib len1 len2 (lib.acos dot)

/-- The distance of a point to the line through a segment. -/
def gncCrossTrackToSegmentM (point a b : WaypointLatLon Scalar) (refLatDeg : Scalar) : Extended :=
  let p := toXy lib refLatDeg point
  let aXy := toXy lib refLatDeg a
  let bXy := toXy lib refLatDeg b
  let abx := bXy.1 - aXy.1
  let aby := bXy.2 - aXy.2
  let len := lib.hypot abx aby
  if len < 1.0e-6 then lib.infinity
  else
    let apx := p.1 - aXy.1
    let apy := p.2 - aXy.2
    lib.extend (lib.abs (apx * aby - apy * abx) / len)

def requiredTurnRadiusM (speedMps : Scalar) (cfg : GncAvoidancePreflightConfig Scalar) :
    Extended :=
  let speed := stdMin (stdMax 0.0 speedMps) cfg.maxCommandSpeedMps
  let yawRateRadS := cfg.emergencyMaxYawRateDegS * lib.pi / 180.0
  let dynamicRequired := speed * speed / stdMax 0.01 cfg.maxLateralAccelMps2
  let yawRequired :=
    if yawRateRadS > 1.0e-6 then lib.extend (speed / yawRateRadS) else lib.infinity
  stdMax (stdMax (lib.extend cfg.emergencyMinTurnRadiusM) (lib.extend dynamicRequired)) yawRequired

def requiredDecelDistanceM (v0Mps v1Mps : Scalar) (cfg : GncAvoidancePreflightConfig Scalar) :
    Scalar :=
  if v0Mps ≤ v1Mps then 0.0
  else (v0Mps * v0Mps - v1Mps * v1Mps) / (2.0 * stdMax 0.01 cfg.maxDecelMps2)

def speedAtOrDefault (speeds : List Scalar) (index : Nat)
    (cfg : GncAvoidancePreflightConfig Scalar) : Scalar :=
  match speeds[index]? with
  | some speed =>
      if lib.isFinite speed ∧ speed > 0.0 then stdMin speed cfg.maxCommandSpeedMps
      else cfg.maxCommandSpeedMps
  | none => cfg.maxCommandSpeedMps

/-! ### The checks -/

/-- A waypoint of the route. The checks read none past its end. -/
def waypointAt (wps : List (WaypointLatLon Scalar)) (index : Nat) : WaypointLatLon Scalar :=
  wps.getD index ⟨0.0, 0.0⟩

def fault (reason : String) (index : Nat) (requiredM availableM : Extended) :
    GncAvoidancePreflightResult Extended where
  feasible := false
  reason
  index
  requiredM
  availableM

/-- What is available is less than what is required, up to a tolerance. -/
def tooSmall (reason : String) (index : Nat) (requiredM availableM : Extended) :
    Option (GncAvoidancePreflightResult Extended) :=
  if availableM + lib.extend 1.0e-6 < requiredM then
    some (fault reason index requiredM availableM)
  else none

/-- The loop over the indices from the first one up to a bound. -/
def firstFault (first bound : Nat) (check : Nat → Option (GncAvoidancePreflightResult Extended)) :
    Option (GncAvoidancePreflightResult Extended) :=
  (List.range' first (bound - first)).findSome? check

section Checks

variable (origin : WaypointLatLon Scalar) (wps : List (WaypointLatLon Scalar))
  (speeds : List Scalar) (cfg : GncAvoidancePreflightConfig Scalar) (firstIdx : Nat)

/-- Own ship enters the route faster than guidance would go in an emergency. -/
def highSpeedFlyby : Bool :=
  speedAtOrDefault lib speeds firstIdx cfg > cfg.emergencyGuidanceSpeedCapMps + 1.0e-6

/-- The latitude at which the local frame is set up. -/
def refLat : Scalar := (waypointAt wps firstIdx).lat

def checkFirstDistance : Option (GncAvoidancePreflightResult Extended) :=
  let firstRequired :=
    if highSpeedFlyby lib speeds cfg firstIdx then cfg.highSpeedFlybyMinSegmentM
    else cfg.emergencyWheelOverDistanceM
  let firstDistance := gncDistanceM lib origin (waypointAt wps firstIdx) origin.lat
  tooSmall lib "first_maneuver_point_too_close" firstIdx (lib.extend firstRequired)
    (lib.extend firstDistance)

def checkInitialXte : Option (GncAvoidancePreflightResult Extended) :=
  if highSpeedFlyby lib speeds cfg firstIdx ∧ wps.length ≥ firstIdx + 2 then
    let initialRawXte :=
      gncCrossTrackToSegmentM lib origin (waypointAt wps firstIdx) (waypointAt wps (firstIdx + 1))
        (refLat wps firstIdx)
    if lib.extend (cfg.rawRouteRejoinThresholdM + 1.0e-6) < initialRawXte then
      some (fault "initial_raw_route_xte_too_large" firstIdx
        (lib.extend cfg.rawRouteRejoinThresholdM) initialRawXte)
    else none
  else none

def checkSegment (i : Nat) : Option (GncAvoidancePreflightResult Extended) :=
  let segment := gncDistanceM lib (waypointAt wps i) (waypointAt wps (i + 1)) (refLat wps firstIdx)
  if segment + 1.0e-6 < cfg.emergencyMinSegmentLengthM then
    some (fault "segment_too_short" i (lib.extend cfg.emergencyMinSegmentLengthM)
      (lib.extend segment))
  else
    let segmentSpeed :=
      stdMax (speedAtOrDefault lib speeds i cfg) (speedAtOrDefault lib speeds (i + 1) cfg)
    if segmentSpeed > cfg.emergencyGuidanceSpeedCapMps + 1.0e-6 ∧
        segment + 1.0e-6 < cfg.highSpeedFlybyMinSegmentM then
      some (fault "flyby_segment_too_short" i (lib.extend cfg.highSpeedFlybyMinSegmentM)
        (lib.extend segment))
    else none

/-- The turn at a waypoint, with the points before and after it. -/
def checkTurn (reason : String) (i : Nat) (before after : WaypointLatLon Scalar) :
    Option (GncAvoidancePreflightResult Extended) :=
  tooSmall lib reason i (requiredTurnRadiusM lib (speedAtOrDefault lib speeds i cfg) cfg)
    (gncAvailableTurnRadiusM lib before (waypointAt wps i) after (refLat wps firstIdx))

/-- The first maneuver point, seen from the origin. -/
def checkFirstTurn : Option (GncAvoidancePreflightResult Extended) :=
  if wps.length ≥ firstIdx + 2 then
    checkTurn lib wps speeds cfg firstIdx "first_turn_radius_too_small" firstIdx origin
      (waypointAt wps (firstIdx + 1))
  else none

def checkInteriorTurn (i : Nat) : Option (GncAvoidancePreflightResult Extended) :=
  checkTurn lib wps speeds cfg firstIdx "turn_radius_too_small" i (waypointAt wps (i - 1))
    (waypointAt wps (i + 1))

def checkDecel (i : Nat) : Option (GncAvoidancePreflightResult Extended) :=
  let required := requiredDecelDistanceM (speedAtOrDefault lib speeds i cfg)
    (speedAtOrDefault lib speeds (i + 1) cfg) cfg
  if required ≤ 0.0 then none
  else
    tooSmall lib "decel_distance_not_enough" i (lib.extend required)
      (lib.extend
        (gncDistanceM lib (waypointAt wps i) (waypointAt wps (i + 1)) (refLat wps firstIdx)))

/-- The checks of a route of sufficient length, in their order. -/
def firstFaultOfRoute : Option (GncAvoidancePreflightResult Extended) :=
  checkFirstDistance lib origin wps speeds cfg firstIdx <|>
  checkInitialXte lib origin wps speeds cfg firstIdx <|>
  firstFault firstIdx (wps.length - 1) (checkSegment lib wps speeds cfg firstIdx) <|>
  checkFirstTurn lib origin wps speeds cfg firstIdx <|>
  firstFault 1 (wps.length - 1) (checkInteriorTurn lib wps speeds cfg firstIdx) <|>
  firstFault 0 (wps.length - 1) (checkDecel lib wps speeds cfg firstIdx)

end Checks

/-- With an anchor, the first waypoint is own ship's, and the maneuver begins with the second
one. -/
def anchorOffset (wpsHasAnchor : Bool) : Nat := if wpsHasAnchor then 1 else 0

/-- `validate_gnc_avoidance_plan`. -/
def validateGncAvoidancePlan (origin : WaypointLatLon Scalar) (wps : List (WaypointLatLon Scalar))
    (speeds : List Scalar) (cfg : GncAvoidancePreflightConfig Scalar) (wpsHasAnchor : Bool) :
    GncAvoidancePreflightResult Extended :=
  if wps.length < 2 + anchorOffset wpsHasAnchor then
    fault "invalid_avoidance_route" 0 (lib.extend 2.0) (lib.extend (lib.count wps.length))
  else if ¬ speeds.isEmpty ∧ speeds.length ≠ wps.length then
    fault "speed_length_mismatch" 0 (lib.extend (lib.count wps.length))
      (lib.extend (lib.count speeds.length))
  else
    match firstFaultOfRoute lib origin wps speeds cfg (anchorOffset wpsHasAnchor) with
    | some found => found
    | none =>
        { feasible := true
          reason := "feasible"
          index := 0
          requiredM := lib.extend 0.0
          availableM := lib.extend 0.0 }

end Model

end MassL3.M5.Preflight
