/-
This file translates what the mission manager measures: the projection of the arrival time along
the route, the cross-track and current error, and the watchdog over the voyage tasks.
-/

import MassTdl.Mission.Types

namespace MassL3.M3

open Binary64
open Clamps
open MassL3.M6.Colregs (MathLibrary doubleMax)

/-! ### The arrival time -/

structure EtaProjectorConfig where
  samplingIntervalS : Int := 60
  seaCurrentUncertaintyKn : Float := 0.3
  worldStateAgeThresholdS : Float := 0.5

structure EtaProjection where
  etaS : Float
  distanceRemainingNm : Float
  uncertaintyS : Float
  computedAt : Int

structure EtaProjector where
  route : Option PlannedRoute := none
  profile : Option SpeedProfile := none

def kNmToM : Float := 1852.0

def kKnToMs : Float := 0.514444

def kMaxFutureStampToleranceS : Float := 5.0

section Progress

variable (lib : MathLibrary)

/-- The distances along the route from its first waypoint to the later ones. -/
def cumulativeDistances (covered : Float) (previous : GeoPoint) : List GeoPoint → List Float
  | [] => []
  | next :: later =>
      let covered := covered + haversineNm lib previous next
      covered :: cumulativeDistances covered next later

/-- The nearest waypoint so far, by its distance and by its place along the route. -/
def nearerWaypoint (shipPos : GeoPoint) (best : Float × Float) (waypoint : GeoPoint × Float) :
    Float × Float :=
  let d := haversineNm lib shipPos waypoint.1
  if d < best.1 then (d, waypoint.2) else best

/-- `compute_progress`. -/
def computeProgress (shipPos : GeoPoint) : List GeoPoint → Float
  | first :: second :: later =>
      let cumDist := 0.0 :: cumulativeDistances lib 0.0 first (second :: later)
      let totalDist := cumDist.getLast (List.cons_ne_nil _ _)
      if totalDist ≤ 0.0 then 0.0
      else
        let best :=
          ((first :: second :: later).zip cumDist).foldl (nearerWaypoint lib shipPos)
            (doubleMax, 0.0)
        best.2 / totalDist
  | _ => 0.0

end Progress

/-- `speed_at_distance`. -/
def SpeedProfile.speedAtDistance (profile : SpeedProfile) (distM : Float) : Float :=
  match profile.targetSpeedsKn.getLast? with
  | none => -1.0
  | some back =>
      let segments := profile.targetSpeedsKn.zip
        (profile.segmentStartDistancesM.zip profile.segmentEndDistancesM)
      ((segments.find? fun segment => distM ≥ segment.2.1 && distM < segment.2.2).map
        (·.1)).getD back

/-- A speed, or the next one if it is not positive. -/
def positiveOr (speedKn other : Float) : Float := if speedKn ≤ 0.0 then other else speedKn

namespace EtaProjector

variable (lib : MathLibrary) (config : EtaProjectorConfig) (projector : EtaProjector)

def updateRoute (route : PlannedRoute) : EtaProjector := { projector with route := some route }

def updateSpeedProfile (profile : SpeedProfile) : EtaProjector :=
  { projector with profile := some profile }

/-- The loop of the trapezoidal integration. -/
def integrateLoop (profile : SpeedProfile) (sogKn totalDistM distCoveredM remainingM : Float) :
    Nat → Float → Float → Float
  | 0, _, totalTimeS => totalTimeS
  | turns + 1, currentM, totalTimeS =>
      if currentM < totalDistM - 1e-6 then
        let v1Kn := positiveOr (positiveOr (profile.speedAtDistance currentM) sogKn) 1.0
        let v1Ms := v1Kn * kKnToMs
        let stepM :=
          stdMin (v1Ms * Float.ofInt config.samplingIntervalS)
            (remainingM - (currentM - distCoveredM))
        let nextM := currentM + stepM
        let v2Kn := positiveOr (positiveOr (profile.speedAtDistance nextM) sogKn) v1Kn
        let avgMs := (v1Kn + v2Kn) * 0.5 * kKnToMs
        let totalTimeS := if avgMs > 0.0 then totalTimeS + stepM / avgMs else totalTimeS
        integrateLoop profile sogKn totalDistM distCoveredM remainingM turns nextM totalTimeS
      else totalTimeS

/-- `integrate_eta_`. -/
def integrateEta (route : PlannedRoute) (profile : SpeedProfile) (world : WorldState) : Float :=
  let progress := computeProgress lib world.ownShip.position route.poses
  let totalDistM := route.totalDistanceNm * kNmToM
  let distCoveredM := progress * totalDistM
  if distCoveredM ≥ totalDistM then 0.0
  else
    integrateLoop config profile world.ownShip.sogKn totalDistM distCoveredM
      (totalDistM - distCoveredM) lib.turns distCoveredM 0.0

/-- `project`. Without a route, a profile or a fresh world state there is no projection. -/
def project (world : WorldState) (now : Int) : Option EtaProjection :=
  match projector.route, projector.profile with
  | some route, some profile =>
      let ageS := seconds (now - world.stamp.ns)
      if ageS < -kMaxFutureStampToleranceS || ageS > config.worldStateAgeThresholdS then none
      else
        let sogKn := world.ownShip.sogKn
        let progress := computeProgress lib world.ownShip.position route.poses
        let distanceCoveredNm := progress * route.totalDistanceNm
        let etaS := integrateEta lib config route profile world
        some
          { etaS
            distanceRemainingNm := stdMax 0.0 (route.totalDistanceNm - distanceCoveredNm)
            uncertaintyS :=
              if sogKn > 0.0 then etaS * (config.seaCurrentUncertaintyKn / sogKn) else 0.0
            computedAt := now }
  | _, _ => none

end EtaProjector

/-! ### The current error -/

inductive CurrentErrorSeverity where
  | normal
  | medium
  | high
  deriving DecidableEq, Repr

def CurrentErrorSeverity.toUInt8 : CurrentErrorSeverity → UInt8
  | .normal => 0
  | .medium => 1
  | .high => 2

structure CurrentErrorMonitorConfig where
  xteHighNm : Float32 := 0.5
  xteMediumNm : Float32 := 0.3
  currentHighKn : Float32 := 2.0
  currentMediumKn : Float32 := 1.5
  l4StaleS : Float := 2.0

structure CurrentErrorReading where
  severity : CurrentErrorSeverity
  xteNm : Float32
  seaCurrentKn : Float32
  l4Available : Bool

structure CurrentErrorMonitor where
  lastXteNm : Float32 := -1.0
  lastGeometricXteNm : Float32 := -1.0
  lastSeaCurrentKn : Float32 := 0.0
  lastTrackingErrorTime : Option Int := none

namespace CurrentErrorMonitor

variable (config : CurrentErrorMonitorConfig) (monitor : CurrentErrorMonitor)

/-- `update_route_state`: the distance of the ship from the line of the segment. -/
def updateRouteState (lib : MathLibrary) (own segStart segEnd : GeoPoint) :
    CurrentErrorMonitor :=
  let cosLat := lib.cos (segStart.latitude * kDegToRad)
  let ownN := (own.latitude - segStart.latitude) * kDegToRad * kEarthRadiusNm
  let ownE := (own.longitude - segStart.longitude) * kDegToRad * kEarthRadiusNm * cosLat
  let endN := (segEnd.latitude - segStart.latitude) * kDegToRad * kEarthRadiusNm
  let endE := (segEnd.longitude - segStart.longitude) * kDegToRad * kEarthRadiusNm * cosLat
  let segLen := (endN * endN + endE * endE).sqrt
  if segLen < 1e-3 then { monitor with lastGeometricXteNm := -1.0 }
  else
    { monitor with lastGeometricXteNm := narrow ((ownN * endE - ownE * endN) / segLen).abs }

def updateTrackingError (msg : TrackingError) (now : Int) : CurrentErrorMonitor :=
  { monitor with
    lastXteNm := msg.xteNm
    lastTrackingErrorTime := some now }

def updateWorldState (world : WorldState) : CurrentErrorMonitor :=
  { monitor with lastSeaCurrentKn := narrow world.ownShip.currentSpeedKn }

def computeSeverity (effectiveXteNm seaCurrentKn : Float32) : CurrentErrorSeverity :=
  if effectiveXteNm ≥ 0.0 && effectiveXteNm > config.xteHighNm ||
      seaCurrentKn > config.currentHighKn then .high
  else if effectiveXteNm ≥ 0.0 && effectiveXteNm > config.xteMediumNm ||
      seaCurrentKn > config.currentMediumKn then .medium
  else .normal

def evaluate (now : Int) : CurrentErrorReading :=
  let l4Available := monitor.lastTrackingErrorTime.any fun time =>
    seconds (now - time) ≤ config.l4StaleS
  let effectiveXte := if l4Available then monitor.lastXteNm else monitor.lastGeometricXteNm
  { severity := computeSeverity config effectiveXte monitor.lastSeaCurrentKn
    xteNm := effectiveXte
    seaCurrentKn := monitor.lastSeaCurrentKn
    l4Available }

end CurrentErrorMonitor

/-! ### The watchdog -/

inductive L1WatchdogStatus where
  | ok
  | warning
  | timeout
  deriving DecidableEq, Repr

def L1WatchdogStatus.toUInt8 : L1WatchdogStatus → UInt8
  | .ok => 0
  | .warning => 1
  | .timeout => 2

structure L1WatchdogConfig where
  warningS : Float := 60.0
  timeoutS : Float := 120.0
  confidenceWarning : Float32 := 0.6
  confidenceTimeout : Float32 := 0.4

structure L1WatchdogResult where
  status : L1WatchdogStatus
  elapsedS : Float
  confidenceFactor : Float32

structure L1WatchdogMonitor where
  lastReceived : Option Int := none

namespace L1WatchdogMonitor

variable (config : L1WatchdogConfig) (watchdog : L1WatchdogMonitor)

def notifyVoyageTaskReceived (now : Int) : L1WatchdogMonitor := { lastReceived := some now }

def evaluate (now : Int) : L1WatchdogResult :=
  match watchdog.lastReceived with
  | none => { status := .ok, elapsedS := 0.0, confidenceFactor := 1.0 }
  | some received =>
      let elapsedS := seconds (now - received)
      if elapsedS > config.timeoutS then
        { status := .timeout, elapsedS, confidenceFactor := config.confidenceTimeout }
      else if elapsedS > config.warningS then
        { status := .warning, elapsedS, confidenceFactor := config.confidenceWarning }
      else { status := .ok, elapsedS, confidenceFactor := 1.0 }

end L1WatchdogMonitor

end MassL3.M3
