/-
This file translates how an avoidance plan becomes a route from the start of the nominal route to
its end. Vertices of the nominal route are chosen by their station, the way along the route up to
them: those up to a little ahead of own ship come before the plan, and those past its end behind it.
Either is done only if the preflight check allows it.

A plan is its five parallel arrays. Whatever else it says is kept as it is.
-/

import MassTdl.Motions
import MassTdl.TacticalPlanner.Preflight

namespace MassL3.M5.Assembly

open Clamps
open Preflight

/-! ### Machine numbers -/

/-- The functions of the mathematics library. -/
structure MathLibrary where
  cos : Float → Float
  acos : Float → Float
  tan : Float → Float
  hypot : Float → Float → Float

/-- `M_PI`. -/
def kPi : Float := 3.14159265358979323846

/-- On machine numbers, an infinite number is one of them. -/
def MathLibrary.functions (lib : MathLibrary) : Functions Float Float where
  pi := kPi
  cos := lib.cos
  acos := lib.acos
  tan := lib.tan
  abs := Float.abs
  hypot := lib.hypot
  isFinite := Float.isFinite
  count := Float.ofNat
  extend := id
  infinity := 1.0 / 0.0

def kRadPerDeg : Float := kPi / 180.0

def kDegPerRad : Float := 180.0 / kPi

def kEarthRadiusMeanM : Float := 6371000.0

/-- `std::numeric_limits<double>::max()`. -/
def kMaxDouble : Float := 1.7976931348623157e308

/-! ### Data -/

/-- A position in the local frame: north, and east. -/
structure GeoWP where
  xM : Float
  yM : Float
  deriving DecidableEq

structure RouteProjection where
  sM : Float := 0.0
  lM : Float := 0.0
  valid : Bool := false

def midMpcOptimized : UInt8 := 0

def l2NominalSuffix : UInt8 := 3

def l2HistoricalPrefix : UInt8 := 5

/-- The parallel arrays of a plan, and what else it says. -/
structure AvoidancePlan (Header : Type) where
  header : Header
  latitude : List Float
  longitude : List Float
  commandSpeedMps : List Float
  navigationMode : List String
  segmentSource : List UInt8

/-- One entry of the parallel arrays. -/
structure RoutePoint where
  latitude : Float
  longitude : Float
  speedMps : Float
  navigationMode : String
  segmentSource : UInt8

def appendRoutePoint {Header : Type} (plan : AvoidancePlan Header) (point : RoutePoint) :
    AvoidancePlan Header where
  header := plan.header
  latitude := plan.latitude ++ [point.latitude]
  longitude := plan.longitude ++ [point.longitude]
  commandSpeedMps := plan.commandSpeedMps ++ [point.speedMps]
  navigationMode := plan.navigationMode ++ [point.navigationMode]
  segmentSource := plan.segmentSource ++ [point.segmentSource]

section Model

variable (lib : MathLibrary)

/-! ### Frames -/

/-- A position relative to own ship. -/
def toNed (own : WaypointLatLon Float) (position : WaypointLatLon Float) : GeoWP where
  xM := (position.lat - own.lat) * kRadPerDeg * kEarthRadiusMeanM
  yM := (position.lon - own.lon) * kRadPerDeg * kEarthRadiusMeanM * lib.cos (own.lat * kRadPerDeg)

/-- `route_frame_from_l2`. A route without two poses gives no frame. -/
def routeFrameFromL2 (own : WaypointLatLon Float) (plannedRoute : List (WaypointLatLon Float)) :
    List GeoWP :=
  if plannedRoute.length < 2 then [] else plannedRoute.map (toNed lib own)

def nedToLatLonOwnRelative (own : WaypointLatLon Float) (position : GeoWP) :
    WaypointLatLon Float where
  lat := own.lat + position.xM / kEarthRadiusMeanM * kDegPerRad
  lon := own.lon +
    position.yM / (kEarthRadiusMeanM * lib.cos (own.lat * kRadPerDeg)) * kDegPerRad

/-! ### Stations -/

/-- The loop over the legs: the best projection so far, its distance, and the station at which the
next leg begins. -/
structure ProjectionSearch where
  best : RouteProjection := {}
  bestDist : Float := kMaxDouble
  stationBase : Float := 0.0

def ProjectionSearch.step (point : GeoWP) (search : ProjectionSearch) (leg : GeoWP × GeoWP) :
    ProjectionSearch :=
  let vx := leg.2.xM - leg.1.xM
  let vy := leg.2.yM - leg.1.yM
  let len := lib.hypot vx vy
  if len ≤ 1.0e-6 then search
  else
    let px := point.xM - leg.1.xM
    let py := point.yM - leg.1.yM
    let t := stdClamp ((px * vx + py * vy) / (len * len)) 0.0 1.0
    let qx := leg.1.xM + t * vx
    let qy := leg.1.yM + t * vy
    let dx := point.xM - qx
    let dy := point.yM - qy
    let dist := lib.hypot dx dy
    let search :=
      if dist < search.bestDist then
        { search with
          bestDist := dist
          best :=
            { sM := search.stationBase + t * len
              lM := (vx * dy - vy * dx) / len
              valid := true } }
      else search
    { search with stationBase := search.stationBase + len }

/-- `RouteFrame::project`. -/
def project (frame : List GeoWP) (point : GeoWP) : RouteProjection :=
  if frame.length < 2 then {}
  else ((Motions.legs frame).foldl (ProjectionSearch.step lib point) {}).best

/-- A vertex with the length of the route up to it. -/
structure Stationed where
  station : Float
  waypoint : GeoWP

def stationsFrom (cumStation : Float) (previous : GeoWP) : List GeoWP → List Stationed
  | [] => []
  | waypoint :: later =>
      let station := cumStation +
        lib.hypot (waypoint.xM - previous.xM) (waypoint.yM - previous.yM)
      ⟨station, waypoint⟩ :: stationsFrom station waypoint later

/-- The vertices with their stations, as both loops accumulate them. -/
def vertexStations : List GeoWP → List Stationed
  | [] => []
  | first :: later => ⟨0.0, first⟩ :: stationsFrom lib 0.0 first later

/-! ### Preflight -/

def routeWaypoints {Header : Type} (plan : AvoidancePlan Header) : List (WaypointLatLon Float) :=
  plan.latitude.zipWith WaypointLatLon.mk plan.longitude

def validateCanonicalRouteForGnc {Header : Type} (plan : AvoidancePlan Header)
    (origin : WaypointLatLon Float) (wpsHasAnchor : Bool) : GncAvoidancePreflightResult Float :=
  validateGncAvoidancePlan lib.functions origin (routeWaypoints plan) plan.commandSpeedMps
    (defaultConfig Float) wpsHasAnchor

/-! ### The suffix -/

def kDuplicateWaypointToleranceM : Float := 1.0

/-- An entry for a vertex of the nominal route. -/
def vertexPoint (own : WaypointLatLon Float) (speedMps : Float) (navigationMode : String)
    (segmentSource : UInt8) (waypoint : GeoWP) : RoutePoint :=
  let position := nedToLatLonOwnRelative lib own waypoint
  { latitude := position.lat
    longitude := position.lon
    speedMps
    navigationMode
    segmentSource }

def suffixPoint (own : WaypointLatLon Float) (speedMps : Float) (vertex : Stationed) :
    RoutePoint :=
  vertexPoint lib own speedMps "transit" l2NominalSuffix vertex.waypoint

/-- `append_l2_nominal_suffix_if_preflight_feasible`: the answer, and the plan after it. -/
def appendL2NominalSuffix {Header : Type} (plan : AvoidancePlan Header)
    (plannedRoute : Option (List (WaypointLatLon Float))) (origin : WaypointLatLon Float)
    (speedMps : Float) : Bool × AvoidancePlan Header :=
  match plannedRoute, plan.latitude.getLast?, plan.longitude.getLast? with
  | some poses, some lastLat, some lastLon =>
      let frame := routeFrameFromL2 lib origin poses
      let proj := project lib frame (toNed lib origin ⟨lastLat, lastLon⟩)
      if frame.length < 2 ∨ ¬ proj.valid then (true, plan)
      else
        let sThreshold := proj.sM + kDuplicateWaypointToleranceM
        let candidate := (vertexStations lib frame).foldl (fun candidate vertex =>
          if vertex.station ≤ sThreshold then candidate
          else appendRoutePoint candidate (suffixPoint lib origin speedMps vertex)) plan
        if (validateCanonicalRouteForGnc lib candidate origin true).feasible then (true, candidate)
        else (false, plan)
  | _, _, _ => (true, plan)

/-! ### The prefix -/

def kWheelOverDistanceM : Float := 120.0

def kMinPrefixSpacingM : Float := 15.0

/-- The walk over the vertices up to a station. Vertices at own ship, or too close to the last one
that was kept, are passed over. -/
def walkPrefix (sFirstChange : Float) (lastKept : Option GeoWP) :
    List Stationed → List Stationed
  | [] => []
  | vertex :: later =>
      if vertex.station ≥ sFirstChange then []
      else if lib.hypot (vertex.waypoint.xM - 0.0) (vertex.waypoint.yM - 0.0) < 1.0 then
        walkPrefix sFirstChange lastKept later
      else if lastKept.any fun last =>
          lib.hypot (vertex.waypoint.xM - last.xM) (vertex.waypoint.yM - last.yM) <
            kMinPrefixSpacingM then
        walkPrefix sFirstChange lastKept later
      else vertex :: walkPrefix sFirstChange (some vertex.waypoint) later

def prefixPoint (own : WaypointLatLon Float) (speedMps : Float) (vertex : Stationed) :
    RoutePoint :=
  vertexPoint lib own speedMps "cruise" l2HistoricalPrefix vertex.waypoint

/-- An entry of the plan as it is. Where an array is too short, a default stands for it. -/
def planPoint {Header : Type} (plan : AvoidancePlan Header) (speedMps : Float) (i : Nat) :
    RoutePoint where
  latitude := plan.latitude.getD i 0.0
  longitude := plan.longitude.getD i 0.0
  speedMps := plan.commandSpeedMps.getD i speedMps
  navigationMode := plan.navigationMode.getD i "emergency_avoidance"
  segmentSource := plan.segmentSource.getD i midMpcOptimized

/-- `prepend_l2_history_prefix_if_preflight_feasible`: the answer, and the plan after it. The
check is that of the plan alone. -/
def prependL2HistoryPrefix {Header : Type} (plan : AvoidancePlan Header)
    (plannedRoute : Option (List (WaypointLatLon Float))) (own : WaypointLatLon Float)
    (speedMps : Float) : Bool × AvoidancePlan Header :=
  match plannedRoute with
  | none => (true, plan)
  | some poses =>
      if poses.isEmpty ∨ plan.latitude.isEmpty ∨ plan.longitude.isEmpty then (true, plan)
      else
        let frame := routeFrameFromL2 lib own poses
        let proj := project lib frame ⟨0.0, 0.0⟩
        if frame.length < 2 ∨ ¬ proj.valid then (true, plan)
        else
          let sFirstChange := proj.sM + stdMax kWheelOverDistanceM kMinPrefixSpacingM
          let history := walkPrefix lib sFirstChange none (vertexStations lib frame)
          if history.isEmpty then (true, plan)
          else
            let blank : AvoidancePlan Header := ⟨plan.header, [], [], [], [], []⟩
            let historyPlan :=
              (history.map (prefixPoint lib own speedMps)).foldl appendRoutePoint blank
            let candidate :=
              ((List.range plan.latitude.length).map (planPoint plan speedMps)).foldl
                appendRoutePoint historyPlan
            if (validateCanonicalRouteForGnc lib plan own true).feasible then (true, candidate)
            else (false, plan)

end Model

end MassL3.M5.Assembly
