/-
This file is about the routes that are assembled around a plan. The plan stays as one piece, and its
arrays stay parallel. Every vertex behind the plan lies past the station of its end, and no vertex
before it lies as far as the wheel-over distance past the station of own ship. A vertex between own
ship and that distance may come first, and then the route runs ahead and back.
-/

import MassTdl.Binary64.Arithmetic
import MassTdl.TacticalPlanner.RouteAssembly

namespace MassL3.M5.Assembly

open Clamps
open Preflight Binary64

variable {Header : Type}

/-! ### Parallel arrays -/

/-- The arrays of a plan have one length. -/
structure AvoidancePlan.Parallel (plan : AvoidancePlan Header) : Prop where
  longitude : plan.longitude.length = plan.latitude.length
  commandSpeedMps : plan.commandSpeedMps.length = plan.latitude.length
  navigationMode : plan.navigationMode.length = plan.latitude.length
  segmentSource : plan.segmentSource.length = plan.latitude.length

/-- A plan with some entries before it and some behind it. -/
def AvoidancePlan.join (before : List RoutePoint) (plan : AvoidancePlan Header)
    (after : List RoutePoint) : AvoidancePlan Header where
  header := plan.header
  latitude := before.map RoutePoint.latitude ++ plan.latitude ++ after.map RoutePoint.latitude
  longitude := before.map RoutePoint.longitude ++ plan.longitude ++ after.map RoutePoint.longitude
  commandSpeedMps :=
    before.map RoutePoint.speedMps ++ plan.commandSpeedMps ++ after.map RoutePoint.speedMps
  navigationMode :=
    before.map RoutePoint.navigationMode ++ plan.navigationMode ++
      after.map RoutePoint.navigationMode
  segmentSource :=
    before.map RoutePoint.segmentSource ++ plan.segmentSource ++ after.map RoutePoint.segmentSource

@[simp]
theorem join_nil (plan : AvoidancePlan Header) : plan.join [] [] = plan := by
  simp [AvoidancePlan.join]

theorem AvoidancePlan.Parallel.join {plan : AvoidancePlan Header} (parallel : plan.Parallel)
    (before after : List RoutePoint) : (plan.join before after).Parallel := by
  obtain ⟨longitude, speed, mode, source⟩ := parallel
  constructor <;>
    simp only [AvoidancePlan.join, List.length_append, List.length_map, longitude, speed, mode,
      source]

/-- Entries that are appended one after the other come behind the plan. -/
theorem foldl_appendRoutePoint (plan : AvoidancePlan Header) (points : List RoutePoint) :
    points.foldl appendRoutePoint plan = plan.join [] points := by
  induction points generalizing plan with
  | nil => simp
  | cons point later inductionHypothesis =>
    rw [List.foldl_cons, inductionHypothesis]
    simp [AvoidancePlan.join, appendRoutePoint]

theorem map_range_getD {Item : Type} (items : List Item) (default : Item) :
    (List.range items.length).map (items.getD · default) = items := by
  refine List.ext_getElem (by simp) fun i inRange _ => ?_
  have below : i < items.length := by simpa using inRange
  simp [below]

/-- The entries of a plan with parallel arrays are the plan. -/
theorem join_planPoints {plan : AvoidancePlan Header} (parallel : plan.Parallel) (speedMps : Float)
    (history : List RoutePoint) :
    AvoidancePlan.join [] (AvoidancePlan.join [] ⟨plan.header, [], [], [], [], []⟩ history)
        ((List.range plan.latitude.length).map (planPoint plan speedMps)) =
      plan.join history [] := by
  have latitude := map_range_getD plan.latitude 0.0
  have longitude := map_range_getD plan.longitude 0.0
  have speed := map_range_getD plan.commandSpeedMps speedMps
  have mode := map_range_getD plan.navigationMode "emergency_avoidance"
  have source := map_range_getD plan.segmentSource midMpcOptimized
  rw [parallel.longitude] at longitude
  rw [parallel.commandSpeedMps] at speed
  rw [parallel.navigationMode] at mode
  rw [parallel.segmentSource] at source
  unfold AvoidancePlan.join
  simp only [List.map_nil, List.nil_append, List.append_nil, List.map_map]
  congr 1
  · exact congrArg _ latitude
  · exact congrArg _ longitude
  · exact congrArg _ speed
  · exact congrArg _ mode
  · exact congrArg _ source

/-! ### Vertices by their station -/

section Vertices

variable {lib : MathLibrary}

/-- The walk keeps some of the vertices, none of them at the station at which it ends or past it. -/
theorem walkPrefix_sublist (sFirstChange : Float) (lastKept : Option GeoWP)
    (vertices : List Stationed) :
    (walkPrefix lib sFirstChange lastKept vertices).Sublist vertices ∧
      ∀ vertex ∈ walkPrefix lib sFirstChange lastKept vertices,
        ¬ vertex.station ≥ sFirstChange := by
  induction vertices generalizing lastKept with
  | nil => exact ⟨List.Sublist.slnil, by simp [walkPrefix]⟩
  | cons vertex later inductionHypothesis =>
    unfold walkPrefix
    split_ifs with reached atOwn close
    · exact ⟨List.nil_sublist _, by simp⟩
    · exact ⟨(inductionHypothesis lastKept).1.cons vertex, (inductionHypothesis lastKept).2⟩
    · exact ⟨(inductionHypothesis lastKept).1.cons vertex, (inductionHypothesis lastKept).2⟩
    · obtain ⟨sublist, below⟩ := inductionHypothesis (some vertex.waypoint)
      exact ⟨sublist.cons_cons vertex, List.forall_mem_cons.mpr ⟨reached, below⟩⟩

/-- The loop appends the vertices that are past a station. -/
theorem foldl_suffix (origin : WaypointLatLon Float) (speedMps sThreshold : Float)
    (vertices : List Stationed) (plan : AvoidancePlan Header) :
    vertices.foldl (fun candidate vertex =>
        if vertex.station ≤ sThreshold then candidate
        else appendRoutePoint candidate (suffixPoint lib origin speedMps vertex)) plan =
      plan.join [] ((vertices.filter fun vertex => ¬ vertex.station ≤ sThreshold).map
        (suffixPoint lib origin speedMps)) := by
  rw [← foldl_appendRoutePoint, List.foldl_map, List.foldl_filter]
  refine congrArg (fun step => vertices.foldl step plan) ?_
  funext candidate vertex
  by_cases before : vertex.station ≤ sThreshold <;> simp [before]

/-- What is not up to a station and a margin is past the station, as far as both are numbers. -/
theorem lt_of_not_le_add {station projected margin : Float} (finite : margin.isFinite = true)
    (notNegative : ¬ margin < 0.0) (past : ¬ station ≤ projected + margin)
    (projectedNumber : projected.isNaN = false) (stationNumber : station.isNaN = false) :
    projected < station := by
  have sum := add_number projectedNumber finite
  exact chain_le_lt (le_add_of_not_neg sum notNegative)
    (lt_of_number_of_not_le sum stationNumber past)

end Vertices

/-! ### Assembled routes -/

section Assembled

variable (lib : MathLibrary) (plannedRoute : Option (List (WaypointLatLon Float)))
  (own : WaypointLatLon Float)

/-- The nominal route relative to own ship, if there is one. -/
def nominalFrame : List GeoWP := routeFrameFromL2 lib own (plannedRoute.getD [])

/-- The station of own ship. -/
def ownStation : Float := (project lib (nominalFrame lib plannedRoute own) ⟨0.0, 0.0⟩).sM

/-- The station of the end of a plan. -/
def endStation (plan : AvoidancePlan Header) : Float :=
  (project lib (nominalFrame lib plannedRoute own)
    (toNed lib own ⟨plan.latitude.getLast?.getD 0.0, plan.longitude.getLast?.getD 0.0⟩)).sM

/-- A station is past another one. -/
def Past (reference station : Float) : Prop :=
  ¬ station ≤ reference + kDuplicateWaypointToleranceM ∧
    (reference.isNaN = false → station.isNaN = false → reference < station)

/-- A station is not as far as the wheel-over distance past another one. -/
def BeforeWheelOver (reference station : Float) : Prop :=
  ¬ station ≥ reference + kWheelOverDistanceM ∧
    (reference.isNaN = false → station.isNaN = false → station < reference + kWheelOverDistanceM)

/-- What the suffix does to a plan. -/
structure SuffixAhead (plan : AvoidancePlan Header) (speedMps : Float)
    (result : Bool × AvoidancePlan Header) : Prop where
  unchanged : result.1 = false → result.2 = plan
  assembled : result.1 = true → result.2.Parallel ∧
    ∃ suffix : List Stationed,
      suffix.Sublist (vertexStations lib (nominalFrame lib plannedRoute own)) ∧
      result.2 = plan.join [] (suffix.map (suffixPoint lib own speedMps)) ∧
      ∀ vertex ∈ suffix, Past (endStation lib plannedRoute own plan) vertex.station

/-- What the prefix does to a plan. -/
structure HistoryBeforeWheelOver (plan : AvoidancePlan Header) (speedMps : Float)
    (result : Bool × AvoidancePlan Header) : Prop where
  unchanged : result.1 = false → result.2 = plan
  assembled : result.1 = true → result.2.Parallel ∧
    ∃ history : List Stationed,
      history.Sublist (vertexStations lib (nominalFrame lib plannedRoute own)) ∧
      result.2 = plan.join (history.map (prefixPoint lib own speedMps)) [] ∧
      ∀ vertex ∈ history, BeforeWheelOver (ownStation lib plannedRoute own) vertex.station

variable {lib plannedRoute own} {plan : AvoidancePlan Header} {speedMps : Float}

theorem SuffixAhead.of_kept (parallel : plan.Parallel) :
    SuffixAhead lib plannedRoute own plan speedMps (true, plan) where
  unchanged := by rintro ⟨⟩
  assembled _ := ⟨parallel, [], List.nil_sublist _, by simp, by simp⟩

theorem HistoryBeforeWheelOver.of_kept (parallel : plan.Parallel) :
    HistoryBeforeWheelOver lib plannedRoute own plan speedMps (true, plan) where
  unchanged := by rintro ⟨⟩
  assembled _ := ⟨parallel, [], List.nil_sublist _, by simp, by simp⟩

theorem past_of_not_le {reference station : Float}
    (past : ¬ station ≤ reference + kDuplicateWaypointToleranceM) : Past reference station :=
  ⟨past, lt_of_not_le_add (by decide) (by decide) past⟩

theorem beforeWheelOver_of_not_ge {reference station : Float}
    (before : ¬ station ≥ reference + kWheelOverDistanceM) : BeforeWheelOver reference station :=
  ⟨before, fun number stationNumber =>
    lt_of_number_of_not_le stationNumber (add_number number (by decide)) before⟩

theorem appendL2NominalSuffix_ahead (parallel : plan.Parallel) :
    SuffixAhead lib plannedRoute own plan speedMps
      (appendL2NominalSuffix lib plan plannedRoute own speedMps) := by
  unfold appendL2NominalSuffix
  split
  case h_2 => exact .of_kept parallel
  case h_1 poses lastLat lastLon latFound lonFound =>
    dsimp only
    split_ifs with noFrame feasible
    · exact .of_kept parallel
    · rw [foldl_suffix]
      refine ⟨by rintro ⟨⟩, fun _ => ⟨parallel.join _ _, _, List.filter_sublist, rfl, ?_⟩⟩
      intro vertex member
      have past := of_decide_eq_true (List.mem_filter.mp member).2
      refine past_of_not_le ?_
      unfold endStation
      rw [latFound, lonFound]
      exact past
    · exact ⟨fun _ => rfl, by rintro ⟨⟩⟩

theorem prependL2HistoryPrefix_beforeWheelOver (parallel : plan.Parallel) :
    HistoryBeforeWheelOver lib plannedRoute own plan speedMps
      (prependL2HistoryPrefix lib plan plannedRoute own speedMps) := by
  unfold prependL2HistoryPrefix
  cases plannedRoute with
  | none => exact .of_kept parallel
  | some poses =>
    dsimp only
    split_ifs with empty noFrame noHistory feasible
    · exact .of_kept parallel
    · exact .of_kept parallel
    · exact .of_kept parallel
    · rw [foldl_appendRoutePoint, foldl_appendRoutePoint, join_planPoints parallel]
      obtain ⟨sublist, before⟩ := walkPrefix_sublist
        ((project lib (routeFrameFromL2 lib own poses) ⟨0.0, 0.0⟩).sM +
          stdMax kWheelOverDistanceM kMinPrefixSpacingM) none
        (vertexStations lib (routeFrameFromL2 lib own poses))
      have wheelOver : stdMax kWheelOverDistanceM kMinPrefixSpacingM = kWheelOverDistanceM :=
        if_neg (by decide)
      refine ⟨by rintro ⟨⟩, fun _ => ⟨parallel.join _ _, _, sublist, rfl, fun vertex member => ?_⟩⟩
      have notReached := before vertex member
      rw [wheelOver] at notReached
      exact beforeWheelOver_of_not_ge notReached
    · exact ⟨fun _ => rfl, by rintro ⟨⟩⟩

/-- Both functions leave a plan as it is where they answer no. Where they answer yes, the plan is
one piece of the route. What comes behind it is past its end, and what comes before it is not as far
as the wheel-over distance past own ship. -/
theorem assembled_route (lib : MathLibrary) (plannedRoute : Option (List (WaypointLatLon Float)))
    (own : WaypointLatLon Float) {plan : AvoidancePlan Header} (parallel : plan.Parallel)
    (speedMps : Float) :
    SuffixAhead lib plannedRoute own plan speedMps
        (appendL2NominalSuffix lib plan plannedRoute own speedMps) ∧
      HistoryBeforeWheelOver lib plannedRoute own plan speedMps
        (prependL2HistoryPrefix lib plan plannedRoute own speedMps) :=
  ⟨appendL2NominalSuffix_ahead parallel, prependL2HistoryPrefix_beforeWheelOver parallel⟩

end Assembled

/-! ### A vertex ahead of own ship -/

/-- The functions of the mathematics library along the equator. -/
def alongEquator : MathLibrary where
  cos _ := 1.0
  acos _ := 0.0
  tan := id
  hypot north east := north.abs + east.abs

/-- A route to the east, with a vertex a little ahead of own ship. -/
def eastward : List (WaypointLatLon Float) := [⟨0.0, -0.01⟩, ⟨0.0, 0.0005⟩, ⟨0.0, 0.1⟩]

/-- A plan that begins at own ship and goes on to the east. -/
def eastwardPlan : AvoidancePlan Unit where
  header := ()
  latitude := [0.0, 0.0, 0.0]
  longitude := [0.0, 0.002, 0.004]
  commandSpeedMps := [3.0, 3.0, 3.0]
  navigationMode := List.replicate 3 "emergency_avoidance"
  segmentSource := List.replicate 3 midMpcOptimized

def prependedEastward : Bool × AvoidancePlan Unit :=
  prependL2HistoryPrefix alongEquator eastwardPlan (some eastward) ⟨0.0, 0.0⟩ 3.0

theorem eastwardPlan_parallel : eastwardPlan.Parallel := ⟨rfl, rfl, rfl, rfl⟩

theorem assembled_route_eastward :
    SuffixAhead alongEquator (some eastward) ⟨0.0, 0.0⟩ eastwardPlan 3.0
        (appendL2NominalSuffix alongEquator eastwardPlan (some eastward) ⟨0.0, 0.0⟩ 3.0) ∧
      HistoryBeforeWheelOver alongEquator (some eastward) ⟨0.0, 0.0⟩ eastwardPlan 3.0
        (prependL2HistoryPrefix alongEquator eastwardPlan (some eastward) ⟨0.0, 0.0⟩ 3.0) :=
  assembled_route alongEquator (some eastward) ⟨0.0, 0.0⟩ eastwardPlan_parallel 3.0

/-- Two vertices come before the plan, though only one is not past own ship. -/
theorem runs_ahead_and_back :
    eastwardPlan.Parallel ∧ prependedEastward.1 = true ∧
      ¬ ∃ history : List Stationed,
        history.Sublist
            (vertexStations alongEquator (nominalFrame alongEquator (some eastward) ⟨0.0, 0.0⟩)) ∧
          prependedEastward.2 =
            eastwardPlan.join (history.map (prefixPoint alongEquator ⟨0.0, 0.0⟩ 3.0)) [] ∧
          ∀ vertex ∈ history,
            ¬ ownStation alongEquator (some eastward) ⟨0.0, 0.0⟩ < vertex.station := by
  have accepted : prependedEastward.1 = true := by decide +kernel
  have entries : prependedEastward.2.latitude.length = 5 := by decide +kernel
  have single : ((vertexStations alongEquator
      (nominalFrame alongEquator (some eastward) ⟨0.0, 0.0⟩)).filter fun vertex =>
        ¬ ownStation alongEquator (some eastward) ⟨0.0, 0.0⟩ < vertex.station).length = 1 := by
    decide +kernel
  refine ⟨eastwardPlan_parallel, accepted, ?_⟩
  rintro ⟨history, sublist, joined, behind⟩
  have few := (sublist.filter fun vertex =>
    ¬ ownStation alongEquator (some eastward) ⟨0.0, 0.0⟩ < vertex.station).length_le
  have all : history.filter (fun vertex =>
      ¬ ownStation alongEquator (some eastward) ⟨0.0, 0.0⟩ < vertex.station) = history :=
    List.filter_eq_self.mpr fun vertex member => decide_eq_true (behind vertex member)
  rw [single, all] at few
  rw [joined] at entries
  simp [AvoidancePlan.join, eastwardPlan] at entries
  omega

end MassL3.M5.Assembly
