/-
This file is about the waypoints that the planner publishes. One function picks steps of the
trajectory, from the wheel-over distance on, and publishes their positions. Another annotates what
the first has published, and works out again which steps they were. It reads the trajectory too,
which has a point less than there are positions, and so takes the position before the last one where
the last one was published.

The annotated distances are those between the published positions exactly where the two positions
are equally far from the waypoint published before. What the indices multiply must fit 32 bits.
-/

import MassTdl.Binary64.Nearest
import MassTdl.TacticalPlanner.RouteAssembly

namespace MassL3.M5.Waypoints

open Assembly (kRadPerDeg kDegPerRad kEarthRadiusMeanM)
open Motions (legs)

/-- What the generator takes from the mathematics library. -/
structure MathLibrary where
  cos : Float → Float
  sin : Float → Float

/-! ### Data -/

/-- `MidMpcWaypointGenerator::Config`. -/
structure Config where
  numWaypoints : Int := 18
  safetyCorridorM : Float := 500.0
  dtS : Float := 5.0
  wheelOverDistanceM : Float := 120.0

structure TrajectoryPoint where
  psiRad : Float
  uMps : Float

structure GeoPoint where
  latitude : Float
  longitude : Float
  altitude : Float
  deriving DecidableEq

structure AvoidanceWaypoint where
  position : GeoPoint
  wpDistanceM : Float
  safetyCorridorM : Float
  targetSpeedKn : Float
  turnRadiusM : Float
  deriving DecidableEq

def kKnPerMs : Float := 3600.0 / 1852.0

/-- Below this rate of turn the track is taken to be straight. -/
def kMinRot : Float := 1.0e-4

def kMaxTurnRadius : Float := 500.0

/-- `std::min`. -/
def minimum (first second : Float) : Float := if second < first then second else first

/-! ### Positions -/

section Model

variable (lib : MathLibrary) (config : Config)

/-- `MidMpcWaypointGenerator::ned_to_geopoint_`. -/
def nedToGeopoint (lat0Deg lon0Deg : Float) (pos : Float × Float) : GeoPoint where
  latitude := lat0Deg + (pos.1 / kEarthRadiusMeanM) * kDegPerRad
  longitude := lon0Deg +
    (pos.2 / (kEarthRadiusMeanM * lib.cos (lat0Deg * kRadPerDeg))) * kDegPerRad
  altitude := 0.0

def advance (pos : Float × Float) (pt : TrajectoryPoint) : Float × Float :=
  let dx := pt.uMps * config.dtS * lib.cos pt.psiRad
  let dy := pt.uMps * config.dtS * lib.sin pt.psiRad
  (pos.1 + dx, pos.2 + dy)

/-- The positions of a trajectory in the local frame, from the own ship on. -/
def nedPositions (trajectory : List TrajectoryPoint) : List (Float × Float) :=
  trajectory.scanl (advance lib config) (0.0, 0.0)

def norm (pos : Float × Float) : Float := Float.sqrt (pos.1 * pos.1 + pos.2 * pos.2)

def distance (prev cur : Float × Float) : Float :=
  let ddx := cur.1 - prev.1
  let ddy := cur.2 - prev.2
  Float.sqrt (ddx * ddx + ddy * ddy)

/-! ### Indices -/

/-- An `int32_t`, if it can hold the number. -/
def toInt32 (value : ℕ) : Option ℕ := if value < 2147483648 then some value else none

def lastNedIdx (positions : List (Float × Float)) : Option ℕ :=
  (toInt32 positions.length).map fun size => size - 1

/-- The first index behind the anchor that lies at or beyond the wheel-over distance. If there is
none it is the last one. -/
def startIdx (positions : List (Float × Float)) : ℕ :=
  let reached := positions.tail.findIdx fun pos => norm pos ≥ config.wheelOverDistanceM
  if reached < positions.tail.length then reached + 1 else positions.length - 1

/-- `start_idx + k * span / (maneuver_wp - 1)`. -/
def uniformIdx (startIdx span maneuverWp k : ℕ) : Option ℕ :=
  (toInt32 (k * span)).bind fun product =>
    if maneuverWp ≤ 1 then none else some (startIdx + product / (maneuverWp - 1))

/-! ### Sampling -/

def numWp (size : ℕ) : ℕ := (min (max config.numWaypoints size) size).toNat

/-- The steps of the trajectory that are published behind the anchor. -/
def sampleSteps (trajectory : List TrajectoryPoint) : Option (List ℕ) :=
  let positions := nedPositions lib config trajectory
  let startIdx := startIdx config positions
  (lastNedIdx positions).bind fun lastNedIdx =>
    let span := lastNedIdx - startIdx
    let maneuverWp := min (numWp config trajectory.length - 1) (span + 1)
    (List.range maneuverWp).mapM fun k =>
      if maneuverWp ≤ 1 then some startIdx else uniformIdx startIdx span maneuverWp k

/-- `MidMpcWaypointGenerator::sample_waypoints_`. -/
def sampleWaypoints (trajectory : List TrajectoryPoint) (ownShipLat ownShipLon : Float) :
    Option (List GeoPoint) :=
  if trajectory.isEmpty then some []
  else
    let positions := nedPositions lib config trajectory
    (sampleSteps lib config trajectory).bind fun steps =>
      (steps.mapM fun idx =>
        positions[idx]?.map (nedToGeopoint lib ownShipLat ownShipLon)).map fun maneuvers =>
          nedToGeopoint lib ownShipLat ownShipLon (0.0, 0.0) :: maneuvers

/-! ### Annotation -/

/-- The index into the trajectory of a waypoint, clamped to its domain. -/
def trajIdx (size startIdx span maneuverWp i : ℕ) : Option ℕ :=
  if i = 0 then some 0
  else if maneuverWp ≤ 1 then some (min startIdx (size - 1))
  else (uniformIdx startIdx span maneuverWp (i - 1)).map fun nedIdx => min nedIdx (size - 1)

def turnRadius (trajectory : List TrajectoryPoint) (trajIdx : ℕ) : Option Float :=
  if 2 ≤ trajectory.length then
    let rotIdxA := if trajIdx < trajectory.length - 1 then trajIdx else trajIdx - 1
    let rotIdxB := rotIdxA + 1
    trajectory[rotIdxB]?.bind fun second =>
      trajectory[rotIdxA]?.bind fun first =>
        trajectory[trajIdx]?.map fun point =>
          let dpsi := second.psiRad - first.psiRad
          let rotRadS := dpsi.abs / config.dtS
          if rotRadS > kMinRot then minimum (point.uMps / rotRadS) kMaxTurnRadius
          else kMaxTurnRadius
  else some kMaxTurnRadius

/-- The distance from the waypoint before, whose index is worked out again. -/
def wpDistance (positions : List (Float × Float)) (size startIdx span maneuverWp i trajIdx : ℕ) :
    Option Float :=
  if i = 0 then some 0.0
  else if i = 1 then positions[trajIdx]?.map norm
  else
    (uniformIdx startIdx span maneuverWp (i - 2)).bind fun nedIdx =>
      positions[trajIdx]?.bind fun cur =>
        positions[min nedIdx (size - 1)]?.map fun prev => distance prev cur

def buildWaypoint (geopoints : List GeoPoint) (trajectory : List TrajectoryPoint)
    (startIdx span maneuverWp i : ℕ) : Option AvoidanceWaypoint :=
  geopoints[i]?.bind fun position =>
    (trajIdx trajectory.length startIdx span maneuverWp i).bind fun trajIdx =>
      (turnRadius config trajectory trajIdx).bind fun turnRadiusM =>
        trajectory[trajIdx]?.bind fun point =>
          (wpDistance (nedPositions lib config trajectory) trajectory.length startIdx span
            maneuverWp i trajIdx).map fun wpDistanceM =>
              { position
                wpDistanceM
                safetyCorridorM := config.safetyCorridorM
                targetSpeedKn := point.uMps * kKnPerMs
                turnRadiusM }

/-- `MidMpcWaypointGenerator::build_waypoints_`. -/
def buildWaypoints (geopoints : List GeoPoint) (trajectory : List TrajectoryPoint) :
    Option (List AvoidanceWaypoint) :=
  let positions := nedPositions lib config trajectory
  let startIdx := startIdx config positions
  (lastNedIdx positions).bind fun lastNedIdx =>
    let span := lastNedIdx - startIdx
    let maneuverWp := min (geopoints.length - 1) (span + 1)
    (List.range geopoints.length).mapM
      (buildWaypoint lib config geopoints trajectory startIdx span maneuverWp)

/-- The waypoints of a plan, as `generate` has them built. -/
def publish (trajectory : List TrajectoryPoint) (ownShipLat ownShipLon : Float) :
    Option (List AvoidanceWaypoint) :=
  (sampleWaypoints lib config trajectory ownShipLat ownShipLon).bind fun geopoints =>
    buildWaypoints lib config geopoints trajectory

end Model

/-! ### Lists of optional results -/

section Optional

variable {Input Output : Type} {read : Input → Option Output} {inputs : List Input}

theorem exists_mapM {Holds : Input → Output → Prop}
    (each : ∀ input ∈ inputs, ∃ output, read input = some output ∧ Holds input output) :
    ∃ outputs, inputs.mapM read = some outputs ∧ List.Forall₂ Holds inputs outputs := by
  induction inputs with
  | nil => exact ⟨[], rfl, .nil⟩
  | cons first later inductionHypothesis =>
    obtain ⟨output, found, holds⟩ := each first List.mem_cons_self
    obtain ⟨outputs, rest, all⟩ := inductionHypothesis fun input member =>
      each input (List.mem_cons_of_mem _ member)
    refine ⟨output :: outputs, ?_, .cons holds all⟩
    rw [List.mapM_cons, found, rest]
    rfl

/-- What is read off each result is read off the list of them. -/
theorem map_eq_of_forall₂ {Value : Type} (value : Output → Value) {found : Input → Value}
    {outputs : List Output}
    (all : List.Forall₂ (fun input output => found input = value output) inputs outputs) :
    outputs.map value = inputs.map found := by
  have same := List.forall₂_map_right_iff.mpr (List.forall₂_map_left_iff.mpr all)
  rw [List.forall₂_eq_eq_eq] at same
  exact same.symm

theorem mapM_eq_map {found : Input → Output}
    (each : ∀ input ∈ inputs, read input = some (found input)) :
    inputs.mapM read = some (inputs.map found) := by
  obtain ⟨outputs, collected, all⟩ := exists_mapM fun input member =>
    ⟨found input, each input member, rfl⟩
  rw [collected, ← map_eq_of_forall₂ id all, List.map_id]

theorem mapM_eq_none {input : Input} (member : input ∈ inputs) (none : read input = none) :
    inputs.mapM read = .none := by
  induction inputs with
  | nil => cases member
  | cons first later inductionHypothesis =>
    rw [List.mapM_cons]
    rcases List.mem_cons.mp member with rfl | behind
    · rw [none]
      rfl
    · rw [inductionHypothesis behind]
      cases read first <;> rfl

end Optional

/-- The legs of a node and of enumerated nodes behind it. -/
theorem legs_cons_range {Point : Type} (first : Point) (node : ℕ → Point) (count : ℕ) :
    legs (first :: (List.range count).map node) =
      (List.range count).map fun j => (if j = 0 then first else node (j - 1), node j) := by
  refine List.ext_getElem (by simp [legs]) fun i _ _ => ?_
  simp only [legs, List.getElem_zip, List.getElem_cons, List.tail_cons, List.getElem_map,
    List.getElem_range, dite_eq_ite]

/-! ### Uniform steps -/

section Steps

variable {startIdx span maneuverWp k : ℕ}

/-- The step that is taken, where nothing overflows. -/
def stepAt (startIdx span maneuverWp k : ℕ) : ℕ := startIdx + k * span / (maneuverWp - 1)

theorem stepAt_zero : stepAt startIdx span maneuverWp 0 = startIdx := by
  unfold stepAt
  rw [Nat.zero_mul, Nat.zero_div, Nat.add_zero]

theorem stepAt_last (several : 2 ≤ maneuverWp) :
    stepAt startIdx span maneuverWp (maneuverWp - 1) = startIdx + span := by
  unfold stepAt
  rw [Nat.mul_div_cancel_left span (Nat.sub_pos_of_lt several)]

/-- Steps that are not more than the positions they span are all different. -/
theorem stepAt_lt_succ (several : 2 ≤ maneuverWp) (room : maneuverWp - 1 ≤ span) :
    stepAt startIdx span maneuverWp k < stepAt startIdx span maneuverWp (k + 1) := by
  have positive : 0 < maneuverWp - 1 := Nat.sub_pos_of_lt several
  refine Nat.add_lt_add_left ?_ startIdx
  calc k * span / (maneuverWp - 1) < k * span / (maneuverWp - 1) + 1 := Nat.lt_succ_self _
    _ = (k * span + (maneuverWp - 1)) / (maneuverWp - 1) := (Nat.add_div_right _ positive).symm
    _ ≤ (k + 1) * span / (maneuverWp - 1) := by
      refine Nat.div_le_div_right ?_
      rw [Nat.succ_mul]
      exact Nat.add_le_add_left room _

theorem stepAt_strictMono (several : 2 ≤ maneuverWp) (room : maneuverWp - 1 ≤ span) :
    StrictMono (stepAt startIdx span maneuverWp) :=
  strictMono_nat_of_lt_succ fun _ => stepAt_lt_succ several room

theorem toInt32_of_lt {value : ℕ} (small : value < 2147483648) : toInt32 value = some value :=
  if_pos small

theorem uniformIdx_eq (several : 2 ≤ maneuverWp) (small : k * span < 2147483648) :
    uniformIdx startIdx span maneuverWp k = some (stepAt startIdx span maneuverWp k) := by
  unfold uniformIdx
  rw [toInt32_of_lt small, Option.bind_some, if_neg (Nat.not_le.mpr several)]
  rfl

theorem uniformIdx_none (large : ¬ k * span < 2147483648) :
    uniformIdx startIdx span maneuverWp k = none := by
  unfold uniformIdx
  rw [show toInt32 (k * span) = none from if_neg large]
  rfl

end Steps

/-! ### The start -/

section Start

variable (lib : MathLibrary) (config : Config) (trajectory : List TrajectoryPoint)

theorem length_nedPositions :
    (nedPositions lib config trajectory).length = trajectory.length + 1 :=
  List.length_scanl

def placeAt (positions : List (Float × Float)) (step : ℕ) : Float × Float :=
  positions.getD step (0.0, 0.0)

theorem placeAt_zero : placeAt (nedPositions lib config trajectory) 0 = (0.0, 0.0) := by
  unfold placeAt
  rw [List.getD_eq_getElem?_getD, nedPositions, List.getElem?_scanl_zero, Option.getD_some]

theorem getElem?_eq_placeAt {positions : List (Float × Float)} {step : ℕ}
    (inside : step < positions.length) : positions[step]? = some (placeAt positions step) := by
  unfold placeAt
  rw [List.getD_eq_getElem?_getD, List.getElem?_eq_getElem inside, Option.getD_some]

/-- The first step at or beyond the wheel-over distance, or the last one if there is none. -/
structure StartsAt (positions : List (Float × Float)) (step : ℕ) : Prop where
  behind : 1 ≤ step
  inside : step < positions.length
  before : ∀ earlier, 1 ≤ earlier → earlier < step →
    ¬ norm (placeAt positions earlier) ≥ config.wheelOverDistanceM
  reached : norm (placeAt positions step) ≥ config.wheelOverDistanceM ∨
    step = positions.length - 1

theorem startsAt_startIdx {positions : List (Float × Float)} (several : 2 ≤ positions.length) :
    StartsAt config positions (startIdx config positions) := by
  have place (step : ℕ) (inside : step < positions.tail.length) :
      positions.tail[step] = placeAt positions (step + 1) := by
    have within : step + 1 < positions.length := by
      rw [List.length_tail] at inside
      omega
    rw [List.getElem_tail]
    exact Option.some.inj ((List.getElem?_eq_getElem within).symm.trans
      (getElem?_eq_placeAt within))
  have tail := positions.length_tail
  have unreached (earlier : ℕ) (positive : 1 ≤ earlier)
      (below : earlier - 1 < positions.tail.findIdx fun pos =>
        norm pos ≥ config.wheelOverDistanceM) :
      ¬ norm (placeAt positions earlier) ≥ config.wheelOverDistanceM := by
    have not := List.not_of_lt_findIdx below
    rw [place, Nat.sub_add_cancel positive] at not
    exact of_decide_eq_false not
  unfold startIdx
  dsimp only
  split_ifs with reached
  · refine ⟨Nat.le_add_left _ _, by omega, fun earlier positive below => ?_, .inl ?_⟩
    · exact unreached earlier positive (by omega)
    · have met := @List.findIdx_getElem _ _ _ reached
      rw [place] at met
      exact of_decide_eq_true met
  · have all := Nat.le_of_not_lt reached
    refine ⟨by omega, by omega, fun earlier positive below => ?_, .inr rfl⟩
    exact unreached earlier positive (by omega)

end Start

/-! ### The steps of a trajectory -/

section Sampling

variable (lib : MathLibrary) (config : Config) (trajectory : List TrajectoryPoint)

def start : ℕ := startIdx config (nedPositions lib config trajectory)

def span : ℕ := trajectory.length - start lib config trajectory

def maneuverWp : ℕ := min (trajectory.length - 1) (span lib config trajectory + 1)

def step (k : ℕ) : ℕ :=
  stepAt (start lib config trajectory) (span lib config trajectory)
    (maneuverWp lib config trajectory) k

/-- The positions can be counted in 32 bits, and the largest product of indices fits them too. -/
def Fits : Prop :=
  trajectory.length + 1 < 2147483648 ∧
    (maneuverWp lib config trajectory - 1) * span lib config trajectory < 2147483648

variable {lib config trajectory} {k : ℕ}

theorem numWp_eq (size : ℕ) : numWp config size = size := by
  unfold numWp
  rw [min_eq_right (le_max_right _ _), Int.toNat_natCast]

theorem lastNedIdx_eq (fits : Fits lib config trajectory) :
    lastNedIdx (nedPositions lib config trajectory) = some trajectory.length := by
  unfold lastNedIdx
  rw [length_nedPositions, toInt32_of_lt fits.1]
  rfl

theorem room : maneuverWp lib config trajectory - 1 ≤ span lib config trajectory := by
  unfold maneuverWp
  omega

theorem step_strictMono (many : 2 ≤ maneuverWp lib config trajectory) :
    StrictMono (step lib config trajectory) :=
  stepAt_strictMono many room

/-- The published steps, where nothing overflows. -/
theorem sampleSteps_eq (fits : Fits lib config trajectory) :
    sampleSteps lib config trajectory =
      some ((List.range (maneuverWp lib config trajectory)).map
        (step lib config trajectory)) := by
  unfold sampleSteps
  dsimp only
  rw [lastNedIdx_eq fits, Option.bind_some, numWp_eq]
  refine mapM_eq_map fun k member => ?_
  have inside : k < maneuverWp lib config trajectory := List.mem_range.mp member
  have small : k * span lib config trajectory < 2147483648 :=
    (Nat.mul_le_mul_right _ (Nat.le_sub_one_of_lt inside)).trans_lt fits.2
  change (if maneuverWp lib config trajectory ≤ 1 then some (start lib config trajectory)
    else uniformIdx (start lib config trajectory) (span lib config trajectory)
      (maneuverWp lib config trajectory) k) = _
  split_ifs with one
  · rw [show k = 0 by omega, step, stepAt_zero]
  · exact uniformIdx_eq (Nat.lt_of_not_le one) small

section Layout

variable (several : 2 ≤ trajectory.length)

include several

theorem startsAt_start :
    StartsAt config (nedPositions lib config trajectory) (start lib config trajectory) :=
  startsAt_startIdx config (by
    rw [length_nedPositions]
    exact Nat.le_succ_of_le several)

theorem start_le : start lib config trajectory ≤ trajectory.length := by
  have inside := (startsAt_start several : StartsAt config (nedPositions lib config trajectory)
    (start lib config trajectory)).inside
  rw [length_nedPositions] at inside
  exact Nat.lt_succ_iff.mp inside

theorem start_add_span (lib : MathLibrary) (config : Config) :
    start lib config trajectory + span lib config trajectory = trajectory.length :=
  Nat.add_sub_cancel' (start_le several)

theorem maneuverWp_pos : 1 ≤ maneuverWp lib config trajectory :=
  le_min (Nat.le_sub_one_of_lt several) (Nat.le_add_left _ _)

theorem step_last (many : 2 ≤ maneuverWp lib config trajectory) :
    step lib config trajectory (maneuverWp lib config trajectory - 1) = trajectory.length :=
  (stepAt_last many).trans (start_add_span several lib config)

theorem step_lt (early : k < maneuverWp lib config trajectory - 1) :
    step lib config trajectory k < trajectory.length := by
  have many : 2 ≤ maneuverWp lib config trajectory := by omega
  exact (step_strictMono many early).trans_eq (step_last several many)

theorem step_le (inside : k < maneuverWp lib config trajectory) :
    step lib config trajectory k ≤ trajectory.length := by
  rcases Nat.lt_or_ge k (maneuverWp lib config trajectory - 1) with early | late
  · exact (step_lt several early).le
  · rcases Nat.lt_or_ge 1 (maneuverWp lib config trajectory) with many | one
    · rw [show k = maneuverWp lib config trajectory - 1 by omega]
      exact (step_last several many).le
    · rw [show k = 0 by omega, step, stepAt_zero]
      exact start_le several

/-- Nothing is published where an index overflows. -/
theorem sampleSteps_none (unfit : ¬ Fits lib config trajectory) :
    sampleSteps lib config trajectory = none := by
  unfold sampleSteps
  dsimp only
  by_cases counted : trajectory.length + 1 < 2147483648
  · have large : ¬ (maneuverWp lib config trajectory - 1) * span lib config trajectory <
        2147483648 := fun small => unfit ⟨counted, small⟩
    have last : lastNedIdx (nedPositions lib config trajectory) = some trajectory.length := by
      unfold lastNedIdx
      rw [length_nedPositions, toInt32_of_lt counted]
      rfl
    have many : ¬ maneuverWp lib config trajectory ≤ 1 := by
      intro one
      rw [Nat.sub_eq_zero_of_le one, Nat.zero_mul] at large
      exact large (by decide)
    rw [last, Option.bind_some, numWp_eq]
    have member : maneuverWp lib config trajectory - 1 ∈
        List.range (maneuverWp lib config trajectory) :=
      List.mem_range.mpr (Nat.sub_one_lt_of_lt (maneuverWp_pos several))
    refine mapM_eq_none member ?_
    exact (if_neg many).trans (uniformIdx_none large)
  · have uncounted : lastNedIdx (nedPositions lib config trajectory) = none := by
      unfold lastNedIdx toInt32
      rw [length_nedPositions, if_neg counted]
      rfl
    rw [uncounted]
    rfl

end Layout

end Sampling

/-! ### The annotations -/

section Annotations

variable {lib : MathLibrary} {config : Config} {trajectory : List TrajectoryPoint}

/-- The distance from the origin. -/
theorem norm_eq_distance (pos : Float × Float) : norm pos = distance (0.0, 0.0) pos := by
  unfold norm distance
  dsimp only
  rw [Binary64.mul_self_unpacked (Binary64.unpacked_sub_zero pos.1),
    Binary64.mul_self_unpacked (Binary64.unpacked_sub_zero pos.2)]

/-- The step that is annotated. -/
def clampedStep (lib : MathLibrary) (config : Config) (trajectory : List TrajectoryPoint)
    (k : ℕ) : ℕ :=
  min (step lib config trajectory k) (trajectory.length - 1)

theorem turnRadius_isSome (config : Config) {idx : ℕ} (several : 2 ≤ trajectory.length)
    (inside : idx < trajectory.length) :
    ∃ radius, turnRadius config trajectory idx = some radius := by
  have rotIdxA : (if idx < trajectory.length - 1 then idx else idx - 1) + 1 <
      trajectory.length := by
    split_ifs with early
    · omega
    · omega
  unfold turnRadius
  rw [if_pos several]
  dsimp only
  rw [List.getElem?_eq_getElem rotIdxA, List.getElem?_eq_getElem (Nat.lt_of_succ_lt rotIdxA),
    List.getElem?_eq_getElem inside]
  exact ⟨_, rfl⟩

theorem product_lt {k : ℕ} (fits : Fits lib config trajectory)
    (inside : k < maneuverWp lib config trajectory) :
    k * span lib config trajectory < 2147483648 :=
  (Nat.mul_le_mul_right _ (Nat.le_sub_one_of_lt inside)).trans_lt fits.2

theorem trajIdx_eq {j : ℕ} (fits : Fits lib config trajectory)
    (inside : j < maneuverWp lib config trajectory) :
    trajIdx trajectory.length (start lib config trajectory) (span lib config trajectory)
        (maneuverWp lib config trajectory) (j + 1) =
      some (clampedStep lib config trajectory j) := by
  unfold trajIdx
  rw [if_neg (Nat.succ_ne_zero j), Nat.add_sub_cancel]
  split_ifs with one
  · rw [show j = 0 by omega, clampedStep, step, stepAt_zero]
  · rw [uniformIdx_eq (Nat.lt_of_not_le one) (product_lt fits inside)]
    rfl

section Layout

variable (several : 2 ≤ trajectory.length) (fits : Fits lib config trajectory)

include several

theorem clampedStep_lt (k : ℕ) : clampedStep lib config trajectory k < trajectory.length :=
  (min_le_right _ _).trans_lt (Nat.sub_one_lt_of_lt several)

include fits

/-- The annotated distance is that between the clamped steps. -/
theorem wpDistance_eq {j : ℕ} (inside : j < maneuverWp lib config trajectory) :
    wpDistance (nedPositions lib config trajectory) trajectory.length
        (start lib config trajectory) (span lib config trajectory)
        (maneuverWp lib config trajectory) (j + 1) (clampedStep lib config trajectory j) =
      some (distance
        (placeAt (nedPositions lib config trajectory)
          (if j = 0 then 0 else clampedStep lib config trajectory (j - 1)))
        (placeAt (nedPositions lib config trajectory) (clampedStep lib config trajectory j))) := by
  have position (k : ℕ) : (nedPositions lib config trajectory)[clampedStep lib config trajectory k]?
      = some (placeAt (nedPositions lib config trajectory)
        (clampedStep lib config trajectory k)) := by
    refine getElem?_eq_placeAt ?_
    rw [length_nedPositions]
    exact (clampedStep_lt several k).trans (Nat.lt_succ_self _)
  unfold wpDistance
  rw [if_neg (Nat.succ_ne_zero j)]
  cases j with
  | zero =>
    rw [if_pos rfl, if_pos rfl, position, Option.map_some, norm_eq_distance, placeAt_zero]
  | succ j =>
    have many : 2 ≤ maneuverWp lib config trajectory := by omega
    rw [if_neg (by omega), if_neg (Nat.succ_ne_zero j), Nat.add_sub_cancel, position,
      show j + 1 + 1 - 2 = j by omega,
      uniformIdx_eq many (product_lt fits (Nat.lt_of_succ_lt inside)), Option.bind_some,
      Option.bind_some]
    exact congrArg (Option.map fun prev => distance prev _) (position j)

omit fits in
/-- A waypoint is built from its position and its step. -/
theorem buildWaypoint_eq {geopoints : List GeoPoint} {i idx : ℕ} {position : GeoPoint}
    {wpDistanceM : Float} (published : geopoints[i]? = some position)
    (found : trajIdx trajectory.length (start lib config trajectory) (span lib config trajectory)
      (maneuverWp lib config trajectory) i = some idx)
    (inside : idx < trajectory.length)
    (annotated : wpDistance (nedPositions lib config trajectory) trajectory.length
      (start lib config trajectory) (span lib config trajectory)
      (maneuverWp lib config trajectory) i idx = some wpDistanceM) :
    ∃ waypoint, buildWaypoint lib config geopoints trajectory (start lib config trajectory)
        (span lib config trajectory) (maneuverWp lib config trajectory) i = some waypoint ∧
      position = waypoint.position ∧ wpDistanceM = waypoint.wpDistanceM := by
  obtain ⟨radius, turns⟩ := turnRadius_isSome config several inside
  unfold buildWaypoint
  rw [published, found, Option.bind_some, Option.bind_some, turns, Option.bind_some,
    List.getElem?_eq_getElem inside, Option.bind_some, annotated]
  exact ⟨_, rfl, rfl, rfl⟩

end Layout

end Annotations

/-! ### Waypoints annotated with their own geometry -/

section Law

variable (lib : MathLibrary) (config : Config) (trajectory : List TrajectoryPoint)
  (ownShipLat ownShipLon : Float)

/-- Where a step is published. -/
def geopointAt (step : ℕ) : GeoPoint :=
  nedToGeopoint lib ownShipLat ownShipLon (placeAt (nedPositions lib config trajectory) step)

/-- The distances along the steps, from the anchor on. -/
def distancesAlong (steps : List ℕ) : List Float :=
  (legs (0 :: steps)).map fun leg => distance
    (placeAt (nedPositions lib config trajectory) leg.1)
    (placeAt (nedPositions lib config trajectory) leg.2)

/-- The distance of an enumerated step from the one before it, or from the anchor. -/
def distanceAt (steps : ℕ → ℕ) (j : ℕ) : Float :=
  distance
    (placeAt (nedPositions lib config trajectory) (if j = 0 then 0 else steps (j - 1)))
    (placeAt (nedPositions lib config trajectory) (steps j))

theorem distancesAlong_range (steps : ℕ → ℕ) (count : ℕ) :
    distancesAlong lib config trajectory ((List.range count).map steps) =
      (List.range count).map (distanceAt lib config trajectory steps) := by
  unfold distancesAlong
  rw [legs_cons_range, List.map_map]
  rfl

/-- The waypoints are the anchor and the positions of steps that go on from the wheel-over
distance, and each is annotated with its distance from the one before. -/
structure Annotated (steps : List ℕ) (waypoints : List AvoidanceWaypoint) : Prop where
  starts : ∃ first later, steps = first :: later ∧
    StartsAt config (nedPositions lib config trajectory) first
  increasing : steps.Pairwise (· < ·)
  inside : ∀ step ∈ steps, step ≤ trajectory.length
  published : waypoints.map AvoidanceWaypoint.position =
    (0 :: steps).map (geopointAt lib config trajectory ownShipLat ownShipLon)
  distances : waypoints.map AvoidanceWaypoint.wpDistanceM =
    0.0 :: distancesAlong lib config trajectory steps

def publishedSteps : List ℕ :=
  (List.range (maneuverWp lib config trajectory)).map (step lib config trajectory)

def annotatedSteps : List ℕ :=
  (List.range (maneuverWp lib config trajectory)).map (clampedStep lib config trajectory)

variable {lib config trajectory ownShipLat ownShipLon}

section Fitting

variable (several : 2 ≤ trajectory.length) (fits : Fits lib config trajectory)

include several fits

theorem sampleWaypoints_eq : sampleWaypoints lib config trajectory ownShipLat ownShipLon =
    some ((0 :: publishedSteps lib config trajectory).map
      (geopointAt lib config trajectory ownShipLat ownShipLon)) := by
  have some : ¬ trajectory.isEmpty = true := by
    rw [List.isEmpty_iff_length_eq_zero]
    omega
  unfold sampleWaypoints
  rw [if_neg some]
  dsimp only
  rw [sampleSteps_eq fits, Option.bind_some, mapM_eq_map fun idx member => ?_, Option.map_some,
    List.map_cons]
  · unfold geopointAt
    rw [placeAt_zero]
    rfl
  · obtain ⟨k, inRange, rfl⟩ := List.mem_map.mp member
    rw [getElem?_eq_placeAt]
    · rfl
    · rw [length_nedPositions]
      exact Nat.lt_succ_of_le (step_le several (List.mem_range.mp inRange))

/-- What is published, where nothing overflows. -/
theorem publish_eq : ∃ waypoints,
    publish lib config trajectory ownShipLat ownShipLon = some waypoints ∧
      waypoints.map AvoidanceWaypoint.position =
        (0 :: publishedSteps lib config trajectory).map
          (geopointAt lib config trajectory ownShipLat ownShipLon) ∧
      waypoints.map AvoidanceWaypoint.wpDistanceM =
        0.0 :: distancesAlong lib config trajectory (annotatedSteps lib config trajectory) := by
  have built : ∀ i ∈ List.range (maneuverWp lib config trajectory + 1), ∃ waypoint,
      buildWaypoint lib config ((0 :: publishedSteps lib config trajectory).map
          (geopointAt lib config trajectory ownShipLat ownShipLon)) trajectory
        (start lib config trajectory) (span lib config trajectory)
        (maneuverWp lib config trajectory) i = some waypoint ∧
      geopointAt lib config trajectory ownShipLat ownShipLon
          (if i = 0 then 0 else step lib config trajectory (i - 1)) = waypoint.position ∧
      (if i = 0 then 0.0 else distance
        (placeAt (nedPositions lib config trajectory)
          (if i - 1 = 0 then 0 else clampedStep lib config trajectory (i - 1 - 1)))
        (placeAt (nedPositions lib config trajectory)
          (clampedStep lib config trajectory (i - 1)))) = waypoint.wpDistanceM := by
    intro i member
    cases i with
    | zero => exact buildWaypoint_eq several rfl rfl (Nat.lt_of_lt_of_le two_pos several) rfl
    | succ j =>
      have inside : j < maneuverWp lib config trajectory :=
        Nat.lt_of_succ_lt_succ (List.mem_range.mp member)
      refine buildWaypoint_eq several ?_ (trajIdx_eq fits inside) (clampedStep_lt several j)
        (wpDistance_eq several fits inside)
      rw [List.map_cons, List.getElem?_cons_succ, publishedSteps, List.map_map, List.getElem?_map,
        List.getElem?_range inside]
      rfl
  obtain ⟨waypoints, collected, all⟩ := exists_mapM built
  have length : ((0 :: publishedSteps lib config trajectory).map
      (geopointAt lib config trajectory ownShipLat ownShipLon)).length =
        maneuverWp lib config trajectory + 1 := by
    rw [List.length_map, List.length_cons, publishedSteps, List.length_map, List.length_range]
  have count : min (maneuverWp lib config trajectory) (span lib config trajectory + 1) =
      maneuverWp lib config trajectory := min_eq_left (min_le_right _ _)
  refine ⟨waypoints, ?_, ?_, ?_⟩
  · unfold publish buildWaypoints
    rw [sampleWaypoints_eq several fits, Option.bind_some]
    dsimp only
    rw [lastNedIdx_eq fits, Option.bind_some, length, Nat.add_sub_cancel]
    change (List.range (maneuverWp lib config trajectory + 1)).mapM (buildWaypoint lib config _
      trajectory (start lib config trajectory) (span lib config trajectory)
      (min (maneuverWp lib config trajectory) (span lib config trajectory + 1))) = _
    rw [count, collected]
  · rw [map_eq_of_forall₂ AvoidanceWaypoint.position (all.imp fun _ _ holds => holds.1),
      List.range_succ_eq_map, List.map_cons, List.map_map, List.map_cons, publishedSteps,
      List.map_map]
    rfl
  · rw [map_eq_of_forall₂ AvoidanceWaypoint.wpDistanceM (all.imp fun _ _ holds => holds.2),
      List.range_succ_eq_map, List.map_cons, List.map_map, annotatedSteps, distancesAlong_range]
    rfl

omit fits in
theorem publishedSteps_starts : ∃ first later,
    publishedSteps lib config trajectory = first :: later ∧
      StartsAt config (nedPositions lib config trajectory) first := by
  obtain ⟨count, enough⟩ := Nat.exists_eq_add_of_le' (maneuverWp_pos several :
    1 ≤ maneuverWp lib config trajectory)
  refine ⟨start lib config trajectory,
    ((List.range count).map Nat.succ).map (step lib config trajectory), ?_, startsAt_start several⟩
  rw [publishedSteps, enough, List.range_succ_eq_map, List.map_cons, step, stepAt_zero]

omit several fits in
theorem publishedSteps_increasing : (publishedSteps lib config trajectory).Pairwise (· < ·) := by
  unfold publishedSteps
  rcases Nat.lt_or_ge 1 (maneuverWp lib config trajectory) with many | one
  · exact List.Pairwise.map _ (fun _ _ earlier => step_strictMono many earlier)
      List.pairwise_lt_range
  · rcases Nat.le_one_iff_eq_zero_or_eq_one.mp one with none | single
    · rw [none]
      exact .nil
    · rw [single]
      exact List.pairwise_singleton _ _

end Fitting

/-! ### The last distance -/

variable (lib config trajectory)

/-- The step of the waypoint before the last one, or the anchor. -/
def lastButOne : ℕ :=
  if start lib config trajectory = trajectory.length then 0
  else if start lib config trajectory = 1 then trajectory.length - 2
  else trajectory.length - 1

/-- The last position is as far from the waypoint before as the position before the last one. -/
def EquallyFar : Prop :=
  distance
      (placeAt (nedPositions lib config trajectory) (lastButOne lib config trajectory))
      (placeAt (nedPositions lib config trajectory) (trajectory.length - 1)) =
    distance
      (placeAt (nedPositions lib config trajectory) (lastButOne lib config trajectory))
      (placeAt (nedPositions lib config trajectory) trajectory.length)

variable {lib config trajectory} (several : 2 ≤ trajectory.length)

include several

theorem step_lastButOne (many : 2 ≤ maneuverWp lib config trajectory) :
    step lib config trajectory (maneuverWp lib config trajectory - 2) =
      lastButOne lib config trajectory := by
  have spans := start_add_span several lib config
  have unended : start lib config trajectory ≠ trajectory.length := by
    intro ended
    unfold maneuverWp span at many
    omega
  unfold lastButOne
  rw [if_neg unended]
  split_ifs with first
  · have count : maneuverWp lib config trajectory = trajectory.length - 1 := by
      unfold maneuverWp
      omega
    obtain ⟨size, enough⟩ : ∃ size, trajectory.length = size + 3 :=
      ⟨trajectory.length - 3, by omega⟩
    have apart : span lib config trajectory = size + 2 := by omega
    have whole : size * (size + 2) / (size + 1) = size := by
      rw [show size * (size + 2) = size + size * (size + 1) by ring,
        Nat.add_mul_div_right _ _ (Nat.succ_pos size), Nat.div_eq_of_lt (Nat.lt_succ_self size),
        Nat.zero_add]
    unfold step stepAt
    rw [count, enough, first, apart]
    show 1 + size * (size + 2) / (size + 1) = size + 1
    rw [whole, Nat.add_comm]
  · have count : maneuverWp lib config trajectory = span lib config trajectory + 1 := by
      have positive := (startsAt_start several :
        StartsAt config (nedPositions lib config trajectory) (start lib config trajectory)).behind
      unfold maneuverWp
      omega
    unfold step stepAt
    rw [count, Nat.add_sub_cancel, Nat.mul_div_cancel _ (by omega)]
    omega

/-- Only the last step can be clamped. -/
theorem clampedStep_eq {k : ℕ} (early : k < maneuverWp lib config trajectory - 1) :
    clampedStep lib config trajectory k = step lib config trajectory k :=
  min_eq_left (Nat.le_sub_one_of_lt (step_lt several early))

/-- Two points from the first step on are the only trajectory whose last position is not used. -/
theorem step_end (used : ¬ (trajectory.length = 2 ∧ start lib config trajectory = 1)) :
    step lib config trajectory (maneuverWp lib config trajectory - 1) = trajectory.length := by
  have positive := (startsAt_start several :
    StartsAt config (nedPositions lib config trajectory) (start lib config trajectory)).behind
  have spans := start_add_span several lib config
  rcases Nat.lt_or_ge 1 (maneuverWp lib config trajectory) with many | one
  · exact step_last several many
  · rw [Nat.sub_eq_zero_of_le one, step, stepAt_zero]
    unfold maneuverWp at one
    omega

theorem before_end (used : ¬ (trajectory.length = 2 ∧ start lib config trajectory = 1)) :
    (if maneuverWp lib config trajectory - 1 = 0 then 0
      else step lib config trajectory (maneuverWp lib config trajectory - 1 - 1)) =
        lastButOne lib config trajectory := by
  split_ifs with single
  · have ended : start lib config trajectory = trajectory.length := by
      have last := step_end several used
      rw [single, step, stepAt_zero] at last
      exact last
    exact (if_pos ended).symm
  · exact step_lastButOne several (by omega)

/-- Only the last of the annotated distances can differ from the published ones. -/
theorem distancesAlong_eq_iff :
    distancesAlong lib config trajectory (annotatedSteps lib config trajectory) =
        distancesAlong lib config trajectory (publishedSteps lib config trajectory) ↔
      trajectory.length = 2 ∧ start lib config trajectory = 1 ∨
        EquallyFar lib config trajectory := by
  have positive : 1 ≤ maneuverWp lib config trajectory := maneuverWp_pos several
  unfold annotatedSteps publishedSteps
  rw [distancesAlong_range, distancesAlong_range, List.map_inj_left]
  have before (j : ℕ) (inside : j < maneuverWp lib config trajectory) :
      (if j = 0 then 0 else clampedStep lib config trajectory (j - 1)) =
        if j = 0 then 0 else step lib config trajectory (j - 1) := by
    split_ifs with first
    · rfl
    · exact clampedStep_eq several (by omega)
  by_cases unused : trajectory.length = 2 ∧ start lib config trajectory = 1
  · refine iff_of_true (fun j member => ?_) (.inl unused)
    have inside := List.mem_range.mp member
    have few : maneuverWp lib config trajectory ≤ trajectory.length - 1 := min_le_left _ _
    have unclamped : clampedStep lib config trajectory j = step lib config trajectory j := by
      rw [clampedStep, show j = 0 by omega, step, stepAt_zero]
      omega
    unfold distanceAt
    rw [before j inside, unclamped]
  · have ends := step_end several unused
    have behind := before_end several unused
    have clampedEnd : clampedStep lib config trajectory (maneuverWp lib config trajectory - 1) =
        trajectory.length - 1 := by
      rw [clampedStep, ends]
      exact min_eq_right (Nat.sub_le _ _)
    have last : maneuverWp lib config trajectory - 1 < maneuverWp lib config trajectory :=
      Nat.sub_one_lt_of_lt positive
    have compared : distanceAt lib config trajectory (clampedStep lib config trajectory)
          (maneuverWp lib config trajectory - 1) =
        distanceAt lib config trajectory (step lib config trajectory)
          (maneuverWp lib config trajectory - 1) ↔ EquallyFar lib config trajectory := by
      unfold distanceAt EquallyFar
      rw [before _ last, behind, clampedEnd, ends]
    refine ⟨fun all => .inr (compared.mp (all _ (List.mem_range.mpr last))), fun far j member => ?_⟩
    have inside := List.mem_range.mp member
    rcases Nat.lt_or_ge j (maneuverWp lib config trajectory - 1) with early | late
    · unfold distanceAt
      rw [before j inside, clampedStep_eq several early]
    · rw [show j = maneuverWp lib config trajectory - 1 by omega]
      exact compared.mpr (far.resolve_left unused)

/-- What is published shows which distances are annotated. -/
theorem Annotated.distancesAlong_eq {steps : List ℕ} {waypoints : List AvoidanceWaypoint}
    (annotated : Annotated lib config trajectory ownShipLat ownShipLon steps waypoints)
    (sampled : sampleSteps lib config trajectory = some steps)
    (published : publish lib config trajectory ownShipLat ownShipLon = some waypoints) :
    Fits lib config trajectory ∧
      distancesAlong lib config trajectory (annotatedSteps lib config trajectory) =
        distancesAlong lib config trajectory (publishedSteps lib config trajectory) := by
  have fits : Fits lib config trajectory := by
    by_contra unfit
    rw [sampleSteps_none several unfit] at sampled
    cases sampled
  obtain ⟨built, publishes, -, distances⟩ := publish_eq several fits
  rw [publishes] at published
  obtain rfl := Option.some.inj published
  rw [sampleSteps_eq fits] at sampled
  obtain rfl := Option.some.inj sampled
  exact ⟨fits, (List.cons.inj (distances.symm.trans annotated.distances)).2⟩

omit several in
/-- The waypoints are annotated with their own geometry exactly where the indices fit and the two
last positions are equally far from the waypoint before, or the last one is not needed. -/
theorem publish_annotated_iff (lib : MathLibrary) (config : Config)
    (trajectory : List TrajectoryPoint) (several : 2 ≤ trajectory.length)
    (ownShipLat ownShipLon : Float) :
    (∃ steps waypoints, sampleSteps lib config trajectory = some steps ∧
        publish lib config trajectory ownShipLat ownShipLon = some waypoints ∧
        Annotated lib config trajectory ownShipLat ownShipLon steps waypoints) ↔
      Fits lib config trajectory ∧
        (trajectory.length = 2 ∧ start lib config trajectory = 1 ∨
          EquallyFar lib config trajectory) := by
  refine ⟨?_, fun ⟨fits, far⟩ => ?_⟩
  · rintro ⟨steps, waypoints, sampled, published, annotated⟩
    obtain ⟨fits, same⟩ := annotated.distancesAlong_eq several sampled published
    exact ⟨fits, (distancesAlong_eq_iff several).mp same⟩
  · obtain ⟨waypoints, published, positions, distances⟩ := publish_eq several fits
    refine ⟨publishedSteps lib config trajectory, waypoints, sampleSteps_eq fits, published,
      publishedSteps_starts several, publishedSteps_increasing, fun idx member => ?_, positions, ?_⟩
    · obtain ⟨k, inRange, rfl⟩ := List.mem_map.mp member
      exact step_le several (List.mem_range.mp inRange)
    · rw [distances, (distancesAlong_eq_iff several).mpr far]

omit several

/-! ### A straight track -/

/-- The mathematics library on a course and at a latitude of zero. -/
def northward : MathLibrary where
  cos _ := 1.0
  sin _ := 0.0

/-- Three steps north of 500 m. -/
def straightTrack : List TrajectoryPoint := [⟨0.0, 100.0⟩, ⟨0.0, 100.0⟩, ⟨0.0, 100.0⟩]

theorem straight_track_not_annotated : ¬ ∃ steps waypoints,
    sampleSteps northward {} straightTrack = some steps ∧
      publish northward {} straightTrack 0.0 0.0 = some waypoints ∧
      Annotated northward {} straightTrack 0.0 0.0 steps waypoints := by
  rintro ⟨steps, waypoints, sampled, published, annotated⟩
  have several : 2 ≤ straightTrack.length := by decide
  obtain ⟨-, same⟩ := annotated.distancesAlong_eq several sampled published
  rcases (distancesAlong_eq_iff several).mp same with ⟨two, -⟩ | far
  · exact absurd two (by decide)
  · unfold EquallyFar at far
    revert far
    decide +kernel

/-- The published waypoints of two steps of 500 m, the first of them beyond the wheel-over
distance. -/
theorem two_steps_annotated : ∃ steps waypoints,
    sampleSteps northward {} [⟨0.0, 100.0⟩, ⟨0.0, 100.0⟩] = some steps ∧
      publish northward {} [⟨0.0, 100.0⟩, ⟨0.0, 100.0⟩] 0.0 0.0 = some waypoints ∧
      Annotated northward {} [⟨0.0, 100.0⟩, ⟨0.0, 100.0⟩] 0.0 0.0 steps waypoints := by
  refine (publish_annotated_iff northward {} [⟨0.0, 100.0⟩, ⟨0.0, 100.0⟩] (by decide)
    0.0 0.0).mpr ⟨⟨by decide, ?_⟩, .inl ⟨rfl, ?_⟩⟩
  · decide +kernel
  · decide +kernel

end Law

end MassL3.M5.Waypoints
