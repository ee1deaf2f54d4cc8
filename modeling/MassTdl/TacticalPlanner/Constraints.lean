/-
This file translates how zones become constraints: the polygon of a zone is turned to the left and,
unless it passes for convex, fanned out from the mean of its vertices. A position is judged by the
half-planes of each piece, and a zone by its best piece, at every step of the trajectory.

It also translates the swept check of a solved trajectory: the distance of own ship to each target
over the segments between the nodes, the least of these distances, and the name of the first target
and segment below the hard floor.

The numbers are those of any ordered field, so that both can be read over the reals. The symbolic
expressions are read as the numbers they stand for, a minimum or maximum that starts at infinity
as one over what there is, and an infinite distance as none at all.
-/

import MassTdl.Clamps
import Mathlib.Algebra.Order.Field.Basic
import Mathlib.Data.Rat.Cast.OfScientific

namespace MassL3.M5.Constraints

/-- The functions of the mathematics library. -/
structure Functions (Scalar : Type) where
  cos : Scalar → Scalar
  sin : Scalar → Scalar

/-- The vertices in their order, the last of which is joined to the first. -/
abbrev Polygon2D (Scalar : Type) := List (Scalar × Scalar)

structure ZoneConstraint (Scalar : Type) where
  polygon : Polygon2D Scalar
  mustStayInside : Bool
  name : String

/-- A row of the constraints, which is met if it is not negative. -/
structure ConstraintRow (Scalar : Type) where
  g : Scalar
  name : String

section Model

variable {Scalar : Type} [Field Scalar] [LinearOrder Scalar]

/-! ### Polygons -/

/-- A vertex, counted around the polygon. -/
def vertexAt (polygon : Polygon2D Scalar) (index : Nat) : Scalar × Scalar :=
  polygon.getD (index % polygon.length) 0

/-- `is_convex_2d`. -/
def isConvex2d (polygon : Polygon2D Scalar) : Bool :=
  if polygon.length < 4 then true
  else
    (List.range polygon.length).all fun i =>
      let p0 := vertexAt polygon i
      let p1 := vertexAt polygon (i + 1)
      let p2 := vertexAt polygon (i + 2)
      let dx1 := p1.1 - p0.1
      let dy1 := p1.2 - p0.2
      let dx2 := p2.1 - p1.1
      let dy2 := p2.2 - p1.2
      let cross := dx1 * dy2 - dy1 * dx2
      ¬ cross < -1.0e-9

def signedArea (polygon : Polygon2D Scalar) : Scalar :=
  ((List.range polygon.length).map fun i =>
    let a := vertexAt polygon i
    let b := vertexAt polygon (i + 1)
    a.1 * b.2 - b.1 * a.2).sum

def normalizeCcw (polygon : Polygon2D Scalar) : Polygon2D Scalar :=
  if signedArea polygon < 0 then polygon.reverse else polygon

def centroid (polygon : Polygon2D Scalar) : Scalar × Scalar :=
  let total := polygon.sum
  (total.1 / polygon.length, total.2 / polygon.length)

def decomposePolygon (polygon : Polygon2D Scalar) : List (Polygon2D Scalar) :=
  if polygon.length < 3 then [polygon]
  else
    let ccwPolygon := normalizeCcw polygon
    if isConvex2d ccwPolygon then [ccwPolygon]
    else
      (List.range ccwPolygon.length).map fun i =>
        [centroid ccwPolygon, vertexAt ccwPolygon i, vertexAt ccwPolygon (i + 1)]

/-! ### Tests -/

/-- `fmin`, where there is nothing before the first value. -/
def fmin (result : Option Scalar) (value : Scalar) : Option Scalar :=
  some (match result with
    | none => value
    | some least => min least value)

/-- `fmax`, where there is nothing before the first value. -/
def fmax (result : Option Scalar) (value : Scalar) : Option Scalar :=
  some (match result with
    | none => value
    | some greatest => max greatest value)

/-- `point_inside_convex`: the least of the half-plane tests. -/
def pointInsideConvex (point : Scalar × Scalar) (polygon : Polygon2D Scalar) : Scalar :=
  if polygon.length < 3 then 0
  else
    ((List.range polygon.length).foldl (fun result i =>
      let v0 := vertexAt polygon i
      let v1 := vertexAt polygon (i + 1)
      let ex := v1.1 - v0.1
      let ey := v1.2 - v0.2
      let rx := point.1 - v0.1
      let ry := point.2 - v0.2
      fmin result (ex * ry - ey * rx)) none).getD 0

/-- The greatest test of the pieces. -/
def bestInside (point : Scalar × Scalar) (subPolygons : List (Polygon2D Scalar)) : Scalar :=
  (subPolygons.foldl (fun best sub => fmax best (pointInsideConvex point sub)) none).getD 0

/-- What a zone makes of a position. -/
def zoneValue (zone : ZoneConstraint Scalar) (subPolygons : List (Polygon2D Scalar))
    (point : Scalar × Scalar) : Scalar :=
  let best := bestInside point subPolygons
  if zone.mustStayInside then best else -best

/-! ### The trajectory -/

variable (lib : Functions Scalar)

/-- The positions after each step, from the headings and speeds. -/
def positions (dtS : Scalar) (cum : Scalar × Scalar) :
    List (Scalar × Scalar) → List (Scalar × Scalar)
  | [] => []
  | (psi, u) :: later =>
      let next := (cum.1 + u * dtS * lib.cos psi, cum.2 + u * dtS * lib.sin psi)
      next :: positions dtS next later

def buildZoneSteps (controls : List (Scalar × Scalar)) (zone : ZoneConstraint Scalar)
    (subPolygons : List (Polygon2D Scalar)) (dtS : Scalar) : List (ConstraintRow Scalar) :=
  (positions lib dtS 0 controls).zipIdx.map fun step =>
    { g := zoneValue zone subPolygons step.1
      name := zone.name ++ "_step[" ++ toString step.2 ++ "]" }

/-- `compile_zone_constraints`. -/
def compileZoneConstraints (controls : List (Scalar × Scalar))
    (zones : List (ZoneConstraint Scalar)) (dtS : Scalar) : List (ConstraintRow Scalar) :=
  zones.flatMap fun zone => buildZoneSteps lib controls zone (decomposePolygon zone.polygon) dtS

end Model

end MassL3.M5.Constraints

namespace MassL3.M5.ContinuousCpa

open Clamps

/-- The functions of the mathematics library. -/
structure Functions (Scalar : Type) where
  cos : Scalar → Scalar
  sin : Scalar → Scalar
  sqrt : Scalar → Scalar

structure TrajectoryPoint (Scalar : Type) where
  xM : Scalar
  yM : Scalar
  tS : Scalar

structure TargetState (Scalar : Type) where
  id : Int32
  xM : Scalar
  yM : Scalar
  cogRad : Scalar
  sogMps : Scalar

structure ContinuousCpaResult (Scalar : Type) where
  minSweptCpaM : Option Scalar := none
  intervalCrossingDetected : Bool := false
  violatingTargetId : Int32 := 0
  violatingSegmentK : Int := -1

section Model

variable {Scalar : Type} [Field Scalar] [LinearOrder Scalar] (lib : Functions Scalar)

/-- The position of own ship relative to a target, which keeps its course and speed. -/
def relative (target : TargetState Scalar) (point : TrajectoryPoint Scalar) : Scalar × Scalar :=
  (point.xM - (target.xM + target.sogMps * lib.cos target.cogRad * point.tS),
    point.yM - (target.yM + target.sogMps * lib.sin target.cogRad * point.tS))

/-- The squared distance of the origin to a segment. -/
def segmentDistSq (start finish : Scalar × Scalar) : Scalar :=
  let abX := finish.1 - start.1
  let abY := finish.2 - start.2
  let abSq := abX * abX + abY * abY
  if abSq > 1.0e-12 then
    let t := stdClamp (-(start.1 * abX + start.2 * abY) / abSq) 0 1
    let cX := start.1 + t * abX
    let cY := start.2 + t * abY
    cX * cX + cY * cY
  else start.1 * start.1 + start.2 * start.2

/-- A distance that is below none so far is the least one. -/
def ContinuousCpaResult.lower (result : ContinuousCpaResult Scalar) (distance : Scalar) :
    ContinuousCpaResult Scalar :=
  if result.minSweptCpaM.all fun least => distance < least then
    { result with minSweptCpaM := some distance }
  else result

/-- What one segment of one target adds. A target that has not been named has the id zero. -/
def ContinuousCpaResult.record (cpaHardSq : Scalar) (result : ContinuousCpaResult Scalar)
    (targetId : Int32) (segment : Int) (distSq : Scalar) : ContinuousCpaResult Scalar :=
  let result :=
    if distSq < cpaHardSq then
      let result := { result with intervalCrossingDetected := true }
      if result.violatingTargetId = 0 then
        { result with
          violatingTargetId := targetId
          violatingSegmentK := segment }
      else result
    else result
  result.lower (lib.sqrt distSq)

/-- The loop over the nodes: the result so far, the relative position at the node before, and the
number of the node. -/
structure Sweep (Scalar : Type) where
  result : ContinuousCpaResult Scalar
  previous : Scalar × Scalar
  k : Nat := 1

def Sweep.step (cpaHardSq : Scalar) (target : TargetState Scalar) (sweep : Sweep Scalar)
    (point : TrajectoryPoint Scalar) : Sweep Scalar :=
  let current := relative lib target point
  { result :=
      sweep.result.record lib cpaHardSq target.id ((sweep.k : Int) - 1)
        (segmentDistSq sweep.previous current)
    previous := current
    k := sweep.k + 1 }

/-- The loop over the nodes for one target. -/
def sweepTarget (trajectory : List (TrajectoryPoint Scalar)) (cpaHardSq : Scalar)
    (result : ContinuousCpaResult Scalar) (target : TargetState Scalar) :
    ContinuousCpaResult Scalar :=
  match trajectory with
  | [] => result
  | first :: later =>
      (later.foldl (Sweep.step lib cpaHardSq target)
        { result, previous := relative lib target first }).result

/-- `compute_continuous_cpa`. -/
def computeContinuousCpa (trajectory : List (TrajectoryPoint Scalar))
    (targets : List (TargetState Scalar)) (cpaHardM : Scalar) : ContinuousCpaResult Scalar :=
  if trajectory.length < 2 ∨ targets = [] ∨ cpaHardM ≤ 0 then {}
  else targets.foldl (sweepTarget lib trajectory (cpaHardM * cpaHardM)) {}

end Model

end MassL3.M5.ContinuousCpa
