/-
This file states the reachable headings of a directive and the tracking of the route once more for
any kind of number, so that they can be read over the reals, where a heading that is turned and
wrapped stays the same heading. On machine numbers they are the ones of the directive and of the
arbiter, by definition.
-/

import MassTdl.Arbiter.Guidance

namespace MassL3.M4.Scalars

open Clamps
open MassL3.Risk (MathLibrary)

/-! ### Reachable headings -/

/-- The functions of the mathematics library, and the ratio of a half circle to its radius. -/
structure Functions (Scalar : Type) where
  pi : Scalar
  fmod : Scalar → Scalar → Scalar
  abs : Scalar → Scalar

structure HeadingBoxReachability (Scalar : Type) where
  headingBoxReachableFromPsi0Deg : Scalar
  boxAllowsMinAlt : Bool

section Model

variable {Scalar : Type} [Add Scalar] [Sub Scalar] [Mul Scalar] [Div Scalar] [Neg Scalar]
  [OfScientific Scalar] [LE Scalar] [LT Scalar] [DecidableLE Scalar] [DecidableLT Scalar]

variable (functions : Functions Scalar)

def wrapHeadingDeg (headingDeg : Scalar) : Scalar :=
  let wrapped := functions.fmod headingDeg 360.0
  if wrapped < 0.0 then wrapped + 360.0 else wrapped

def signedDeltaDeg (fromDeg toDeg : Scalar) : Scalar :=
  let d := functions.fmod (toDeg - fromDeg) 360.0
  let d := if d > 180.0 then d - 360.0 else d
  if d < -180.0 then d + 360.0 else d

/-- `clamp_heading_box_reachable`. -/
def clampHeadingBoxReachable (hMinDeg hMaxDeg ownHdgDeg rotStepDeg : Scalar) : Scalar × Scalar :=
  if rotStepDeg ≤ 0.0 then (hMinDeg, hMaxDeg)
  else
    let effRotStep := stdMax (rotStepDeg - 0.3) 0.0
    let wMin := wrapHeadingDeg functions hMinDeg
    let wMax := wrapHeadingDeg functions hMaxDeg
    let width := wMax - wMin
    let width := if width < 0.0 then width + 360.0 else width
    let halfWidth := 0.5 * width
    let centre := signedDeltaDeg functions ownHdgDeg (wrapHeadingDeg functions (wMin + halfWidth))
    let dMin := centre - halfWidth
    let dMax := centre + halfWidth
    let reachLo := -effRotStep
    let reachHi := effRotStep
    if dMin ≤ reachHi ∧ dMax ≥ reachLo then (hMinDeg, hMaxDeg)
    else
      let newDMin := if centre > 0.0 then reachHi else reachLo - 2.0 * halfWidth
      let newDMax := if centre > 0.0 then reachHi + 2.0 * halfWidth else reachLo
      let newHMin := wrapHeadingDeg functions (ownHdgDeg + newDMin)
      let newHMax := wrapHeadingDeg functions (ownHdgDeg + newDMax)
      (stdMin newHMin newHMax, stdMax newHMin newHMax)

/-- The ends of a box that is moved, before the clamp puts them in order. -/
def movedEnds (hMinDeg hMaxDeg ownHdgDeg rotStepDeg : Scalar) : Scalar × Scalar :=
  let effRotStep := stdMax (rotStepDeg - 0.3) 0.0
  let wMin := wrapHeadingDeg functions hMinDeg
  let width := wrapHeadingDeg functions hMaxDeg - wMin
  let width := if width < 0.0 then width + 360.0 else width
  let halfWidth := 0.5 * width
  let centre := signedDeltaDeg functions ownHdgDeg (wrapHeadingDeg functions (wMin + halfWidth))
  let newDMin := if centre > 0.0 then effRotStep else -effRotStep - 2.0 * halfWidth
  let newDMax := if centre > 0.0 then effRotStep + 2.0 * halfWidth else -effRotStep
  (wrapHeadingDeg functions (ownHdgDeg + newDMin), wrapHeadingDeg functions (ownHdgDeg + newDMax))

/-- The clamp swaps the ends of a moved box that are out of order. -/
def SwapsEnds (hMinDeg hMaxDeg ownHdgDeg rotStepDeg : Scalar) : Prop :=
  (movedEnds functions hMinDeg hMaxDeg ownHdgDeg rotStepDeg).2 <
    (movedEnds functions hMinDeg hMaxDeg ownHdgDeg rotStepDeg).1

instance (hMinDeg hMaxDeg ownHdgDeg rotStepDeg : Scalar) :
    Decidable (SwapsEnds functions hMinDeg hMaxDeg ownHdgDeg rotStepDeg) :=
  inferInstanceAs (Decidable (_ < _))

/-- The clamp sees the box overlap the reachable arc. -/
def Overlaps (hMinDeg hMaxDeg ownHdgDeg rotStepDeg : Scalar) : Prop :=
  let effRotStep := stdMax (rotStepDeg - 0.3) 0.0
  let wMin := wrapHeadingDeg functions hMinDeg
  let width := wrapHeadingDeg functions hMaxDeg - wMin
  let width := if width < 0.0 then width + 360.0 else width
  let halfWidth := 0.5 * width
  let centre := signedDeltaDeg functions ownHdgDeg (wrapHeadingDeg functions (wMin + halfWidth))
  centre - halfWidth ≤ effRotStep ∧ centre + halfWidth ≥ -effRotStep

instance (hMinDeg hMaxDeg ownHdgDeg rotStepDeg : Scalar) :
    Decidable (Overlaps functions hMinDeg hMaxDeg ownHdgDeg rotStepDeg) :=
  inferInstanceAs (Decidable (_ ∧ _))

omit [Div Scalar] in
/-- A box that does not overlap is returned with the moved ends in order. -/
theorem clampHeadingBoxReachable_of_enabled {rotStepDeg : Scalar} (enabled : ¬ rotStepDeg ≤ 0.0)
    (hMinDeg hMaxDeg ownHdgDeg : Scalar) :
    clampHeadingBoxReachable functions hMinDeg hMaxDeg ownHdgDeg rotStepDeg =
      if Overlaps functions hMinDeg hMaxDeg ownHdgDeg rotStepDeg then (hMinDeg, hMaxDeg)
      else
        let ends := movedEnds functions hMinDeg hMaxDeg ownHdgDeg rotStepDeg
        (stdMin ends.1 ends.2, stdMax ends.1 ends.2) := by
  unfold clampHeadingBoxReachable
  rw [if_neg enabled]
  rfl

/-- `compute_heading_box_reachability`. -/
def computeHeadingBoxReachability (hMinDeg hMaxDeg ownHdgDeg minAltRad : Scalar)
    (preferredDirection : ColregsDirection) : HeadingBoxReachability Scalar :=
  let dMin := signedDeltaDeg functions ownHdgDeg hMinDeg
  let dMax := signedDeltaDeg functions ownHdgDeg hMaxDeg
  let directionalReachDeg :=
    match preferredDirection with
    | .starboard => if dMax > 0.0 then dMax else 0.0
    | .port => if dMin < 0.0 then functions.abs dMin else 0.0
    | .hold | .reduceSpeed => stdMax (functions.abs dMin) (functions.abs dMax)
  { headingBoxReachableFromPsi0Deg := directionalReachDeg
    boxAllowsMinAlt := directionalReachDeg ≥ minAltRad * 180.0 / functions.pi }

end Model

def ofLibrary (lib : MathLibrary) : Functions Float where
  pi := M6.Colregs.kPi
  fmod := lib.fmod
  abs := Float.abs

def ofReachability (reach : M4.HeadingBoxReachability) : HeadingBoxReachability Float where
  headingBoxReachableFromPsi0Deg := reach.headingBoxReachableFromPsi0Deg
  boxAllowsMinAlt := reach.boxAllowsMinAlt

/-- On machine numbers this is the clamp of the directive. -/
theorem clampHeadingBoxReachable_eq (lib : MathLibrary)
    (hMinDeg hMaxDeg ownHdgDeg rotStepDeg : Float) :
    M4.clampHeadingBoxReachable lib hMinDeg hMaxDeg ownHdgDeg rotStepDeg =
      clampHeadingBoxReachable (ofLibrary lib) hMinDeg hMaxDeg ownHdgDeg rotStepDeg := by
  rfl

/-- And this the contract. -/
theorem ofReachability_computeHeadingBoxReachability (lib : MathLibrary)
    (hMinDeg hMaxDeg ownHdgDeg minAltRad : Float) (preferredDirection : ColregsDirection) :
    ofReachability (M4.computeHeadingBoxReachability lib hMinDeg hMaxDeg ownHdgDeg minAltRad
        preferredDirection) =
      computeHeadingBoxReachability (ofLibrary lib) hMinDeg hMaxDeg ownHdgDeg minAltRad
        preferredDirection := by
  rfl

/-! ### Route tracking -/

/-- The functions of the mathematics library that the tracking needs as well. -/
structure TrackingFunctions (Scalar : Type) extends Functions Scalar where
  sin : Scalar → Scalar
  cos : Scalar → Scalar
  atan2 : Scalar → Scalar → Scalar
  hypot : Scalar → Scalar → Scalar

structure RouteTracking (Scalar : Type) where
  xteM : Scalar
  routeHeadingDeg : Scalar
  headingErrorDeg : Scalar

section Model

variable {Scalar : Type} [Add Scalar] [Sub Scalar] [Mul Scalar] [Div Scalar]
  [OfScientific Scalar] [LE Scalar] [LT Scalar] [DecidableLE Scalar] [DecidableLT Scalar]
  (functions : TrackingFunctions Scalar)

def kEarthRadiusM : Scalar := 6371008.8

def kDegToRad : Scalar := functions.pi / 180.0

def signedHeadingErrorDeg (headingDeg referenceDeg : Scalar) : Scalar :=
  functions.fmod (headingDeg - referenceDeg + 540.0) 360.0 - 180.0

def computeBearingDeg (ownLat ownLon tgtLat tgtLon : Scalar) : Scalar :=
  let deg2rad := functions.pi / 180.0
  let rad2deg := 180.0 / functions.pi
  let lat1 := ownLat * deg2rad
  let lat2 := tgtLat * deg2rad
  let dlon := (tgtLon - ownLon) * deg2rad
  let y := functions.sin dlon * functions.cos lat2
  let x := functions.cos lat1 * functions.sin lat2 -
    functions.sin lat1 * functions.cos lat2 * functions.cos dlon
  let bearingDeg := functions.atan2 y x * rad2deg
  if bearingDeg < 0.0 then bearingDeg + 360.0 else bearingDeg

/-- `current_route_tracking`, given the poses of the route, the position and the heading. -/
def currentRouteTracking (poses : List (Scalar × Scalar)) (own : Scalar × Scalar)
    (headingDeg : Scalar) : Option (RouteTracking Scalar) :=
  match poses with
  | (p0Lat, p0Lon) :: (p1Lat, p1Lon) :: _ =>
      let ddx := (p1Lat - p0Lat) * kDegToRad functions * kEarthRadiusM
      let ddy := (p1Lon - p0Lon) * kDegToRad functions * kEarthRadiusM *
        functions.cos (p0Lat * kDegToRad functions)
      let routeLen := functions.hypot ddx ddy
      if routeLen ≤ 1.0 then none
      else
        let ownDx := (own.1 - p0Lat) * kDegToRad functions * kEarthRadiusM
        let ownDy := (own.2 - p0Lon) * kDegToRad functions * kEarthRadiusM *
          functions.cos (p0Lat * kDegToRad functions)
        let routeHeadingDeg := computeBearingDeg functions p0Lat p0Lon p1Lat p1Lon
        some
          { xteM := (ddx * ownDy - ddy * ownDx) / routeLen
            routeHeadingDeg := routeHeadingDeg
            headingErrorDeg := signedHeadingErrorDeg functions headingDeg routeHeadingDeg }
  | _ => none

end Model

def ofTrackingLibrary (lib : MathLibrary) : TrackingFunctions Float where
  toFunctions := ofLibrary lib
  sin := lib.sin
  cos := lib.cos
  atan2 := lib.atan2
  hypot := lib.hypot

def ofTracking (tracking : M4.RouteTracking) : RouteTracking Float where
  xteM := tracking.xteM
  routeHeadingDeg := tracking.routeHeadingDeg
  headingErrorDeg := tracking.headingErrorDeg

/-- On machine numbers this is the tracking of the arbiter. -/
theorem ofTracking_currentRouteTracking (lib : MathLibrary) (route : PlannedRoute)
    (world : WorldState) :
    (M4.currentRouteTracking lib (some route) world).map ofTracking =
      currentRouteTracking (ofTrackingLibrary lib) route.poses
        (world.ownShip.latitude, world.ownShip.longitude) world.ownShip.headingDeg := by
  obtain ⟨poses⟩ := route
  match poses with
  | [] => rfl
  | [_] => rfl
  | first :: second :: later =>
    unfold M4.currentRouteTracking currentRouteTracking
    dsimp only
    rw [apply_ite (Option.map ofTracking)]
    rfl

end MassL3.M4.Scalars
