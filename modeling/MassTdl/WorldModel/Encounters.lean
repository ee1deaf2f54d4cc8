/-
This file translates the calculator of the closest approach: the alignment of the two snapshots in
time, the transform into a plane at own ship, and the point at which two straight tracks come
closest. The projection of the geodesy library is a parameter. The propagation of covariances is
left out.

It also translates the encounter classifier of the world model. It looks at the bearing, the
headings, the relative speed and the closest approach of one target, and the first of its tests
that succeeds decides the type of the encounter and whether own ship gives way.
-/

import MassTdl.WorldModel.Types

namespace MassL3.M2

open MassL3.M6.Colregs (MathLibrary seconds)

/-- The libraries the world model calls. -/
structure Libraries where
  math : MathLibrary
  /-- The east and the north of a position from an origin, if the projection does not throw. -/
  forward : Float → Float → Float → Float → Option (Float × Float)

/-! ### Vectors -/

structure Vector2d where
  east : Float
  north : Float

namespace Vector2d

variable (first second : Vector2d)

def add : Vector2d where
  east := first.east + second.east
  north := first.north + second.north

def sub : Vector2d where
  east := first.east - second.east
  north := first.north - second.north

def scale (factor : Float) : Vector2d where
  east := first.east * factor
  north := first.north * factor

def dot : Float := first.east * second.east + first.north * second.north

def squaredNorm : Float := first.dot first

def norm : Float := first.squaredNorm.sqrt

end Vector2d

/-! ### The closest approach -/

structure CpaTcpaConfig where
  safetyFactor : Float := 1.0
  oddDMultiplier : Float := 1.5
  maxAlignDtS : Float := 1.0
  staticTargetSpeedMps : Float := 0.0

structure CpaResult where
  cpaM : Float
  tcpaS : Float

/-- What stands for a closest approach that could not be computed. -/
def invalidCpa : CpaResult where
  cpaM := -1.0
  tcpaS := -1.0

def kEps : Float := 1e-12

section Compute

variable (libs : Libraries)

/-- `CoordTransform::wgs84_to_enu`, from an origin. -/
def wgs84ToEnu (originLat originLon lat lon sogKn cogDeg : Float) :
    Option (Vector2d × Vector2d) :=
  (libs.forward originLat originLon lat lon).map fun position =>
    let speedMs := sogKn * kKnToMs
    let cogRad := cogDeg * kDegToRad
    ({ east := position.1, north := position.2 },
      { east := speedMs * libs.math.sin cogRad, north := speedMs * libs.math.cos cogRad })

/-- Through the water and with the current. -/
def ownVelocity (own : OwnShipSnapshot) : Vector2d :=
  let headingRad := own.headingDeg * kDegToRad
  let currentRad := own.currentDirectionDeg * kDegToRad
  let currentSpdMs := own.currentSpeedKn * kKnToMs
  let water : Vector2d :=
    { east := own.uWater * libs.math.sin headingRad + own.vWater * libs.math.cos headingRad
      north := own.uWater * libs.math.cos headingRad - own.vWater * libs.math.sin headingRad }
  let current : Vector2d :=
    { east := currentSpdMs * libs.math.sin currentRad
      north := currentSpdMs * libs.math.cos currentRad }
  water.add current

/-- `extrapolate_to_`. -/
def TargetSnapshot.extrapolateTo (target : TargetSnapshot) (time : Int) : TargetSnapshot :=
  let dt := seconds (time - target.stamp)
  let speedMs := target.sogKn * kKnToMs
  let cogRad := target.cogDeg * kDegToRad
  let de := speedMs * libs.math.sin cogRad * dt
  let dn := speedMs * libs.math.cos cogRad * dt
  let latRad := target.latitudeDeg * kDegToRad
  { target with
    latitudeDeg := target.latitudeDeg + dn / kLatM
    longitudeDeg := target.longitudeDeg + de / (kLatM * libs.math.cos latRad)
    stamp := time }

/-- The closest approach of two straight tracks. One that lies in the past is now. -/
def closestApproach (relPos relVel : Vector2d) : CpaResult :=
  let relSpeedSq := relVel.squaredNorm
  if relSpeedSq < kEps then { cpaM := relPos.norm, tcpaS := 0.0 }
  else
    let tcpaS := -relPos.dot relVel / relSpeedSq
    if tcpaS < 0.0 then { cpaM := relPos.norm, tcpaS := 0.0 }
    else { cpaM := (relPos.add (relVel.scale tcpaS)).norm, tcpaS := tcpaS }

variable (config : CpaTcpaConfig)

/-- The factors on a separation. -/
def safeSeparation (zone : OddZone) (cpaM : Float) : Float :=
  let finalCpa := cpaM * config.safetyFactor
  if zone = .d then finalCpa * config.oddDMultiplier else finalCpa

/-- The two snapshots lie too far apart in time. -/
def misaligned (own : OwnShipSnapshot) (target : TargetSnapshot) : Bool :=
  (seconds (own.stamp - target.stamp)).abs > config.maxAlignDtS

/-- `CpaTcpaCalculator::compute`. -/
def computeCpa (own : OwnShipSnapshot) (target : TargetSnapshot) (zone : OddZone) :
    Option CpaResult :=
  if misaligned config own target then none
  else do
    let (ownPos, _) ←
      wgs84ToEnu libs own.latitudeDeg own.longitudeDeg own.latitudeDeg own.longitudeDeg
        own.sogKn own.cogDeg
    let aligned := target.extrapolateTo libs own.stamp
    let (tgtPos, tgtVel) ←
      wgs84ToEnu libs own.latitudeDeg own.longitudeDeg aligned.latitudeDeg aligned.longitudeDeg
        aligned.sogKn aligned.cogDeg
    let relPos := tgtPos.sub ownPos
    if aligned.sogKn * kKnToMs < config.staticTargetSpeedMps then
      return { cpaM := safeSeparation config zone relPos.norm, tcpaS := 0.0 }
    let approach := closestApproach relPos (tgtVel.sub (ownVelocity libs own))
    return { approach with cpaM := safeSeparation config zone approach.cpaM }

end Compute

/-! ### The classifier -/

structure EncounterClassifierConfig where
  overtakingBearingMinDeg : Float := 112.5
  overtakingBearingMaxDeg : Float := 247.5
  headOnHeadingDiffTolDeg : Float := 6.0
  safePassSpeedThresholdMps : Float := 0.5
  safePassMinCpaM : Float := 926.0

section Angles

variable (lib : MathLibrary)

/-- `normalize_bearing_deg_`, the same as the reasoner's. -/
def normalizeBearingDeg (bearing : Float) : Float := M6.Colregs.normalizeBearingDeg lib bearing

/-- `smallest_angle_diff_deg_`. -/
def smallestAngleDiffDeg (first second : Float) : Float :=
  let diff := lib.fmod (first - second).abs 360.0
  if diff > 180.0 then 360.0 - diff else diff

/-- `compute_aspect_deg_`. -/
def computeAspectDeg (relativeBearingDeg ownHeadingDeg targetHeadingDeg : Float) : Float :=
  let absBearingDeg := ownHeadingDeg + relativeBearingDeg
  let recipBearingDeg := absBearingDeg + 180.0
  let aspect := recipBearingDeg - targetHeadingDeg
  let aspect := lib.fmod (aspect + 180.0) 360.0
  let aspect := if aspect < 0.0 then aspect + 360.0 else aspect
  aspect - 180.0

/-- A bearing below 360 degrees in the convention of the message. -/
def signedBearing (bearing : Float) : Float := if bearing > 180.0 then bearing - 360.0 else bearing

end Angles

namespace EncounterClassifierConfig

variable (config : EncounterClassifierConfig) (lib : MathLibrary)

/-! ### The tests -/

/-- The test for a safe pass. -/
def safePass (relativeSpeedMps cpaM : Float) : Bool :=
  relativeSpeedMps < config.safePassSpeedThresholdMps && cpaM > config.safePassMinCpaM

/-- The test for a target in the stern sector. -/
def abaft (relativeBearingDeg : Float) : Bool :=
  let bearing := normalizeBearingDeg lib relativeBearingDeg
  bearing ≥ config.overtakingBearingMinDeg && bearing ≤ config.overtakingBearingMaxDeg

/-- The test for reciprocal headings. -/
def reciprocal (ownHeadingDeg targetHeadingDeg : Float) : Bool :=
  (smallestAngleDiffDeg lib ownHeadingDeg targetHeadingDeg - 180.0).abs ≤
    config.headOnHeadingDiffTolDeg

/-- The test for a target on the starboard side. -/
def starboard (relativeBearingDeg : Float) : Bool :=
  signedBearing (normalizeBearingDeg lib relativeBearingDeg) > 0.0

/-- `EncounterClassifier::classify`. -/
def classify (relativeBearingDeg ownHeadingDeg targetHeadingDeg relativeSpeedMps cpaM : Float) :
    EncounterClassification :=
  let bearingSigned := signedBearing (normalizeBearingDeg lib relativeBearingDeg)
  let result : EncounterClassification :=
    { relativeBearingDeg := bearingSigned
      aspectAngleDeg := computeAspectDeg lib bearingSigned ownHeadingDeg targetHeadingDeg }
  if config.safePass relativeSpeedMps cpaM then { result with encounterType := .ambiguous }
  else if config.abaft lib relativeBearingDeg then
    { result with
      encounterType := .overtaking
      isGiveway := true }
  else if config.reciprocal lib ownHeadingDeg targetHeadingDeg then
    { result with
      encounterType := .headOn
      isGiveway := true }
  else
    { result with
      encounterType := .crossing
      isGiveway := starboard lib relativeBearingDeg }

/-! ### What the tests decide -/

section Decision

variable {config lib}
variable {relativeBearingDeg ownHeadingDeg targetHeadingDeg relativeSpeedMps cpaM : Float}

/-- Only a safe pass is ambiguous. -/
theorem classify_ambiguous_iff :
    (config.classify lib relativeBearingDeg ownHeadingDeg targetHeadingDeg relativeSpeedMps
      cpaM).encounterType = .ambiguous ↔ config.safePass relativeSpeedMps cpaM = true := by
  unfold classify
  dsimp only
  split_ifs with safe abaft reciprocal
  · exact iff_of_true rfl safe
  · exact iff_of_false nofun safe
  · exact iff_of_false nofun safe
  · exact iff_of_false nofun safe

/-- Own ship gives way unless the pass is safe, to whoever is astern, on a reciprocal heading or
to starboard. -/
theorem classify_isGiveway :
    (config.classify lib relativeBearingDeg ownHeadingDeg targetHeadingDeg relativeSpeedMps
      cpaM).isGiveway =
      (!config.safePass relativeSpeedMps cpaM &&
        (config.abaft lib relativeBearingDeg ||
          config.reciprocal lib ownHeadingDeg targetHeadingDeg ||
          starboard lib relativeBearingDeg)) := by
  unfold classify
  dsimp only
  split_ifs with safe abaft reciprocal <;> simp [*]

end Decision

end EncounterClassifierConfig

end MassL3.M2
