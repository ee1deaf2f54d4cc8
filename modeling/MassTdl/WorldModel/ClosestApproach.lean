/-
This file states the calculator of the closest approach once more for any kind of number, so that
it can be read over the reals. On machine numbers it is the calculator of the world model, by
definition.

Over the reals the time that is computed is the one at which two straight tracks come closest, from
now on, and the closest approach is their separation at that time. The exception is meant for tracks
that do not move against each other: below a millionth of a metre a second the separation of now is
taken, also where they still close in.
-/

import MassTdl.WorldModel.Encounters
import Mathlib.Analysis.SpecialFunctions.Trigonometric.Basic

namespace MassL3.M2.Scalars

open MassL3.M6.Colregs (MathLibrary)

/-! ### The calculator for any kind of number -/

/-- The functions of the libraries, and the factor from degrees to radians. -/
structure Functions (Scalar : Type) where
  sin : Scalar → Scalar
  cos : Scalar → Scalar
  sqrt : Scalar → Scalar
  abs : Scalar → Scalar
  seconds : Int → Scalar
  degToRad : Scalar
  /-- The east and the north of a position from an origin, if the projection does not throw. -/
  forward : Scalar → Scalar → Scalar → Scalar → Option (Scalar × Scalar)

structure Vector2d (Scalar : Type) where
  east : Scalar
  north : Scalar

structure OwnShip (Scalar : Type) where
  sogKn : Scalar
  cogDeg : Scalar
  headingDeg : Scalar
  uWater : Scalar
  vWater : Scalar
  currentSpeedKn : Scalar
  currentDirectionDeg : Scalar
  latitudeDeg : Scalar
  longitudeDeg : Scalar
  stamp : Int

structure Target (Scalar : Type) where
  latitudeDeg : Scalar
  longitudeDeg : Scalar
  sogKn : Scalar
  cogDeg : Scalar
  stamp : Int

structure Config (Scalar : Type) where
  safetyFactor : Scalar
  oddDMultiplier : Scalar
  maxAlignDtS : Scalar
  staticTargetSpeedMps : Scalar

structure CpaResult (Scalar : Type) where
  cpaM : Scalar
  tcpaS : Scalar

section Model

variable {Scalar : Type} [Add Scalar] [Sub Scalar] [Mul Scalar] [Div Scalar] [Neg Scalar]
  [OfScientific Scalar] [LE Scalar] [LT Scalar] [DecidableLE Scalar] [DecidableLT Scalar]

namespace Vector2d

variable (first second : Vector2d Scalar)

def add : Vector2d Scalar where
  east := first.east + second.east
  north := first.north + second.north

def sub : Vector2d Scalar where
  east := first.east - second.east
  north := first.north - second.north

def scale (factor : Scalar) : Vector2d Scalar where
  east := first.east * factor
  north := first.north * factor

def dot : Scalar := first.east * second.east + first.north * second.north

def squaredNorm : Scalar := first.dot first

end Vector2d

def kKnToMs : Scalar := 0.514444

def kLatM : Scalar := 111320.0

def kEps : Scalar := 1e-12

variable (functions : Functions Scalar)

def Vector2d.norm (vector : Vector2d Scalar) : Scalar := functions.sqrt vector.squaredNorm

/-- `CoordTransform::wgs84_to_enu`, from an origin. -/
def wgs84ToEnu (originLat originLon lat lon sogKn cogDeg : Scalar) :
    Option (Vector2d Scalar × Vector2d Scalar) :=
  (functions.forward originLat originLon lat lon).map fun position =>
    let speedMs := sogKn * kKnToMs
    let cogRad := cogDeg * functions.degToRad
    ({ east := position.1, north := position.2 },
      { east := speedMs * functions.sin cogRad, north := speedMs * functions.cos cogRad })

/-- Through the water and with the current. -/
def ownVelocity (own : OwnShip Scalar) : Vector2d Scalar :=
  let headingRad := own.headingDeg * functions.degToRad
  let currentRad := own.currentDirectionDeg * functions.degToRad
  let currentSpdMs := own.currentSpeedKn * kKnToMs
  let water : Vector2d Scalar :=
    { east := own.uWater * functions.sin headingRad + own.vWater * functions.cos headingRad
      north := own.uWater * functions.cos headingRad - own.vWater * functions.sin headingRad }
  let current : Vector2d Scalar :=
    { east := currentSpdMs * functions.sin currentRad
      north := currentSpdMs * functions.cos currentRad }
  water.add current

/-- `extrapolate_to_`. -/
def Target.extrapolateTo (target : Target Scalar) (time : Int) : Target Scalar :=
  let dt := functions.seconds (time - target.stamp)
  let speedMs := target.sogKn * kKnToMs
  let cogRad := target.cogDeg * functions.degToRad
  let de := speedMs * functions.sin cogRad * dt
  let dn := speedMs * functions.cos cogRad * dt
  let latRad := target.latitudeDeg * functions.degToRad
  { target with
    latitudeDeg := target.latitudeDeg + dn / kLatM
    longitudeDeg := target.longitudeDeg + de / (kLatM * functions.cos latRad)
    stamp := time }

/-- The closest approach of two straight tracks. One that lies in the past is now. -/
def closestApproach (relPos relVel : Vector2d Scalar) : CpaResult Scalar :=
  let relSpeedSq := relVel.squaredNorm
  if relSpeedSq < kEps then { cpaM := relPos.norm functions, tcpaS := 0.0 }
  else
    let tcpaS := -relPos.dot relVel / relSpeedSq
    if tcpaS < 0.0 then { cpaM := relPos.norm functions, tcpaS := 0.0 }
    else { cpaM := (relPos.add (relVel.scale tcpaS)).norm functions, tcpaS := tcpaS }

variable (config : Config Scalar)

/-- The factors on a separation. -/
def safeSeparation (zone : OddZone) (cpaM : Scalar) : Scalar :=
  let finalCpa := cpaM * config.safetyFactor
  if zone = .d then finalCpa * config.oddDMultiplier else finalCpa

/-- The two snapshots lie too far apart in time. -/
def misaligned (own : OwnShip Scalar) (target : Target Scalar) : Bool :=
  functions.abs (functions.seconds (own.stamp - target.stamp)) > config.maxAlignDtS

/-- The target is slower than what counts as moving. -/
def isStatic (target : Target Scalar) : Bool :=
  target.sogKn * kKnToMs < config.staticTargetSpeedMps

/-- The position and the velocity of the target against own ship, at the time of own ship. -/
def relativeMotion (own : OwnShip Scalar) (target : Target Scalar) :
    Option (Vector2d Scalar × Vector2d Scalar) := do
  let (ownPos, _) ←
    wgs84ToEnu functions own.latitudeDeg own.longitudeDeg own.latitudeDeg own.longitudeDeg
      own.sogKn own.cogDeg
  let aligned := target.extrapolateTo functions own.stamp
  let (tgtPos, tgtVel) ←
    wgs84ToEnu functions own.latitudeDeg own.longitudeDeg aligned.latitudeDeg
      aligned.longitudeDeg aligned.sogKn aligned.cogDeg
  return (tgtPos.sub ownPos, tgtVel.sub (ownVelocity functions own))

/-- `CpaTcpaCalculator::compute`. -/
def computeCpa (own : OwnShip Scalar) (target : Target Scalar) (zone : OddZone) :
    Option (CpaResult Scalar) :=
  if misaligned functions config own target then none
  else (relativeMotion functions own target).map fun (relPos, relVel) =>
    if isStatic config target then
      { cpaM := safeSeparation config zone (relPos.norm functions), tcpaS := 0.0 }
    else
      let approach := closestApproach functions relPos relVel
      { approach with cpaM := safeSeparation config zone approach.cpaM }

end Model

/-! ### Machine numbers -/

def ofLibraries (libs : Libraries) : Functions Float where
  sin := libs.math.sin
  cos := libs.math.cos
  sqrt := Float.sqrt
  abs := Float.abs
  seconds := M6.Colregs.seconds
  degToRad := kDegToRad
  forward := libs.forward

def ofOwnShip (own : OwnShipSnapshot) : OwnShip Float where
  sogKn := own.sogKn
  cogDeg := own.cogDeg
  headingDeg := own.headingDeg
  uWater := own.uWater
  vWater := own.vWater
  currentSpeedKn := own.currentSpeedKn
  currentDirectionDeg := own.currentDirectionDeg
  latitudeDeg := own.latitudeDeg
  longitudeDeg := own.longitudeDeg
  stamp := own.stamp

def ofTarget (target : TargetSnapshot) : Target Float where
  latitudeDeg := target.latitudeDeg
  longitudeDeg := target.longitudeDeg
  sogKn := target.sogKn
  cogDeg := target.cogDeg
  stamp := target.stamp

def ofConfig (config : CpaTcpaConfig) : Config Float where
  safetyFactor := config.safetyFactor
  oddDMultiplier := config.oddDMultiplier
  maxAlignDtS := config.maxAlignDtS
  staticTargetSpeedMps := config.staticTargetSpeedMps

def ofResult (result : M2.CpaResult) : CpaResult Float where
  cpaM := result.cpaM
  tcpaS := result.tcpaS

def ofVector (vector : M2.Vector2d) : Vector2d Float where
  east := vector.east
  north := vector.north

theorem ofResult_closestApproach (libs : Libraries) (relPos relVel : M2.Vector2d) :
    ofResult (M2.closestApproach relPos relVel) =
      closestApproach (ofLibraries libs) (ofVector relPos) (ofVector relVel) := by
  unfold M2.closestApproach
  by_cases stationary : relVel.squaredNorm < M2.kEps
  · exact (congrArg ofResult (if_pos stationary)).trans (if_pos stationary).symm
  refine ((congrArg ofResult (if_neg stationary)).trans ?_).trans (if_neg stationary).symm
  by_cases past : -relPos.dot relVel / relVel.squaredNorm < 0.0
  · exact (congrArg ofResult (if_pos past)).trans (if_pos past).symm
  · exact (congrArg ofResult (if_neg past)).trans (if_neg past).symm

/-- On machine numbers this is the calculator of the world model. -/
theorem ofResult_computeCpa (libs : Libraries) (config : CpaTcpaConfig) (own : OwnShipSnapshot)
    (target : TargetSnapshot) (zone : OddZone) :
    (M2.computeCpa libs config own target zone).map ofResult =
      computeCpa (ofLibraries libs) (ofConfig config) (ofOwnShip own) (ofTarget target) zone := by
  unfold M2.computeCpa computeCpa
  have aligned : M2.misaligned config own target =
      misaligned (ofLibraries libs) (ofConfig config) (ofOwnShip own) (ofTarget target) := rfl
  rw [← aligned]
  by_cases apart : M2.misaligned config own target = true
  · rw [if_pos apart, if_pos apart]
    rfl
  rw [if_neg apart, if_neg apart]
  unfold relativeMotion M2.wgs84ToEnu wgs84ToEnu
  -- the two read the same positions, and where the projection throws neither has a result
  show Option.map ofResult (Option.bind (Option.map _ (libs.forward own.latitudeDeg
      own.longitudeDeg own.latitudeDeg own.longitudeDeg)) _) =
    Option.map _ (Option.bind (Option.map _ (libs.forward own.latitudeDeg own.longitudeDeg
      own.latitudeDeg own.longitudeDeg)) _)
  cases libs.forward own.latitudeDeg own.longitudeDeg own.latitudeDeg own.longitudeDeg with
  | none => rfl
  | some ownPosition =>
    show Option.map ofResult (Option.bind (Option.map _ (libs.forward own.latitudeDeg
        own.longitudeDeg (target.extrapolateTo libs own.stamp).latitudeDeg
        (target.extrapolateTo libs own.stamp).longitudeDeg)) _) =
      Option.map _ (Option.bind (Option.map _ (libs.forward own.latitudeDeg own.longitudeDeg
        (target.extrapolateTo libs own.stamp).latitudeDeg
        (target.extrapolateTo libs own.stamp).longitudeDeg)) _)
    cases libs.forward own.latitudeDeg own.longitudeDeg
        (target.extrapolateTo libs own.stamp).latitudeDeg
        (target.extrapolateTo libs own.stamp).longitudeDeg with
    | none => rfl
    | some position =>
      by_cases still : (target.extrapolateTo libs own.stamp).sogKn * M2.kKnToMs <
          config.staticTargetSpeedMps
      · exact (congrArg (Option.map ofResult) (if_pos still)).trans
          (congrArg some (if_pos (decide_eq_true still))).symm
      · refine ((congrArg (Option.map ofResult) (if_neg still)).trans ?_).trans
          (congrArg some (if_neg (decide_eq_true_iff.not.mpr still))).symm
        exact congrArg (fun approach => some
            { approach with cpaM := safeSeparation (ofConfig config) zone approach.cpaM })
          (ofResult_closestApproach libs _ _)

/-! ### Straight tracks -/

noncomputable section

/-- The functions of the reals; the projection is that of a library. -/
def realFunctions (forward : ℝ → ℝ → ℝ → ℝ → Option (ℝ × ℝ)) : Functions ℝ where
  sin := Real.sin
  cos := Real.cos
  sqrt := Real.sqrt
  abs := fun value => |value|
  seconds := fun nanoseconds => nanoseconds / 1000000000.0
  degToRad := Real.pi / 180.0
  forward := forward

/-- The separation of two straight tracks after a time. -/
def separationAt (relPos relVel : Vector2d ℝ) (time : ℝ) : ℝ :=
  √(relPos.add (relVel.scale time)).squaredNorm

/-- The time is one from now on at which the two come closest. -/
def IsClosest (relPos relVel : Vector2d ℝ) (time : ℝ) : Prop :=
  0 ≤ time ∧ ∀ later, 0 ≤ later → separationAt relPos relVel time ≤ separationAt relPos relVel later

section Tracks

variable {relPos relVel : Vector2d ℝ}

theorem squaredNorm_nonneg (vector : Vector2d ℝ) : 0 ≤ vector.squaredNorm :=
  add_nonneg (mul_self_nonneg _) (mul_self_nonneg _)

theorem separationAt_zero : separationAt relPos relVel 0 = √relPos.squaredNorm := by
  unfold separationAt Vector2d.add Vector2d.scale
  rw [mul_zero, mul_zero, add_zero, add_zero]

/-- The square of the separation is a parabola in time. -/
theorem squaredNorm_add_scale (time : ℝ) : (relPos.add (relVel.scale time)).squaredNorm =
    relPos.squaredNorm + 2 * time * relPos.dot relVel + time ^ 2 * relVel.squaredNorm := by
  unfold Vector2d.squaredNorm Vector2d.dot Vector2d.add Vector2d.scale
  ring

/-- Tracks that do not close in are closest now. -/
theorem isClosest_of_opening (opening : 0 ≤ relPos.dot relVel) : IsClosest relPos relVel 0 := by
  refine ⟨le_rfl, fun later nonneg => Real.sqrt_le_sqrt ?_⟩
  rw [squaredNorm_add_scale, squaredNorm_add_scale]
  have approach := mul_nonneg nonneg opening
  have spread := mul_nonneg (sq_nonneg later) (squaredNorm_nonneg relVel)
  linarith

/-- Tracks that close in are closest where the parabola has its vertex. -/
theorem isClosest_of_vertex {time : ℝ} (nonneg : 0 ≤ time)
    (vertex : time * relVel.squaredNorm = -relPos.dot relVel) : IsClosest relPos relVel time := by
  refine ⟨nonneg, fun later _ => Real.sqrt_le_sqrt ?_⟩
  rw [squaredNorm_add_scale, squaredNorm_add_scale]
  have away := mul_nonneg (sq_nonneg (later - time)) (squaredNorm_nonneg relVel)
  linear_combination away + 2 * (time - later) * vertex

/-- A separation shrinks by no more than the way that is made against each other. -/
theorem separationAt_ge {speed later : ℝ} (slow : √relVel.squaredNorm ≤ speed)
    (after : 0 ≤ later) :
    separationAt relPos relVel 0 - speed * later ≤ separationAt relPos relVel later := by
  have position := Real.sq_sqrt (squaredNorm_nonneg relPos)
  have velocity := Real.sq_sqrt (squaredNorm_nonneg relVel)
  have product : 0 ≤ √relPos.squaredNorm * √relVel.squaredNorm :=
    mul_nonneg (Real.sqrt_nonneg _) (Real.sqrt_nonneg _)
  -- the two vectors are at most opposite
  have opposite : -(√relPos.squaredNorm * √relVel.squaredNorm) ≤ relPos.dot relVel := by
    refine (abs_le_of_sq_le_sq' ?_ product).1
    rw [mul_pow, position, velocity]
    unfold Vector2d.squaredNorm Vector2d.dot
    linear_combination sq_nonneg (relPos.east * relVel.north - relPos.north * relVel.east)
  have shrinks : separationAt relPos relVel 0 - √relVel.squaredNorm * later ≤
      separationAt relPos relVel later := by
    rw [separationAt_zero]
    refine Real.le_sqrt_of_sq_le ?_
    rw [squaredNorm_add_scale]
    have turned := mul_le_mul_of_nonneg_left opposite after
    linear_combination position + later ^ 2 * velocity + 2 * turned
  have way := mul_le_mul_of_nonneg_right slow after
  linarith

end Tracks

/-! ### What is computed -/

section Computed

variable {forward : ℝ → ℝ → ℝ → ℝ → Option (ℝ × ℝ)} {relPos relVel : Vector2d ℝ}

/-- The tracks close in, so slowly that they count as standing against each other. -/
def SlowApproach (relPos relVel : Vector2d ℝ) : Prop :=
  relVel.squaredNorm < kEps ∧ relPos.dot relVel < 0

/-- What is computed is the separation at the time that is computed. -/
theorem closestApproach_cpaM :
    (closestApproach (realFunctions forward) relPos relVel).cpaM =
      separationAt relPos relVel
        (closestApproach (realFunctions forward) relPos relVel).tcpaS := by
  have zero : (0.0 : ℝ) = 0 := by norm_num
  unfold closestApproach
  dsimp only
  split_ifs with stationary past
  · exact (separationAt_zero.symm.trans (congrArg _ zero.symm))
  · exact (separationAt_zero.symm.trans (congrArg _ zero.symm))
  · rfl

/-- The time that is computed is one of the closest approach, except on a slow approach. -/
theorem isClosest_closestApproach (notSlow : ¬ SlowApproach relPos relVel) :
    IsClosest relPos relVel (closestApproach (realFunctions forward) relPos relVel).tcpaS := by
  have zero : (0.0 : ℝ) = 0 := by norm_num
  unfold closestApproach
  dsimp only
  rw [zero]
  split_ifs with stationary past
  · exact isClosest_of_opening (not_lt.mp fun closing => notSlow ⟨stationary, closing⟩)
  · have moving : 0 < relVel.squaredNorm := by
      refine lt_of_lt_of_le ?_ (not_lt.mp stationary)
      unfold kEps
      norm_num
    refine isClosest_of_opening (le_of_lt ?_)
    rwa [div_lt_iff₀ moving, zero_mul, neg_lt_zero] at past
  · have moving : relVel.squaredNorm ≠ 0 := by
      refine (lt_of_lt_of_le ?_ (not_lt.mp stationary)).ne'
      unfold kEps
      norm_num
    exact isClosest_of_vertex (not_lt.mp past) (div_mul_cancel₀ _ moving)

theorem closestApproach_of_slow (slow : SlowApproach relPos relVel) :
    (closestApproach (realFunctions forward) relPos relVel).tcpaS = 0 := by
  unfold closestApproach
  dsimp only
  rw [if_pos slow.1]
  norm_num

/-- A millionth of a metre a second is the speed below which tracks count as standing. -/
theorem sqrt_lt_of_slow (slow : SlowApproach relPos relVel) :
    √relVel.squaredNorm ≤ 1 / 10 ^ 6 := by
  refine (Real.sqrt_le_left (by norm_num)).mpr (slow.1.le.trans ?_)
  unfold kEps
  norm_num

end Computed

/-! ### The law of the calculator -/

section Law

/-- The factor on a separation in a zone. -/
def factorOf (config : Config ℝ) (zone : OddZone) : ℝ :=
  if zone = .d then config.safetyFactor * config.oddDMultiplier else config.safetyFactor

theorem safeSeparation_eq (config : Config ℝ) (zone : OddZone) (cpaM : ℝ) :
    safeSeparation config zone cpaM = cpaM * factorOf config zone := by
  unfold safeSeparation factorOf
  dsimp only
  split_ifs
  · exact mul_assoc _ _ _
  · rfl

/-- What a result tells about two straight tracks. -/
structure ApproachLaw (relPos relVel : Vector2d ℝ) (factor : ℝ) (result : CpaResult ℝ) :
    Prop where
  /-- The closest approach is the separation at the time of the result, times the factor. -/
  cpa : result.cpaM = separationAt relPos relVel result.tcpaS * factor
  /-- The tracks come closest at that time, except on a slow approach. -/
  closest : ¬ SlowApproach relPos relVel → IsClosest relPos relVel result.tcpaS
  /-- So they are never closer than the result less its factor. -/
  bound : ¬ SlowApproach relPos relVel → 0 < factor → ∀ later, 0 ≤ later →
    result.cpaM / factor ≤ separationAt relPos relVel later
  /-- On a slow approach the time is now, and the tracks come closer by no more than a millionth
  of a metre a second. -/
  slow : SlowApproach relPos relVel → result.tcpaS = 0 ∧ ∀ later, 0 ≤ later →
    separationAt relPos relVel 0 - 1 / 10 ^ 6 * later ≤ separationAt relPos relVel later

theorem approachLaw (forward : ℝ → ℝ → ℝ → ℝ → Option (ℝ × ℝ)) (relPos relVel : Vector2d ℝ)
    (config : Config ℝ) (zone : OddZone) :
    ApproachLaw relPos relVel (factorOf config zone)
      { closestApproach (realFunctions forward) relPos relVel with
        cpaM := safeSeparation config zone
          (closestApproach (realFunctions forward) relPos relVel).cpaM } where
  cpa := by rw [safeSeparation_eq, closestApproach_cpaM]
  closest := isClosest_closestApproach
  bound notSlow positive later after := by
    rw [safeSeparation_eq, closestApproach_cpaM, mul_div_cancel_right₀ _ positive.ne']
    exact (isClosest_closestApproach notSlow).2 later after
  slow slow := ⟨closestApproach_of_slow slow, fun _ after =>
    separationAt_ge (sqrt_lt_of_slow slow) after⟩

/-- Where the projection has the two positions, there is a lawful result. -/
theorem exists_lawful {forward : ℝ → ℝ → ℝ → ℝ → Option (ℝ × ℝ)} {config : Config ℝ}
    {own : OwnShip ℝ} {target : Target ℝ} (zone : OddZone) {relPos relVel : Vector2d ℝ}
    (aligned : misaligned (realFunctions forward) config own target = false)
    (moving : isStatic config target = false)
    (motion : relativeMotion (realFunctions forward) own target = some (relPos, relVel)) :
    ∃ result, computeCpa (realFunctions forward) config own target zone = some result ∧
      ApproachLaw relPos relVel (factorOf config zone) result := by
  refine ⟨_, ?_, approachLaw forward relPos relVel config zone⟩
  unfold computeCpa
  rw [if_neg (by rw [aligned]; exact Bool.false_ne_true), motion]
  exact congrArg some (if_neg (by rw [moving]; exact Bool.false_ne_true))

/-- For every ship and every target that is aligned in time and not static, the calculator has a
result exactly where the projection has the two positions, and the result is lawful. -/
theorem computeCpa_lawful (forward : ℝ → ℝ → ℝ → ℝ → Option (ℝ × ℝ)) (config : Config ℝ)
    (own : OwnShip ℝ) (target : Target ℝ) (zone : OddZone)
    (aligned : misaligned (realFunctions forward) config own target = false)
    (moving : isStatic config target = false) :
    match relativeMotion (realFunctions forward) own target with
    | none => computeCpa (realFunctions forward) config own target zone = none
    | some (relPos, relVel) => ∃ result,
        computeCpa (realFunctions forward) config own target zone = some result ∧
          ApproachLaw relPos relVel (factorOf config zone) result := by
  cases motion : relativeMotion (realFunctions forward) own target with
  | none =>
    unfold computeCpa
    rw [if_neg (by rw [aligned]; exact Bool.false_ne_true), motion]
    rfl
  | some pair => exact exists_lawful zone aligned moving motion

/-! ### Targets on their way south -/

/-- A plane in which a degree of latitude and one of longitude are as long as at the equator. -/
def equator (originLat originLon lat lon : ℝ) : Option (ℝ × ℝ) :=
  some ((lon - originLon) * 111320, (lat - originLat) * 111320)

def atRest : OwnShip ℝ where
  sogKn := 0
  cogDeg := 0
  headingDeg := 0
  uWater := 0
  vWater := 0
  currentSpeedKn := 0
  currentDirectionDeg := 0
  latitudeDeg := 0
  longitudeDeg := 0
  stamp := 0

/-- A target one degree to the north on its way south. -/
def southbound (sogKn : ℝ) : Target ℝ where
  latitudeDeg := 1
  longitudeDeg := 0
  sogKn := sogKn
  cogDeg := 180.0
  stamp := 0

def plain : Config ℝ where
  safetyFactor := 1
  oddDMultiplier := 1.5
  maxAlignDtS := 1
  staticTargetSpeedMps := 0

theorem southbound_aligned (sogKn : ℝ) :
    misaligned (realFunctions equator) plain atRest (southbound sogKn) = false := by
  refine decide_eq_false ?_
  unfold realFunctions atRest southbound plain
  norm_num

theorem southbound_moving {sogKn : ℝ} (ahead : 0 ≤ sogKn) :
    isStatic plain (southbound sogKn) = false := by
  have knots : (0 : ℝ) ≤ kKnToMs := by unfold kKnToMs; norm_num
  exact decide_eq_false (not_lt.mpr (mul_nonneg ahead knots))

theorem relativeMotion_southbound (sogKn : ℝ) :
    relativeMotion (realFunctions equator) atRest (southbound sogKn) =
      some ({ east := 0, north := 111320 }, { east := 0, north := -(sogKn * kKnToMs) }) := by
  have south : (180.0 : ℝ) * (Real.pi / 180.0) = Real.pi :=
    mul_div_cancel₀ Real.pi (by norm_num)
  unfold relativeMotion wgs84ToEnu Target.extrapolateTo ownVelocity realFunctions equator atRest
    southbound kLatM Vector2d.sub Vector2d.add
  simp only [south]
  simp

/-- At ten knots its approach is not slow, and the result is lawful. -/
theorem southbound_lawful :
    misaligned (realFunctions equator) plain atRest (southbound 10) = false ∧
      isStatic plain (southbound 10) = false ∧
      ¬ SlowApproach ⟨0, 111320⟩ ⟨0, -(10 * kKnToMs)⟩ ∧
      match relativeMotion (realFunctions equator) atRest (southbound 10) with
      | none => computeCpa (realFunctions equator) plain atRest (southbound 10) .a = none
      | some (relPos, relVel) => ∃ result,
          computeCpa (realFunctions equator) plain atRest (southbound 10) .a = some result ∧
            ApproachLaw relPos relVel (factorOf plain .a) result := by
  have moving : isStatic plain (southbound 10) = false := southbound_moving (by norm_num)
  refine ⟨southbound_aligned 10, moving, ?_, computeCpa_lawful equator plain atRest
    (southbound 10) .a (southbound_aligned 10) moving⟩
  unfold SlowApproach kEps kKnToMs Vector2d.squaredNorm Vector2d.dot
  norm_num

/-- A target that drifts by half a millionth of a metre a second. -/
def drifting : Target ℝ := southbound (0.0000005 / 0.514444)

theorem drifting_moving : isStatic plain drifting = false := southbound_moving (by norm_num)

theorem relativeMotion_drifting : relativeMotion (realFunctions equator) atRest drifting =
    some ({ east := 0, north := 111320 }, { east := 0, north := -(5 / 10 ^ 7) }) := by
  have slowly : (0.0000005 / 0.514444 : ℝ) * kKnToMs = 5 / 10 ^ 7 := by
    unfold kKnToMs
    norm_num
  unfold drifting
  rw [relativeMotion_southbound, slowly]

theorem drifting_slow : SlowApproach { east := 0, north := 111320 }
    { east := 0, north := -(5 / 10 ^ 7) } := by
  unfold SlowApproach kEps Vector2d.squaredNorm Vector2d.dot
  norm_num

/-- It would come to own ship, but the calculator takes its distance of now. -/
theorem not_closest_of_drifting :
    ¬ ∀ forward config own target zone,
      misaligned (realFunctions forward) config own target = false →
      isStatic config target = false →
      ∀ relPos relVel result,
        relativeMotion (realFunctions forward) own target = some (relPos, relVel) →
        computeCpa (realFunctions forward) config own target zone = some result →
        IsClosest relPos relVel result.tcpaS ∧
          result.cpaM = separationAt relPos relVel result.tcpaS * factorOf config zone := by
  intro law
  have aligned : misaligned (realFunctions equator) plain atRest drifting = false :=
    southbound_aligned _
  obtain ⟨result, computed, lawful⟩ :=
    exists_lawful .a aligned drifting_moving relativeMotion_drifting
  obtain ⟨⟨-, closest⟩, -⟩ := law equator plain atRest drifting .a aligned
    drifting_moving _ _ result relativeMotion_drifting computed
  -- the time of the meeting
  have met := closest (111320 / (5 / 10 ^ 7)) (by norm_num)
  rw [(lawful.slow drifting_slow).1] at met
  have apart : 0 < separationAt (⟨0, 111320⟩ : Vector2d ℝ) ⟨0, -(5 / 10 ^ 7)⟩ 0 := by
    rw [separationAt_zero]
    exact Real.sqrt_pos.mpr (by norm_num [Vector2d.squaredNorm, Vector2d.dot])
  have meets : separationAt (⟨0, 111320⟩ : Vector2d ℝ) ⟨0, -(5 / 10 ^ 7)⟩
      (111320 / (5 / 10 ^ 7)) = 0 := by
    refine Real.sqrt_eq_zero_of_nonpos (le_of_eq ?_)
    norm_num [Vector2d.add, Vector2d.scale, Vector2d.squaredNorm, Vector2d.dot]
  exact absurd (met.trans_eq meets) (not_le.mpr apart)

end Law

end

end MassL3.M2.Scalars
