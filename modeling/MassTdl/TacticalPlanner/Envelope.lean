/-
This file is about the envelope of the planner: the region that the ship can reach before the plan
ends, by her speed and by what she can turn. It is a sector in front of her. Its half angle is what
she can turn in the time that is left after a handover, with a rate of turn that has to grow first,
and at most a right angle. All of it is stated for any kind of number.

Over the reals no way of turning turns the ship farther than the envelope allows for, and some way
turns her as far, unless her rate of turn is above its limit to begin with. So a ship that waits for
the handover and then keeps her limits stays in the sector, for as long as she does not turn her
beam to where she was heading.
-/

import MassTdl.TacticalPlanner.FallbackTrack
import MassTdl.TacticalPlanner.TurnRadius

namespace MassL3.M5.Envelope

open Clamps
open Windows (Functions TrajectoryPoint)

/-! ### The envelope for any kind of number -/

structure Config (Scalar : Type) where
  sigmaPosM : Scalar
  rudderSlewDegS : Scalar
  takeoverLatencyS : Scalar

/-- The vertices are forward and to starboard of the ship. -/
structure EnvelopeRegion (Scalar : Type) where
  polygon : List (Scalar × Scalar)
  empty : Bool
  maxLateralStbdM : Scalar
  maxLateralPortM : Scalar
  maxForwardM : Scalar
  minForwardM : Scalar

section Model

variable {Scalar : Type} [Add Scalar] [Sub Scalar] [Mul Scalar] [Div Scalar] [Neg Scalar]
  [OfScientific Scalar] [LE Scalar] [LT Scalar] [DecidableLE Scalar] [DecidableLT Scalar]

variable (lib : Functions Scalar)

/-- The greatest change of the rate of turn. -/
def rDotMax (cfg : Config Scalar) : Scalar := lib.abs cfg.rudderSlewDegS * (lib.pi / 180.0)

def maxHeadingChangeRad (cfg : Config Scalar) (currentRRadS rotMaxRadS horizonS : Scalar) :
    Scalar :=
  if horizonS ≤ 0.0 then 0.0
  else if rDotMax lib cfg ≤ 0.0 ∨ rotMaxRadS ≤ 0.0 then lib.abs currentRRadS * horizonS
  else
    let r0 := lib.abs currentRRadS
    let tRamp := if rotMaxRadS > r0 then (rotMaxRadS - r0) / rDotMax lib cfg else 0.0
    if tRamp ≥ horizonS then r0 * horizonS + 0.5 * rDotMax lib cfg * horizonS * horizonS
    else
      r0 * tRamp + 0.5 * rDotMax lib cfg * tRamp * tRamp + rotMaxRadS * (horizonS - tRamp)

/-- The region of a ship at rest, which is a circle about her. -/
def restingEnvelope (sigmaPosM : Scalar) : EnvelopeRegion Scalar where
  polygon := (List.range 12).map fun step =>
    let angle := 2.0 * lib.pi * lib.count step / lib.count 12
    (sigmaPosM * lib.cos angle, sigmaPosM * lib.sin angle)
  empty := false
  maxLateralStbdM := sigmaPosM
  maxLateralPortM := -sigmaPosM
  maxForwardM := sigmaPosM
  minForwardM := -sigmaPosM

/-- A vertex of the front arc. -/
def arcVertex (frontX effectiveHalfAngle : Scalar) (step : Nat) : Scalar × Scalar :=
  let frac := lib.count step / lib.count 8
  let angle := -effectiveHalfAngle + 2.0 * effectiveHalfAngle * frac
  (frontX * lib.cos angle, frontX * lib.sin angle)

def buildSectorEnvelope (maxDpsiRad maxForwardM minForwardM sigmaPosM : Scalar) :
    EnvelopeRegion Scalar :=
  if maxForwardM ≤ 0.001 ∧ minForwardM ≤ 0.001 then restingEnvelope lib sigmaPosM
  else
    let effectiveHalfAngle := stdMin maxDpsiRad (lib.pi / 2.0)
    let lateralAtFront := maxForwardM * lib.sin effectiveHalfAngle
    { polygon := (0.0, -0.01) :: (0.0, 0.01) ::
        (List.range 9).map (arcVertex lib maxForwardM effectiveHalfAngle)
      empty := false
      maxLateralStbdM := lateralAtFront
      maxLateralPortM := -lateralAtFront
      maxForwardM := maxForwardM
      minForwardM := minForwardM }

/-- `effective_horizon_s`: what is left of the horizon after the handover. -/
def effectiveHorizonS (cfg : Config Scalar) (horizonS : Scalar) : Scalar :=
  stdMax 0.001 (stdMax horizonS 0.001 - stdMax 0.0 cfg.takeoverLatencyS)

def latencyDistM (cfg : Config Scalar) (ownShip : TrajectoryPoint Scalar) (horizonS : Scalar) :
    Scalar :=
  stdMax 0.0 ownShip.uMps * stdMin (stdMax 0.0 cfg.takeoverLatencyS) (stdMax horizonS 0.001)

/-- `max_forward_m`: how far the ship comes at her speed. -/
def forwardReachM (cfg : Config Scalar) (ownShip : TrajectoryPoint Scalar) (horizonS : Scalar) :
    Scalar :=
  stdMax 0.0 ownShip.uMps * effectiveHorizonS cfg horizonS + latencyDistM cfg ownShip horizonS

/-- `min_forward_m`: how far she comes if she slows down. -/
def slowedReachM (cfg : Config Scalar) (ownShip : TrajectoryPoint Scalar)
    (decelMaxMps2 horizonS : Scalar) : Scalar :=
  let speed := stdMax 0.0 ownShip.uMps
  let decel := stdMax 0.0 decelMaxMps2
  let effective := effectiveHorizonS cfg horizonS
  if decel > 0.0 then
    let timeToStop := speed / decel
    if timeToStop ≥ effective then
      latencyDistM cfg ownShip horizonS + 0.5 * (speed + (speed - decel * effective)) * effective
    else latencyDistM cfg ownShip horizonS + 0.5 * speed * timeToStop
  else forwardReachM cfg ownShip horizonS

def emptyEnvelope : EnvelopeRegion Scalar where
  polygon := []
  empty := true
  maxLateralStbdM := 0.0
  maxLateralPortM := 0.0
  maxForwardM := 0.0
  minForwardM := 0.0

def computeEnvelope (cfg : Config Scalar) (ownShip : TrajectoryPoint Scalar)
    (rotMaxRadS decelMaxMps2 dtS horizonS : Scalar) : EnvelopeRegion Scalar :=
  if horizonS ≤ 0.0 ∨ dtS ≤ 0.0 then emptyEnvelope
  else
    let maxDpsi := maxHeadingChangeRad lib cfg ownShip.rRadS rotMaxRadS
      (effectiveHorizonS cfg horizonS)
    let region := buildSectorEnvelope lib maxDpsi (forwardReachM cfg ownShip horizonS)
      (slowedReachM cfg ownShip decelMaxMps2 horizonS) cfg.sigmaPosM
    if region.polygon.length < 3 then { region with empty := true } else region

end Model

/-! ### Turns -/

section Turns

open Set

/-- The square of a ramp has the ramp as its derivative, also where it sets in. -/
theorem hasDerivAt_max_sq (value : ℝ) :
    HasDerivAt (fun shifted : ℝ => max 0 shifted ^ 2 / 2) (max 0 value) value := by
  rw [hasDerivAt_iff_isLittleO_nhds_zero]
  have quadratic : ∀ step : ℝ, ‖max 0 (value + step) ^ 2 / 2 - max 0 value ^ 2 / 2 -
      step • max 0 value‖ ≤ step ^ 2 := by
    intro step
    rw [Real.norm_eq_abs, abs_le, smul_eq_mul]
    rcases max_cases 0 (value + step) with ⟨first, below⟩ | ⟨first, above⟩ <;>
      rcases max_cases 0 value with ⟨second, low⟩ | ⟨second, high⟩ <;>
      rw [first, second] <;> constructor <;> nlinarith
  exact (Asymptotics.IsBigO.of_norm_le quadratic).trans_isLittleO
    (Asymptotics.isLittleO_pow_id one_lt_two)

/-- What a ship turns by whose rate of turn grows until it is the greatest. -/
noncomputable def swing (slew most start time : ℝ) : ℝ :=
  start * time + 0.5 * slew * (time ^ 2 - max 0 (time - (most - start) / slew) ^ 2)

theorem hasDerivAt_swing (slew most start time : ℝ) :
    HasDerivAt (swing slew most start) (start + slew * min time ((most - start) / slew)) time := by
  have ramp : time - max 0 (time - (most - start) / slew) = min time ((most - start) / slew) := by
    rcases le_total time ((most - start) / slew) with before | after
    · rw [min_eq_left before, max_eq_left (sub_nonpos.mpr before), sub_zero]
    · rw [min_eq_right after, max_eq_right (sub_nonneg.mpr after), sub_sub_cancel]
  have half : (0.5 : ℝ) = 1 / 2 := by norm_num
  have square : HasDerivAt (fun time : ℝ => time ^ 2 / 2) time time := by
    have power := (hasDerivAt_pow 2 time).div_const 2
    refine power.congr_deriv ?_
    norm_num
  have shifted := (hasDerivAt_max_sq (time - (most - start) / slew)).comp time
    ((hasDerivAt_id time).sub_const ((most - start) / slew))
  have whole := ((hasDerivAt_id time).const_mul start).add ((square.sub shifted).const_mul slew)
  have same : swing slew most start = fun time => start * time +
      slew * (time ^ 2 / 2 - max 0 (time - (most - start) / slew) ^ 2 / 2) := by
    funext time
    unfold swing
    rw [half]
    ring
  rw [same]
  refine whole.congr_deriv ?_
  rw [mul_one, mul_one, ramp]

theorem swing_zero {slew most start : ℝ} (able : 0 < slew) (steady : start ≤ most) :
    swing slew most start 0 = 0 := by
  have late := div_nonneg (sub_nonneg.mpr steady) able.le
  unfold swing
  rw [zero_sub, max_eq_left (neg_nonpos.mpr late)]
  ring

theorem swing_mono {slew most start first second : ℝ} (able : 0 < slew) (begun : 0 ≤ start)
    (steady : start ≤ most) (now : 0 ≤ first) (ordered : first ≤ second) :
    swing slew most start first ≤ swing slew most start second := by
  have late := div_nonneg (sub_nonneg.mpr steady) able.le
  have continuous : ContinuousOn (swing slew most start) (Ici 0) := fun time _ =>
    (hasDerivAt_swing slew most start time).continuousAt.continuousWithinAt
  refine monotoneOn_of_hasDerivWithinAt_nonneg (convex_Ici 0) continuous
    (fun time _ => (hasDerivAt_swing slew most start time).hasDerivWithinAt) (fun time inside => ?_)
    now (now.trans ordered) ordered
  exact add_nonneg begun (mul_nonneg able.le (le_min (interior_subset inside) late))

/-- The ways in which a ship can turn. -/
structure Turn (slew most start horizon : ℝ) where
  rate : ℝ → ℝ
  heading : ℝ → ℝ
  starts : rate 0 = start
  slews : ∀ first ∈ Icc 0 horizon, ∀ second ∈ Icc 0 horizon,
    |rate second - rate first| ≤ slew * |second - first|
  bounded : ∀ time ∈ Icc 0 horizon, |rate time| ≤ max |start| most
  turns : ∀ time ∈ Icc 0 horizon, HasDerivWithinAt heading (rate time) (Icc 0 horizon) time

variable {slew most start horizon time : ℝ}

namespace Turn

variable (turn : Turn slew most start horizon)

theorem abs_rate_le (able : 0 < slew) (steady : |start| ≤ most)
    (during : time ∈ Icc 0 horizon) :
    |turn.rate time| ≤ |start| + slew * min time ((most - |start|) / slew) := by
  have early : |turn.rate time| ≤ |start| + slew * time := by
    have slewed := turn.slews 0 ⟨le_rfl, during.1.trans during.2⟩ time during
    rw [turn.starts, sub_zero, abs_of_nonneg during.1] at slewed
    linarith [abs_sub_abs_le_abs_sub (turn.rate time) start]
  have late := turn.bounded time during
  rw [max_eq_right steady] at late
  rw [mul_min_of_nonneg _ _ able.le, mul_div_cancel₀ _ able.ne']
  exact le_trans (le_min early (by linarith)) (min_add_add_left _ _ _).le

/-- No way of turning turns her farther. -/
theorem abs_heading_sub_le (able : 0 < slew) (steady : |start| ≤ most)
    (during : time ∈ Icc 0 horizon) :
    |turn.heading time - turn.heading 0| ≤ swing slew most |start| time := by
  have continuous : ContinuousOn (fun time => turn.heading time - turn.heading 0)
      (Icc 0 horizon) := fun time inside =>
    ((turn.turns time inside).continuousWithinAt).sub continuousWithinAt_const
  have derivative : ∀ time ∈ Ico 0 horizon, HasDerivWithinAt
      (fun time => turn.heading time - turn.heading 0) (turn.rate time) (Ici time) time := by
    intro time inside
    have within := (turn.turns time ⟨inside.1, inside.2.le⟩).sub_const (turn.heading 0)
    exact within.mono_of_mem_nhdsWithin (Icc_mem_nhdsGE_of_mem inside)
  have begins : ‖turn.heading 0 - turn.heading 0‖ ≤ swing slew most |start| 0 := by
    rw [sub_self, norm_zero, swing_zero able steady]
  exact image_norm_le_of_norm_deriv_right_le_deriv_boundary continuous derivative begins
    (hasDerivAt_swing slew most |start|) (fun time inside =>
      turn.abs_rate_le able steady ⟨inside.1, inside.2.le⟩) during

/-- She keeps her rate of turn. -/
noncomputable def held (able : 0 < slew) : Turn slew most start horizon where
  rate := fun _ => start
  heading := fun time => start * time
  starts := rfl
  slews := fun first _ second _ => by
    rw [sub_self, abs_zero]
    exact mul_nonneg able.le (abs_nonneg _)
  bounded := fun _ _ => le_max_left _ _
  turns := fun time _ => by
    have linear := (hasDerivAt_id time).const_mul start
    rw [mul_one] at linear
    exact linear.hasDerivWithinAt

/-- She turns harder, to the side that she turns to already, until she can turn no harder. -/
noncomputable def hardest (able : 0 < slew) (steady : |start| ≤ most) {side : ℝ}
    (unit : |side| = 1) (same : side * |start| = start) : Turn slew most start horizon where
  rate := fun time => side * (|start| + slew * min time ((most - |start|) / slew))
  heading := fun time => side * swing slew most |start| time
  starts := by
    rw [min_eq_left (div_nonneg (sub_nonneg.mpr steady) able.le), mul_zero, add_zero, same]
  slews := fun first _ second _ => by
    rw [← mul_sub, add_sub_add_left_eq_sub, ← mul_sub, abs_mul, abs_mul, unit, one_mul,
      abs_of_pos able]
    exact mul_le_mul_of_nonneg_left (abs_inf_sub_inf_le_abs _ _ _) able.le
  bounded := fun time during => by
    have late := div_nonneg (sub_nonneg.mpr steady) able.le
    have grown := mul_nonneg able.le (le_min during.1 late)
    rw [abs_mul, unit, one_mul, max_eq_right steady,
      abs_of_nonneg (add_nonneg (abs_nonneg _) grown)]
    have most := mul_le_mul_of_nonneg_left (min_le_right time ((most - |start|) / slew)) able.le
    rw [mul_div_cancel₀ _ able.ne'] at most
    linarith
  turns := fun time _ =>
    ((hasDerivAt_swing slew most |start| time).const_mul side).hasDerivWithinAt

end Turn

theorem zero : (0.0 : ℝ) = 0 := by norm_num

theorem abs_eq (value : ℝ) : Windows.realFunctions.abs value = |value| := rfl

variable {cfg : Config ℝ} (able : 0 < rDotMax Windows.realFunctions cfg) (turnable : 0 < most)
  (later : 0 < horizon)

include able turnable later

theorem maxHeadingChangeRad_of_steady (steady : |start| ≤ most) :
    maxHeadingChangeRad Windows.realFunctions cfg start most horizon =
      swing (rDotMax Windows.realFunctions cfg) most |start| horizon := by
  have half : (0.5 : ℝ) = 1 / 2 := by norm_num
  unfold maxHeadingChangeRad swing
  rw [zero, half, abs_eq, if_neg (not_le.mpr later), if_neg (not_or.mpr ⟨not_le.mpr able,
    not_le.mpr turnable⟩)]
  generalize rDotMax Windows.realFunctions cfg = slew at able ⊢
  have ramp : (if most > |start| then (most - |start|) / slew else 0) =
      (most - |start|) / slew := by
    split_ifs with slower
    · rfl
    · rw [le_antisymm steady (not_lt.mp slower), sub_self, zero_div]
  have product : slew * ((most - |start|) / slew) = most - |start| :=
    mul_div_cancel₀ _ able.ne'
  dsimp only
  rw [ramp]
  generalize (most - |start|) / slew = tRamp at product ⊢
  split_ifs with long
  · rw [max_eq_left (sub_nonpos.mpr long)]
    ring
  · rw [max_eq_right (sub_nonneg.mpr (not_le.mp long).le)]
    linear_combination -(horizon - tRamp) * product

theorem maxHeadingChangeRad_of_hard (hard : most < |start|) :
    maxHeadingChangeRad Windows.realFunctions cfg start most horizon = most * horizon := by
  unfold maxHeadingChangeRad
  rw [zero, abs_eq, if_neg (not_le.mpr later), if_neg (not_or.mpr ⟨not_le.mpr able,
    not_le.mpr turnable⟩)]
  dsimp only
  rw [if_neg (not_lt.mpr hard.le), if_neg (not_le.mpr later)]
  ring

/-- If she already turns harder than she can turn for long, then less is allowed for than she turns
by doing nothing. -/
theorem maxHeadingChangeRad_lt_held (hard : most < |start|) :
    maxHeadingChangeRad Windows.realFunctions cfg start most horizon <
      |(Turn.held able : Turn (rDotMax Windows.realFunctions cfg) most start horizon).heading
          horizon -
        (Turn.held able : Turn (rDotMax Windows.realFunctions cfg) most start horizon).heading
          0| := by
  dsimp only [Turn.held]
  rw [mul_zero, sub_zero, abs_mul, abs_of_pos later,
    maxHeadingChangeRad_of_hard able turnable later hard]
  exact mul_lt_mul_of_pos_right hard later

/-- The turn that the envelope allows for is the greatest that the ship can make, unless she
already turns harder than she can turn for long. Then she turns farther by doing nothing. -/
theorem isGreatest_maxHeadingChangeRad_iff :
    (IsGreatest {turned | ∃ turn : Turn (rDotMax Windows.realFunctions cfg) most start horizon,
          turned = |turn.heading horizon - turn.heading 0|}
        (maxHeadingChangeRad Windows.realFunctions cfg start most horizon) ↔ |start| ≤ most) ∧
      (most < |start| → maxHeadingChangeRad Windows.realFunctions cfg start most horizon <
        |(Turn.held able : Turn (rDotMax Windows.realFunctions cfg) most start horizon).heading
            horizon -
          (Turn.held able : Turn (rDotMax Windows.realFunctions cfg) most start horizon).heading
            0|) := by
  have last : horizon ∈ Icc 0 horizon := ⟨later.le, le_rfl⟩
  refine ⟨⟨fun greatest => ?_, fun steady => ?_⟩,
    maxHeadingChangeRad_lt_held able turnable later⟩
  · by_contra hard
    have more := maxHeadingChangeRad_lt_held able turnable later (not_le.mp hard)
    exact absurd (greatest.2 ⟨Turn.held able, rfl⟩) (not_le.mpr more)
  · rw [maxHeadingChangeRad_of_steady able turnable later steady]
    constructor
    · obtain ⟨side, unit, same⟩ : ∃ side : ℝ, |side| = 1 ∧ side * |start| = start := by
        rcases abs_cases start with ⟨same, -⟩ | ⟨same, -⟩
        · exact ⟨1, abs_one, by rw [same, one_mul]⟩
        · exact ⟨-1, by rw [abs_neg, abs_one], by rw [same]; ring⟩
      have grown := swing_mono able (abs_nonneg start) steady le_rfl later.le
      rw [swing_zero able steady] at grown
      refine ⟨Turn.hardest able steady unit same, ?_⟩
      dsimp only [Turn.hardest]
      rw [swing_zero able steady, mul_zero, sub_zero, abs_mul, unit, one_mul, abs_of_nonneg grown]
    · rintro _ ⟨turn, rfl⟩
      exact turn.abs_heading_sub_le able steady last

end Turns

/-! ### Voyages -/

section Voyages

open Set
open Windows (abeam ahead)

/-- How far a point is ahead of a direction that is turned. -/
theorem ahead_add (direction turned : ℝ) (point : ℝ × ℝ) :
    ahead (direction + turned) point =
      ahead direction point * Real.cos turned + abeam direction point * Real.sin turned := by
  simp only [ahead, abeam, Real.cos_add, Real.sin_add]
  ring

/-- What is abeam is ahead of a direction a right angle farther. -/
theorem abeam_eq_ahead (direction : ℝ) (point : ℝ × ℝ) :
    abeam direction point = ahead (direction + Real.pi / 2) point := by
  rw [ahead_add, Real.cos_pi_div_two, Real.sin_pi_div_two, mul_zero, mul_one, zero_add]

/-- What lies in front of the ship, to both sides as far as she can turn. -/
structure InSector (radius halfAngle : ℝ) (place : ℝ × ℝ) : Prop where
  near : ∀ direction, ahead direction place ≤ radius
  forward : 0 ≤ place.1
  left : 0 ≤ abeam (-halfAngle) place
  right : abeam halfAngle place ≤ 0

variable {cfg : Config ℝ} {ownShip : TrajectoryPoint ℝ} {rotMaxRadS decelMaxMps2 dtS horizonS : ℝ}

variable (cfg ownShip rotMaxRadS horizonS) in
/-- How far she can turn before the plan ends. -/
noncomputable def headingReach : ℝ :=
  maxHeadingChangeRad Windows.realFunctions cfg ownShip.rRadS rotMaxRadS
    (effectiveHorizonS cfg horizonS)

variable (ownShip) in
/-- A place as it is seen from the ship. -/
noncomputable def bodyFrame (place : ℝ × ℝ) : ℝ × ℝ :=
  (ahead ownShip.psiRad (place - (ownShip.xM, ownShip.yM)),
    abeam ownShip.psiRad (place - (ownShip.xM, ownShip.yM)))

variable (cfg) in
/-- How long she waits for the handover. -/
noncomputable def latency : ℝ := stdMax 0.0 cfg.takeoverLatencyS

variable (ownShip) in
noncomputable def presentSpeed : ℝ := stdMax 0.0 ownShip.uMps

variable (cfg ownShip rotMaxRadS horizonS) in
/-- What the ship does until the plan ends: she goes straight on until the handover, and then turns
within her limits. -/
structure Voyage where
  turn : Turn (rDotMax Windows.realFunctions cfg) rotMaxRadS ownShip.rRadS
    (effectiveHorizonS cfg horizonS)
  place : ℝ → ℝ × ℝ
  speed : ℝ → ℝ
  starts : place 0 = (ownShip.xM, ownShip.yM)
  faces : turn.heading 0 = ownShip.psiRad
  slow : ∀ time ∈ Icc 0 horizonS, 0 ≤ speed time ∧ speed time ≤ presentSpeed ownShip
  moves : ∀ time ∈ Icc 0 horizonS,
    HasDerivWithinAt (fun time => (place time).1)
        (speed time * Real.cos (turn.heading (max 0 (time - latency cfg)))) (Icc 0 horizonS) time ∧
      HasDerivWithinAt (fun time => (place time).2)
        (speed time * Real.sin (turn.heading (max 0 (time - latency cfg)))) (Icc 0 horizonS) time

theorem stdMax_zero_nonneg (value : ℝ) : 0 ≤ stdMax 0.0 value := by
  rw [stdMax_eq_max]
  exact le_max_of_le_left (by norm_num)

variable (cfg horizonS) in
theorem effectiveHorizonS_pos : 0 < effectiveHorizonS cfg horizonS := by
  unfold effectiveHorizonS
  rw [stdMax_eq_max]
  exact lt_max_of_lt_left (by norm_num)

variable (cfg horizonS) in
theorem sub_latency_le : horizonS - latency cfg ≤ effectiveHorizonS cfg horizonS := by
  unfold effectiveHorizonS latency
  rw [stdMax_eq_max 0.001, stdMax_eq_max horizonS]
  exact le_max_of_le_right (sub_le_sub_right (le_max_left _ _) _)

/-- Neither the floor of the horizon nor the latency makes her reach any shorter. -/
theorem le_forwardReachM {time : ℝ} (before : time ≤ horizonS) :
    presentSpeed ownShip * time ≤ forwardReachM cfg ownShip horizonS := by
  have left := sub_latency_le cfg horizonS
  have positive := effectiveHorizonS_pos cfg horizonS
  have floored : horizonS ≤ stdMax horizonS 0.001 := by
    rw [stdMax_eq_max]
    exact le_max_left _ _
  unfold latency at left
  unfold forwardReachM latencyDistM presentSpeed
  rw [← mul_add, stdMin_eq_min]
  refine mul_le_mul_of_nonneg_left ?_ (stdMax_zero_nonneg _)
  rcases min_cases (stdMax 0.0 cfg.takeoverLatencyS) (stdMax horizonS 0.001) with
    ⟨same, -⟩ | ⟨same, -⟩ <;> rw [same] <;> linarith

theorem ahead_bodyFrame (direction : ℝ) (place : ℝ × ℝ) :
    ahead direction (bodyFrame ownShip place) =
      ahead (ownShip.psiRad + direction) (place - (ownShip.xM, ownShip.yM)) :=
  (ahead_add _ _ _).symm

/-- What never falls is at the end no less than at the beginning. -/
theorem le_of_slopes_nonneg {value slope : ℝ → ℝ} {finish : ℝ} (later : 0 ≤ finish)
    (slopes : ∀ time ∈ Icc 0 finish, HasDerivWithinAt value (slope time) (Icc 0 finish) time)
    (nonneg : ∀ time ∈ Icc 0 finish, 0 ≤ slope time) : value 0 ≤ value finish := by
  have rises : MonotoneOn value (Icc 0 finish) :=
    monotoneOn_of_hasDerivWithinAt_nonneg (convex_Icc 0 finish)
      (fun time inside => (slopes time inside).continuousWithinAt)
      (fun time inside => (slopes time (interior_subset inside)).mono interior_subset)
      (fun time inside => nonneg time (interior_subset inside))
  exact rises ⟨le_rfl, later⟩ ⟨later, le_rfl⟩ later

theorem computeEnvelope_eq (later : 0 < horizonS) (stepping : 0 < dtS) :
    computeEnvelope Windows.realFunctions cfg ownShip rotMaxRadS decelMaxMps2 dtS horizonS =
      buildSectorEnvelope Windows.realFunctions (headingReach cfg ownShip rotMaxRadS horizonS)
        (forwardReachM cfg ownShip horizonS) (slowedReachM cfg ownShip decelMaxMps2 horizonS)
        cfg.sigmaPosM := by
  have asked : ¬(horizonS ≤ 0.0 ∨ dtS ≤ 0.0) := by
    rw [zero, not_or, not_le, not_le]
    exact ⟨later, stepping⟩
  unfold computeEnvelope
  rw [if_neg asked]
  dsimp only
  refine if_neg (not_lt.mpr ?_)
  unfold buildSectorEnvelope
  split_ifs
  · simp [restingEnvelope]
  · simp

namespace InSector

variable {radius halfAngle : ℝ} {place : ℝ × ℝ}

theorem fst_le (within : InSector radius halfAngle place) : place.1 ≤ radius := by
  have straight := within.near 0
  rwa [ahead, Real.cos_zero, Real.sin_zero, mul_one, mul_zero, add_zero] at straight

/-- No place of the sector is farther to a side than the ends of the arc. -/
theorem abs_snd_le (within : InSector radius halfAngle place) (turns : 0 ≤ halfAngle)
    (atMost : halfAngle ≤ Real.pi / 2) : |place.2| ≤ radius * Real.sin halfAngle := by
  have half := Real.pi_pos
  have sine : 0 ≤ Real.sin halfAngle := Real.sin_nonneg_of_nonneg_of_le_pi turns (by linarith)
  have cosine : 0 ≤ Real.cos halfAngle := Real.cos_nonneg_of_mem_Icc ⟨by linarith, atMost⟩
  have starboard := mul_le_mul_of_nonneg_right (within.near halfAngle) sine
  have port := mul_le_mul_of_nonneg_right (within.near (-halfAngle)) sine
  have right := mul_nonpos_of_nonpos_of_nonneg within.right cosine
  have left := mul_nonneg within.left cosine
  have whole := Real.cos_sq_add_sin_sq halfAngle
  simp only [ahead, abeam, Real.sin_neg, Real.cos_neg] at starboard port right left
  refine abs_le.mpr ⟨?_, ?_⟩
  · linear_combination port + left + place.2 * whole
  · linear_combination starboard + right - place.2 * whole

end InSector

namespace Voyage

variable (voyage : Voyage cfg ownShip rotMaxRadS horizonS) {time : ℝ}

noncomputable def heading (time : ℝ) : ℝ := voyage.turn.heading (max 0 (time - latency cfg))

theorem hasDerivWithinAt_ahead (direction : ℝ) (during : time ∈ Icc 0 horizonS) :
    HasDerivWithinAt
      (fun time => ahead direction (voyage.place time - (ownShip.xM, ownShip.yM)))
      (voyage.speed time * Real.cos (voyage.heading time - direction)) (Icc 0 horizonS) time := by
  obtain ⟨north, east⟩ := voyage.moves time during
  have whole := ((north.sub_const ownShip.xM).mul_const (Real.cos direction)).add
    ((east.sub_const ownShip.yM).mul_const (Real.sin direction))
  refine whole.congr_deriv ?_
  rw [Real.cos_sub, heading]
  ring

theorem ahead_start (direction : ℝ) :
    ahead direction (voyage.place 0 - (ownShip.xM, ownShip.yM)) = 0 := by
  rw [voyage.starts, sub_self]
  simp [ahead]

/-- As long as a direction is never abaft her beam, she gains way in it. -/
theorem ahead_nonneg (during : time ∈ Icc 0 horizonS) {direction : ℝ}
    (facing : ∀ earlier ∈ Icc 0 time, |voyage.heading earlier - direction| ≤ Real.pi / 2) :
    0 ≤ ahead direction (voyage.place time - (ownShip.xM, ownShip.yM)) := by
  have earlier : Icc 0 time ⊆ Icc 0 horizonS := Icc_subset_Icc_right during.2
  rw [← voyage.ahead_start direction]
  exact le_of_slopes_nonneg during.1
    (fun time inside => (voyage.hasDerivWithinAt_ahead direction (earlier inside)).mono earlier)
    (fun time inside => mul_nonneg (voyage.slow time (earlier inside)).1
      (Real.cos_nonneg_of_mem_Icc (abs_le.mp (facing time inside))))

/-- In no direction does she come farther than her speed takes her. -/
theorem ahead_le (during : time ∈ Icc 0 horizonS) (direction : ℝ) :
    ahead direction (voyage.place time - (ownShip.xM, ownShip.yM)) ≤
      presentSpeed ownShip * time := by
  have earlier : Icc 0 time ⊆ Icc 0 horizonS := Icc_subset_Icc_right during.2
  have behind : ∀ now ∈ Icc 0 time, 0 ≤ presentSpeed ownShip * 1 -
      voyage.speed now * Real.cos (voyage.heading now - direction) := by
    intro now inside
    obtain ⟨nonneg, slow⟩ := voyage.slow now (earlier inside)
    have along := mul_le_mul_of_nonneg_left
      (Real.cos_le_one (voyage.heading now - direction)) nonneg
    linarith
  have gained := le_of_slopes_nonneg during.1 (fun time inside =>
    ((hasDerivAt_id time).const_mul (presentSpeed ownShip)).hasDerivWithinAt.sub
      ((voyage.hasDerivWithinAt_ahead direction (earlier inside)).mono earlier)) behind
  have start := voyage.ahead_start direction
  simp only [Pi.sub_apply, id_eq, mul_zero] at gained
  linarith

variable (able : 0 < rDotMax Windows.realFunctions cfg) (turnable : 0 < rotMaxRadS)
  (steady : |ownShip.rRadS| ≤ rotMaxRadS) (during : time ∈ Icc 0 horizonS)

include able turnable steady during

theorem abs_heading_sub_le :
    |voyage.heading time - ownShip.psiRad| ≤ headingReach cfg ownShip rotMaxRadS horizonS := by
  have inside : max 0 (time - latency cfg) ∈ Icc 0 (effectiveHorizonS cfg horizonS) :=
    ⟨le_max_left _ _, max_le (effectiveHorizonS_pos cfg horizonS).le
      ((sub_le_sub_right during.2 _).trans (sub_latency_le cfg horizonS))⟩
  unfold headingReach
  rw [maxHeadingChangeRad_of_steady able turnable (effectiveHorizonS_pos cfg horizonS) steady,
    ← voyage.faces]
  exact (voyage.turn.abs_heading_sub_le able steady inside).trans
    (swing_mono able (abs_nonneg _) steady inside.1 inside.2)

variable (facing : ∀ earlier ∈ Icc 0 time,
  |voyage.heading earlier - ownShip.psiRad| ≤ Real.pi / 2)

include facing

/-- As long as she keeps her beam to where she was heading, she stays in the sector. -/
theorem inSector :
    InSector (forwardReachM cfg ownShip horizonS)
      (min (headingReach cfg ownShip rotMaxRadS horizonS) (Real.pi / 2))
      (bodyFrame ownShip (voyage.place time)) := by
  have turned : ∀ earlier ∈ Icc 0 time, |voyage.heading earlier - ownShip.psiRad| ≤
      min (headingReach cfg ownShip rotMaxRadS horizonS) (Real.pi / 2) := fun earlier inside =>
    le_min (voyage.abs_heading_sub_le able turnable steady ⟨inside.1, inside.2.trans during.2⟩)
      (facing earlier inside)
  have atMost : min (headingReach cfg ownShip rotMaxRadS horizonS) (Real.pi / 2) ≤ Real.pi / 2 :=
    min_le_right _ _
  generalize min (headingReach cfg ownShip rotMaxRadS horizonS) (Real.pi / 2) = halfAngle
    at turned atMost ⊢
  -- She gains way in every direction that she cannot turn her beam to.
  have beside : ∀ offset, |offset| ≤ Real.pi / 2 - halfAngle →
      0 ≤ ahead offset (bodyFrame ownShip (voyage.place time)) := by
    intro offset small
    rw [ahead_bodyFrame]
    refine voyage.ahead_nonneg during fun earlier inside => ?_
    calc |voyage.heading earlier - (ownShip.psiRad + offset)|
        = |(voyage.heading earlier - ownShip.psiRad) - offset| := by rw [sub_sub]
      _ ≤ |voyage.heading earlier - ownShip.psiRad| + |offset| := abs_sub _ _
      _ ≤ Real.pi / 2 := by linarith [turned earlier inside]
  constructor
  case near =>
    intro direction
    rw [ahead_bodyFrame]
    exact (voyage.ahead_le during _).trans (le_forwardReachM during.2)
  case forward => exact voyage.ahead_nonneg during facing
  case left =>
    rw [abeam_eq_ahead]
    exact beside _ (abs_le.mpr ⟨by linarith, by linarith⟩)
  case right =>
    have opposite : abeam halfAngle (bodyFrame ownShip (voyage.place time)) =
        -ahead (halfAngle + -(Real.pi / 2)) (bodyFrame ownShip (voyage.place time)) := by
      rw [ahead_add, Real.cos_neg, Real.sin_neg, Real.cos_pi_div_two, Real.sin_pi_div_two]
      ring
    rw [opposite, neg_nonpos]
    exact beside _ (abs_le.mpr ⟨by linarith, by linarith⟩)

/-- A ship that keeps her limits and her beam to where she was heading stays in the sector, and
between the extents of the envelope. -/
theorem stays_in_envelope (later : 0 < horizonS) (stepping : 0 < dtS)
    (buffered : 0.001 ≤ cfg.sigmaPosM) {region : EnvelopeRegion ℝ}
    (computed : computeEnvelope Windows.realFunctions cfg ownShip rotMaxRadS decelMaxMps2 dtS
      horizonS = region) :
    InSector (forwardReachM cfg ownShip horizonS)
        (min (headingReach cfg ownShip rotMaxRadS horizonS) (Real.pi / 2))
        (bodyFrame ownShip (voyage.place time)) ∧
      (bodyFrame ownShip (voyage.place time)).1 ≤ region.maxForwardM ∧
        region.maxLateralPortM ≤ (bodyFrame ownShip (voyage.place time)).2 ∧
          (bodyFrame ownShip (voyage.place time)).2 ≤ region.maxLateralStbdM := by
  have two : (2.0 : ℝ) = 2 := by norm_num
  have within := voyage.inSector able turnable steady during facing
  have nonneg : 0 ≤ forwardReachM cfg ownShip horizonS :=
    (mul_nonneg (stdMax_zero_nonneg _) later.le).trans (le_forwardReachM le_rfl)
  have turns : 0 ≤ min (headingReach cfg ownShip rotMaxRadS horizonS) (Real.pi / 2) :=
    le_min ((abs_nonneg _).trans (voyage.abs_heading_sub_le able turnable steady during))
      (half_pos Real.pi_pos).le
  have forward := within.fst_le
  have sideways := within.abs_snd_le turns (min_le_right _ _)
  refine ⟨within, ?_⟩
  rw [computeEnvelope_eq later stepping] at computed
  subst computed
  unfold buildSectorEnvelope
  split_ifs with rests
  · have small := rests.1.trans buffered
    exact ⟨forward.trans small, abs_le.mp (sideways.trans
      ((mul_le_of_le_one_right nonneg (Real.sin_le_one _)).trans small))⟩
  · dsimp only
    rw [stdMin_eq_min, two]
    exact ⟨forward, abs_le.mp sideways⟩

end Voyage

noncomputable def shipped : Config ℝ := ⟨50.0, 2.5, 2.0⟩

theorem rDotMax_shipped : 0 < rDotMax Windows.realFunctions shipped :=
  mul_pos (abs_pos.mpr (by norm_num [shipped])) (div_pos Real.pi_pos (by norm_num))

theorem isGreatest_maxHeadingChangeRad_shipped :
    IsGreatest {turned | ∃ turn : Turn (rDotMax Windows.realFunctions shipped) 0.05 0.01 88,
          turned = |turn.heading 88 - turn.heading 0|}
        (maxHeadingChangeRad Windows.realFunctions shipped 0.01 0.05 88) ∧
      maxHeadingChangeRad Windows.realFunctions shipped 0.1 0.05 88 <
        |(Turn.held rDotMax_shipped :
            Turn (rDotMax Windows.realFunctions shipped) 0.05 0.1 88).heading 88 -
          (Turn.held rDotMax_shipped :
            Turn (rDotMax Windows.realFunctions shipped) 0.05 0.1 88).heading 0| := by
  constructor
  · exact (isGreatest_maxHeadingChangeRad_iff rDotMax_shipped (by norm_num) (by norm_num)).1.mpr
      (by norm_num [abs_of_pos])
  · exact (isGreatest_maxHeadingChangeRad_iff rDotMax_shipped (by norm_num) (by norm_num)).2
      (by norm_num [abs_of_pos])

/-- A ship at the origin that makes a metre a second, and turns slowly to starboard. -/
noncomputable def cruising : TrajectoryPoint ℝ := ⟨0, 0, 0, 1, 0.01, 0⟩

noncomputable def course (time : ℝ) : ℝ := cruising.rRadS * max 0 (time - latency shipped)

theorem continuous_course : Continuous course :=
  continuous_const.mul (continuous_const.max (continuous_id.sub continuous_const))

/-- She waits for the handover, and then turns on as she did. -/
noncomputable def steaming : Voyage shipped cruising 0.05 90.0 where
  turn := Turn.held rDotMax_shipped
  place := fun time => (∫ moment in (0 : ℝ)..time, Real.cos (course moment),
    ∫ moment in (0 : ℝ)..time, Real.sin (course moment))
  speed := fun _ => 1
  starts := by norm_num [cruising]
  faces := mul_zero _
  slow := fun _ _ => by norm_num [presentSpeed, stdMax, cruising]
  moves := fun time _ => by
    rw [one_mul, one_mul]
    exact ⟨((Real.continuous_cos.comp continuous_course).integral_hasStrictDerivAt 0
        time).hasDerivAt.hasDerivWithinAt,
      ((Real.continuous_sin.comp continuous_course).integral_hasStrictDerivAt 0
        time).hasDerivAt.hasDerivWithinAt⟩

noncomputable def cruisingRegion : EnvelopeRegion ℝ :=
  computeEnvelope Windows.realFunctions shipped cruising 0.05 0.1 1.0 90.0

/-- After a minute she has turned by more than thirty degrees, and is in the envelope. -/
theorem steaming_stays_in_envelope :
    steaming.heading 60 = 0.58 ∧
      InSector (forwardReachM shipped cruising 90.0)
        (min (headingReach shipped cruising 0.05 90.0) (Real.pi / 2))
        (bodyFrame cruising (steaming.place 60)) ∧
      (bodyFrame cruising (steaming.place 60)).1 ≤ cruisingRegion.maxForwardM ∧
        cruisingRegion.maxLateralPortM ≤ (bodyFrame cruising (steaming.place 60)).2 ∧
          (bodyFrame cruising (steaming.place 60)).2 ≤ cruisingRegion.maxLateralStbdM := by
  have waited : latency shipped = 2 := by norm_num [latency, stdMax, shipped]
  have facing : ∀ earlier ∈ Icc (0 : ℝ) 60,
      |steaming.heading earlier - cruising.psiRad| ≤ Real.pi / 2 := fun earlier during => by
    have half := Real.two_le_pi
    have turned : steaming.heading earlier - cruising.psiRad = 0.01 * max 0 (earlier - 2) := by
      simp [Voyage.heading, steaming, Turn.held, cruising, waited]
    have most : max 0 (earlier - 2) ≤ 58 := max_le (by norm_num) (by linarith [during.2])
    rw [turned, abs_of_nonneg (mul_nonneg (by norm_num) (le_max_left _ _))]
    linarith
  refine ⟨by norm_num [Voyage.heading, steaming, Turn.held, cruising, waited], ?_⟩
  exact steaming.stays_in_envelope rDotMax_shipped (by norm_num)
    (by norm_num [cruising, abs_of_pos]) ⟨by norm_num, by norm_num⟩ facing (by norm_num)
    (by norm_num) (by norm_num [shipped]) rfl

end Voyages

end MassL3.M5.Envelope
