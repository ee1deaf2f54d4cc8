/-
This file is about the arc of the fallback maneuver. Where the solver has nothing to offer, the
planner turns by itself to a heading and then goes straight on, and it works out the points of this
way in closed form. The form is stated for any kind of number.

Over the reals it is compared with the way that the ship makes: she goes at her speed along her
heading, which turns at her rate until it is the heading asked for. The points are on that way if
she does not turn at all, and if she turns to starboard in a circle of at least fifty metres. The
circle of a slower ship is widened, but the time of her turn is not. And an arc to port is reflected
in the ship, so that its points lie to starboard of her, and none of them ahead.
-/

import MassTdl.TacticalPlanner.HeadingWindows

namespace MassL3.M5.Windows

open Clamps

section Model

variable {Scalar : Type} [Add Scalar] [Sub Scalar] [Mul Scalar] [Div Scalar] [Neg Scalar]
  [OfScientific Scalar] [LE Scalar] [LT Scalar] [DecidableLE Scalar] [DecidableLT Scalar]

variable (lib : Functions Scalar)

/-! ### The arc of the fallback -/

/-- The first loop of `geometric_fallback_delta_heading_rad`, for a number of turns. -/
def wrapDown : Nat → Scalar → Scalar
  | 0, delta => delta
  | turns + 1, delta => if delta > lib.pi then wrapDown turns (delta - 2.0 * lib.pi) else delta

/-- The second loop. -/
def wrapUp : Nat → Scalar → Scalar
  | 0, delta => delta
  | turns + 1, delta => if delta < -lib.pi then wrapUp turns (delta + 2.0 * lib.pi) else delta

def geometricFallbackDeltaHeadingRad (turns : Nat) (ownPsi targetPsi : Scalar) : Scalar :=
  wrapUp lib turns (wrapDown lib turns (targetPsi - ownPsi))

def geometricFallbackRotRadS (rotMaxRadS : Scalar) : Scalar := stdMax rotMaxRadS 1.0e-4

def geometricFallbackTurnRadiusM (speedMps rotMaxRadS : Scalar) : Scalar :=
  stdMax (speedMps / geometricFallbackRotRadS rotMaxRadS) 50.0

structure TrajectoryPoint (Scalar : Type) where
  xM : Scalar
  yM : Scalar
  psiRad : Scalar
  uMps : Scalar
  rRadS : Scalar
  tS : Scalar

/-- The point of the arc by what the ship has turned. -/
def arcOffset (radius ownPsi turned : Scalar) : Scalar × Scalar :=
  (radius * (lib.sin (ownPsi + turned) - lib.sin ownPsi),
    radius * (-lib.cos (ownPsi + turned) + lib.cos ownPsi))

def geometricFallbackArcPoint (turns : Nat) (ownPsi targetPsi speedMps rotMaxRadS tS : Scalar) :
    TrajectoryPoint Scalar :=
  let deltaPsi := geometricFallbackDeltaHeadingRad lib turns ownPsi targetPsi
  let rot := geometricFallbackRotRadS rotMaxRadS
  let turnRadiusM := geometricFallbackTurnRadiusM speedMps rotMaxRadS
  let rRadS := if deltaPsi ≥ 0.0 then rot else -rot
  let turnDurationS := lib.abs deltaPsi / rot
  if tS ≤ turnDurationS then
    let dpsi := rRadS * tS
    { xM := (arcOffset lib turnRadiusM ownPsi dpsi).1
      yM := (arcOffset lib turnRadiusM ownPsi dpsi).2
      psiRad := ownPsi + dpsi
      uMps := speedMps
      rRadS := rRadS
      tS := tS }
  else
    let tAfter := tS - turnDurationS
    { xM := (arcOffset lib turnRadiusM ownPsi deltaPsi).1 + speedMps * tAfter * lib.cos targetPsi
      yM := (arcOffset lib turnRadiusM ownPsi deltaPsi).2 + speedMps * tAfter * lib.sin targetPsi
      psiRad := targetPsi
      uMps := speedMps
      rRadS := 0.0
      tS := tS }

end Model

/-! ### The turn of the fallback -/

section Turn

theorem wrapDown_same (turns : Nat) (delta : ℝ) :
    ∃ whole : ℤ, wrapDown realFunctions turns delta = delta + whole * (2 * Real.pi) := by
  induction turns generalizing delta with
  | zero => exact ⟨0, by simp [wrapDown]⟩
  | succ turns inductionHypothesis =>
    unfold wrapDown
    rw [twoPi]
    split_ifs with far
    · obtain ⟨whole, same⟩ := inductionHypothesis (delta - 2 * Real.pi)
      refine ⟨whole - 1, ?_⟩
      rw [same]
      push_cast
      ring
    · exact ⟨0, by simp⟩

theorem wrapUp_same (turns : Nat) (delta : ℝ) :
    ∃ whole : ℤ, wrapUp realFunctions turns delta = delta + whole * (2 * Real.pi) := by
  induction turns generalizing delta with
  | zero => exact ⟨0, by simp [wrapUp]⟩
  | succ turns inductionHypothesis =>
    unfold wrapUp
    rw [twoPi]
    split_ifs with far
    · obtain ⟨whole, same⟩ := inductionHypothesis (delta + 2 * Real.pi)
      refine ⟨whole + 1, ?_⟩
      rw [same]
      push_cast
      ring
    · exact ⟨0, by simp⟩

/-- Enough turns bring a change of heading down to half a turn, and leave it above minus half a
turn if it was. -/
theorem wrapDown_bounds (turns : Nat) {delta : ℝ} (enough : delta ≤ (2 * turns + 1) * Real.pi) :
    wrapDown realFunctions turns delta ≤ Real.pi ∧
      min delta (-Real.pi) ≤ wrapDown realFunctions turns delta := by
  induction turns generalizing delta with
  | zero =>
    rw [Nat.cast_zero, mul_zero, zero_add, one_mul] at enough
    exact ⟨enough, min_le_left _ _⟩
  | succ turns inductionHypothesis =>
    push_cast at enough
    unfold wrapDown
    rw [twoPi]
    split_ifs with far
    · have above : Real.pi < delta := far
      have nearer : delta - 2 * Real.pi ≤ (2 * turns + 1) * Real.pi := by linarith
      obtain ⟨below, least⟩ := inductionHypothesis nearer
      refine ⟨below, (min_le_right _ _).trans (le_trans ?_ least)⟩
      exact le_min (by linarith) le_rfl
    · exact ⟨not_lt.mp far, min_le_left _ _⟩

theorem wrapUp_bounds (turns : Nat) {delta : ℝ} (below : delta ≤ Real.pi)
    (enough : -((2 * turns + 1) * Real.pi) ≤ delta) :
    |wrapUp realFunctions turns delta| ≤ Real.pi := by
  induction turns generalizing delta with
  | zero =>
    rw [Nat.cast_zero, mul_zero, zero_add, one_mul] at enough
    exact abs_le.mpr ⟨enough, below⟩
  | succ turns inductionHypothesis =>
    push_cast at enough
    unfold wrapUp
    rw [twoPi]
    split_ifs with far
    · have under : delta < -Real.pi := far
      exact inductionHypothesis (by linarith) (by linarith)
    · exact abs_le.mpr ⟨not_lt.mp far, below⟩

variable {turns : Nat} {ownPsi targetPsi : ℝ}

theorem geometricFallbackDeltaHeadingRad_same (turns : Nat) (ownPsi targetPsi : ℝ) :
    ∃ whole : ℤ, ownPsi + geometricFallbackDeltaHeadingRad realFunctions turns ownPsi targetPsi =
      targetPsi + whole * (2 * Real.pi) := by
  unfold geometricFallbackDeltaHeadingRad
  obtain ⟨down, downSame⟩ := wrapDown_same turns (targetPsi - ownPsi)
  obtain ⟨up, upSame⟩ := wrapUp_same turns (wrapDown realFunctions turns (targetPsi - ownPsi))
  refine ⟨down + up, ?_⟩
  rw [upSame, downSame]
  push_cast
  ring

theorem abs_geometricFallbackDeltaHeadingRad_le
    (enough : |targetPsi - ownPsi| ≤ (2 * turns + 1) * Real.pi) :
    |geometricFallbackDeltaHeadingRad realFunctions turns ownPsi targetPsi| ≤ Real.pi := by
  obtain ⟨low, high⟩ := abs_le.mp enough
  obtain ⟨below, least⟩ := wrapDown_bounds turns high
  refine wrapUp_bounds turns below (le_trans (le_min low ?_) least)
  have whole : (0 : ℝ) ≤ turns * Real.pi := mul_nonneg turns.cast_nonneg Real.pi_pos.le
  linarith

end Turn

/-! ### The way of the ship -/

/-- How far a point is ahead of a ship at the origin. -/
noncomputable def ahead (ownPsi : ℝ) (point : ℝ × ℝ) : ℝ :=
  point.1 * Real.cos ownPsi + point.2 * Real.sin ownPsi

/-- How far it is to starboard of her. -/
noncomputable def abeam (ownPsi : ℝ) (point : ℝ × ℝ) : ℝ :=
  -point.1 * Real.sin ownPsi + point.2 * Real.cos ownPsi

/-- The arguments of the arc. -/
structure Maneuver where
  turns : Nat
  ownPsi : ℝ
  targetPsi : ℝ
  speedMps : ℝ
  rotMaxRadS : ℝ

namespace Maneuver

variable (maneuver : Maneuver)

noncomputable def delta : ℝ :=
  geometricFallbackDeltaHeadingRad realFunctions maneuver.turns maneuver.ownPsi maneuver.targetPsi

noncomputable def rot : ℝ := geometricFallbackRotRadS maneuver.rotMaxRadS

/-- The rate of turn, positive to starboard. -/
noncomputable def rate : ℝ := if 0 ≤ maneuver.delta then maneuver.rot else -maneuver.rot

noncomputable def duration : ℝ := |maneuver.delta| / maneuver.rot

/-- Her heading: it turns at her rate, until it is the one asked for. -/
noncomputable def heading (time : ℝ) : ℝ :=
  maneuver.ownPsi + maneuver.rate * min time maneuver.duration

/-- Where she is: from the origin on, she makes her speed along her heading. -/
noncomputable def heldTrack (time : ℝ) : ℝ × ℝ :=
  (∫ moment in (0 : ℝ)..time, maneuver.speedMps * Real.cos (maneuver.heading moment),
    ∫ moment in (0 : ℝ)..time, maneuver.speedMps * Real.sin (maneuver.heading moment))

/-- The loops run often enough. -/
def Enough : Prop :=
  |maneuver.targetPsi - maneuver.ownPsi| ≤ (maneuver.turns + maneuver.turns + 1) * Real.pi

/-- The place of the point of the arc. -/
noncomputable def place (time : ℝ) : ℝ × ℝ :=
  let point := geometricFallbackArcPoint realFunctions maneuver.turns maneuver.ownPsi
    maneuver.targetPsi maneuver.speedMps maneuver.rotMaxRadS time
  (point.xM, point.yM)

/-- What the turn so far has brought, for a circle of radius one. -/
noncomputable def chord (time : ℝ) : ℝ × ℝ :=
  (Real.sin (maneuver.heading time) - Real.sin maneuver.ownPsi,
    Real.cos maneuver.ownPsi - Real.cos (maneuver.heading time))

/-- What the straight leg has brought. -/
noncomputable def leg (time : ℝ) : ℝ × ℝ :=
  (maneuver.speedMps * max 0 (time - maneuver.duration)) •
    (Real.cos maneuver.targetPsi, Real.sin maneuver.targetPsi)

noncomputable def radius : ℝ :=
  geometricFallbackTurnRadiusM maneuver.speedMps maneuver.rotMaxRadS

/-- The heading that she holds is the one asked for. -/
theorem held_direction :
    Real.cos (maneuver.ownPsi + maneuver.delta) = Real.cos maneuver.targetPsi ∧
      Real.sin (maneuver.ownPsi + maneuver.delta) = Real.sin maneuver.targetPsi := by
  obtain ⟨whole, same⟩ := geometricFallbackDeltaHeadingRad_same maneuver.turns maneuver.ownPsi
    maneuver.targetPsi
  have held : maneuver.ownPsi + maneuver.delta = maneuver.targetPsi + whole * (2 * Real.pi) := same
  rw [held]
  exact ⟨Real.cos_add_int_mul_two_pi .., Real.sin_add_int_mul_two_pi ..⟩

variable {maneuver}

theorem rot_pos : 0 < maneuver.rot := by
  have floor : (0 : ℝ) < 1.0e-4 := by norm_num
  unfold rot geometricFallbackRotRadS stdMax
  split_ifs with low
  · exact floor
  · linarith

theorem rate_ne_zero : maneuver.rate ≠ 0 := by
  unfold rate
  split_ifs
  · exact rot_pos.ne'
  · exact neg_ne_zero.mpr rot_pos.ne'

theorem duration_nonneg : 0 ≤ maneuver.duration :=
  div_nonneg (abs_nonneg _) rot_pos.le

theorem rate_mul_duration : maneuver.rate * maneuver.duration = maneuver.delta := by
  unfold rate duration
  split_ifs with starboard
  · rw [abs_of_nonneg starboard, mul_div_cancel₀ _ rot_pos.ne']
  · rw [abs_of_neg (not_le.mp starboard), neg_div, neg_mul_neg, mul_div_cancel₀ _ rot_pos.ne']

/-- The radius is the one of her circle, but no less than fifty metres. -/
theorem radius_eq : maneuver.radius = max (maneuver.speedMps / maneuver.rot) 50 := by
  have fifty : (50.0 : ℝ) = 50 := by norm_num
  unfold radius geometricFallbackTurnRadiusM stdMax
  rw [fifty]
  change (if maneuver.speedMps / maneuver.rot < 50 then (50 : ℝ)
    else maneuver.speedMps / maneuver.rot) = _
  split_ifs with small
  · exact (max_eq_right small.le).symm
  · exact (max_eq_left (not_lt.mp small)).symm

theorem radius_pos : 0 < maneuver.radius := by
  rw [radius_eq]
  exact lt_max_of_lt_right (by norm_num)

/-! ### Both in closed form -/

theorem heading_of_turning {time : ℝ} (turning : time ≤ maneuver.duration) :
    maneuver.heading time = maneuver.ownPsi + maneuver.rate * time := by
  rw [heading, min_eq_left turning]

theorem turned_eq (time : ℝ) :
    maneuver.rate * min time maneuver.duration = maneuver.heading time - maneuver.ownPsi := by
  rw [heading, add_sub_cancel_left]

theorem heading_of_holding {time : ℝ} (holding : maneuver.duration ≤ time) :
    maneuver.heading time = maneuver.ownPsi + maneuver.delta := by
  rw [heading, min_eq_right holding, rate_mul_duration]

theorem continuous_heading : Continuous maneuver.heading :=
  continuous_const.add (continuous_const.mul (continuous_id.min continuous_const))

section Integral

variable {wave primitive : ℝ → ℝ} (derives : ∀ angle, HasDerivAt primitive (wave angle) angle)
  (continuous : Continuous wave)

include derives continuous

theorem integral_of_turning {time : ℝ} (later : 0 ≤ time) (turning : time ≤ maneuver.duration) :
    ∫ moment in (0 : ℝ)..time, wave (maneuver.heading moment) =
      (primitive (maneuver.heading time) - primitive maneuver.ownPsi) / maneuver.rate := by
  have along : ∫ moment in (0 : ℝ)..time, wave (maneuver.heading moment) =
      ∫ moment in (0 : ℝ)..time, wave (maneuver.ownPsi + maneuver.rate * moment) := by
    refine intervalIntegral.integral_congr fun moment within => ?_
    rw [Set.uIcc_of_le later] at within
    rw [heading_of_turning (within.2.trans turning)]
  have turned (moment : ℝ) : HasDerivAt
      (fun moment => primitive (maneuver.ownPsi + maneuver.rate * moment) / maneuver.rate)
      (wave (maneuver.ownPsi + maneuver.rate * moment)) moment := by
    have inner : HasDerivAt (fun moment => maneuver.ownPsi + maneuver.rate * moment)
        maneuver.rate moment := by
      simpa using ((hasDerivAt_id moment).const_mul maneuver.rate).const_add maneuver.ownPsi
    refine (((derives _).comp moment inner).div_const maneuver.rate).congr_deriv ?_
    exact mul_div_cancel_right₀ _ rate_ne_zero
  rw [along, intervalIntegral.integral_eq_sub_of_hasDerivAt (fun moment _ => turned moment)
    (Continuous.intervalIntegrable (by fun_prop) _ _), mul_zero, add_zero, ← sub_div,
    heading_of_turning turning]

theorem integral_of_heading {time : ℝ} (later : 0 ≤ time) :
    ∫ moment in (0 : ℝ)..time, wave (maneuver.heading moment) =
      (primitive (maneuver.heading time) - primitive maneuver.ownPsi) / maneuver.rate +
        max 0 (time - maneuver.duration) * wave (maneuver.ownPsi + maneuver.delta) := by
  rcases le_total time maneuver.duration with turning | holding
  · rw [integral_of_turning derives continuous later turning,
      max_eq_left (sub_nonpos.mpr turning), zero_mul, add_zero]
  have steady : Continuous fun moment => wave (maneuver.heading moment) :=
    continuous.comp continuous_heading
  have held : ∫ moment in maneuver.duration..time, wave (maneuver.heading moment) =
      ∫ _ in maneuver.duration..time, wave (maneuver.ownPsi + maneuver.delta) := by
    refine intervalIntegral.integral_congr fun moment within => ?_
    rw [Set.uIcc_of_le holding] at within
    rw [heading_of_holding within.1]
  rw [← intervalIntegral.integral_add_adjacent_intervals
      (steady.intervalIntegrable 0 maneuver.duration)
      (steady.intervalIntegrable maneuver.duration time),
    held, intervalIntegral.integral_const, smul_eq_mul,
    integral_of_turning derives continuous duration_nonneg le_rfl, heading_of_holding le_rfl,
    heading_of_holding holding, max_eq_right (sub_nonneg.mpr holding)]

end Integral

/-- A speed along a turning heading brings the chord of a circle, and then the straight leg. -/
theorem heldTrack_eq {time : ℝ} (later : 0 ≤ time) :
    maneuver.heldTrack time =
      (maneuver.speedMps / maneuver.rate) • maneuver.chord time + maneuver.leg time := by
  obtain ⟨north, east⟩ := held_direction maneuver
  have negated (angle : ℝ) : HasDerivAt (fun angle => -Real.cos angle) (Real.sin angle) angle := by
    have derived := (Real.hasDerivAt_cos angle).fun_neg
    rwa [neg_neg] at derived
  unfold heldTrack
  rw [intervalIntegral.integral_const_mul, intervalIntegral.integral_const_mul,
    integral_of_heading Real.hasDerivAt_sin Real.continuous_cos later,
    integral_of_heading negated Real.continuous_sin later, north, east]
  unfold chord leg
  refine Prod.ext ?_ ?_
  · simp only [Prod.smul_mk, Prod.mk_add_mk, smul_eq_mul]
    ring
  · simp only [Prod.smul_mk, Prod.mk_add_mk, smul_eq_mul]
    ring

/-- The arc of the code has its own radius, and bends to starboard. -/
theorem place_eq (time : ℝ) :
    maneuver.place time = maneuver.radius • maneuver.chord time + maneuver.leg time := by
  have zero : (0.0 : ℝ) = 0 := by norm_num
  have sided : maneuver.rate = if maneuver.delta ≥ 0.0 then maneuver.rot else -maneuver.rot := by
    rw [zero]
    rfl
  have bent (turned : ℝ) : arcOffset realFunctions maneuver.radius maneuver.ownPsi turned =
      maneuver.radius • (Real.sin (maneuver.ownPsi + turned) - Real.sin maneuver.ownPsi,
        Real.cos maneuver.ownPsi - Real.cos (maneuver.ownPsi + turned)) := by
    rw [Prod.smul_mk, smul_eq_mul, smul_eq_mul, sub_eq_neg_add (Real.cos _)]
    rfl
  unfold chord leg
  rcases le_or_gt time maneuver.duration with turning | holding
  · rw [heading_of_turning turning, max_eq_left (sub_nonpos.mpr turning), mul_zero, zero_smul,
      add_zero, ← bent, sided]
    exact congrArg (fun point : TrajectoryPoint ℝ => (point.xM, point.yM)) (if_pos turning)
  · rw [heading_of_holding holding.le, max_eq_right (sub_nonneg.mpr holding.le), ← bent]
    exact congrArg (fun point : TrajectoryPoint ℝ => (point.xM, point.yM))
      (if_neg (not_le.mpr holding))

/-! ### Where the two agree -/

theorem turned_bounds (enough : maneuver.Enough) (time : ℝ) (later : 0 ≤ time) :
    |maneuver.rate * min time maneuver.duration| ≤ Real.pi := by
  have within : |maneuver.targetPsi - maneuver.ownPsi| ≤ (2 * maneuver.turns + 1) * Real.pi := by
    rw [two_mul]
    exact enough
  refine le_trans ?_ (abs_geometricFallbackDeltaHeadingRad_le within)
  change _ ≤ |maneuver.delta|
  rw [← rate_mul_duration, abs_mul, abs_mul, abs_of_nonneg (le_min later duration_nonneg),
    abs_of_nonneg duration_nonneg]
  exact mul_le_mul_of_nonneg_left (min_le_right _ _) (abs_nonneg _)

/-- A turn through at most half a circle comes back to no heading that it has left. -/
theorem cos_turned_ne_one {time : ℝ} (enough : maneuver.Enough) (later : 0 < time)
    (turns : maneuver.delta ≠ 0) :
    Real.cos (maneuver.rate * min time maneuver.duration) ≠ 1 := by
  intro still
  have lasting : 0 < maneuver.duration := div_pos (abs_pos.mpr turns) rot_pos
  obtain ⟨low, high⟩ := abs_le.mp (turned_bounds enough time later.le)
  have whole := Real.two_pi_pos
  have none := (Real.cos_eq_one_iff_of_lt_of_lt (by linarith) (by linarith)).mp still
  exact mul_ne_zero rate_ne_zero (lt_min later lasting).ne' none

theorem chord_eq_zero_iff {time : ℝ} (enough : maneuver.Enough) (later : 0 < time) :
    maneuver.chord time = 0 ↔ maneuver.delta = 0 := by
  constructor
  · intro closed
    obtain ⟨north, east⟩ := Prod.mk.inj closed
    by_contra turns
    refine cos_turned_ne_one enough later turns ?_
    rw [turned_eq, Real.cos_sub, sub_eq_zero.mp north, ← sub_eq_zero.mp east, ← sq, ← sq,
      Real.cos_sq_add_sin_sq]
  · intro straight
    have none : maneuver.rate * min time maneuver.duration = 0 := by
      have instant : maneuver.duration = 0 := by
        rw [duration, straight, abs_zero, zero_div]
      rw [instant, min_eq_right later.le, mul_zero]
    rw [chord, heading, none, add_zero, sub_self, sub_self]
    rfl

/-- The radius of the code is the one of her circle if she turns to starboard, in a circle of at
least fifty metres. -/
theorem radius_eq_iff (forward : 0 ≤ maneuver.speedMps) :
    maneuver.radius = maneuver.speedMps / maneuver.rate ↔
      0 ≤ maneuver.delta ∧ 50 * maneuver.rot ≤ maneuver.speedMps := by
  unfold rate
  split_ifs with starboard
  · rw [radius_eq, max_eq_left_iff, le_div_iff₀ rot_pos]
    exact (and_iff_right starboard).symm
  · refine iff_of_false (fun same => ?_) fun both => starboard both.1
    have backward : maneuver.speedMps / -maneuver.rot ≤ 0 :=
      div_nonpos_of_nonneg_of_nonpos forward (neg_nonpos.mpr rot_pos.le)
    exact absurd (radius_pos.trans_le (same.trans_le backward)) (lt_irrefl 0)

theorem ahead_chord (time : ℝ) :
    ahead maneuver.ownPsi (maneuver.chord time) =
      Real.sin (maneuver.rate * min time maneuver.duration) := by
  rw [turned_eq, Real.sin_sub, ahead, chord]
  ring

theorem abeam_chord (time : ℝ) :
    abeam maneuver.ownPsi (maneuver.chord time) =
      1 - Real.cos (maneuver.rate * min time maneuver.duration) := by
  rw [turned_eq, Real.cos_sub, ← Real.cos_sq_add_sin_sq maneuver.ownPsi, abeam, chord]
  ring

/-- The points of an arc to port lie to starboard, and none of them ahead. -/
theorem place_of_port {time : ℝ} (enough : maneuver.Enough) (port : maneuver.delta < 0)
    (later : 0 < time) (turning : time ≤ maneuver.duration) :
    ahead maneuver.ownPsi (maneuver.place time) ≤ 0 ∧
      0 < abeam maneuver.ownPsi (maneuver.place time) := by
  have scaled (factor : ℝ) (point : ℝ × ℝ) : ahead maneuver.ownPsi (factor • point) =
      factor * ahead maneuver.ownPsi point ∧
        abeam maneuver.ownPsi (factor • point) = factor * abeam maneuver.ownPsi point := by
    simp only [ahead, abeam, Prod.smul_fst, Prod.smul_snd, smul_eq_mul]
    constructor <;> ring
  have none : maneuver.leg time = 0 := by
    rw [leg, max_eq_left (sub_nonpos.mpr turning), mul_zero, zero_smul]
  have left : maneuver.rate * min time maneuver.duration ≤ 0 := by
    have sided : maneuver.rate = -maneuver.rot := if_neg (not_le.mpr port)
    rw [sided, neg_mul]
    exact neg_nonpos.mpr (mul_nonneg rot_pos.le (le_min later.le duration_nonneg))
  obtain ⟨low, -⟩ := abs_le.mp (turned_bounds enough time later.le)
  rw [place_eq, none, add_zero, (scaled _ _).1, (scaled _ _).2, ahead_chord, abeam_chord]
  refine ⟨mul_nonpos_of_nonneg_of_nonpos radius_pos.le
    (Real.sin_nonpos_of_nonpos_of_neg_pi_le left low), mul_pos radius_pos (sub_pos.mpr ?_)⟩
  exact lt_of_le_of_ne (Real.cos_le_one _) (cos_turned_ne_one enough later port.ne)

/-- The points are on the way of the ship just if she does not turn, or turns to starboard in a
circle of at least fifty metres. While she turns to port they lie to starboard, and none ahead. -/
theorem place_eq_heldTrack_iff {time : ℝ} (enough : maneuver.Enough)
    (forward : 0 ≤ maneuver.speedMps) (later : 0 < time) :
    (maneuver.place time = maneuver.heldTrack time ↔
        maneuver.delta = 0 ∨ 0 < maneuver.delta ∧ 50 * maneuver.rot ≤ maneuver.speedMps) ∧
      (maneuver.delta < 0 → time ≤ maneuver.duration →
        ahead maneuver.ownPsi (maneuver.place time) ≤ 0 ∧
          0 < abeam maneuver.ownPsi (maneuver.place time)) := by
  refine ⟨?_, fun port turning => place_of_port enough port later turning⟩
  rw [place_eq, heldTrack_eq later.le, add_left_inj, ← sub_eq_zero, ← sub_smul, smul_eq_zero,
    sub_eq_zero, radius_eq_iff forward, chord_eq_zero_iff enough later]
  constructor
  · rintro (⟨starboard, wide⟩ | straight)
    · rcases starboard.eq_or_lt with straight | turns
      · exact .inl straight.symm
      · exact .inr ⟨turns, wide⟩
    · exact .inl straight
  · rintro (straight | ⟨turns, wide⟩)
    · exact .inr straight
    · exact .inl ⟨turns.le, wide⟩

noncomputable def toPort : Maneuver where
  turns := 0
  ownPsi := 0
  targetPsi := -1
  speedMps := 5
  rotMaxRadS := 0.1

theorem toPort_delta : toPort.delta = -1 := by
  norm_num [delta, toPort, geometricFallbackDeltaHeadingRad, wrapDown, wrapUp]

theorem toPort_leaves_track : toPort.place 1 ≠ toPort.heldTrack 1 ∧
    0 < abeam toPort.ownPsi (toPort.place 1) := by
  have half := Real.two_le_pi
  have enough : toPort.Enough := by
    unfold Enough toPort
    norm_num
    linarith
  have forward : 0 ≤ toPort.speedMps := by norm_num [toPort]
  have port : toPort.delta < 0 := by norm_num [toPort_delta]
  have turning : 1 ≤ toPort.duration := by
    rw [duration, toPort_delta]
    norm_num [rot, toPort, geometricFallbackRotRadS, stdMax]
  obtain ⟨on, aside⟩ := place_eq_heldTrack_iff enough forward one_pos
  refine ⟨fun same => ?_, (aside port turning).2⟩
  rcases on.mp same with straight | ⟨starboard, -⟩
  · exact port.ne straight
  · exact port.not_gt starboard

end Maneuver

end MassL3.M5.Windows
