/-
This file studies the reachable headings of a directive over the real numbers. The contract looks
at the ends of a heading box only, and an end says how far a turn can go unless the box passes dead
astern.
-/

import MassTdl.Arbiter.ScalarGuidance
import MassTdl.Headings
import Mathlib.Analysis.Real.Pi.Bounds

namespace MassL3.M4.Scalars

open AddCommGroup Headings

noncomputable section

/-! ### The functions of the reals -/

def realFunctions : Functions ℝ where
  pi := Real.pi
  fmod := remainder
  abs := fun value => |value|

theorem wrapHeadingDeg_eq (heading : ℝ) :
    wrapHeadingDeg realFunctions heading =
      if remainder heading 360 < 0 then remainder heading 360 + 360
      else remainder heading 360 := by
  unfold wrapHeadingDeg realFunctions
  norm_num only

theorem wrapHeadingDeg_same (heading : ℝ) :
    wrapHeadingDeg realFunctions heading ≡ heading [PMOD 360] := by
  rw [wrapHeadingDeg_eq]
  split_ifs
  · refine AddCommGroup.ModEq.trans (same_iff.mpr ⟨-1, ?_⟩) (remainder_same heading)
    push_cast
    ring
  · exact remainder_same heading

theorem wrapHeadingDeg_bounds (heading : ℝ) :
    0 ≤ wrapHeadingDeg realFunctions heading ∧ wrapHeadingDeg realFunctions heading < 360 := by
  rw [wrapHeadingDeg_eq]
  obtain nonneg | negative := le_or_gt 0 heading
  · obtain ⟨low, high⟩ := remainder_of_nonneg nonneg
    rw [if_neg (not_lt.mpr low)]
    exact ⟨low, high⟩
  · obtain ⟨low, high⟩ := remainder_of_neg negative
    split_ifs with below
    · constructor <;> linarith
    · exact ⟨not_lt.mp below, by linarith⟩

theorem signedDeltaDeg_eq (own heading : ℝ) :
    signedDeltaDeg realFunctions own heading =
      if remainder (heading - own) 360 > 180 then remainder (heading - own) 360 - 360
      else if remainder (heading - own) 360 < -180 then remainder (heading - own) 360 + 360
      else remainder (heading - own) 360 := by
  unfold signedDeltaDeg realFunctions
  norm_num only
  by_cases above : remainder (heading - own) 360 > 180
  · have notBelow : ¬ remainder (heading - own) 360 - 360 < -180 := by linarith
    simp only [if_pos above, if_neg notBelow]
  · simp only [if_neg above]

theorem abs_remainder_lt (value : ℝ) : |remainder value 360| < 360 := by
  obtain nonneg | negative := le_or_gt 0 value
  · obtain ⟨low, high⟩ := remainder_of_nonneg nonneg
    exact abs_lt.mpr ⟨by linarith, high⟩
  · obtain ⟨low, high⟩ := remainder_of_neg negative
    exact abs_lt.mpr ⟨low, by linarith⟩

theorem signedDeltaDeg_same (own heading : ℝ) :
    own + signedDeltaDeg realFunctions own heading ≡ heading [PMOD 360] := by
  obtain ⟨turns, equal⟩ := same_iff.mp (remainder_same (heading - own))
  rw [signedDeltaDeg_eq]
  split_ifs
  · exact same_iff.mpr ⟨turns + 1, by push_cast; linarith⟩
  · exact same_iff.mpr ⟨turns - 1, by push_cast; linarith⟩
  · exact same_iff.mpr ⟨turns, by linarith⟩

theorem abs_signedDeltaDeg_le (own heading : ℝ) :
    |signedDeltaDeg realFunctions own heading| ≤ 180 := by
  obtain ⟨low, high⟩ := abs_lt.mp (abs_remainder_lt (heading - own))
  rw [signedDeltaDeg_eq, abs_le]
  split_ifs with above below
  · constructor <;> linarith
  · constructor <;> linarith
  · exact ⟨not_lt.mp below, not_lt.mp above⟩

/-- A difference of half a turn to starboard is one to a reciprocal heading with the greater
number. -/
theorem signedDeltaDeg_eq_half_iff (own heading : ℝ) :
    signedDeltaDeg realFunctions own heading = 180 ↔
      own + 180 ≡ heading [PMOD 360] ∧ own < heading := by
  constructor
  · intro half
    refine ⟨half ▸ signedDeltaDeg_same own heading, ?_⟩
    by_contra before
    have low : remainder (heading - own) 360 ≤ 0 := by
      obtain negative | zero := lt_or_eq_of_le (sub_nonpos.mpr (not_lt.mp before))
      · exact (remainder_of_neg negative).2
      · simp [remainder, zero]
    rw [signedDeltaDeg_eq] at half
    split_ifs at half <;> linarith
  · rintro ⟨same, after⟩
    obtain ⟨low, high⟩ := remainder_of_nonneg (sub_pos.mpr after).le
    have half : remainder (heading - own) 360 = 180 := by
      refine eq_of_near (AddCommGroup.ModEq.trans ?_ (remainder_same _).symm)
        (abs_lt.mpr ⟨by linarith, by linarith⟩)
      obtain ⟨turns, equal⟩ := same_iff.mp same
      exact same_iff.mpr ⟨turns, by linarith⟩
    rw [signedDeltaDeg_eq, half]
    norm_num

/-- And one to port is to a reciprocal heading with the smaller number. -/
theorem signedDeltaDeg_eq_neg_half_iff (own heading : ℝ) :
    signedDeltaDeg realFunctions own heading = -180 ↔
      own + 180 ≡ heading [PMOD 360] ∧ heading < own := by
  constructor
  · intro half
    constructor
    · obtain ⟨turns, equal⟩ := same_iff.mp (half ▸ signedDeltaDeg_same own heading)
      exact same_iff.mpr ⟨turns - 1, by push_cast; linarith⟩
    · by_contra notBefore
      have low := (remainder_of_nonneg (sub_nonneg.mpr (not_lt.mp notBefore))).1
      rw [signedDeltaDeg_eq] at half
      split_ifs at half <;> linarith
  · rintro ⟨same, before⟩
    obtain ⟨low, high⟩ := remainder_of_neg (sub_neg.mpr before)
    have half : remainder (heading - own) 360 = -180 := by
      refine eq_of_near (AddCommGroup.ModEq.trans ?_ (remainder_same _).symm)
        (abs_lt.mpr ⟨by linarith, by linarith⟩)
      obtain ⟨turns, equal⟩ := same_iff.mp same
      exact same_iff.mpr ⟨turns + 1, by push_cast; linarith⟩
    rw [signedDeltaDeg_eq, half]
    norm_num

/-! ### The contract -/

/-- The preferred direction to a side. -/
def directionTo : Side → ColregsDirection
  | .starboard => .starboard
  | .port => .port

/-- The box passes dead astern. -/
def PassesAstern (hMinDeg hMaxDeg ownHdgDeg : ℝ) : Prop :=
  OnArc hMinDeg (sweep hMinDeg hMaxDeg) (ownHdgDeg + 180.0)

/-- The box ends dead astern in the direction of a side, by a number on that side of the own
heading. -/
def EndsAstern (side : Side) (hMinDeg hMaxDeg ownHdgDeg : ℝ) : Prop :=
  match side with
  | .starboard => ownHdgDeg + 180.0 ≡ hMaxDeg [PMOD 360.0] ∧ ownHdgDeg < hMaxDeg
  | .port => ownHdgDeg + 180.0 ≡ hMinDeg [PMOD 360.0] ∧ hMinDeg < ownHdgDeg

/-- The value of a contract is the largest deviation to a side whose heading is in the box, and
the box allows the alteration exactly when the value is as large. -/
def IsExact (side : Side) (hMinDeg hMaxDeg ownHdgDeg minAltRad : ℝ)
    (reach : HeadingBoxReachability ℝ) : Prop :=
  IsFarthest (turnsOnto side hMinDeg (sweep hMinDeg hMaxDeg) ownHdgDeg)
      reach.headingBoxReachableFromPsi0Deg ∧
    (reach.boxAllowsMinAlt = true ↔
      minAltRad * 180.0 / Real.pi ≤ reach.headingBoxReachableFromPsi0Deg)

variable {hMinDeg hMaxDeg ownHdgDeg minAltRad : ℝ}

theorem passesAstern_iff :
    PassesAstern hMinDeg hMaxDeg ownHdgDeg ↔
      OnArc hMinDeg (sweep hMinDeg hMaxDeg) (ownHdgDeg + 180) := by
  unfold PassesAstern
  norm_num only

theorem endsAstern_starboard :
    EndsAstern .starboard hMinDeg hMaxDeg ownHdgDeg ↔
      ownHdgDeg + 180 ≡ hMaxDeg [PMOD 360] ∧ ownHdgDeg < hMaxDeg := by
  unfold EndsAstern
  norm_num only

theorem endsAstern_port :
    EndsAstern .port hMinDeg hMaxDeg ownHdgDeg ↔
      ownHdgDeg + 180 ≡ hMinDeg [PMOD 360] ∧ hMinDeg < ownHdgDeg := by
  unfold EndsAstern
  norm_num only

theorem reach_starboard :
    (computeHeadingBoxReachability realFunctions hMinDeg hMaxDeg ownHdgDeg minAltRad
        .starboard).headingBoxReachableFromPsi0Deg =
      if signedDeltaDeg realFunctions ownHdgDeg hMaxDeg > 0 then
        signedDeltaDeg realFunctions ownHdgDeg hMaxDeg
      else 0 := by
  unfold computeHeadingBoxReachability
  norm_num only

theorem reach_port :
    (computeHeadingBoxReachability realFunctions hMinDeg hMaxDeg ownHdgDeg minAltRad
        .port).headingBoxReachableFromPsi0Deg =
      if -signedDeltaDeg realFunctions ownHdgDeg hMinDeg > 0 then
        -signedDeltaDeg realFunctions ownHdgDeg hMinDeg
      else 0 := by
  unfold computeHeadingBoxReachability
  norm_num only
  simp only [gt_iff_lt, neg_pos]
  split_ifs with negative
  · exact abs_of_neg negative
  · rfl

theorem allows_iff (direction : ColregsDirection) :
    (computeHeadingBoxReachability realFunctions hMinDeg hMaxDeg ownHdgDeg minAltRad
        direction).boxAllowsMinAlt = true ↔
      minAltRad * 180.0 / Real.pi ≤ (computeHeadingBoxReachability realFunctions hMinDeg hMaxDeg
        ownHdgDeg minAltRad direction).headingBoxReachableFromPsi0Deg := by
  unfold computeHeadingBoxReachability realFunctions
  norm_num only
  exact decide_eq_true_iff

/-- The value is right in a direction exactly when the box does not pass dead astern, or ends
there. -/
theorem isFarthest_iff (side : Side) :
    IsFarthest (turnsOnto side hMinDeg (sweep hMinDeg hMaxDeg) ownHdgDeg)
        (computeHeadingBoxReachability realFunctions hMinDeg hMaxDeg ownHdgDeg minAltRad
          (directionTo side)).headingBoxReachableFromPsi0Deg ↔
      ¬ PassesAstern hMinDeg hMaxDeg ownHdgDeg ∨
        EndsAstern side hMinDeg hMaxDeg ownHdgDeg := by
  cases side with
  | starboard =>
    rw [directionTo, reach_starboard, endsAstern_starboard, ← signedDeltaDeg_eq_half_iff,
      passesAstern_iff]
    exact isFarthest_starboard_iff (sweep_bounds _ _).1 (abs_signedDeltaDeg_le _ _)
      ((sweep_same _ _).trans (signedDeltaDeg_same _ _).symm)
  | port =>
    have mirrored : OnArc (-(hMinDeg + sweep hMinDeg hMaxDeg)) (sweep hMinDeg hMaxDeg)
        (-ownHdgDeg + 180) ↔ PassesAstern hMinDeg hMaxDeg ownHdgDeg := by
      rw [passesAstern_iff]
      exact (onArc_congr modEq_rfl (same_iff.mpr ⟨-1, by push_cast; ring⟩)).trans (onArc_neg _ _ _)
    rw [directionTo, reach_port, endsAstern_port, ← signedDeltaDeg_eq_neg_half_iff, turnsOnto_port,
      isFarthest_starboard_iff (sweep_bounds _ _).1
        (by rw [abs_neg]; exact abs_signedDeltaDeg_le _ _), mirrored, neg_eq_iff_eq_neg]
    obtain ⟨turns, equal⟩ := same_iff.mp (signedDeltaDeg_same ownHdgDeg hMinDeg)
    exact same_iff.mpr ⟨turns, by linarith⟩

theorem reachability_isExact_iff (side : Side) (hMinDeg hMaxDeg ownHdgDeg minAltRad : ℝ) :
    IsExact side hMinDeg hMaxDeg ownHdgDeg minAltRad
        (computeHeadingBoxReachability realFunctions hMinDeg hMaxDeg ownHdgDeg minAltRad
          (directionTo side)) ↔
      ¬ PassesAstern hMinDeg hMaxDeg ownHdgDeg ∨
        EndsAstern side hMinDeg hMaxDeg ownHdgDeg :=
  (and_iff_left (allows_iff _)).trans (isFarthest_iff side)

/-- A ship on a northerly course is not told that it can turn right round to starboard in a box
from east to south-southwest. -/
theorem reachability_misses_astern :
    ¬ IsExact .starboard 100 200 0 0
      (computeHeadingBoxReachability realFunctions 100 200 0 0 .starboard) := by
  intro exact
  have free := (isFarthest_iff .starboard).mp exact.1
  have swept : sweep 100 200 = 100 := by
    rw [sweep_of_le (by norm_num) (by norm_num)]
    norm_num
  have astern : PassesAstern 100 200 0 :=
    ⟨80, by norm_num, by rw [swept]; norm_num, same_iff.mpr ⟨0, by norm_num⟩⟩
  obtain ⟨same, -⟩ := endsAstern_starboard.mp (free.resolve_left (not_not.mpr astern))
  exact absurd (eq_of_near same (by norm_num)) (by norm_num)

end

end MassL3.M4.Scalars
