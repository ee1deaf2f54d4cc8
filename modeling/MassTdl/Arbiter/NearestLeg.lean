/-
This file asks of which leg of the route the tracking speaks. Over the real numbers the cross-track
error is the distance to the line of the first leg, and the heading error is taken against that
leg, wherever the ship is. So both are those of the nearest leg only where the first leg is as good
as nearest.
-/

import MassTdl.Arbiter.ReachableBox
import MassTdl.Lines

namespace MassL3.M4.Scalars

open Lines

noncomputable section

/-! ### The flat earth -/

def realTracking : TrackingFunctions ℝ where
  toFunctions := realFunctions
  sin := Real.sin
  cos := Real.cos
  atan2 := fun y x => Complex.arg ⟨x, y⟩
  hypot := fun first second => √(first ^ 2 + second ^ 2)

/-- The projection of a pose, to the north and to the east of the first one. -/
def project (origin pose : ℝ × ℝ) : ℂ where
  re := (pose.1 - origin.1) * kDegToRad realTracking * kEarthRadiusM
  im := (pose.2 - origin.2) * kDegToRad realTracking * kEarthRadiusM *
    Real.cos (origin.1 * kDegToRad realTracking)

@[simp]
theorem project_self (origin : ℝ × ℝ) : project origin origin = 0 := by
  apply Complex.ext <;> simp [project]

def projectLeg (origin : ℝ × ℝ) (leg : (ℝ × ℝ) × (ℝ × ℝ)) : ℂ × ℂ :=
  (project origin leg.1, project origin leg.2)

/-- The heading error against a leg. -/
def headingErrorAgainst (headingDeg : ℝ) (leg : (ℝ × ℝ) × (ℝ × ℝ)) : ℝ :=
  signedHeadingErrorDeg realTracking headingDeg
    (computeBearingDeg realTracking leg.1.1 leg.1.2 leg.2.1 leg.2.2)

variable {first second own : ℝ × ℝ} {later : List (ℝ × ℝ)} {headingDeg : ℝ}

/-! ### The first leg -/

/-- What is tracked is the line of the first leg, unless that is too short. -/
theorem currentRouteTracking_real :
    currentRouteTracking realTracking (first :: second :: later) own headingDeg =
      if ‖project first second‖ ≤ 1 then none
      else some
        { xteM := cross (project first second) (project first own) / ‖project first second‖
          routeHeadingDeg := computeBearingDeg realTracking first.1 first.2 second.1 second.2
          headingErrorDeg := headingErrorAgainst headingDeg (first, second) } := by
  have length : √((project first second).re ^ 2 + (project first second).im ^ 2) =
      ‖project first second‖ := (Complex.norm_eq_sqrt_sq_add_sq _).symm
  rw [← length]
  unfold currentRouteTracking
  norm_num only
  rfl

/-- The magnitude of the cross-track error. -/
theorem abs_xte (long : 1 < ‖project first second‖) :
    |cross (project first second) (project first own) / ‖project first second‖| =
      lineDistance (project first own) (projectLeg first (first, second)) := by
  have apart : project first first ≠ project first second := by
    rw [project_self]
    exact (norm_pos_iff.mp (zero_lt_one.trans long)).symm
  unfold lineDistance projectLeg
  rw [infDist_line apart, project_self, sub_zero, sub_zero, abs_div, abs_norm]

/-! ### The nearest leg -/

/-- No leg of the route is nearer to the ship. -/
def IsNearestLeg (poses : List (ℝ × ℝ)) (origin own : ℝ × ℝ) (leg : (ℝ × ℝ) × (ℝ × ℝ)) : Prop :=
  IsNearest (legs poses) (fun leg => legDistance (project origin own) (projectLeg origin leg)) leg

/-- There is a tracking, and it speaks of a nearest leg. -/
def FollowsRoute (poses : List (ℝ × ℝ)) (origin own : ℝ × ℝ) (headingDeg : ℝ)
    (tracking : Option (RouteTracking ℝ)) : Prop :=
  ∃ result, tracking = some result ∧ ∃ leg, IsNearestLeg poses origin own leg ∧
    |result.xteM| = lineDistance (project origin own) (projectLeg origin leg) ∧
    result.headingErrorDeg = headingErrorAgainst headingDeg leg

/-- A nearest leg is as far from the ship, taken as a line, and as far off its heading as another
one. -/
def AsGoodAsNearest (poses : List (ℝ × ℝ)) (origin own : ℝ × ℝ) (headingDeg : ℝ)
    (leg : (ℝ × ℝ) × (ℝ × ℝ)) : Prop :=
  ∃ nearest, IsNearestLeg poses origin own nearest ∧
    lineDistance (project origin own) (projectLeg origin leg) =
      lineDistance (project origin own) (projectLeg origin nearest) ∧
    headingErrorAgainst headingDeg leg = headingErrorAgainst headingDeg nearest

theorem currentRouteTracking_follows_iff :
    FollowsRoute (first :: second :: later) first own headingDeg
        (currentRouteTracking realTracking (first :: second :: later) own headingDeg) ↔
      1 < ‖project first second‖ ∧
        AsGoodAsNearest (first :: second :: later) first own headingDeg (first, second) := by
  rw [currentRouteTracking_real]
  split_ifs with short
  · constructor
    · rintro ⟨result, absurdly, -⟩
      cases absurdly
    · rintro ⟨long, -⟩
      exact absurd long (not_lt.mpr short)
  · have long := not_le.mp short
    constructor
    · rintro ⟨result, isResult, leg, nearest, xte, error⟩
      obtain rfl := Option.some.inj isResult
      exact ⟨long, leg, nearest, (abs_xte long).symm.trans xte, error⟩
    · rintro ⟨-, leg, nearest, distance, error⟩
      exact ⟨_, rfl, leg, nearest, (abs_xte long).trans distance, error⟩

/-! ### A route with a corner -/

/-- A degree in meters. -/
theorem one_lt_degree : 1 < kDegToRad realTracking * kEarthRadiusM := by
  have pi : 3 < Real.pi := Real.pi_gt_three
  unfold kDegToRad kEarthRadiusM realTracking realFunctions
  norm_num only
  linarith

/-- From the equator the projection is the same to the north and to the east. -/
theorem project_equator (pose : ℝ × ℝ) :
    project (0, 0) pose =
      ⟨pose.1 * (kDegToRad realTracking * kEarthRadiusM),
        pose.2 * (kDegToRad realTracking * kEarthRadiusM)⟩ := by
  apply Complex.ext <;> simp [project, mul_assoc]

/-- A ship at the end of the second leg of a route that turns to the east at its first corner is
told of the first leg. -/
theorem tracking_misses_second_leg :
    ¬ FollowsRoute [(0, 0), (1, 0), (1, 1)] (0, 0) (1, 1) 90
      (currentRouteTracking realTracking [(0, 0), (1, 0), (1, 1)] (1, 1) 90) := by
  have degree := one_lt_degree
  have length : ‖project (0, 0) (1, 0)‖ = kDegToRad realTracking * kEarthRadiusM := by
    rw [project_equator, Complex.norm_eq_sqrt_sq_add_sq]
    norm_num
    exact Real.sqrt_sq (by linarith)
  have long : 1 < ‖project (0, 0) (1, 0)‖ := length ▸ degree
  rw [currentRouteTracking_real, if_neg (not_le.mpr long)]
  rintro ⟨result, isResult, leg, ⟨isLeg, nearest⟩, xte, -⟩
  obtain rfl := Option.some.inj isResult
  -- the second leg is reached, so a nearest leg is at no distance, even as a line
  have reached : legDistance (project (0, 0) (1, 1)) (projectLeg (0, 0) ((1, 0), (1, 1))) = 0 :=
    legDistance_finish _
  have none : lineDistance (project (0, 0) (1, 1)) (projectLeg (0, 0) leg) ≤ 0 :=
    (lineDistance_le_legDistance _ _).trans
      ((nearest ((1, 0), (1, 1)) (by simp [legs])).trans_eq reached)
  rw [← xte, length, project_equator, project_equator, cross] at none
  have crossTrack := abs_nonpos_iff.mp none
  norm_num at crossTrack
  rcases crossTrack with zero | zero <;> rw [zero] at degree <;> linarith

end

end MassL3.M4.Scalars
