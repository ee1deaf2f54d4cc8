/-
This file is a small library about the plane: the legs of a polyline, and the speeds and courses of
vehicles. How far a point is from the line through two others is a cross product over a length. Of
the legs of a polyline some are nearest to a point.

A vehicle that makes a speed along a course has a velocity, and two vehicles have a relative speed:
the magnitude of the difference of their velocities. Its square is the square of the difference of
the speeds and a part that grows with the angle between the courses, so the speeds alone say
nothing about it.

Nothing in it names a particular program.
-/

import Mathlib

namespace Courses

open Real

noncomputable section

/-- The components to the east and to the north, of a speed along a course clockwise from
north. -/
def velocity (speed course : ℝ) : ℝ × ℝ := (speed * sin course, speed * cos course)

/-- The length of a vector. -/
def magnitude (vector : ℝ × ℝ) : ℝ := √(vector.1 ^ 2 + vector.2 ^ 2)

/-- The magnitude of the second velocity relative to the first. -/
def relativeSpeed (speed course otherSpeed otherCourse : ℝ) : ℝ :=
  magnitude (velocity otherSpeed otherCourse - velocity speed course)

variable (speed course otherSpeed otherCourse : ℝ)

/-- The law of cosines, with the angle between the courses halved. -/
theorem relativeSpeed_eq :
    relativeSpeed speed course otherSpeed otherCourse =
      √((otherSpeed - speed) ^ 2 +
        4 * speed * otherSpeed * sin ((otherCourse - course) / 2) ^ 2) := by
  unfold relativeSpeed magnitude velocity
  congr 1
  have angle : cos otherCourse * cos course + sin otherCourse * sin course =
      1 - 2 * sin ((otherCourse - course) / 2) ^ 2 := by
    rw [← cos_two_mul_eq_one_sub, mul_div_cancel₀ (otherCourse - course) two_ne_zero, cos_sub]
  simp only [Prod.fst_sub, Prod.snd_sub]
  linear_combination otherSpeed ^ 2 * sin_sq_add_cos_sq otherCourse +
    speed ^ 2 * sin_sq_add_cos_sq course - 2 * speed * otherSpeed * angle

/-- At equal speeds only the angle between the courses counts. -/
theorem relativeSpeed_self_speed :
    relativeSpeed speed course speed otherCourse =
      2 * |speed * sin ((otherCourse - course) / 2)| := by
  rw [relativeSpeed_eq]
  have square : (speed - speed) ^ 2 + 4 * speed * speed * sin ((otherCourse - course) / 2) ^ 2 =
      (2 * |speed * sin ((otherCourse - course) / 2)|) ^ 2 := by
    rw [mul_pow, sq_abs]
    ring
  rw [square, sqrt_sq (by positivity)]

end

end Courses

namespace Lines

noncomputable section

/-! ### Products of vectors -/

def cross (first second : ℂ) : ℝ := first.re * second.im - first.im * second.re

def dot (first second : ℂ) : ℝ := first.re * second.re + first.im * second.im

theorem norm_mul_norm_sq (first second : ℂ) :
    (‖first‖ * ‖second‖) ^ 2 = cross first second ^ 2 + dot first second ^ 2 := by
  rw [mul_pow, Complex.sq_norm, Complex.sq_norm, Complex.normSq_apply, Complex.normSq_apply]
  unfold cross dot
  ring

theorem abs_cross_le (first second : ℂ) : |cross first second| ≤ ‖first‖ * ‖second‖ := by
  refine abs_le_of_sq_le_sq ?_ (by positivity)
  rw [norm_mul_norm_sq]
  linarith [sq_nonneg (dot first second)]

/-- At a right angle that is all there is. -/
theorem abs_cross_of_dot {first second : ℂ} (right : dot first second = 0) :
    |cross first second| = ‖first‖ * ‖second‖ := by
  have square := norm_mul_norm_sq first second
  rw [right, zero_pow two_ne_zero, add_zero] at square
  rw [← abs_of_nonneg (by positivity : 0 ≤ ‖first‖ * ‖second‖)]
  exact ((sq_eq_sq_iff_abs_eq_abs _ _).mp square).symm

/-! ### Lines -/

variable {start finish point : ℂ}

/-- The distance to the line through two points. -/
theorem infDist_line (apart : start ≠ finish) :
    Metric.infDist point (line[ℝ, start, finish] : Set ℂ) =
      |cross (finish - start) (point - start)| / ‖finish - start‖ := by
  have length : 0 < ‖finish - start‖ := norm_pos_iff.mpr (sub_ne_zero.mpr apart.symm)
  -- a point of the line sees the same cross product
  have same (ratio : ℝ) : cross (finish - start)
      (point - AffineMap.lineMap start finish ratio) =
        cross (finish - start) (point - start) := by
    simp only [cross, AffineMap.lineMap_apply, vsub_eq_sub, vadd_eq_add, Complex.real_smul,
      Complex.sub_re, Complex.sub_im, Complex.add_re, Complex.add_im, Complex.mul_re,
      Complex.mul_im, Complex.ofReal_re, Complex.ofReal_im]
    ring
  apply le_antisymm
  · -- the foot of the perpendicular is on the line
    have right : dot (finish - start) (point - AffineMap.lineMap start finish
        (dot (finish - start) (point - start) / ‖finish - start‖ ^ 2)) = 0 := by
      have norm : ‖finish - start‖ ^ 2 =
          (finish - start).re * (finish - start).re +
            (finish - start).im * (finish - start).im := by
        rw [Complex.sq_norm, Complex.normSq_apply]
      have scaled : dot (finish - start) (point - start) / ‖finish - start‖ ^ 2 *
          ‖finish - start‖ ^ 2 = dot (finish - start) (point - start) :=
        div_mul_cancel₀ _ (pow_ne_zero 2 length.ne')
      generalize dot (finish - start) (point - start) / ‖finish - start‖ ^ 2 = ratio at scaled ⊢
      rw [norm] at scaled
      simp only [dot, AffineMap.lineMap_apply, vsub_eq_sub, vadd_eq_add, Complex.real_smul,
        Complex.sub_re, Complex.sub_im, Complex.add_re, Complex.add_im, Complex.mul_re,
        Complex.mul_im, Complex.ofReal_re, Complex.ofReal_im] at scaled ⊢
      linarith
    have foot := abs_cross_of_dot right
    rw [same] at foot
    rw [foot, mul_div_cancel_left₀ _ length.ne', ← dist_eq_norm]
    exact Metric.infDist_le_dist_of_mem (AffineMap.lineMap_mem_affineSpan_pair _ _ _)
  · refine (Metric.le_infDist ⟨start, left_mem_affineSpan_pair ℝ start finish⟩).mpr ?_
    intro other onLine
    obtain ⟨ratio, rfl⟩ := mem_affineSpan_pair_iff_exists_lineMap_eq.mp onLine
    rw [div_le_iff₀' length, ← same ratio, dist_eq_norm]
    exact abs_cross_le _ _

/-! ### Legs -/

/-- The legs of a polyline, one after another. -/
def legs {Point : Type} : List Point → List (Point × Point)
  | first :: second :: later => (first, second) :: legs (second :: later)
  | _ => []

/-- How far a point is from a leg itself. -/
def legDistance (point : ℂ) (leg : ℂ × ℂ) : ℝ := Metric.infDist point (segment ℝ leg.1 leg.2)

/-- How far it is from the line of a leg. -/
def lineDistance (point : ℂ) (leg : ℂ × ℂ) : ℝ :=
  Metric.infDist point (line[ℝ, leg.1, leg.2] : Set ℂ)

/-- A leg itself is no nearer than its line. -/
theorem lineDistance_le_legDistance (point : ℂ) (leg : ℂ × ℂ) :
    lineDistance point leg ≤ legDistance point leg := by
  refine Metric.infDist_le_infDist_of_subset (fun other onLeg => ?_)
    ⟨leg.1, left_mem_segment ℝ leg.1 leg.2⟩
  rw [segment_eq_image_lineMap] at onLeg
  obtain ⟨ratio, -, rfl⟩ := onLeg
  exact AffineMap.lineMap_mem_affineSpan_pair _ _ _

/-- At its end a leg is reached. -/
theorem legDistance_finish (leg : ℂ × ℂ) : legDistance leg.2 leg = 0 :=
  Metric.infDist_zero_of_mem (right_mem_segment ℝ leg.1 leg.2)

/-- None of some legs is at a smaller distance than this one. -/
def IsNearest {Leg : Type} (all : List Leg) (distance : Leg → ℝ) (leg : Leg) : Prop :=
  leg ∈ all ∧ ∀ other ∈ all, distance leg ≤ distance other

end

end Lines
