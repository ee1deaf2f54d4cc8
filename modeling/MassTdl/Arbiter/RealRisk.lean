/-
This file studies the measures of the risk model over the real numbers. The domains are wider to
starboard than to port, and the wider a domain, the deeper a target to that side lies in it: its
margin is smaller, or where margins no longer tell, its score is greater.
-/

import MassTdl.Arbiter.ScalarRisk
import Mathlib.Analysis.SpecialFunctions.Pow.Real
import Mathlib.Analysis.SpecialFunctions.Trigonometric.Basic

namespace MassL3.Risk.Scalars

open Clamps

noncomputable section

/-! ### The functions of the reals -/

def realFunctions : Functions ℝ where
  pi := Real.pi
  sin := Real.sin
  cos := Real.cos
  exp := Real.exp
  abs := fun value => |value|
  hypot := fun first second => √(first ^ 2 + second ^ 2)
  pow := fun base exponent => base ^ exponent

theorem clamp01_eq (value : ℝ) : clamp01 value = max 0 (min value 1) := by
  have zero : (0.0 : ℝ) = 0 := by norm_num
  have one : (1.0 : ℝ) = 1 := by norm_num
  rw [clamp01, zero, one, stdClamp_eq value zero_le_one]

theorem clamp01_mem (value : ℝ) : 0 ≤ clamp01 value ∧ clamp01 value ≤ 1 := by
  rw [clamp01_eq]
  exact ⟨le_max_left _ _, max_le zero_le_one (min_le_right _ _)⟩

theorem clamp01_of_mem {value : ℝ} (low : 0 ≤ value) (high : value ≤ 1) :
    clamp01 value = value := by
  rw [clamp01_eq, min_eq_left high, max_eq_right low]

theorem colregsScoreComponent_mem (duty : ColregsDuty) :
    (0 : ℝ) ≤ colregsScoreComponent duty ∧ (colregsScoreComponent duty : ℝ) ≤ 1 := by
  cases duty <;> unfold colregsScoreComponent <;> norm_num

/-! ### Domains -/

/-- No axis is short. -/
structure DomainAxes.Long (axes : DomainAxes ℝ) : Prop where
  forward : 1 ≤ axes.forwardM
  astern : 1 ≤ axes.asternM
  starboard : 1 ≤ axes.starboardM
  port : 1 ≤ axes.portM

/-- Both domains of every ship have long axes, whatever the configuration. -/
theorem long_dangerAxes (own : OwnShip ℝ) : (dangerAxes own).Long := by
  unfold dangerAxes
  simp only [stdMax_eq_max]
  exact ⟨le_max_of_le_right (by norm_num), le_max_of_le_right (by norm_num),
    le_max_of_le_right (by norm_num), le_max_of_le_right (by norm_num)⟩

theorem one_le_warningScale (config : DomainConfig ℝ) : 1 ≤ config.sanitize.warningScale := by
  unfold DomainConfig.sanitize lowerBound
  norm_num only
  split_ifs with above
  exacts [above, le_refl 1]

theorem long_warningAxes (own : OwnShip ℝ) (config : DomainConfig ℝ) :
    (warningAxes own config).Long := by
  have scale := one_le_warningScale config
  obtain ⟨forward, astern, starboard, port⟩ := long_dangerAxes own
  exact ⟨one_le_mul_of_one_le_of_one_le forward scale,
    one_le_mul_of_one_le_of_one_le astern scale, one_le_mul_of_one_le_of_one_le starboard scale,
    one_le_mul_of_one_le_of_one_le port scale⟩

/-- Axes as both domains have them: none is short, and starboard is wider than port. -/
structure DomainAxes.Lopsided (axes : DomainAxes ℝ) : Prop where
  forward : 1 ≤ axes.forwardM
  astern : 1 ≤ axes.asternM
  port : 1 ≤ axes.portM
  starboard : axes.portM < axes.starboardM

theorem DomainAxes.Lopsided.long {axes : DomainAxes ℝ} (lopsided : axes.Lopsided) : axes.Long :=
  ⟨lopsided.forward, lopsided.astern, lopsided.port.trans lopsided.starboard.le, lopsided.port⟩

theorem lopsided_dangerAxes {own : OwnShip ℝ} (length : own.loaM = 46.0) :
    (dangerAxes own).Lopsided := by
  have speed : 0 ≤ nonNegative own.sogMps := by
    unfold nonNegative
    split_ifs with positive
    · norm_num at positive
      exact positive.le
    · norm_num
  have long : max (46 : ℝ) 1 = 46 := max_eq_left (by norm_num)
  unfold dangerAxes
  simp only [stdMax_eq_max, length]
  norm_num only
  rw [long]
  refine ⟨le_max_of_le_right (by norm_num), le_max_of_le_right (by norm_num),
    le_max_of_le_right (by norm_num), ?_⟩
  rw [max_lt_iff, max_lt_iff]
  refine ⟨⟨lt_max_of_lt_left (lt_max_of_lt_left (by norm_num)), ?_⟩,
    lt_max_of_lt_right (by norm_num)⟩
  rcases speed.eq_or_lt with still | moving
  · rw [← still]
    exact lt_max_of_lt_left (lt_max_of_lt_left (by norm_num))
  · exact lt_max_of_lt_left (lt_max_of_lt_right (by linarith))

section Sides

variable {axes : DomainAxes ℝ}

theorem one_le_selectedLongitudinalAxis (long : axes.Long) (xBodyM : ℝ) :
    1 ≤ selectedLongitudinalAxis xBodyM axes := by
  unfold selectedLongitudinalAxis
  split_ifs
  exacts [long.forward, long.astern]

theorem one_le_selectedLateralAxis (long : axes.Long) (yBodyM : ℝ) :
    1 ≤ selectedLateralAxis yBodyM axes := by
  unfold selectedLateralAxis
  split_ifs
  exacts [long.starboard, long.port]

theorem selectedLateralAxis_of_neg {yBodyM : ℝ} (negative : yBodyM < 0) :
    selectedLateralAxis yBodyM axes = axes.portM := by
  unfold selectedLateralAxis
  norm_num only
  exact if_neg (not_le.mpr negative)

theorem selectedLateralAxis_of_nonneg {yBodyM : ℝ} (nonnegative : 0 ≤ yBodyM) :
    selectedLateralAxis yBodyM axes = axes.starboardM := by
  unfold selectedLateralAxis
  norm_num only
  exact if_pos nonnegative

/-- The floor under an axis is never reached. -/
theorem stdMax_kEpsilon {axis : ℝ} (long : 1 ≤ axis) : stdMax axis kEpsilon = axis := by
  rw [stdMax_eq_max]
  unfold kEpsilon
  exact max_eq_left (le_trans (by norm_num) long)

/-- The norm with the floors gone. -/
theorem superellipseNorm_eq (long : axes.Long) (xBodyM yBodyM power : ℝ) :
    superellipseNorm realFunctions xBodyM yBodyM axes power =
      (|xBodyM / selectedLongitudinalAxis xBodyM axes| ^ lowerBound power 1.0 +
        |yBodyM / selectedLateralAxis yBodyM axes| ^ lowerBound power 1.0) ^
        (1.0 / lowerBound power 1.0) := by
  unfold superellipseNorm
  dsimp only
  rw [stdMax_kEpsilon (one_le_selectedLongitudinalAxis long xBodyM),
    stdMax_kEpsilon (one_le_selectedLateralAxis long yBodyM)]
  rfl

theorem superellipseNorm_nonneg (long : axes.Long) (xBodyM yBodyM power : ℝ) :
    0 ≤ superellipseNorm realFunctions xBodyM yBodyM axes power := by
  rw [superellipseNorm_eq long]
  positivity

theorem lowerBound_pos (power : ℝ) : 0 < lowerBound power 1.0 := by
  unfold lowerBound
  split_ifs with above
  · exact lt_of_lt_of_le (by norm_num) above
  · norm_num

/-- On the wider side a target is deeper in the domain. -/
theorem superellipseNorm_lt (lopsided : axes.Lopsided) (xBodyM power : ℝ) {yBodyM : ℝ}
    (toPort : yBodyM < 0) :
    superellipseNorm realFunctions xBodyM (-yBodyM) axes power <
      superellipseNorm realFunctions xBodyM yBodyM axes power := by
  have exponent := lowerBound_pos power
  have port : 0 < axes.portM := zero_lt_one.trans_le lopsided.port
  have narrower : |-yBodyM / axes.starboardM| < |yBodyM / axes.portM| := by
    rw [abs_div, abs_div, abs_neg, abs_of_pos port, abs_of_pos (port.trans lopsided.starboard)]
    exact div_lt_div_of_pos_left (abs_pos.mpr toPort.ne) port lopsided.starboard
  rw [superellipseNorm_eq lopsided.long, superellipseNorm_eq lopsided.long,
    selectedLateralAxis_of_neg toPort, selectedLateralAxis_of_nonneg (neg_pos.mpr toPort).le]
  refine Real.rpow_lt_rpow (by positivity) ?_ (by positivity)
  exact add_lt_add_right (Real.rpow_lt_rpow (abs_nonneg _) narrower exponent) _

/-! ### Margins and scores -/

/-- Outside the innermost part of the domain the deeper target has the smaller margin. -/
theorem boundaryMargin_lt {rangeM xBodyM yBodyM deeper norm : ℝ} (lopsided : axes.Lopsided)
    (away : 0 < rangeM) (less : deeper < norm) (outside : kEpsilon < norm) :
    boundaryMargin rangeM deeper xBodyM (-yBodyM) axes <
      boundaryMargin rangeM norm xBodyM yBodyM axes := by
  have positive : (0 : ℝ) < kEpsilon := by
    unfold kEpsilon
    norm_num
  have beyond : ¬ (rangeM ≤ kEpsilon ∧ norm ≤ kEpsilon) := fun innermost =>
    not_le.mpr outside innermost.2
  unfold boundaryMargin
  rw [if_neg beyond, stdMax_eq_max norm, max_eq_left outside.le]
  split_ifs with innermost
  · -- Where the two do not touch, both axes are longer than what remains of the range.
    have lateral := one_le_selectedLateralAxis lopsided.long (-yBodyM)
    have longitudinal := one_le_selectedLongitudinalAxis lopsided.long xBodyM
    have shorter : rangeM / norm ≤ 1 :=
      (div_le_one (positive.trans outside)).mpr (innermost.1.trans outside.le)
    rw [stdMin_eq_min, stdMax_kEpsilon longitudinal, stdMax_kEpsilon lateral]
    have inner := le_min longitudinal lateral
    linarith
  · rw [stdMax_eq_max]
    refine sub_lt_sub_left (div_lt_div_of_pos_left away (lt_max_of_lt_right positive) ?_) rangeM
    exact max_lt less outside

/-- In the innermost part it is the danger domain that scores. -/
theorem domainComponent_of_inner {warningNorm dangerNorm : ℝ} (nonnegative : 0 ≤ warningNorm)
    (inner : dangerNorm ≤ kEpsilon) :
    domainComponent (stdMax 0.0 (1.0 - warningNorm)) (stdMax 0.0 (1.0 - dangerNorm)) =
      1 - dangerNorm := by
  have small : dangerNorm ≤ 1 / 1000000 := by
    refine inner.trans (le_of_eq ?_)
    unfold kEpsilon
    norm_num
  unfold domainComponent
  simp only [stdMax_eq_max]
  norm_num only
  rw [max_eq_right (by linarith : (0 : ℝ) ≤ 1 - dangerNorm)]
  refine max_eq_right ?_
  have shallow : max 0 (1 - warningNorm) ≤ 1 := max_le zero_le_one (by linarith)
  linarith

/-- What the score adds to the share of the domains stays below the rest of the scale. -/
theorem clamp01_score {domain lesser urgency closing duty certainty : ℝ}
    (less : lesser < domain) (nonnegative : 0 ≤ lesser) (high : domain ≤ 1)
    (urgencyMem : 0 ≤ urgency ∧ urgency ≤ 1) (closingMem : 0 ≤ closing ∧ closing ≤ 1)
    (dutyMem : 0 ≤ duty ∧ duty ≤ 1) (certaintyMem : 0 ≤ certainty ∧ certainty ≤ 1) :
    clamp01 (0.40 * lesser + 0.25 * urgency + 0.15 * closing + 0.15 * duty +
        0.05 * (1.0 - certainty)) <
      clamp01 (0.40 * domain + 0.25 * urgency + 0.15 * closing + 0.15 * duty +
        0.05 * (1.0 - certainty)) := by
  obtain ⟨urgencyLow, urgencyHigh⟩ := urgencyMem
  obtain ⟨closingLow, closingHigh⟩ := closingMem
  obtain ⟨dutyLow, dutyHigh⟩ := dutyMem
  obtain ⟨certaintyLow, certaintyHigh⟩ := certaintyMem
  norm_num only
  rw [clamp01_of_mem (by linarith) (by linarith), clamp01_of_mem (by linarith) (by linarith)]
  linarith

theorem urgency_mem (tcpaS : ℝ) :
    0 ≤ (if tcpaS ≥ 0.0 then realFunctions.exp (-tcpaS / 180.0) else 0.0) ∧
      (if tcpaS ≥ 0.0 then realFunctions.exp (-tcpaS / 180.0) else 0.0) ≤ 1 := by
  norm_num only
  split_ifs with ahead
  · refine ⟨(Real.exp_pos _).le, Real.exp_le_one_iff.mpr ?_⟩
    linarith
  · exact ⟨le_refl 0, zero_le_one⟩

variable {own : OwnShip ℝ} {relative : Relative ℝ} {target : Target ℝ} {duty : ColregsDuty}
  {config : DomainConfig ℝ}

/-- A target to port and its image to starboard differ in the margin of the danger domain or in
the score. -/
theorem measuresAt_mirrored (length : own.loaM = 46.0) (away : 0 < relative.rangeM)
    (toPort : relative.yBodyM < 0)
    (sameMargin :
      (measuresAt realFunctions own { relative with yBodyM := -relative.yBodyM } target duty
        config).dangerMarginM =
      (measuresAt realFunctions own relative target duty config).dangerMarginM) :
    (measuresAt realFunctions own relative target duty config).riskScore <
      (measuresAt realFunctions own { relative with yBodyM := -relative.yBodyM } target duty
        config).riskScore := by
  have danger := lopsided_dangerAxes length
  have deeper := superellipseNorm_lt danger relative.xBodyM config.sanitize.superellipsePower
    toPort
  rcases lt_or_ge kEpsilon (superellipseNorm realFunctions relative.xBodyM relative.yBodyM
    (dangerAxes own) config.sanitize.superellipsePower) with outside | inner
  · exact absurd sameMargin (boundaryMargin_lt danger away deeper outside).ne
  · have nonnegative := superellipseNorm_nonneg danger.long relative.xBodyM (-relative.yBodyM)
      config.sanitize.superellipsePower
    unfold measuresAt
    dsimp only
    have nonneg := superellipseNorm_nonneg (long_warningAxes own config)
    rw [domainComponent_of_inner (nonneg _ _ _) inner,
      domainComponent_of_inner (nonneg _ _ _) (deeper.le.trans inner)]
    have shallow : kEpsilon ≤ (1 : ℝ) := by
      unfold kEpsilon
      norm_num
    exact clamp01_score (sub_lt_sub_left deeper 1) (sub_nonneg.mpr (inner.trans shallow))
      (sub_le_self 1 nonnegative) (urgency_mem target.tcpaS) (clamp01_mem _)
      (colregsScoreComponent_mem duty) (clamp01_mem _)

end Sides

end

end MassL3.Risk.Scalars
