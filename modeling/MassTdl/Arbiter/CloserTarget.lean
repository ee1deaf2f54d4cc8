/-
This file proves that a closer target is never the safer one. A target that moves towards own
ship on the ray it is seen on has the same closing speed, and the norm by which the domains are
measured shrinks in proportion to its range, for every power of the superellipse. So nothing that
held for its phase is lost, and no part of its score falls.

The danger domain lies inside the warning domain, and a margin is negative exactly inside the
domain it belongs to.
-/

import MassTdl.Arbiter.RealRisk

namespace MassL3.Risk.Scalars

open Clamps

noncomputable section

/-- The target on the same ray, at a share of its range. -/
def Target.inward (target : Target ℝ) (own : OwnShip ℝ) (share : ℝ) : Target ℝ :=
  { target with
    xM := own.xM + share * (target.xM - own.xM)
    yM := own.yM + share * (target.yM - own.yM) }

/-- The norm of a target in the danger domain. -/
def dangerNorm (own : OwnShip ℝ) (target : Target ℝ) (config : DomainConfig ℝ) : ℝ :=
  let relative := relativeTo realFunctions own target
  superellipseNorm realFunctions relative.xBodyM relative.yBodyM (dangerAxes own)
    config.sanitize.superellipsePower

/-- Its norm in the warning domain. -/
def warningNorm (own : OwnShip ℝ) (target : Target ℝ) (config : DomainConfig ℝ) : ℝ :=
  let relative := relativeTo realFunctions own target
  superellipseNorm realFunctions relative.xBodyM relative.yBodyM (warningAxes own config)
    config.sanitize.superellipsePower

/-! ### Norms -/

section Norms

variable {axes : DomainAxes ℝ} (long : axes.Long)

theorem selectedLongitudinalAxis_mul {share : ℝ} (positive : 0 < share) (xBodyM : ℝ) :
    selectedLongitudinalAxis (share * xBodyM) axes = selectedLongitudinalAxis xBodyM axes := by
  unfold selectedLongitudinalAxis
  norm_num only
  simp only [ge_iff_le, mul_nonneg_iff_of_pos_left positive]

theorem selectedLateralAxis_mul {share : ℝ} (positive : 0 < share) (yBodyM : ℝ) :
    selectedLateralAxis (share * yBodyM) axes = selectedLateralAxis yBodyM axes := by
  unfold selectedLateralAxis
  norm_num only
  simp only [ge_iff_le, mul_nonneg_iff_of_pos_left positive]

/-- The `power`-th root of a multiple of a sum of powers. -/
theorem root_mul {share sum power : ℝ} (positive : 0 < share) (nonneg : 0 ≤ sum)
    (exponent : 0 < power) :
    (share ^ power * sum) ^ (1.0 / power) = share * sum ^ (1.0 / power) := by
  rw [Real.mul_rpow (Real.rpow_nonneg positive.le _) nonneg, ← Real.rpow_mul positive.le]
  norm_num only
  rw [mul_one_div_cancel exponent.ne', Real.rpow_one]

include long

/-- The norm is homogeneous along each ray. -/
theorem superellipseNorm_mul {share : ℝ} (positive : 0 < share) (xBodyM yBodyM power : ℝ) :
    superellipseNorm realFunctions (share * xBodyM) (share * yBodyM) axes power =
      share * superellipseNorm realFunctions xBodyM yBodyM axes power := by
  have scaled (coordinate axis : ℝ) : |share * coordinate / axis| ^ lowerBound power 1.0 =
      share ^ lowerBound power 1.0 * |coordinate / axis| ^ lowerBound power 1.0 := by
    rw [mul_div_assoc, abs_mul, abs_of_pos positive, Real.mul_rpow positive.le (abs_nonneg _)]
  rw [superellipseNorm_eq long, superellipseNorm_eq long, selectedLongitudinalAxis_mul positive,
    selectedLateralAxis_mul positive, scaled, scaled, ← mul_add]
  exact root_mul positive (by positivity) (lowerBound_pos power)

/-- At own ship it vanishes. -/
theorem superellipseNorm_zero (power : ℝ) :
    superellipseNorm realFunctions 0 0 axes power = 0 := by
  rw [superellipseNorm_eq long, zero_div, zero_div, abs_zero,
    Real.zero_rpow (lowerBound_pos power).ne', add_zero, Real.zero_rpow]
  exact (div_pos (by norm_num) (lowerBound_pos power)).ne'

/-- A margin is negative exactly inside the domain. -/
theorem boundaryMargin_neg_iff {rangeM xBodyM yBodyM norm : ℝ} (nonneg : 0 ≤ rangeM)
    (atOwn : rangeM = 0 → norm = 0) :
    boundaryMargin rangeM norm xBodyM yBodyM axes < 0 ↔ norm < 1 := by
  have small : (0 : ℝ) < kEpsilon ∧ (kEpsilon : ℝ) < 1 := by
    unfold kEpsilon
    norm_num
  unfold boundaryMargin
  by_cases inner : rangeM ≤ kEpsilon ∧ norm ≤ kEpsilon
  · have first := one_le_selectedLongitudinalAxis long xBodyM
    have second := one_le_selectedLateralAxis long yBodyM
    rw [if_pos inner, stdMin_eq_min, stdMax_kEpsilon first, stdMax_kEpsilon second]
    refine iff_of_true ?_ (inner.2.trans_lt small.2)
    have shortest := le_min first second
    linarith
  · rw [if_neg inner, stdMax_eq_max, sub_neg]
    have away : 0 < rangeM := by
      refine nonneg.lt_of_ne fun here => inner ?_
      rw [atOwn here.symm, ← here]
      exact ⟨small.1.le, small.1.le⟩
    have divisor : 0 < max norm kEpsilon := lt_max_of_lt_right small.1
    rw [lt_div_iff₀ divisor, mul_lt_iff_lt_one_right away, max_lt_iff]
    exact and_iff_left small.2

end Norms

/-! ### The two domains -/

section Domains

variable (own : OwnShip ℝ) (target : Target ℝ) (config : DomainConfig ℝ)

/-- The warning domain is the danger domain, enlarged by its scale. -/
theorem warningNorm_eq :
    config.sanitize.warningScale * warningNorm own target config =
      dangerNorm own target config := by
  have scale := one_le_warningScale config
  have positive : 0 < config.sanitize.warningScale := zero_lt_one.trans_le scale
  unfold warningNorm dangerNorm
  dsimp only
  rw [← superellipseNorm_mul (long_warningAxes own config) positive,
    superellipseNorm_eq (long_warningAxes own config), superellipseNorm_eq (long_dangerAxes own),
    selectedLongitudinalAxis_mul positive, selectedLateralAxis_mul positive]
  have longitudinal (xBodyM : ℝ) : selectedLongitudinalAxis xBodyM (warningAxes own config) =
      config.sanitize.warningScale * selectedLongitudinalAxis xBodyM (dangerAxes own) := by
    unfold selectedLongitudinalAxis
    rw [mul_ite, mul_comm _ (dangerAxes own).forwardM, mul_comm _ (dangerAxes own).asternM]
    rfl
  have lateral (yBodyM : ℝ) : selectedLateralAxis yBodyM (warningAxes own config) =
      config.sanitize.warningScale * selectedLateralAxis yBodyM (dangerAxes own) := by
    unfold selectedLateralAxis
    rw [mul_ite, mul_comm _ (dangerAxes own).starboardM, mul_comm _ (dangerAxes own).portM]
    rfl
  rw [longitudinal, lateral, mul_div_mul_left _ _ positive.ne', mul_div_mul_left _ _ positive.ne']

theorem warningNorm_le : warningNorm own target config ≤ dangerNorm own target config := by
  rw [← warningNorm_eq]
  exact le_mul_of_one_le_left (superellipseNorm_nonneg (long_warningAxes own config) _ _ _)
    (one_le_warningScale config)

variable {own target}

theorem relativeTo_rangeM :
    (relativeTo realFunctions own target).rangeM =
      √((target.xM - own.xM) ^ 2 + (target.yM - own.yM) ^ 2) := rfl

/-- A target without a range is at own ship, where both norms vanish. -/
theorem norms_of_no_range (here : (relativeTo realFunctions own target).rangeM = 0) :
    dangerNorm own target config = 0 ∧ warningNorm own target config = 0 := by
  rw [relativeTo_rangeM, Real.sqrt_eq_zero (by positivity)] at here
  have east : target.xM - own.xM = 0 := by nlinarith [sq_nonneg (target.yM - own.yM)]
  have north : target.yM - own.yM = 0 := by nlinarith [sq_nonneg (target.xM - own.xM)]
  unfold dangerNorm warningNorm relativeTo
  simp only [east, north, mul_zero, add_zero]
  exact ⟨superellipseNorm_zero (long_dangerAxes own) _,
    superellipseNorm_zero (long_warningAxes own config) _⟩

variable (own target) (duty : ColregsDuty)

/-- Each margin is negative exactly inside its domain. -/
theorem measures_margins :
    ((measures realFunctions own target duty config).dangerMarginM < 0 ↔
        dangerNorm own target config < 1) ∧
      ((measures realFunctions own target duty config).warningMarginM < 0 ↔
        warningNorm own target config < 1) := by
  have nonneg : 0 ≤ (relativeTo realFunctions own target).rangeM := Real.sqrt_nonneg _
  exact ⟨boundaryMargin_neg_iff (long_dangerAxes own) nonneg fun here =>
      (norms_of_no_range config here).1,
    boundaryMargin_neg_iff (long_warningAxes own config) nonneg fun here =>
      (norms_of_no_range config here).2⟩

end Domains

/-! ### Moving inward -/

section Inward

variable {own : OwnShip ℝ} {target : Target ℝ} {share : ℝ}

/-- The target keeps its bearing, and everything that is measured shrinks in proportion. -/
theorem relativeTo_inward (own : OwnShip ℝ) (target : Target ℝ) (positive : 0 < share) :
    (relativeTo realFunctions own (target.inward own share)).xBodyM =
        share * (relativeTo realFunctions own target).xBodyM ∧
      (relativeTo realFunctions own (target.inward own share)).yBodyM =
        share * (relativeTo realFunctions own target).yBodyM ∧
      (relativeTo realFunctions own (target.inward own share)).rangeM =
        share * (relativeTo realFunctions own target).rangeM := by
  refine ⟨?_, ?_, ?_⟩
  · unfold relativeTo Target.inward
    dsimp only
    ring
  · unfold relativeTo Target.inward
    dsimp only
    ring
  · rw [relativeTo_rangeM, relativeTo_rangeM]
    unfold Target.inward
    dsimp only
    rw [add_sub_cancel_left, add_sub_cancel_left, mul_pow, mul_pow, ← mul_add,
      Real.sqrt_mul (sq_nonneg share), Real.sqrt_sq positive.le]

/-- The closing speed is one along the ray, so it stays. -/
theorem relativeTo_inward_closing (positive : 0 < share) (inside : share ≤ 1)
    (away : kEpsilon < (relativeTo realFunctions own (target.inward own share)).rangeM) :
    (relativeTo realFunctions own (target.inward own share)).closingSpeedMps =
      (relativeTo realFunctions own target).closingSpeedMps := by
  obtain ⟨-, -, range⟩ := relativeTo_inward own target positive
  have nonneg : 0 ≤ (relativeTo realFunctions own target).rangeM := Real.sqrt_nonneg _
  have farther : kEpsilon < (relativeTo realFunctions own target).rangeM := by
    rw [range] at away
    exact away.trans_le (mul_le_of_le_one_left nonneg inside)
  unfold relativeTo at range away farther ⊢
  dsimp only at range away farther ⊢
  rw [if_pos away, if_pos farther, range]
  unfold Target.inward
  dsimp only
  rw [add_sub_cancel_left, add_sub_cancel_left]
  refine congrArg Neg.neg (Eq.trans ?_ (mul_div_mul_left _ _ positive.ne'))
  refine congrArg (· / _) ?_
  ring

theorem norms_inward (own : OwnShip ℝ) (target : Target ℝ) (positive : 0 < share)
    (config : DomainConfig ℝ) :
    dangerNorm own (target.inward own share) config = share * dangerNorm own target config ∧
      warningNorm own (target.inward own share) config =
        share * warningNorm own target config := by
  obtain ⟨ahead, abeam, -⟩ := relativeTo_inward own target positive
  unfold dangerNorm warningNorm
  dsimp only
  rw [ahead, abeam, superellipseNorm_mul (long_dangerAxes own) positive,
    superellipseNorm_mul (long_warningAxes own config) positive]
  exact ⟨rfl, rfl⟩

end Inward

/-! ### Phases and scores -/

section Measures

variable {own : OwnShip ℝ} {config : DomainConfig ℝ} (duty : ColregsDuty)

/-- The phase that the tests of the two domains and of the times amount to. -/
theorem measures_riskPhase (target : Target ℝ) :
    (measures realFunctions own target duty config).riskPhase =
      if dangerNorm own target config < 1 ∧ target.tcpaS ≤ config.sanitize.criticalHorizonS ∧
        target.tcpaS ≥ 0 then .critical
      else if dangerNorm own target config < 1 then .danger
      else if warningNorm own target config < 1 then .warning
      else if target.tcpaS ≥ 0 ∧ target.tcpaS ≤ config.sanitize.actionHorizonS ∧
          target.cpaM < (warningAxes own config).forwardM then .monitor
      else .clear := by
  have zero : (0.0 : ℝ) = 0 := by norm_num
  have depth (norm : ℝ) : stdMax 0 (1.0 - norm) > 0 ↔ norm < 1 := by
    rw [stdMax_eq_max]
    norm_num only
    rw [gt_iff_lt, lt_max_iff, sub_pos]
    exact or_iff_right (lt_irrefl 0)
  obtain ⟨danger, warning⟩ := measures_margins own target config duty
  unfold dangerNorm at danger ⊢
  unfold warningNorm at warning ⊢
  unfold measures measuresAt at danger warning ⊢
  dsimp only at danger warning ⊢
  simp only [zero, depth, danger, warning, or_self]

theorem clamp01_mono {first second : ℝ} (order : first ≤ second) :
    clamp01 first ≤ clamp01 second := by
  rw [clamp01_eq, clamp01_eq]
  exact max_le_max_left 0 (min_le_min_right 1 order)

/-- The deeper a target lies in the domains, the larger their share of the score. -/
theorem domainComponent_mono {warning deeperWarning danger deeperDanger : ℝ}
    (warningLe : deeperWarning ≤ warning) (dangerLe : deeperDanger ≤ danger) :
    domainComponent (stdMax 0.0 (1.0 - warning)) (stdMax 0.0 (1.0 - danger)) ≤
      domainComponent (stdMax 0.0 (1.0 - deeperWarning)) (stdMax 0.0 (1.0 - deeperDanger)) := by
  unfold domainComponent
  simp only [stdMax_eq_max]
  refine max_le_max (mul_le_mul_of_nonneg_right ?_ (by norm_num)) ?_
  · exact max_le_max_left _ (sub_le_sub_left warningLe _)
  · exact max_le_max_left _ (sub_le_sub_left dangerLe _)

variable {target : Target ℝ} {share : ℝ}

/-- On its way in a target loses nothing that its phase came from. -/
theorem rank_le_inward (positive : 0 < share) (inside : share ≤ 1) :
    (measures realFunctions own target duty config).riskPhase.rank ≤
      (measures realFunctions own (target.inward own share) duty config).riskPhase.rank := by
  obtain ⟨dangerEq, warningEq⟩ := norms_inward own target positive config
  have danger : dangerNorm own target config < 1 →
      dangerNorm own (target.inward own share) config < 1 := fun inDanger => by
    rw [dangerEq]
    exact (mul_le_of_le_one_left (superellipseNorm_nonneg (long_dangerAxes own) _ _ _)
      inside).trans_lt inDanger
  have warning : warningNorm own target config < 1 →
      warningNorm own (target.inward own share) config < 1 := fun inWarning => by
    rw [warningEq]
    exact (mul_le_of_le_one_left (superellipseNorm_nonneg (long_warningAxes own config) _ _ _)
      inside).trans_lt inWarning
  have tcpa : (target.inward own share).tcpaS = target.tcpaS := rfl
  have cpa : (target.inward own share).cpaM = target.cpaM := rfl
  rw [measures_riskPhase, measures_riskPhase, tcpa, cpa]
  by_cases inDanger : dangerNorm own target config < 1
  · simp only [inDanger, danger inDanger, true_and, if_true, le_refl]
  by_cases inWarning : warningNorm own target config < 1
  · simp only [inDanger, inWarning, warning inWarning, false_and, if_false, if_true]
    split_ifs <;> decide
  · simp only [inDanger, inWarning, false_and, if_false]
    split_ifs <;> decide

/-- Nor does any part of its score fall. -/
theorem score_le_inward (positive : 0 < share) (inside : share ≤ 1)
    (away : kEpsilon < (relativeTo realFunctions own (target.inward own share)).rangeM) :
    (measures realFunctions own target duty config).riskScore ≤
      (measures realFunctions own (target.inward own share) duty config).riskScore := by
  obtain ⟨dangerEq, warningEq⟩ := norms_inward own target positive config
  have deeper := domainComponent_mono
    (warningEq.trans_le (mul_le_of_le_one_left
      (superellipseNorm_nonneg (long_warningAxes own config) _ _ _) inside))
    (dangerEq.trans_le (mul_le_of_le_one_left
      (superellipseNorm_nonneg (long_dangerAxes own) _ _ _) inside))
  have closing := relativeTo_inward_closing positive inside away
  unfold measures measuresAt
  dsimp only
  rw [closing]
  refine clamp01_mono ?_
  have weighted := mul_le_mul_of_nonneg_left deeper (by norm_num : (0 : ℝ) ≤ 0.40)
  exact add_le_add_left (add_le_add_left (add_le_add_left (add_le_add_left weighted _) _) _) _

end Measures

/-! ### Closer is never safer -/

/-- What a target's measures tell about its distance. -/
structure CloserLaw (own : OwnShip ℝ) (target : Target ℝ) (duty : ColregsDuty)
    (config : DomainConfig ℝ) : Prop where
  /-- Nearer on the same ray, and not at own ship, it is in no lower phase and scores no less. -/
  inward : ∀ share, 0 < share → share ≤ 1 →
    kEpsilon < (relativeTo realFunctions own (target.inward own share)).rangeM →
    (measures realFunctions own target duty config).riskPhase.rank ≤
        (measures realFunctions own (target.inward own share) duty config).riskPhase.rank ∧
      (measures realFunctions own target duty config).riskScore ≤
        (measures realFunctions own (target.inward own share) duty config).riskScore
  /-- The danger domain is contained in the warning domain. -/
  contained : (measures realFunctions own target duty config).dangerMarginM < 0 →
    (measures realFunctions own target duty config).warningMarginM < 0
  insideDanger : (measures realFunctions own target duty config).dangerMarginM < 0 ↔
    dangerNorm own target config < 1
  insideWarning : (measures realFunctions own target duty config).warningMarginM < 0 ↔
    warningNorm own target config < 1
  score : 0 ≤ (measures realFunctions own target duty config).riskScore ∧
    (measures realFunctions own target duty config).riskScore ≤ 1

theorem closerLaw (own : OwnShip ℝ) (target : Target ℝ) (duty : ColregsDuty)
    (config : DomainConfig ℝ) : CloserLaw own target duty config where
  inward _ positive inside away :=
    ⟨rank_le_inward duty positive inside, score_le_inward duty positive inside away⟩
  contained inDanger := by
    obtain ⟨danger, warning⟩ := measures_margins own target config duty
    exact warning.mpr ((warningNorm_le own target config).trans_lt (danger.mp inDanger))
  insideDanger := (measures_margins own target config duty).1
  insideWarning := (measures_margins own target config duty).2
  score := clamp01_mem _

end

end MassL3.Risk.Scalars
