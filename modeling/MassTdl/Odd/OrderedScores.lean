/-
This file compares the smoothed score with the raw scores behind it. The score that is published
stays between zero and one, and between the score before it and the raw score of its cycle but for
what rounding loses. Of two runs the one with the lower scores on every axis has the lower smoothed
score, in doubles as well as over the reals, because no rounding turns an order around.

The axes are weighed by factors that are not negative. An infinite score of an axis that does not
count would make the sum undefined, and an undefined sum counts as zero.
-/

import MassTdl.Binary64.Nearest
import MassTdl.Odd.ConformanceScore
import MassTdl.Smoothing

namespace MassL3.M1

open Clamps
open Binary64 Runs Smoothing

/-! ### Runs of the filter -/

/-- The inputs of a cycle and the time since the one before it. -/
structure ScoredCycle where
  inputs : ScoringInputs
  dtS : Float

/-- A cycle leaves its smoothed score in the filter. -/
def smoothCycle (params : ParameterSet) (emaState : EmaState) (cycle : ScoredCycle) : EmaState :=
  (computeWithEma params cycle.inputs emaState cycle.dtS).2

/-- None of the weights is negative. -/
structure WeightsNonneg (params : ParameterSet) : Prop where
  environment : 0.0 ≤ params.wE
  task : 0.0 ≤ params.wT
  human : 0.0 ≤ params.wH

/-! ### Clamped scores -/

theorem toEReal_one : toEReal 1.0 = 1 := by
  rw [toEReal_of_finite rfl, toReal_one, EReal.coe_one]

theorem toEReal_clamp {value : Float} (number : value.isNaN = false) :
    toEReal (stdClamp value 0.0 1.0) = max 0 (min (toEReal value) 1) := by
  unfold stdClamp
  split_ifs with below above
  · obtain ⟨-, -, order⟩ := (lt_iff _ _).mp below
    rw [toEReal_zero] at order ⊢
    rw [max_eq_left ((min_le_left _ _).trans order.le)]
  · obtain ⟨-, -, order⟩ := (lt_iff _ _).mp above
    rw [toEReal_one] at order ⊢
    rw [min_eq_right order.le, max_eq_right zero_le_one]
  · have low := ((le_iff _ _).mp (le_of_not_lt rfl number below)).2.2
    have high := ((le_iff _ _).mp (le_of_not_lt number rfl above)).2.2
    rw [toEReal_zero] at low
    rw [toEReal_one] at high
    rw [min_eq_left high, max_eq_right low]

/-- A sum that is not a number counts as one below all numbers. -/
theorem toEReal_clamp_orZero (value : Float) :
    toEReal (stdClamp (orZero value) 0.0 1.0) = max 0 (min (lowered value) 1) := by
  rw [toEReal_clamp (orZero_number value)]
  by_cases undefined : value.isNaN = true
  · have zero : orZero value = 0.0 := if_pos undefined
    have bottom : lowered value = ⊥ := by
      rw [isNaN_eq] at undefined
      unfold lowered
      rw [eq_notANumber undefined]
      rfl
    rw [zero, bottom, toEReal_zero, min_eq_left zero_le_one, max_self, min_eq_left bot_le,
      max_eq_left bot_le]
  · have same : orZero value = value := if_neg undefined
    rw [same, lowered_of_number (Bool.eq_false_iff.mpr undefined)]

/-! ### Accepted weights -/

/-- A sum that is infinite is far from one. -/
theorem sum_ne_top {sum : Float} (near : ¬ (sum - 1.0).abs > 1e-6) : lowered sum ≠ ⊤ := by
  intro top
  have difference : lowered (sum - 1.0) = ⊤ := lowered_sub_top top rfl
  refine near ((lt_iff _ _).mpr ⟨rfl, ?_, ?_⟩)
  · rw [isNaN_abs, isNaN_eq, unpacked_of_lowered_top difference]
    rfl
  · rw [toEReal_abs, toEReal_of_positive (unpacked_of_lowered_top difference), max_eq_left le_top,
      toEReal_of_finite rfl]
    exact EReal.coe_lt_top _

/-- Weights that are accepted and not negative are finite. -/
theorem weights_finite {params : ParameterSet} (accepted : weightsAccepted params)
    (nonneg : WeightsNonneg params) : params.wE.isFinite = true ∧ params.wT.isFinite = true ∧
      params.wH.isFinite = true := by
  have environment := lowered_nonneg nonneg.environment
  have task := lowered_nonneg nonneg.task
  have human := lowered_nonneg nonneg.human
  obtain ⟨bothFinite, humanFinite⟩ :=
    finite_of_add_finite (lowered_add_nonneg environment task) human (sum_ne_top accepted)
  have bothBelow : lowered (params.wE + params.wT) ≠ ⊤ := by
    rw [lowered_of_finite bothFinite]
    exact EReal.coe_ne_top _
  obtain ⟨environmentFinite, taskFinite⟩ := finite_of_add_finite environment task bothBelow
  exact ⟨environmentFinite, taskFinite, humanFinite⟩

/-! ### Ordered raw scores -/

/-- A cycle scores at most what the other one does on every axis, and no axis without weight
scores an infinity there. -/
structure ScoresAtMost (params : ParameterSet) (cycle other : ScoringInputs) : Prop where
  environment : (computeScore params cycle).eScore ≤ (computeScore params other).eScore
  task : (computeScore params cycle).tScore ≤ (computeScore params other).tScore
  human : (computeScore params cycle).hScore ≤ (computeScore params other).hScore
  taskKept : 0.0 < params.wT ∨ (computeScore params other).tScore.isFinite = true
  humanKept : 0.0 < params.wH ∨ (computeScore params other).hScore.isFinite = true

/-- The score of the environment is one of four. -/
theorem eScore_finite (params : ParameterSet) (inputs : ScoringInputs) :
    (computeScore params inputs).eScore.isFinite = true := by
  unfold computeScore evaluateEScore
  simp only
  split_ifs <;> rfl

theorem conformanceScore_eq (params : ParameterSet) (inputs : ScoringInputs) :
    toEReal (computeScore params inputs).conformanceScore =
      max 0 (min (lowered (params.wE * (computeScore params inputs).eScore +
        params.wT * (computeScore params inputs).tScore +
        params.wH * (computeScore params inputs).hScore)) 1) :=
  toEReal_clamp_orZero _

section Accepted

variable {params : ParameterSet} (accepted : weightsAccepted params)
  (nonneg : WeightsNonneg params)

include accepted nonneg

/-- Lower scores on the axes have a lower weighted sum. -/
theorem computeScore_mono {cycle other : ScoringInputs} (atMost : ScoresAtMost params cycle other) :
    (computeScore params cycle).conformanceScore ≤
      (computeScore params other).conformanceScore := by
  obtain ⟨environmentFinite, taskFinite, humanFinite⟩ := weights_finite accepted nonneg
  have environment := lowered_mul_mono environmentFinite nonneg.environment atMost.environment
    (.inr (eScore_finite params other))
  have task := lowered_mul_mono taskFinite nonneg.task atMost.task atMost.taskKept
  have human := lowered_mul_mono humanFinite nonneg.human atMost.human atMost.humanKept
  have sums := lowered_add_mono (lowered_add_mono environment task) human
  refine (le_iff _ _).mpr ⟨number_of_finite (computeScore_inUnit params cycle).finite,
    number_of_finite (computeScore_inUnit params other).finite, ?_⟩
  rw [conformanceScore_eq, conformanceScore_eq]
  exact max_le_max_left 0 (min_le_min_right 1 sums)

/-- Of two cycles of one length the lower scores leave the lower value in the filter. -/
theorem filteredValue_mono {cycle other : ScoringInputs} {emaState otherState : EmaState}
    {dtS : Float} (dtFinite : dtS.isFinite = true) (unit : InUnit emaState.filteredValue)
    (otherUnit : InUnit otherState.filteredValue)
    (order : emaState.filteredValue ≤ otherState.filteredValue)
    (atMost : ScoresAtMost params cycle other) :
    (computeWithEma params cycle emaState dtS).2.filteredValue ≤
      (computeWithEma params other otherState dtS).2.filteredValue := by
  have rawOrder := computeScore_mono accepted nonneg atMost
  have rawUnit := computeScore_inUnit params cycle
  have otherRawUnit := computeScore_inUnit params other
  by_cases off : FilterOff params
  · rw [computeWithEma_off params cycle emaState dtS off,
      computeWithEma_off params other otherState dtS off]
    exact rawOrder
  have share := smoothingShare_inUnit params off dtFinite
  rw [computeWithEma_on params cycle emaState dtS off,
    computeWithEma_on params other otherState dtS off]
  generalize smoothingShare params dtS = alpha at share ⊢
  have rest := share.one_sub
  have raws := mul_le_mul_of_finite rawUnit.finite otherRawUnit.finite share.finite share.nonneg
    rawOrder
  have rests := mul_le_mul_of_finite unit.finite otherUnit.finite rest.finite rest.nonneg order
  have sums := add_le_add_of_finite (share.mul rawUnit).finite (rest.mul unit).finite
    (share.mul otherRawUnit).finite (rest.mul otherUnit).finite raws rests
  obtain ⟨number, otherNumber, sumOrder⟩ := (le_iff _ _).mp sums
  refine (le_iff _ _).mpr ⟨number_of_finite (inUnit_clamp number).finite,
    number_of_finite (inUnit_clamp otherNumber).finite, ?_⟩
  rw [toEReal_clamp number, toEReal_clamp otherNumber]
  exact max_le_max_left 0 (min_le_min_right 1 sumOrder)

end Accepted

/-! ### What rounding loses -/

/-- A clamped sum of two scores is their sum, or one, but for a rounding. -/
theorem clampedSum_near {first second : Float} (firstUnit : InUnit first)
    (secondUnit : InUnit second) :
    |toReal (stdClamp (first + second) 0.0 1.0) - min (toReal first + toReal second) 1| ≤
      2 ^ (-54 : ℤ) := by
  have sum := add_roundedFrom firstUnit.finite secondUnit.finite
  have clamped := toEReal_clamp sum.number
  rw [toEReal_of_finite (inUnit_clamp sum.number).finite] at clamped
  have nonneg := add_nonneg firstUnit.toReal_nonneg secondUnit.toReal_nonneg
  have above : 0.0 ≤ first + second := sum.ge rfl (toReal_zero.trans_le nonneg)
  rcases le_total (toReal first + toReal second) 1 with below | beyond
  · have unit : InUnit (first + second) := ⟨above, sum.le rfl (below.trans_eq toReal_one.symm)⟩
    have same : toReal (stdClamp (first + second) 0.0 1.0) = toReal (first + second) := by
      rw [toEReal_of_finite unit.finite, min_eq_left (by exact_mod_cast unit.toReal_le_one),
        max_eq_right (EReal.coe_nonneg.mpr unit.toReal_nonneg)] at clamped
      exact EReal.coe_eq_coe_iff.mp clamped
    rw [same, min_eq_left below]
    exact (add_rounded firstUnit.finite secondUnit.finite).abs_sub_le_of_unit nonneg below
  · have atLeast := ((le_iff _ _).mp (sum.ge rfl (toReal_one.trans_le beyond) :
      1.0 ≤ first + second)).2.2
    rw [toEReal_one] at atLeast
    rw [min_eq_right atLeast, max_eq_right zero_le_one] at clamped
    rw [EReal.coe_eq_one.mp clamped, min_eq_right beyond, sub_self, abs_zero]
    positivity

/-- Three roundings, each by at most `loss`, move a weighted mean by no more than their sum. -/
theorem weightedMean_near {alpha rest share kept raw previous loss : ℝ}
    (restNear : |rest - (1 - alpha)| ≤ loss) (shareNear : |share - alpha * raw| ≤ loss)
    (keptNear : |kept - rest * previous| ≤ loss) (nonneg : 0 ≤ previous) (atMost : previous ≤ 1)
    (mean : alpha * raw + (1 - alpha) * previous ≤ 1) :
    |min (share + kept) 1 - (alpha * raw + (1 - alpha) * previous)| ≤ 3 * loss := by
  have carried : |(rest - (1 - alpha)) * previous| ≤ loss := by
    rw [abs_mul, abs_of_nonneg nonneg]
    exact (mul_le_of_le_one_right (abs_nonneg _) atMost).trans restNear
  have clamped := abs_min_sub_min_le_max (share + kept) 1 (alpha * raw + (1 - alpha) * previous) 1
  rw [min_eq_left mean, sub_self, abs_zero, max_eq_left (abs_nonneg _)] at clamped
  calc |min (share + kept) 1 - (alpha * raw + (1 - alpha) * previous)|
      ≤ |share + kept - (alpha * raw + (1 - alpha) * previous)| := clamped
    _ = |(share - alpha * raw) + (kept - rest * previous) + (rest - (1 - alpha)) * previous| := by
        congr 1
        ring
    _ ≤ |share - alpha * raw| + |kept - rest * previous| + |(rest - (1 - alpha)) * previous| :=
        abs_add_three _ _ _
    _ ≤ 3 * loss := by linarith

/-- The smoothed score is the weighted mean of the raw score and the one before it, but for four
roundings. -/
theorem weighted_near {alpha raw previous : Float} (alphaUnit : InUnit alpha)
    (rawUnit : InUnit raw) (previousUnit : InUnit previous) :
    |toReal (stdClamp (alpha * raw + (1.0 - alpha) * previous) 0.0 1.0) -
      (toReal alpha * toReal raw + (1 - toReal alpha) * toReal previous)| ≤ 2 ^ (-52 : ℤ) := by
  have restUnit := alphaUnit.one_sub
  have rest : |toReal (1.0 - alpha) - (1 - toReal alpha)| ≤ 2 ^ (-54 : ℤ) := by
    rw [← toReal_one]
    refine (sub_rounded inUnit_one.finite alphaUnit.finite).abs_sub_le_of_unit ?_ ?_ <;>
      rw [toReal_one]
    · exact sub_nonneg.mpr alphaUnit.toReal_le_one
    · exact sub_le_self 1 alphaUnit.toReal_nonneg
  have product {first second : Float} (firstUnit : InUnit first) (secondUnit : InUnit second) :
      |toReal (first * second) - toReal first * toReal second| ≤ 2 ^ (-54 : ℤ) :=
    (mul_rounded firstUnit.finite secondUnit.finite).abs_sub_le_of_unit
      (mul_nonneg firstUnit.toReal_nonneg secondUnit.toReal_nonneg)
      (mul_le_one₀ firstUnit.toReal_le_one secondUnit.toReal_nonneg secondUnit.toReal_le_one)
  have share := product alphaUnit rawUnit
  have kept := product restUnit previousUnit
  have sum := clampedSum_near (alphaUnit.mul rawUnit) (restUnit.mul previousUnit)
  have mean := lineMap_mem_uIcc (toReal previous) (toReal raw) alphaUnit.toReal_nonneg
    alphaUnit.toReal_le_one
  rw [lineMap_eq_weighted] at mean
  have meanAtMost := mean.2.trans (max_le previousUnit.toReal_le_one rawUnit.toReal_le_one)
  have mostly := weightedMean_near rest share kept previousUnit.toReal_nonneg
    previousUnit.toReal_le_one meanAtMost
  calc _ ≤ _ := abs_sub_le _ (min (toReal (alpha * raw) + toReal ((1.0 - alpha) * previous)) 1) _
    _ ≤ 2 ^ (-54 : ℤ) + 3 * 2 ^ (-54 : ℤ) := add_le_add sum mostly
    _ = 2 ^ (-52 : ℤ) := by norm_num

/-- The smoothed score leaves the interval between its two scores by no more than rounding takes
it. -/
theorem computeWithEma_near (params : ParameterSet) (inputs : ScoringInputs) {emaState : EmaState}
    {dtS : Float} (unit : InUnit emaState.filteredValue) (dtFinite : dtS.isFinite = true) :
    let previous := toReal emaState.filteredValue
    let raw := toReal (computeScore params inputs).conformanceScore
    let filtered := toReal (computeWithEma params inputs emaState dtS).1.conformanceScore
    min previous raw - 2 ^ (-52 : ℤ) ≤ filtered ∧ filtered ≤ max previous raw + 2 ^ (-52 : ℤ) := by
  simp only
  have loss : (0 : ℝ) ≤ 2 ^ (-52 : ℤ) := by positivity
  by_cases off : FilterOff params
  · rw [computeWithEma_off params inputs emaState dtS off]
    exact ⟨(sub_le_self _ loss).trans (min_le_right _ _),
      (le_max_right _ _).trans (le_add_of_nonneg_right loss)⟩
  · rw [computeWithEma_on params inputs emaState dtS off]
    have rawUnit := computeScore_inUnit params inputs
    have share := smoothingShare_inUnit params off dtFinite
    have mean := lineMap_mem_uIcc (toReal emaState.filteredValue)
      (toReal (computeScore params inputs).conformanceScore) share.toReal_nonneg
      share.toReal_le_one
    rw [lineMap_eq_weighted] at mean
    obtain ⟨notBelow, notAbove⟩ := abs_le.mp (weighted_near share rawUnit unit)
    constructor
    · linarith [mean.1]
    · linarith [mean.2]

/-! ### The smoothed score along a run -/

/-- Two cycles of one length, the second with no lower scores. -/
structure ScoredCycle.AtMost (params : ParameterSet) (cycle other : ScoredCycle) : Prop where
  scores : ScoresAtMost params cycle.inputs other.inputs
  sameTime : cycle.dtS = other.dtS
  timeFinite : cycle.dtS.isFinite = true

/-- Two filters that hold a score each, the second no lower one. -/
structure EmaState.AtMost (emaState otherState : EmaState) : Prop where
  unit : InUnit emaState.filteredValue
  otherUnit : InUnit otherState.filteredValue
  order : emaState.filteredValue ≤ otherState.filteredValue

theorem smoothCycle_inUnit (params : ParameterSet) {emaState : EmaState} {cycle : ScoredCycle}
    (unit : InUnit emaState.filteredValue) (timeFinite : cycle.dtS.isFinite = true) :
    InUnit (smoothCycle params emaState cycle).filteredValue := by
  obtain ⟨same, published⟩ := computeWithEma_inUnit params cycle.inputs unit timeFinite
  exact same ▸ published

theorem run_smoothCycle_inUnit (params : ParameterSet) {start : EmaState}
    (unit : InUnit start.filteredValue) {cycles : List ScoredCycle}
    (timesFinite : ∀ cycle ∈ cycles, cycle.dtS.isFinite = true) :
    InUnit (run (smoothCycle params) start cycles).filteredValue :=
  run_invariant_of_mem (fun emaState : EmaState => InUnit emaState.filteredValue) unit
    fun _ cycle member unit => smoothCycle_inUnit params unit (timesFinite cycle member)

/-- The run with the lower scores has the lower smoothed score. -/
theorem run_smoothCycle_mono {params : ParameterSet} (accepted : weightsAccepted params)
    (nonneg : WeightsNonneg params) {start otherStart : EmaState}
    (starts : start.AtMost otherStart) {cycles others : List ScoredCycle}
    (pointwise : List.Forall₂ (ScoredCycle.AtMost params) cycles others) :
    (run (smoothCycle params) start cycles).AtMost
      (run (smoothCycle params) otherStart others) := by
  have preserved : ∀ (emaState otherState : EmaState) (cycle other : ScoredCycle),
      cycle.AtMost params other → emaState.AtMost otherState →
      (smoothCycle params emaState cycle).AtMost (smoothCycle params otherState other) := by
    intro emaState otherState cycle other atMost states
    have otherFinite : other.dtS.isFinite = true := atMost.sameTime ▸ atMost.timeFinite
    refine ⟨smoothCycle_inUnit params states.unit atMost.timeFinite,
      smoothCycle_inUnit params states.otherUnit otherFinite, ?_⟩
    unfold smoothCycle
    rw [← atMost.sameTime]
    exact filteredValue_mono accepted nonneg atMost.timeFinite states.unit states.otherUnit
      states.order atMost.scores
  exact run_related EmaState.AtMost starts preserved pointwise

/-- After every run the next score lies between zero and one, and but for rounding between the
score before it and its raw score; and of two runs the lower raw scores lead to the lower
smoothed one. -/
theorem smoothedScore_bounded_ordered {params : ParameterSet} (accepted : weightsAccepted params)
    (nonneg : WeightsNonneg params) {start otherStart : EmaState}
    (starts : start.AtMost otherStart) {cycles : List ScoredCycle}
    (timesFinite : ∀ cycle ∈ cycles, cycle.dtS.isFinite = true) {now : ScoredCycle}
    (nowFinite : now.dtS.isFinite = true) :
    let emaState := run (smoothCycle params) start cycles
    let previous := emaState.filteredValue
    let raw := (computeScore params now.inputs).conformanceScore
    let filtered := (computeWithEma params now.inputs emaState now.dtS).1.conformanceScore
    (smoothCycle params emaState now).filteredValue = filtered ∧ InUnit filtered ∧
      min (toReal previous) (toReal raw) - 2 ^ (-52 : ℤ) ≤ toReal filtered ∧
      toReal filtered ≤ max (toReal previous) (toReal raw) + 2 ^ (-52 : ℤ) ∧
      ∀ others, List.Forall₂ (ScoredCycle.AtMost params) cycles others →
        previous ≤ (run (smoothCycle params) otherStart others).filteredValue := by
  intro emaState previous raw filtered
  have reached := run_smoothCycle_inUnit params starts.unit timesFinite
  obtain ⟨same, published⟩ := computeWithEma_inUnit params now.inputs reached nowFinite
  obtain ⟨above, below⟩ := computeWithEma_near params now.inputs reached nowFinite
  exact ⟨same, published, above, below, fun others pointwise =>
    (run_smoothCycle_mono accepted nonneg starts pointwise).order⟩

/-- Poor visibility and a late link, with the operator at hand. -/
def marginalInputs : ScoringInputs where
  visibilityNm := 0.7
  seaStateHs := 5.0
  gnssQualityGood := true
  radarHealthOk := true
  commOk := true
  commDelayS := 5.0
  anySensorCritical := false
  tmrAvailable := true

/-- The same with a good link and no position fix. -/
def unfixedInputs : ScoringInputs :=
  { marginalInputs with gnssQualityGood := false, commDelayS := 0.0 }

/-- A quarter of a second of either. -/
def marginalCycle : ScoredCycle := ⟨marginalInputs, 0.25⟩

def unfixedCycle : ScoredCycle := ⟨unfixedInputs, 0.25⟩

theorem smoothedScore_bounded_ordered_marginal :
    let emaState := run (smoothCycle {}) {} [marginalCycle]
    let previous := emaState.filteredValue
    let raw := (computeScore {} marginalCycle.inputs).conformanceScore
    let filtered :=
      (computeWithEma {} marginalCycle.inputs emaState marginalCycle.dtS).1.conformanceScore
    (smoothCycle {} emaState marginalCycle).filteredValue = filtered ∧ InUnit filtered ∧
      min (toReal previous) (toReal raw) - 2 ^ (-52 : ℤ) ≤ toReal filtered ∧
      toReal filtered ≤ max (toReal previous) (toReal raw) + 2 ^ (-52 : ℤ) ∧
      previous ≤ (run (smoothCycle {}) {} [unfixedCycle]).filteredValue := by
  have accepted : weightsAccepted {} := by decide +kernel
  have nonneg : WeightsNonneg {} := ⟨by decide, by decide, by decide⟩
  have starts : EmaState.AtMost {} {} := ⟨inUnit_one, inUnit_one, by decide⟩
  have nowFinite : marginalCycle.dtS.isFinite = true := by decide
  have timesFinite : ∀ cycle ∈ [marginalCycle], cycle.dtS.isFinite = true :=
    List.forall_mem_singleton.mpr nowFinite
  have atMost : marginalCycle.AtMost {} unfixedCycle :=
    ⟨⟨by decide +kernel, by decide +kernel, by decide +kernel, .inl (by decide),
      .inl (by decide)⟩, rfl, nowFinite⟩
  obtain ⟨same, published, above, below, ordered⟩ :=
    smoothedScore_bounded_ordered accepted nonneg starts timesFinite nowFinite
  exact ⟨same, published, above, below, ordered [unfixedCycle] (.cons atMost .nil)⟩

/-- The weights of the axes, when that of the task is taken away and its better score is left
without bound. -/
def taskIgnored : ParameterSet := { wE := 0.7, wT := 0.0, wH := 0.3, tScoreCommOk := 1.0 / 0.0 }

/-- A filter that has settled on a raw score leaves it by the last place. And where the weight of
the task is zero, its infinite score makes the sum undefined, which a lower score does not. -/
theorem smoothedScore_rounds_and_loses :
    (let settled := run (smoothCycle {}) {} [⟨marginalInputs, 0.0⟩]
      let raw := (computeScore {} marginalInputs).conformanceScore
      let filtered := (computeWithEma {} marginalInputs settled 0.25).1.conformanceScore
      filtered < settled.filteredValue ∧ filtered < raw) ∧
    (weightsAccepted taskIgnored ∧ WeightsNonneg taskIgnored ∧
      (computeScore taskIgnored marginalInputs).eScore ≤
        (computeScore taskIgnored unfixedInputs).eScore ∧
      (computeScore taskIgnored marginalInputs).tScore ≤
        (computeScore taskIgnored unfixedInputs).tScore ∧
      (computeScore taskIgnored marginalInputs).hScore ≤
        (computeScore taskIgnored unfixedInputs).hScore ∧
      (run (smoothCycle taskIgnored) {} [unfixedCycle]).filteredValue <
        (run (smoothCycle taskIgnored) {} [marginalCycle]).filteredValue) := by
  refine ⟨⟨?_, ?_⟩, ?_, ⟨?_, ?_, ?_⟩, ?_, ?_, ?_, ?_⟩ <;> decide +kernel

end MassL3.M1
