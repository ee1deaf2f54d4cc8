/-
This file states the integration of the arrival time once more for any kind of number, and proves
over the reals that it ends, and how the time is bounded by the way. The loop returns nothing when
it has not ended after the given number of turns. On machine numbers it is the loop of the mission
manager, by definition.

Each turn goes on by a sampling interval at a positive speed or to the end of the route, so the way
left shrinks by a least step. The mean of the two speeds of a turn lies between the extreme speeds
on the way, and so does the way over the time. The loop stops a micrometre before the end. So the
bounds hold for the way that was driven, which falls short of the remaining one by that much at
most.
-/

import MassTdl.Mission.Monitors
import Mathlib.Algebra.Order.Floor.Ring
import Mathlib.Algebra.Order.Archimedean.Real.Basic
import Mathlib.Data.Set.Finite.Lemmas
import Mathlib.Tactic.FieldSimp
import Mathlib.Tactic.NormNum

namespace MassL3.M3.Scalars

open Clamps
open MassL3.M6.Colregs (MathLibrary)

structure SpeedProfile (Scalar : Type) where
  segmentStartDistancesM : List Scalar
  segmentEndDistancesM : List Scalar
  targetSpeedsKn : List Scalar

/-- Where the integration stands, and the time it has added up. -/
structure Integration (Scalar : Type) where
  currentM : Scalar
  totalTimeS : Scalar

section Model

variable {Scalar : Type} [Add Scalar] [Sub Scalar] [Mul Scalar] [Div Scalar] [Neg Scalar]
  [OfScientific Scalar] [LE Scalar] [LT Scalar] [DecidableLE Scalar] [DecidableLT Scalar]

def kNmToM : Scalar := 1852.0

def kKnToMs : Scalar := 0.514444

/-- `speed_at_distance`. -/
def SpeedProfile.speedAtDistance (profile : SpeedProfile Scalar) (distM : Scalar) : Scalar :=
  match profile.targetSpeedsKn.getLast? with
  | none => -1.0
  | some back =>
      let segments := profile.targetSpeedsKn.zip
        (profile.segmentStartDistancesM.zip profile.segmentEndDistancesM)
      ((segments.find? fun segment => distM ≥ segment.2.1 && distM < segment.2.2).map
        (·.1)).getD back

/-- A speed, or the next one if it is not positive. -/
def positiveOr (speedKn other : Scalar) : Scalar := if speedKn ≤ 0.0 then other else speedKn

variable (profile : SpeedProfile Scalar) (sogKn samplingIntervalS : Scalar)

/-- The speed at a distance, where there is one, and else that of the ship. -/
def speedOr (other distM : Scalar) : Scalar :=
  positiveOr (positiveOr (profile.speedAtDistance distM) sogKn) other

/-- One turn of the loop, given where it starts and the way from there. -/
def advance (totalDistM distCoveredM : Scalar) (state : Integration Scalar) : Integration Scalar :=
  let v1Kn := speedOr profile sogKn 1.0 state.currentM
  let v1Ms := v1Kn * kKnToMs
  let stepM :=
    stdMin (v1Ms * samplingIntervalS)
      (totalDistM - distCoveredM - (state.currentM - distCoveredM))
  let nextM := state.currentM + stepM
  let v2Kn := speedOr profile sogKn v1Kn nextM
  let avgMs := (v1Kn + v2Kn) * 0.5 * kKnToMs
  { currentM := nextM
    totalTimeS := if avgMs > 0.0 then state.totalTimeS + stepM / avgMs else state.totalTimeS }

/-- The loop, if it ends within so many turns. -/
def integrateLoop (totalDistM distCoveredM : Scalar) :
    Nat → Integration Scalar → Option (Integration Scalar)
  | 0, _ => none
  | turns + 1, state =>
      if state.currentM < totalDistM - 1e-6 then
        integrateLoop totalDistM distCoveredM turns
          (advance profile sogKn samplingIntervalS totalDistM distCoveredM state)
      else some state

/-- `integrate_eta_`, given the progress along the route and its length. -/
def integrateEta (progress totalDistanceNm : Scalar) (turns : Nat) : Option (Integration Scalar) :=
  let totalDistM := totalDistanceNm * kNmToM
  let distCoveredM := progress * totalDistM
  if distCoveredM ≥ totalDistM then some { currentM := distCoveredM, totalTimeS := 0.0 }
  else
    integrateLoop profile sogKn samplingIntervalS totalDistM distCoveredM turns
      { currentM := distCoveredM, totalTimeS := 0.0 }

end Model

/-! ### Machine numbers -/

def ofProfile (profile : M3.SpeedProfile) : SpeedProfile Float where
  segmentStartDistancesM := profile.segmentStartDistancesM
  segmentEndDistancesM := profile.segmentEndDistancesM
  targetSpeedsKn := profile.targetSpeedsKn

theorem speedAtDistance_ofProfile (profile : M3.SpeedProfile) (distM : Float) :
    (ofProfile profile).speedAtDistance distM = profile.speedAtDistance distM := by
  unfold SpeedProfile.speedAtDistance M3.SpeedProfile.speedAtDistance ofProfile
  cases profile.targetSpeedsKn.getLast? <;> rfl

/-- One turn of the loop of the mission manager. -/
theorem integrateLoop_succ (config : EtaProjectorConfig) (profile : M3.SpeedProfile)
    (sogKn totalDistM distCoveredM : Float) (turns : Nat) (state : Integration Float) :
    EtaProjector.integrateLoop config profile sogKn totalDistM distCoveredM
        (totalDistM - distCoveredM) (turns + 1) state.currentM state.totalTimeS =
      if state.currentM < totalDistM - 1e-6 then
        EtaProjector.integrateLoop config profile sogKn totalDistM distCoveredM
          (totalDistM - distCoveredM) turns
          (advance (ofProfile profile) sogKn (Float.ofInt config.samplingIntervalS) totalDistM
            distCoveredM state).currentM
          (advance (ofProfile profile) sogKn (Float.ofInt config.samplingIntervalS) totalDistM
            distCoveredM state).totalTimeS
      else state.totalTimeS := by
  have positives (speedKn other : Float) :
      positiveOr speedKn other = M3.positiveOr speedKn other := rfl
  rw [EtaProjector.integrateLoop]
  unfold advance speedOr
  simp only [speedAtDistance_ofProfile, positives]
  rfl

theorem integrateLoop_eq (config : EtaProjectorConfig) (profile : M3.SpeedProfile)
    (sogKn totalDistM distCoveredM : Float) (turns : Nat) (state : Integration Float)
    {final : Integration Float}
    (ends : integrateLoop (ofProfile profile) sogKn (Float.ofInt config.samplingIntervalS)
      totalDistM distCoveredM turns state = some final) :
    EtaProjector.integrateLoop config profile sogKn totalDistM distCoveredM
      (totalDistM - distCoveredM) turns state.currentM state.totalTimeS = final.totalTimeS := by
  induction turns generalizing state with
  | zero => exact absurd ends (Option.some_ne_none final).symm
  | succ turns inductionHypothesis =>
    unfold integrateLoop at ends
    rw [integrateLoop_succ]
    split_ifs at ends ⊢ with going
    · exact inductionHypothesis _ ends
    · rw [Option.some.inj ends]

theorem integrateEta_float (lib : MathLibrary) (config : EtaProjectorConfig)
    (route : PlannedRoute) (profile : M3.SpeedProfile) (world : WorldState) :
    let totalDistM : Float := route.totalDistanceNm * kNmToM
    let distCoveredM := computeProgress lib world.ownShip.position route.poses * totalDistM
    EtaProjector.integrateEta lib config route profile world =
      if distCoveredM ≥ totalDistM then 0.0
      else
        EtaProjector.integrateLoop config profile world.ownShip.sogKn totalDistM distCoveredM
          (totalDistM - distCoveredM) lib.turns distCoveredM 0.0 := rfl

/-- Where the loop ends on machine numbers, it has added up the arrival time. -/
theorem integrateEta_eq (lib : MathLibrary) (config : EtaProjectorConfig) (route : PlannedRoute)
    (profile : M3.SpeedProfile) (world : WorldState) {final : Integration Float}
    (ends : integrateEta (ofProfile profile) world.ownShip.sogKn
      (Float.ofInt config.samplingIntervalS)
      (computeProgress lib world.ownShip.position route.poses) route.totalDistanceNm lib.turns =
        some final) :
    EtaProjector.integrateEta lib config route profile world = final.totalTimeS := by
  unfold integrateEta at ends
  rw [integrateEta_float]
  dsimp only at ends ⊢
  split_ifs at ends ⊢ with arrived
  · rw [← Option.some.inj ends]
  · exact integrateLoop_eq config profile _ _ _ _ _ ends

noncomputable section

variable (profile : SpeedProfile ℝ) (sogKn : ℝ)

/-! ### Effective speeds -/

/-- The speed a turn starts with, after the substitutions. -/
def effectiveMs (distM : ℝ) : ℝ := speedOr profile sogKn 1.0 distM * kKnToMs

/-- The effective speeds on the way that remains. -/
def effectiveSpeeds (totalDistM distCoveredM : ℝ) : Set ℝ :=
  effectiveMs profile sogKn '' Set.Icc distCoveredM (max distCoveredM totalDistM)

theorem kKnToMs_pos : (0 : ℝ) < kKnToMs := by norm_num [kKnToMs]

theorem positiveOr_pos {speedKn other : ℝ} (positive : 0 < other) :
    0 < positiveOr speedKn other := by
  unfold positiveOr
  split_ifs with low
  · exact positive
  · norm_num at low
    exact low

theorem effectiveMs_pos (distM : ℝ) : 0 < effectiveMs profile sogKn distM :=
  mul_pos (positiveOr_pos (by norm_num)) kKnToMs_pos

/-- The speed a turn ends with is the effective one there, or it is kept. -/
theorem speedOr_eq (otherKn distM : ℝ) :
    speedOr profile sogKn otherKn distM = speedOr profile sogKn 1.0 distM ∨
      speedOr profile sogKn otherKn distM = otherKn := by
  unfold speedOr
  generalize positiveOr (profile.speedAtDistance distM) sogKn = speedKn
  unfold positiveOr
  split_ifs
  · exact .inr rfl
  · exact .inl rfl

/-- A speed of the table, or the mark for a missing table. -/
theorem speedAtDistance_mem (distM : ℝ) :
    profile.speedAtDistance distM ∈ -1.0 :: profile.targetSpeedsKn := by
  unfold SpeedProfile.speedAtDistance
  cases isLast : profile.targetSpeedsKn.getLast? with
  | none => exact List.mem_cons_self
  | some back =>
    dsimp only
    refine List.mem_cons_of_mem _ ?_
    generalize found : List.find? _ (profile.targetSpeedsKn.zip _) = hit
    cases hit with
    | none => exact List.mem_of_getLast? isLast
    | some segment =>
      obtain ⟨speedKn, bounds⟩ := segment
      exact (List.of_mem_zip (List.mem_of_find?_eq_some found)).1

theorem speedOr_mem (otherKn distM : ℝ) :
    speedOr profile sogKn otherKn distM ∈ otherKn :: sogKn :: -1.0 :: profile.targetSpeedsKn := by
  have table := speedAtDistance_mem profile distM
  unfold speedOr positiveOr
  split_ifs
  · exact List.mem_cons_self
  · exact List.mem_cons_of_mem _ List.mem_cons_self
  · exact List.mem_cons_of_mem _ (List.mem_cons_of_mem _ table)

theorem effectiveSpeeds_finite (totalDistM distCoveredM : ℝ) :
    (effectiveSpeeds profile sogKn totalDistM distCoveredM).Finite := by
  refine ((List.finite_toSet (1.0 :: sogKn :: -1.0 :: profile.targetSpeedsKn)).image
    (· * kKnToMs)).subset ?_
  rintro _ ⟨distM, -, rfl⟩
  exact ⟨_, speedOr_mem profile sogKn 1.0 distM, rfl⟩

theorem effectiveSpeeds_nonempty (totalDistM distCoveredM : ℝ) :
    (effectiveSpeeds profile sogKn totalDistM distCoveredM).Nonempty :=
  ⟨_, distCoveredM, ⟨le_rfl, le_max_left _ _⟩, rfl⟩

/-- There are a least and a greatest effective speed. -/
theorem exists_extremes (totalDistM distCoveredM : ℝ) :
    ∃ vMin vMax, 0 < vMin ∧
      IsLeast (effectiveSpeeds profile sogKn totalDistM distCoveredM) vMin ∧
      IsGreatest (effectiveSpeeds profile sogKn totalDistM distCoveredM) vMax := by
  have finite := effectiveSpeeds_finite profile sogKn totalDistM distCoveredM
  have nonempty := effectiveSpeeds_nonempty profile sogKn totalDistM distCoveredM
  obtain ⟨vMin, minMember, least⟩ := Set.exists_min_image _ id finite nonempty
  obtain ⟨vMax, maxMember, greatest⟩ := Set.exists_max_image _ id finite nonempty
  have positive : 0 < vMin := by
    obtain ⟨distM, -, rfl⟩ := minMember
    exact effectiveMs_pos profile sogKn distM
  exact ⟨vMin, vMax, positive, ⟨minMember, least⟩, ⟨maxMember, greatest⟩⟩

/-! ### One turn -/

/-- Bounds of the speeds on the way that remains. -/
structure Bounds (totalDistM distCoveredM vMin vMax : ℝ) : Prop where
  positive : 0 < vMin
  least : ∀ distM, distCoveredM ≤ distM → distM ≤ totalDistM →
    vMin ≤ effectiveMs profile sogKn distM
  greatest : ∀ distM, distCoveredM ≤ distM → distM ≤ totalDistM →
    effectiveMs profile sogKn distM ≤ vMax

/-- What a turn drives, and what it takes. -/
structure Drives (vMin vMax : ℝ) (before after : Integration ℝ) : Prop where
  fastest : (after.currentM - before.currentM) / vMax ≤ after.totalTimeS - before.totalTimeS
  slowest : after.totalTimeS - before.totalTimeS ≤ (after.currentM - before.currentM) / vMin

variable {profile sogKn} {totalDistM distCoveredM vMin vMax samplingIntervalS : ℝ}

theorem Drives.refl (state : Integration ℝ) : Drives vMin vMax state state := by
  constructor <;> simp

theorem Drives.trans {before between after : Integration ℝ}
    (first : Drives vMin vMax before between) (second : Drives vMin vMax between after) :
    Drives vMin vMax before after where
  fastest := by
    have split : (after.currentM - before.currentM) / vMax =
        (between.currentM - before.currentM) / vMax +
          (after.currentM - between.currentM) / vMax := by
      rw [← add_div]
      ring
    linarith [first.fastest, second.fastest]
  slowest := by
    have split : (after.currentM - before.currentM) / vMin =
        (between.currentM - before.currentM) / vMin +
          (after.currentM - between.currentM) / vMin := by
      rw [← add_div]
      ring
    linarith [first.slowest, second.slowest]

section

variable (bounds : Bounds profile sogKn totalDistM distCoveredM vMin vMax)
include bounds

/-- The speed a turn ends with lies between the bounds as well. -/
theorem Bounds.second (firstM secondM : ℝ) (firstAfter : distCoveredM ≤ firstM)
    (firstBefore : firstM ≤ totalDistM) (secondAfter : distCoveredM ≤ secondM)
    (secondBefore : secondM ≤ totalDistM) :
    vMin ≤ speedOr profile sogKn (speedOr profile sogKn 1.0 firstM) secondM * kKnToMs ∧
      speedOr profile sogKn (speedOr profile sogKn 1.0 firstM) secondM * kKnToMs ≤ vMax := by
  rcases speedOr_eq profile sogKn (speedOr profile sogKn 1.0 firstM) secondM with same | kept
  · rw [same]
    exact ⟨bounds.least secondM secondAfter secondBefore,
      bounds.greatest secondM secondAfter secondBefore⟩
  · rw [kept]
    exact ⟨bounds.least firstM firstAfter firstBefore,
      bounds.greatest firstM firstAfter firstBefore⟩

/-- A turn goes as far as the speed at its start takes it, or to the end, and is timed by the mean
of the speeds at its two ends. -/
theorem exists_advance_eq (interval : 0 < samplingIntervalS) {state : Integration ℝ}
    (started : distCoveredM ≤ state.currentM) (left : state.currentM < totalDistM) :
    ∃ stepM avgMs,
      advance profile sogKn samplingIntervalS totalDistM distCoveredM state =
        { currentM := state.currentM + stepM, totalTimeS := state.totalTimeS + stepM / avgMs } ∧
      stepM = min (effectiveMs profile sogKn state.currentM * samplingIntervalS)
        (totalDistM - state.currentM) ∧
      0 < stepM ∧ vMin ≤ avgMs ∧ avgMs ≤ vMax := by
  have slow := bounds.least state.currentM started left.le
  have fast := bounds.greatest state.currentM started left.le
  have reach : 0 < effectiveMs profile sogKn state.currentM * samplingIntervalS :=
    mul_pos (bounds.positive.trans_le slow) interval
  obtain ⟨stepM, isStep⟩ : ∃ stepM, stepM =
    min (effectiveMs profile sogKn state.currentM * samplingIntervalS)
      (totalDistM - state.currentM) := ⟨_, rfl⟩
  have stepPositive : 0 < stepM := isStep ▸ lt_min reach (sub_pos.mpr left)
  have stepLeft : stepM ≤ totalDistM - state.currentM := isStep ▸ min_le_right _ _
  obtain ⟨avgMs, isAvg⟩ : ∃ avgMs, avgMs = (speedOr profile sogKn 1.0 state.currentM +
    speedOr profile sogKn (speedOr profile sogKn 1.0 state.currentM)
      (state.currentM + stepM)) * 0.5 * kKnToMs := ⟨_, rfl⟩
  obtain ⟨slowEnd, fastEnd⟩ := bounds.second state.currentM (state.currentM + stepM) started
    left.le (by linarith) (by linarith)
  unfold effectiveMs at slow fast
  have avgSlow : vMin ≤ avgMs := by
    rw [isAvg]
    linarith
  have avgFast : avgMs ≤ vMax := by
    rw [isAvg]
    linarith
  refine ⟨stepM, avgMs, ?_, isStep, stepPositive, avgSlow, avgFast⟩
  have sameStep : stdMin (speedOr profile sogKn 1.0 state.currentM * kKnToMs * samplingIntervalS)
      (totalDistM - distCoveredM - (state.currentM - distCoveredM)) = stepM := by
    rw [stdMin_eq_min, sub_sub_sub_cancel_right, isStep]
    rfl
  have isPositive : avgMs > 0.0 := by
    norm_num
    exact bounds.positive.trans_le avgSlow
  unfold advance
  simp only [sameStep]
  rw [← isAvg, if_pos isPositive]

/-- A turn before the end goes on, by the least step or to the end. -/
theorem advance_spec (interval : 0 < samplingIntervalS) {state : Integration ℝ}
    (started : distCoveredM ≤ state.currentM) (left : state.currentM < totalDistM) :
    let after := advance profile sogKn samplingIntervalS totalDistM distCoveredM state
    distCoveredM ≤ after.currentM ∧ after.currentM ≤ totalDistM ∧
      (after.currentM = totalDistM ∨
        state.currentM + vMin * samplingIntervalS ≤ after.currentM) ∧
      Drives vMin vMax state after := by
  intro after
  obtain ⟨stepM, avgMs, isAfter, isStep, stepPositive, avgSlow, avgFast⟩ :=
    exists_advance_eq bounds interval started left
  have stepLeft : stepM ≤ totalDistM - state.currentM := isStep ▸ min_le_right _ _
  have avgPositive : 0 < avgMs := bounds.positive.trans_le avgSlow
  rw [show after = _ from isAfter]
  refine ⟨by linarith, by linarith, ?_, ?_, ?_⟩
  · rcases min_choice (effectiveMs profile sogKn state.currentM * samplingIntervalS)
      (totalDistM - state.currentM) with isReach | isLeft
    · refine .inr ?_
      have slow := bounds.least state.currentM started left.le
      have least := mul_le_mul_of_nonneg_right slow interval.le
      rw [isStep, isReach]
      linarith
    · refine .inl ?_
      rw [isStep, isLeft]
      ring
  · show (state.currentM + stepM - state.currentM) / vMax ≤
      state.totalTimeS + stepM / avgMs - state.totalTimeS
    rw [add_sub_cancel_left, add_sub_cancel_left]
    exact div_le_div_of_nonneg_left stepPositive.le avgPositive avgFast
  · show state.totalTimeS + stepM / avgMs - state.totalTimeS ≤
      (state.currentM + stepM - state.currentM) / vMin
    rw [add_sub_cancel_left, add_sub_cancel_left]
    exact div_le_div_of_nonneg_left stepPositive.le bounds.positive avgSlow

end

/-! ### The loop -/

/-- The loop ends within so many turns, however many more it may take, near the end. -/
structure Ends (profile : SpeedProfile ℝ)
    (sogKn samplingIntervalS totalDistM distCoveredM vMin vMax : ℝ) (turns : Nat)
    (state final : Integration ℝ) : Prop where
  ends : ∀ more, turns ≤ more →
    integrateLoop profile sogKn samplingIntervalS totalDistM distCoveredM more state = some final
  near : totalDistM - 1e-6 ≤ final.currentM
  within : final.currentM ≤ totalDistM
  drives : Drives vMin vMax state final

/-- The number of least steps that are left bounds the turns. -/
theorem exists_ends (bounds : Bounds profile sogKn totalDistM distCoveredM vMin vMax)
    (interval : 0 < samplingIntervalS) (steps : Nat) (state : Integration ℝ)
    (started : distCoveredM ≤ state.currentM) (within : state.currentM ≤ totalDistM)
    (few : totalDistM - state.currentM ≤ steps * (vMin * samplingIntervalS)) :
    ∃ final, Ends profile sogKn samplingIntervalS totalDistM distCoveredM vMin vMax (steps + 1)
      state final := by
  induction steps generalizing state with
  | zero =>
    rw [Nat.cast_zero, zero_mul, sub_nonpos] at few
    have arrived : ¬ state.currentM < totalDistM - 1e-6 := by
      norm_num
      linarith
    refine ⟨state, fun more enough => ?_, not_lt.mp arrived, within, .refl state⟩
    obtain ⟨turns, rfl⟩ := Nat.exists_eq_add_of_le' enough
    rw [zero_add, integrateLoop, if_neg arrived]
  | succ steps inductionHypothesis =>
    by_cases going : state.currentM < totalDistM - 1e-6
    · have left : state.currentM < totalDistM := by
        norm_num at going
        linarith
      obtain ⟨startedNext, withinNext, reached, drives⟩ := advance_spec bounds interval started left
      have fewer : totalDistM - (advance profile sogKn samplingIntervalS totalDistM distCoveredM
          state).currentM ≤ steps * (vMin * samplingIntervalS) := by
        rcases reached with isEnd | stepped
        · rw [isEnd, sub_self]
          exact mul_nonneg steps.cast_nonneg (mul_pos bounds.positive interval).le
        · push_cast at few
          linarith
      obtain ⟨final, ends⟩ := inductionHypothesis _ startedNext withinNext fewer
      refine ⟨final, fun more enough => ?_, ends.near, ends.within, drives.trans ends.drives⟩
      obtain ⟨turns, rfl⟩ := Nat.exists_eq_add_of_le' enough
      rw [← add_assoc, integrateLoop, if_pos going]
      exact ends.ends _ (Nat.le_add_left _ _)
    · refine ⟨state, fun more enough => ?_, not_lt.mp going, within, .refl state⟩
      obtain ⟨turns, rfl⟩ := Nat.exists_eq_add_of_le' enough
      rw [← add_assoc, integrateLoop, if_neg going]

/-! ### The arrival time -/

variable (profile sogKn)

/-- With a positive sampling interval the integration ends. It has driven the remaining way but
for the cut-off, and the time lies between those at the extreme effective speeds. -/
theorem integrateEta_bounded (progress totalDistanceNm : ℝ) (samplingIntervalS : Int)
    (interval : 0 < samplingIntervalS) :
    let totalDistM := totalDistanceNm * kNmToM
    let distCoveredM := progress * totalDistM
    let remainingM := max 0 (totalDistM - distCoveredM)
    ∃ vMin vMax turns final,
      0 < vMin ∧ IsLeast (effectiveSpeeds profile sogKn totalDistM distCoveredM) vMin ∧
      IsGreatest (effectiveSpeeds profile sogKn totalDistM distCoveredM) vMax ∧
      (∀ more, turns ≤ more → integrateEta profile sogKn (samplingIntervalS : ℝ) progress
        totalDistanceNm more = some final) ∧
      remainingM - 1e-6 ≤ final.currentM - distCoveredM ∧
      final.currentM - distCoveredM ≤ remainingM ∧
      (final.currentM - distCoveredM) / vMax ≤ final.totalTimeS ∧
      final.totalTimeS ≤ (final.currentM - distCoveredM) / vMin := by
  intro totalDistM distCoveredM remainingM
  obtain ⟨vMin, vMax, positive, least, greatest⟩ :=
    exists_extremes profile sogKn totalDistM distCoveredM
  by_cases arrived : distCoveredM ≥ totalDistM
  · refine ⟨vMin, vMax, 0, { currentM := distCoveredM, totalTimeS := 0.0 }, positive, least,
      greatest, fun more _ => if_pos arrived, ?_⟩
    have none : remainingM = 0 := max_eq_left (sub_nonpos.mpr arrived)
    rw [none]
    norm_num
  · have remains : remainingM = totalDistM - distCoveredM :=
      max_eq_right (sub_nonneg.mpr (not_le.mp arrived).le)
    have inside {distM : ℝ} (after : distCoveredM ≤ distM) (before : distM ≤ totalDistM) :
        effectiveMs profile sogKn distM ∈ effectiveSpeeds profile sogKn totalDistM distCoveredM :=
      ⟨distM, ⟨after, before.trans (le_max_right _ _)⟩, rfl⟩
    have bounds : Bounds profile sogKn totalDistM distCoveredM vMin vMax :=
      ⟨positive, fun distM after before => least.2 (inside after before),
        fun distM after before => greatest.2 (inside after before)⟩
    have step : 0 < vMin * (samplingIntervalS : ℝ) := mul_pos positive (Int.cast_pos.mpr interval)
    obtain ⟨steps, enough⟩ := exists_nat_ge ((totalDistM - distCoveredM) /
      (vMin * (samplingIntervalS : ℝ)))
    obtain ⟨final, ends⟩ := exists_ends bounds (Int.cast_pos.mpr interval) steps
      { currentM := distCoveredM, totalTimeS := 0.0 } le_rfl (not_le.mp arrived).le
      ((div_le_iff₀ step).mp enough)
    have fastest := ends.drives.fastest
    have slowest := ends.drives.slowest
    norm_num at fastest slowest
    refine ⟨vMin, vMax, steps + 1, final, positive, least, greatest, fun more isMore =>
      (if_neg arrived).trans (ends.ends more isMore), ?_, ?_, fastest, slowest⟩
    · rw [remains]
      linarith [ends.near]
    · rw [remains]
      linarith [ends.within]

/-- No table of speeds. -/
def noTable : SpeedProfile ℝ where
  segmentStartDistancesM := []
  segmentEndDistancesM := []
  targetSpeedsKn := []

/-- A table of two speeds, of which the second is the greater. -/
def twoSpeeds : SpeedProfile ℝ where
  segmentStartDistancesM := [0.0, 15000.0]
  segmentEndDistancesM := [15000.0, 30000.0]
  targetSpeedsKn := [8.0, 12.0]

theorem speedAtDistance_twoSpeeds (distM : ℝ) :
    twoSpeeds.speedAtDistance distM = 8 ∨ twoSpeeds.speedAtDistance distM = 12 := by
  have eight : (8.0 : ℝ) = 8 := by norm_num
  have twelve : (12.0 : ℝ) = 12 := by norm_num
  simp only [SpeedProfile.speedAtDistance, twoSpeeds, eight, twelve, List.zip_cons_cons,
    List.zip_nil_right, List.getLast?_cons_cons, List.getLast?_singleton, List.find?_cons,
    List.find?_nil]
  split
  · exact .inl rfl
  · split
    · exact .inr rfl
    · exact .inr rfl

theorem effectiveMs_twoSpeeds (distM : ℝ) :
    8 * 0.514444 ≤ effectiveMs twoSpeeds 10.0 distM ∧
      effectiveMs twoSpeeds 10.0 distM ≤ 12 * 0.514444 := by
  unfold effectiveMs speedOr positiveOr
  rcases speedAtDistance_twoSpeeds distM with speed | speed <;> rw [speed] <;>
    norm_num [kKnToMs]

/-- Six miles to go, at eight knots and then at twelve. -/
theorem integrateEta_bounded_halfway :
    ∃ turns final, (∀ more, turns ≤ more →
        integrateEta twoSpeeds 10.0 ((60 : Int) : ℝ) 0.5 12.0 more = some final) ∧
      1799 ≤ final.totalTimeS ∧ final.totalTimeS ≤ 2701 := by
  obtain ⟨vMin, vMax, turns, final, positive, least, greatest, ends, near, within, fastest,
    slowest⟩ := integrateEta_bounded twoSpeeds 10.0 0.5 12.0 60 (by decide)
  obtain ⟨slowM, -, rfl⟩ := least.1
  obtain ⟨fastM, -, rfl⟩ := greatest.1
  have slow := (effectiveMs_twoSpeeds slowM).1
  have fast := (effectiveMs_twoSpeeds fastM).2
  have quick : 0 < effectiveMs twoSpeeds 10.0 fastM :=
    lt_of_lt_of_le (by norm_num) (effectiveMs_twoSpeeds fastM).1
  rw [div_le_iff₀ quick] at fastest
  rw [le_div_iff₀ positive] at slowest
  norm_num [kNmToM] at near within fastest slowest
  refine ⟨turns, final, ends, ?_, ?_⟩
  · by_contra early
    nlinarith
  · by_contra late
    nlinarith

/-- The time lies between those of the whole remaining way at the extreme effective speeds. -/
def EtaBetween (progress totalDistanceNm : ℝ) (samplingIntervalS : Int) : Prop :=
  let totalDistM := totalDistanceNm * kNmToM
  let distCoveredM := progress * totalDistM
  let remainingM := max 0 (totalDistM - distCoveredM)
  ∀ vMin vMax turns final,
    IsLeast (effectiveSpeeds profile sogKn totalDistM distCoveredM) vMin →
    IsGreatest (effectiveSpeeds profile sogKn totalDistM distCoveredM) vMax →
    integrateEta profile sogKn (samplingIntervalS : ℝ) progress totalDistanceNm turns =
      some final →
    remainingM / vMax ≤ final.totalTimeS ∧ final.totalTimeS ≤ remainingM / vMin

theorem effectiveMs_noTable (distM : ℝ) : effectiveMs noTable 10.0 distM = 10.0 * kKnToMs := by
  have speed : noTable.speedAtDistance distM = -1.0 := rfl
  unfold effectiveMs speedOr positiveOr
  rw [speed]
  norm_num

/-- Half a micrometre before the end the loop takes no turn. -/
theorem etaBetween_false : ¬ EtaBetween noTable 10.0 (1.0 - 5e-7 / 1852.0) 1.0 60 := by
  intro between
  have speeds : effectiveSpeeds noTable 10.0 (1.0 * kNmToM)
      ((1.0 - 5e-7 / 1852.0) * (1.0 * kNmToM)) = {10.0 * kKnToMs} := by
    unfold effectiveSpeeds
    rw [funext effectiveMs_noTable]
    exact (Set.nonempty_Icc.mpr (le_max_left _ _)).image_const _
  have ends : integrateEta noTable 10.0 ((60 : Int) : ℝ) (1.0 - 5e-7 / 1852.0) 1.0 1 =
      some { currentM := (1.0 - 5e-7 / 1852.0) * (1.0 * kNmToM), totalTimeS := 0.0 } := by
    have early : ¬ (1.0 - 5e-7 / 1852.0) * (1.0 * kNmToM) ≥ 1.0 * (kNmToM : ℝ) := by
      norm_num [kNmToM]
    have near : ¬ (1.0 - 5e-7 / 1852.0) * (1.0 * kNmToM) < 1.0 * (kNmToM : ℝ) - 1e-6 := by
      norm_num [kNmToM]
    unfold integrateEta
    dsimp only
    rw [if_neg early]
    exact if_neg near
  have bounded := (between _ _ 1 _ (speeds ▸ isLeast_singleton) (speeds ▸ isGreatest_singleton)
    ends).1
  norm_num [kNmToM, kKnToMs] at bounded

end

end MassL3.M3.Scalars
