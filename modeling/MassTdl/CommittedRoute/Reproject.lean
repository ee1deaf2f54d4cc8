/-
This file translates the reprojection of the committed prefix into the headings and speeds that
the planner pins. The number of pinned steps follows from the guard distance alone, so it can
exceed the number of waypoints, and a step without a segment of its own pins the ship's heading
and speed.

The arithmetic is a parameter. Over the reals a step with a segment of its own ends on its
waypoint.
-/

import Mathlib.Analysis.SpecialFunctions.Complex.Arg
import MassTdl.CommittedRoute.Types

namespace MassL3.M5.CommittedRoute

/-! ### The translation -/

/-- The functions of the C++ library, over an arithmetic. The ceiling is converted. -/
structure LibraryOver (R : Type) where
  cos : R → R
  hypot : R → R → R
  atan2 : R → R → R
  ceil : R → Int

/-- Metres north and east of the ship. -/
structure NedPosition (R : Type) where
  north : R
  east : R

/-- `PrefixReprojectResult`. -/
structure PrefixReprojectResult (R : Type) where
  K : Int
  psiRad : List R := []
  uMps : List R := []

def kSuffixMinSteps : Int := 8

section Translation

variable {R : Type} [Add R] [Sub R] [Mul R] [Div R] [LT R] [DecidableLT R] [OfScientific R]
variable (lib : LibraryOver R)

def radPerDeg : R := 3.14159265358979323846 / 180.0

def earthRadiusMeanM : R := 6371000.0

/-- The number of pinned steps. -/
def pinnedSteps (ownUMps dtS : R) (N : Int) (guardDistanceM : R) : Int :=
  let uEff := if ownUMps < 0.5 then 0.5 else ownUMps
  let stepM := uEff * dtS
  let K := if stepM > 1.0e-6 then lib.ceil (guardDistanceM / stepM) else 0
  let KMax := max 0 (N - kSuffixMinSteps)
  let K := if K > KMax then KMax else K
  if K < 0 then 0 else K

/-- The waypoints in the ship's frame. -/
def nedPositions (latDeg lonDeg : List R) (ownLatDeg ownLonDeg : R) : List (NedPosition R) :=
  let cosLat := lib.cos (ownLatDeg * radPerDeg)
  (latDeg.zip lonDeg).map fun position =>
    { north := (position.1 - ownLatDeg) * radPerDeg * earthRadiusMeanM
      east := (position.2 - ownLonDeg) * radPerDeg * earthRadiusMeanM * cosLat }

/-- The waypoint of an index, or the last one behind it. -/
def waypoint (points : List (NedPosition R)) (index : Nat) : NedPosition R :=
  points[min index (points.length - 1)]?.getD ⟨0.0, 0.0⟩

/-- A step starts at the waypoint before its own. The first one starts at the ship. -/
def segmentStart (points : List (NedPosition R)) (step : Nat) : NedPosition R :=
  if step = 0 then ⟨0.0, 0.0⟩ else waypoint points (step - 1)

/-- How far a step goes. -/
def displacement (points : List (NedPosition R)) (step : Nat) : R :=
  lib.hypot ((waypoint points step).north - (segmentStart points step).north)
    ((waypoint points step).east - (segmentStart points step).east)

/-- The heading and the speed of one step. -/
def pinnedStep (points : List (NedPosition R)) (ownPsiRad ownUMps dtS : R) (step : Nat) :
    R × R :=
  if points.length < 2 then (ownPsiRad, ownUMps)
  else if displacement lib points step < 0.5 then (ownPsiRad, ownUMps)
  else
    (lib.atan2 ((waypoint points step).east - (segmentStart points step).east)
        ((waypoint points step).north - (segmentStart points step).north),
      if dtS > 1.0e-6 then displacement lib points step / dtS else ownUMps)

/-- `reproject_prefix_psi_u`. -/
def reprojectPrefixPsiU (latDeg lonDeg : List R) (ownLatDeg ownLonDeg ownPsiRad ownUMps dtS : R)
    (N : Int) (guardDistanceM : R) : PrefixReprojectResult R :=
  let K := pinnedSteps lib ownUMps dtS N guardDistanceM
  let points := nedPositions lib latDeg lonDeg ownLatDeg ownLonDeg
  if K = 0 ∨ points = [] then { K := K }
  else
    let steps := (List.range K.toNat).map (pinnedStep lib points ownPsiRad ownUMps dtS)
    { K := K
      psiRad := steps.map Prod.fst
      uMps := steps.map Prod.snd }

/-- One control step along its heading. -/
def advance (cos sin : R → R) (dtS : R) (position : NedPosition R) (step : R × R) :
    NedPosition R where
  north := position.north + step.2 * dtS * cos step.1
  east := position.east + step.2 * dtS * sin step.1

/-- The position after a step, from the ship's. -/
def positionAfter (cos sin : R → R) (dtS : R) (result : PrefixReprojectResult R) (step : Nat) :
    NedPosition R :=
  ((result.psiRad.zip result.uMps).take (step + 1)).foldl (advance cos sin dtS) ⟨0.0, 0.0⟩

end Translation

/-! ### Over the reals -/

/-- The library over the reals. -/
noncomputable def realLibrary : LibraryOver ℝ where
  cos := Real.cos
  hypot first second := Real.sqrt (first ^ 2 + second ^ 2)
  atan2 east north := Complex.arg ⟨north, east⟩
  ceil value := ⌈value⌉

/-- Driving the hypotenuse along its own direction covers both legs. -/
theorem hypot_mul_direction (north east : ℝ) :
    realLibrary.hypot north east * Real.cos (realLibrary.atan2 east north) = north ∧
      realLibrary.hypot north east * Real.sin (realLibrary.atan2 east north) = east := by
  have norm : realLibrary.hypot north east = ‖(⟨north, east⟩ : ℂ)‖ := by
    rw [Complex.norm_def, Complex.normSq_mk, ← pow_two, ← pow_two]
    rfl
  rw [norm]
  exact ⟨Complex.norm_mul_cos_arg _, Complex.norm_mul_sin_arg _⟩

section Real

variable {latDeg lonDeg : List ℝ} {points : List (NedPosition ℝ)}
variable {ownLatDeg ownLonDeg ownPsiRad ownUMps dtS guardDistanceM : ℝ} {N : Int}

/-! ### What is pinned -/

theorem pinnedSteps_nonneg : 0 ≤ pinnedSteps realLibrary ownUMps dtS N guardDistanceM := by
  simp only [pinnedSteps]
  split_ifs <;> omega

/-- The suffix keeps its minimum length. -/
theorem pinnedSteps_le :
    pinnedSteps realLibrary ownUMps dtS N guardDistanceM ≤ max 0 (N - kSuffixMinSteps) := by
  simp only [pinnedSteps]
  split_ifs <;> omega

/-- The headings and speeds of a prefix with waypoints are those of its steps. -/
theorem zip_reprojectPrefixPsiU
    (nonempty : nedPositions realLibrary latDeg lonDeg ownLatDeg ownLonDeg ≠ []) :
    (reprojectPrefixPsiU realLibrary latDeg lonDeg ownLatDeg ownLonDeg ownPsiRad ownUMps dtS N
        guardDistanceM).psiRad.zip
      (reprojectPrefixPsiU realLibrary latDeg lonDeg ownLatDeg ownLonDeg ownPsiRad ownUMps dtS N
        guardDistanceM).uMps =
      (List.range (pinnedSteps realLibrary ownUMps dtS N guardDistanceM).toNat).map
        (pinnedStep realLibrary (nedPositions realLibrary latDeg lonDeg ownLatDeg ownLonDeg)
          ownPsiRad ownUMps dtS) := by
  simp only [reprojectPrefixPsiU, nonempty, or_false]
  split_ifs with none
  · simp [none]
  · simp [List.zip_map', List.map_map, Function.comp_def]

/-- Behind the last waypoint a step goes nowhere. -/
theorem displacement_past {step : Nat} (past : points.length ≤ step) (nonempty : points ≠ []) :
    displacement realLibrary points step = 0 := by
  have positive : 0 < points.length := List.length_pos_iff.mpr nonempty
  have same : segmentStart points step = waypoint points step := by
    unfold segmentStart waypoint
    rw [if_neg (by omega), Nat.min_eq_right (by omega), Nat.min_eq_right (by omega)]
  simp [displacement, same, realLibrary]

/-- A step without a segment of its own pins the ship's heading and speed. -/
theorem pinnedStep_own {step : Nat} (outside : points.length < 2 ∨ points.length ≤ step) :
    pinnedStep realLibrary points ownPsiRad ownUMps dtS step = (ownPsiRad, ownUMps) := by
  by_cases short : points.length < 2
  · rw [pinnedStep, if_pos short]
  · have past : points.length ≤ step := outside.resolve_left short
    have nonempty : points ≠ [] := by
      rintro rfl
      exact short (by simp)
    have near : displacement realLibrary points step < 0.5 := by
      rw [displacement_past past nonempty]
      norm_num
    rw [pinnedStep, if_neg short, if_pos near]

/-! ### Where it leads -/

/-- A step with a segment of its own leads from the segment's start to its waypoint. -/
theorem advance_pinnedStep (positive : 1.0e-6 < dtS) (several : 2 ≤ points.length) {step : Nat}
    (far : 0.5 ≤ displacement realLibrary points step) :
    advance Real.cos Real.sin dtS (segmentStart points step)
        (pinnedStep realLibrary points ownPsiRad ownUMps dtS step) =
      waypoint points step := by
  have notZero : dtS ≠ 0 := by
    rintro rfl
    norm_num at positive
  obtain ⟨north, east⟩ := hypot_mul_direction
    ((waypoint points step).north - (segmentStart points step).north)
    ((waypoint points step).east - (segmentStart points step).east)
  rw [pinnedStep, if_neg (Nat.not_lt.mpr several), if_neg (not_lt.mpr far), if_pos positive]
  simp only [advance, div_mul_cancel₀ _ notZero]
  rw [displacement, north, east, add_sub_cancel, add_sub_cancel]

/-- The first steps of a prefix lead along its waypoints. -/
theorem foldl_advance (positive : 1.0e-6 < dtS) (several : 2 ≤ points.length) {count : Nat}
    (far : ∀ step < count, 0.5 ≤ displacement realLibrary points step) :
    ((List.range count).map (pinnedStep realLibrary points ownPsiRad ownUMps dtS)).foldl
        (advance Real.cos Real.sin dtS) ⟨0.0, 0.0⟩ = segmentStart points count := by
  induction count with
  | zero => rfl
  | succ step inductionHypothesis =>
    rw [List.range_succ, List.map_append, List.foldl_append,
      inductionHypothesis fun earlier below => far earlier (Nat.lt_succ_of_lt below)]
    exact advance_pinnedStep positive several (far step (Nat.lt_succ_self step))

theorem getElem?_eq_waypoint {step : Nat} (within : step < points.length) :
    points[step]? = some (waypoint points step) := by
  have inside : min step (points.length - 1) = step := by omega
  rw [waypoint, inside, List.getElem?_eq_getElem within, Option.getD_some]

/-- The pinned steps do not outgrow the horizon. With two waypoints or more, each step with a
waypoint of its own ends on it. All the others pin the ship's heading and speed: the number of
steps does not depend on the waypoints. -/
theorem reprojectPrefixPsiU_follows (positive : 1.0e-6 < dtS)
    (nonempty : nedPositions realLibrary latDeg lonDeg ownLatDeg ownLonDeg ≠ []) :
    let points := nedPositions realLibrary latDeg lonDeg ownLatDeg ownLonDeg
    let out := reprojectPrefixPsiU realLibrary latDeg lonDeg ownLatDeg ownLonDeg ownPsiRad
      ownUMps dtS N guardDistanceM
    out.K = pinnedSteps realLibrary ownUMps dtS N guardDistanceM ∧
      out.K ≤ max 0 (N - kSuffixMinSteps) ∧
      (out.psiRad.length : Int) = out.K ∧ (out.uMps.length : Int) = out.K ∧
      (2 ≤ points.length →
        (∀ step : Nat, step < out.K → step < points.length →
          0.5 ≤ displacement realLibrary points step) →
        ∀ step : Nat, step < out.K → step < points.length →
          points[step]? = some (positionAfter Real.cos Real.sin dtS out step)) ∧
      ∀ step : Nat, step < out.K → points.length < 2 ∨ points.length ≤ step →
        (out.psiRad.zip out.uMps)[step]? = some (ownPsiRad, ownUMps) := by
  intro points out
  have count : out.K = pinnedSteps realLibrary ownUMps dtS N guardDistanceM := by
    simp only [out, reprojectPrefixPsiU]
    split_ifs <;> rfl
  have counted : (out.K.toNat : Int) = out.K :=
    Int.toNat_of_nonneg (count ▸ pinnedSteps_nonneg)
  have steps : out.psiRad.zip out.uMps =
      (List.range out.K.toNat).map (pinnedStep realLibrary points ownPsiRad ownUMps dtS) := by
    rw [count]
    exact zip_reprojectPrefixPsiU nonempty
  have lengths : out.psiRad.length = out.K.toNat ∧ out.uMps.length = out.K.toNat := by
    simp only [out, reprojectPrefixPsiU, nonempty, or_false]
    split_ifs with none <;> simp [none]
  refine ⟨count, count ▸ pinnedSteps_le, ?_, ?_, ?_, ?_⟩
  · rw [lengths.1, counted]
  · rw [lengths.2, counted]
  · intro several far step below within
    have taken : (out.psiRad.zip out.uMps).take (step + 1) =
        (List.range (step + 1)).map
          (pinnedStep realLibrary points ownPsiRad ownUMps dtS) := by
      rw [steps, ← List.map_take, List.take_range, Nat.min_eq_left (by omega)]
    rw [getElem?_eq_waypoint within, positionAfter, taken,
      foldl_advance positive several fun earlier before => far earlier (by omega) (by omega)]
    rfl
  · intro step below outside
    rw [steps, List.getElem?_map, List.getElem?_range (by omega), Option.map_some,
      pinnedStep_own outside]

end Real

/-! ### Two waypoints, twelve steps -/

/-- Two waypoints, 1112 m and 2224 m north of the ship. -/
noncomputable def twoWaypoints : PrefixReprojectResult ℝ :=
  reprojectPrefixPsiU realLibrary [0.01, 0.02] [0.0, 0.0] 0.0 0.0 0.0 5.0 15.0 20 900.0

theorem twoWaypoints_steps : pinnedSteps realLibrary 5.0 15.0 20 900.0 = 12 := by
  norm_num [pinnedSteps, realLibrary, kSuffixMinSteps]

theorem twoWaypoints_far {step : Nat} (within : step < 2) :
    0.5 ≤ displacement realLibrary
      (nedPositions realLibrary [0.01, 0.02] [0.0, 0.0] 0.0 0.0) step := by
  have cases : step = 0 ∨ step = 1 := by omega
  rcases cases with rfl | rfl <;>
  · refine Real.le_sqrt_of_sq_le ?_
    norm_num [nedPositions, waypoint, segmentStart, radPerDeg, earthRadiusMeanM]

theorem twoWaypoints_followed :
    twoWaypoints.K = 12 ∧
      ∀ step < 2, (nedPositions realLibrary [0.01, 0.02] [0.0, 0.0] 0.0 0.0)[step]? =
        some (positionAfter Real.cos Real.sin 15.0 twoWaypoints step) := by
  have positive : (1.0e-6 : ℝ) < 15.0 := by norm_num
  have nonempty : nedPositions realLibrary [0.01, 0.02] [0.0, 0.0] 0.0 0.0 ≠ [] := by
    simp [nedPositions]
  have length : (nedPositions realLibrary [0.01, 0.02] [0.0, 0.0] 0.0 0.0).length = 2 := rfl
  obtain ⟨count, _, _, _, follows, _⟩ :=
    @reprojectPrefixPsiU_follows [0.01, 0.02] [0.0, 0.0] 0.0 0.0 0.0 5.0 15.0 900.0 20 positive
      nonempty
  refine ⟨count.trans twoWaypoints_steps, fun step within => ?_⟩
  exact follows length.ge (fun earlier _ inside => twoWaypoints_far (length ▸ inside)) step
    (by rw [count, twoWaypoints_steps]; omega) (by rw [length]; exact within)

/-- The guard distance of 180 s pins twelve steps, and there are two waypoints. -/
theorem twoWaypoints_exceeded : ¬ twoWaypoints.K ≤ ([0.01, 0.02] : List ℝ).length := by
  have count : twoWaypoints.K = pinnedSteps realLibrary 5.0 15.0 20 900.0 := by
    simp only [twoWaypoints, reprojectPrefixPsiU]
    split_ifs <;> rfl
  rw [count, twoWaypoints_steps]
  norm_num

end MassL3.M5.CommittedRoute
