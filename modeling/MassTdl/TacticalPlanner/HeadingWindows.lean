/-
This file is about the windows of headings that the planner works in. The arbiter allows a window of
headings. The planner makes a box of it for its solver, and where there is no solution it turns by
itself to a heading of the window. All of it is stated for any kind of number.

Over the reals the three readings of a window agree. A heading is in the box if it is in the window,
unless the window reaches across the heading astern, for which the box is opened. The heading that
the fallback turns to is in the window, and none of the window is nearer to the one that the
encounter asks for.
-/

import MassTdl.Headings
import MassTdl.MidMpc.Node
import MassTdl.TacticalPlanner.Preflight
import Mathlib

namespace MassL3.M5.Windows

open Clamps
open MidMpc (ColregsPreferredDirection)

/-! ### Headings for any kind of number -/

/-- The functions of the mathematics library, and the ratio of a half circle to its radius. -/
structure Functions (Scalar : Type) where
  pi : Scalar
  abs : Scalar → Scalar
  cos : Scalar → Scalar
  sin : Scalar → Scalar
  isFinite : Scalar → Bool
  fmod : Scalar → Scalar → Scalar
  hypot : Scalar → Scalar → Scalar
  count : Nat → Scalar

section Model

variable {Scalar : Type} [Add Scalar] [Sub Scalar] [Mul Scalar] [Div Scalar] [Neg Scalar]
  [OfScientific Scalar] [LE Scalar] [LT Scalar] [DecidableLE Scalar] [DecidableLT Scalar]

variable (lib : Functions Scalar)

def normalizeHeadingPositive (angle : Scalar) : Scalar :=
  let normalized := lib.fmod angle (2.0 * lib.pi)
  if normalized < 0.0 then normalized + 2.0 * lib.pi else normalized

def circularHeadingDistance (lhs rhs : Scalar) : Scalar :=
  let diff := lib.abs (normalizeHeadingPositive lib lhs - normalizeHeadingPositive lib rhs)
  if diff > lib.pi then 2.0 * lib.pi - diff else diff

/-- `heading_inside_window`. A window of almost a whole turn holds every heading. -/
def HeadingInsideWindow (target hMin hMax : Scalar) : Prop :=
  if lib.abs (hMax - hMin) ≥ 2.0 * lib.pi - 1.0e-9 then True
  else
    let targetNorm := normalizeHeadingPositive lib target
    let minNorm := normalizeHeadingPositive lib hMin
    let maxNorm := normalizeHeadingPositive lib hMax
    if minNorm ≤ maxNorm then targetNorm ≥ minNorm ∧ targetNorm ≤ maxNorm
    else targetNorm ≥ minNorm ∨ targetNorm ≤ maxNorm

instance (target hMin hMax : Scalar) : Decidable (HeadingInsideWindow lib target hMin hMax) := by
  unfold HeadingInsideWindow
  infer_instance

def clampHeadingWindow (target hMin hMax : Scalar) : Scalar :=
  if HeadingInsideWindow lib target hMin hMax then target
  else if circularHeadingDistance lib target hMin ≤ circularHeadingDistance lib target hMax then
    hMin
  else hMax

/-- The heading within half a turn of a reference. -/
def normalizeAngle (angle ref : Scalar) : Scalar :=
  let diff := lib.fmod (angle - ref + lib.pi) (2.0 * lib.pi)
  ref + ((if diff < 0.0 then diff + 2.0 * lib.pi else diff) - lib.pi)

/-- The bounds of the box: the lower one, and the upper one. -/
def resolveHeadingBoxBounds (hMinRaw hMaxRaw refPsi : Scalar) : Scalar × Scalar :=
  if hMaxRaw - hMinRaw ≥ 2.0 * lib.pi - 0.05 then (-lib.pi, lib.pi)
  else
    let lb := normalizeAngle lib hMinRaw refPsi
    let ub := normalizeAngle lib hMaxRaw refPsi
    -- Bounds the wrong way round stop the solver, so the box is opened.
    if lb > ub then (-lib.pi, lib.pi) else (lb, ub)

/-! ### The heading of the fallback -/

structure TargetRiskSnapshot (Scalar : Type) where
  targetId : String
  riskScore : Scalar
  warningMarginM : Scalar
  dangerMarginM : Scalar
  tcpaS : Scalar
  closingSpeedMps : Scalar
  primary : Bool

/-- The loop of `primary_target_risk`. -/
def primaryFrom (best : Option (TargetRiskSnapshot Scalar)) :
    List (TargetRiskSnapshot Scalar) → Option (TargetRiskSnapshot Scalar)
  | [] => best
  | risk :: later =>
      if risk.primary then some risk
      else
        match best with
        | none => primaryFrom (some risk) later
        | some highest =>
            primaryFrom (some (if risk.riskScore > highest.riskScore then risk else highest)) later

def primaryTargetRisk (risks : List (TargetRiskSnapshot Scalar)) :
    Option (TargetRiskSnapshot Scalar) :=
  primaryFrom none risks

def geometricFallbackWaypointTimeS (waypointIndex : Nat) : Scalar :=
  60.0 + lib.count waypointIndex * 10.0

def fallbackMinAlterationRad (routeBrg hMin hMax minAltRad : Scalar) : Scalar :=
  if minAltRad > 0.0 then minAltRad
  else
    stdMin (circularHeadingDistance lib hMax routeBrg) (circularHeadingDistance lib routeBrg hMin)

/-- The heading that an encounter asks for, before it is clamped. -/
def demandedHeading (routeBrg hMin hMax minAltRad : Scalar) :
    ColregsPreferredDirection → Scalar
  | .starboard => if minAltRad > 0.0 then routeBrg + minAltRad else hMax
  | .port => if minAltRad > 0.0 then routeBrg - minAltRad else hMin
  | .hold | .reduceSpeed => routeBrg

def fallbackTargetHeading (routeBrg hMin hMax minAltRad : Scalar)
    (direction : ColregsPreferredDirection) : Scalar :=
  clampHeadingWindow lib (demandedHeading routeBrg hMin hMax minAltRad direction) hMin hMax

/-- The primary target is inside its warning domain, or will be before the first waypoint. -/
def Urgent (risk : TargetRiskSnapshot Scalar) : Prop :=
  risk.warningMarginM < 0.0 ∨
    lib.isFinite risk.warningMarginM = true ∧ lib.isFinite risk.closingSpeedMps = true ∧
      risk.closingSpeedMps > 0.0 ∧
      risk.warningMarginM ≤ risk.closingSpeedMps * geometricFallbackWaypointTimeS lib 0

instance (risk : TargetRiskSnapshot Scalar) : Decidable (Urgent lib risk) := by
  unfold Urgent
  infer_instance

/-- A conflict is on, and its primary target is urgent. -/
def Pressed (colregsConflictActive : Bool) (risks : List (TargetRiskSnapshot Scalar)) : Prop :=
  colregsConflictActive = true ∧ ∃ risk ∈ primaryTargetRisk risks, Urgent lib risk

instance (colregsConflictActive : Bool) (risks : List (TargetRiskSnapshot Scalar)) :
    Decidable (Pressed lib colregsConflictActive risks) := by
  unfold Pressed
  infer_instance

def riskAwareFallbackTargetHeading (colregsConflictActive : Bool)
    (risks : List (TargetRiskSnapshot Scalar)) (routeBrg hMin hMax minAltRad : Scalar)
    (direction : ColregsPreferredDirection) : Scalar :=
  if Pressed lib colregsConflictActive risks then
    match direction with
    | .starboard => hMax
    | .port => hMin
    | .hold | .reduceSpeed => fallbackTargetHeading lib routeBrg hMin hMax minAltRad direction
  else fallbackTargetHeading lib routeBrg hMin hMax minAltRad direction

end Model

/-! ### The circle of headings -/

noncomputable def realFunctions : Functions ℝ where
  pi := Real.pi
  abs := fun value => |value|
  cos := Real.cos
  sin := Real.sin
  isFinite := fun _ => true
  fmod := Headings.remainder
  hypot := fun first second => √(first ^ 2 + second ^ 2)
  count := fun number => number

-- The numeral of a whole turn has one proof here, whatever other definitions come before.
local instance atLeastTwo_two : Nat.AtLeastTwo 2 := ⟨le_rfl⟩

theorem wholeTurn_pos : 0 < 2 * Real.pi := Real.two_pi_pos

theorem twoPi : (2.0 * realFunctions.pi : ℝ) = 2 * Real.pi := by
  norm_num [realFunctions]

/-- How far clockwise a heading is from another. -/
noncomputable def along (start heading : ℝ) : ℝ := toIcoMod wholeTurn_pos 0 (heading - start)

section Circle

variable {start heading : ℝ}

theorem along_eq_iff {turn : ℝ} :
    along start heading = turn ↔
      (0 ≤ turn ∧ turn < 2 * Real.pi) ∧
        ∃ turns : ℤ, heading = start + turn + turns * (2 * Real.pi) := by
  unfold along
  rw [toIcoMod_eq_iff, Set.mem_Ico, zero_add]
  refine and_congr_right fun _ => exists_congr fun turns => ?_
  rw [zsmul_eq_mul]
  constructor <;> intro equal <;> linarith

theorem along_bounds (start heading : ℝ) :
    0 ≤ along start heading ∧ along start heading < 2 * Real.pi :=
  (along_eq_iff.mp rfl).1

theorem along_same (start heading : ℝ) :
    ∃ turns : ℤ, heading = start + along start heading + turns * (2 * Real.pi) :=
  (along_eq_iff.mp rfl).2

@[simp]
theorem along_self (start : ℝ) : along start start = 0 :=
  along_eq_iff.mpr ⟨⟨le_rfl, Real.two_pi_pos⟩, 0, by simp⟩

/-- Clockwise from one heading to another is what is left between the two, seen from a third. -/
theorem along_eq (origin start heading : ℝ) :
    along start heading =
      if along origin start ≤ along origin heading then along origin heading - along origin start
      else along origin heading - along origin start + 2 * Real.pi := by
  obtain ⟨startTurns, startSame⟩ := along_same origin start
  obtain ⟨headingTurns, headingSame⟩ := along_same origin heading
  obtain ⟨startNonneg, startBelow⟩ := along_bounds origin start
  obtain ⟨headingNonneg, headingBelow⟩ := along_bounds origin heading
  refine along_eq_iff.mpr ?_
  split_ifs with ordered
  · refine ⟨⟨by linarith, by linarith⟩, headingTurns - startTurns, ?_⟩
    push_cast
    linarith
  · refine ⟨⟨by linarith, by linarith⟩, headingTurns - startTurns - 1, ?_⟩
    push_cast
    linarith

/-- What a division by a whole turn leaves has the sign of the angle. -/
theorem remainder_cases (angle : ℝ) :
    |Headings.remainder angle (2 * Real.pi)| < 2 * Real.pi ∧
      ∃ turns : ℤ, angle = Headings.remainder angle (2 * Real.pi) + turns * (2 * Real.pi) := by
  have turn := Real.two_pi_pos
  have below := Int.floor_le (angle / (2 * Real.pi))
  have belowNext := Int.lt_floor_add_one (angle / (2 * Real.pi))
  have above := Int.le_ceil (angle / (2 * Real.pi))
  have aboveLast := Int.ceil_lt_add_one (angle / (2 * Real.pi))
  rw [le_div_iff₀ turn] at below
  rw [div_lt_iff₀ turn] at belowNext
  rw [div_le_iff₀ turn] at above
  rw [← sub_lt_iff_lt_add, lt_div_iff₀ turn] at aboveLast
  unfold Headings.remainder
  refine ⟨abs_lt.mpr ?_, _, (by ring : angle = _ + _)⟩
  split_ifs <;> constructor <;> linarith

theorem normalizeHeadingPositive_eq (angle : ℝ) :
    normalizeHeadingPositive realFunctions angle = along 0 angle := by
  have zero : (0.0 : ℝ) = 0 := by norm_num
  obtain ⟨short, turns, same⟩ := remainder_cases angle
  obtain ⟨above, below⟩ := abs_lt.mp short
  have modulus : realFunctions.fmod angle (2 * Real.pi) = Headings.remainder angle (2 * Real.pi) :=
    rfl
  unfold normalizeHeadingPositive
  rw [twoPi, zero, modulus]
  dsimp only
  symm
  split_ifs with negative
  · refine along_eq_iff.mpr ⟨⟨by linarith, by linarith⟩, turns - 1, ?_⟩
    push_cast
    linarith
  · exact along_eq_iff.mpr ⟨⟨not_lt.mp negative, below⟩, turns, by linarith⟩

theorem circularHeadingDistance_eq (lhs rhs : ℝ) :
    circularHeadingDistance realFunctions lhs rhs =
      min |along 0 lhs - along 0 rhs| (2 * Real.pi - |along 0 lhs - along 0 rhs|) := by
  have half : ∀ value : ℝ, realFunctions.pi < value ↔ 2 * Real.pi - value < value := fun value => by
    rw [sub_lt_iff_lt_add, ← two_mul]
    exact (mul_lt_mul_iff_right₀ two_pos).symm
  unfold circularHeadingDistance
  rw [normalizeHeadingPositive_eq, normalizeHeadingPositive_eq, twoPi]
  dsimp only
  split_ifs with far
  · exact (min_eq_right ((half _).mp far).le).symm
  · exact (min_eq_left (not_lt.mp (fun below => far ((half _).mpr below)))).symm

theorem coe_along (heading : ℝ) :
    ((along 0 heading : ℝ) : AddCircle (2 * Real.pi)) = (heading : AddCircle (2 * Real.pi)) := by
  obtain ⟨turns, same⟩ := along_same 0 heading
  rw [zero_add, ← zsmul_eq_mul] at same
  conv_rhs => rw [same]
  rw [AddCircle.coe_add, AddCircle.coe_zsmul, AddCircle.coe_period, smul_zero, add_zero]

theorem norm_coe_of_short {turn : ℝ} (short : |turn| ≤ Real.pi) :
    ‖(turn : AddCircle (2 * Real.pi))‖ = |turn| := by
  rw [AddCircle.norm_coe_eq_abs_iff _ Real.two_pi_pos.ne', abs_of_pos Real.two_pi_pos]
  linarith

/-- The distance is the one of the circle. -/
theorem circularHeadingDistance_eq_norm (lhs rhs : ℝ) :
    circularHeadingDistance realFunctions lhs rhs =
      ‖(lhs : AddCircle (2 * Real.pi)) - (rhs : AddCircle (2 * Real.pi))‖ := by
  obtain ⟨leftNonneg, leftBelow⟩ := along_bounds 0 lhs
  obtain ⟨rightNonneg, rightBelow⟩ := along_bounds 0 rhs
  rw [circularHeadingDistance_eq, ← coe_along lhs, ← coe_along rhs, ← AddCircle.coe_sub]
  generalize along 0 lhs = left at *
  generalize along 0 rhs = right at *
  rcases le_or_gt |left - right| Real.pi with short | far
  · rw [norm_coe_of_short short, min_eq_left (by linarith)]
  rw [min_eq_right (by linarith)]
  rcases le_or_gt right left with ordered | ordered
  · have around : ((left - right : ℝ) : AddCircle (2 * Real.pi)) =
        ((left - right - 2 * Real.pi : ℝ) : AddCircle (2 * Real.pi)) := by
      rw [AddCircle.coe_sub _ (left - right), AddCircle.coe_period, sub_zero]
    rw [abs_of_nonneg (sub_nonneg.mpr ordered)] at far ⊢
    rw [around, norm_coe_of_short] <;> rw [abs_of_nonpos (by linarith)] <;> linarith
  · have around : ((left - right : ℝ) : AddCircle (2 * Real.pi)) =
        ((left - right + 2 * Real.pi : ℝ) : AddCircle (2 * Real.pi)) := by
      rw [AddCircle.coe_add_period]
    rw [abs_of_neg (sub_neg.mpr ordered)] at far ⊢
    rw [around, norm_coe_of_short] <;> rw [abs_of_nonneg (by linarith)] <;> linarith

theorem circularHeadingDistance_eq_along (lhs rhs : ℝ) :
    circularHeadingDistance realFunctions lhs rhs =
      min (along lhs rhs) (2 * Real.pi - along lhs rhs) := by
  rw [circularHeadingDistance_eq, along_eq 0 lhs rhs]
  split_ifs with ordered
  · rw [abs_sub_comm, abs_of_nonneg (sub_nonneg.mpr ordered)]
  · rw [abs_of_pos (sub_pos.mpr (not_le.mp ordered)), min_comm]
    congr 1 <;> ring

end Circle

/-! ### Windows -/

/-- The window does not hold every heading for its width. -/
def Bounded (hMin hMax : ℝ) : Prop := |hMax - hMin| < 2 * Real.pi - 1.0e-9

section Windows

variable {target hMin hMax : ℝ}

/-- In a window are the headings that come, clockwise from its first, no later than its last. -/
theorem headingInsideWindow_iff (bounded : Bounded hMin hMax) :
    HeadingInsideWindow realFunctions target hMin hMax ↔ along hMin target ≤ along hMin hMax := by
  have span : ¬realFunctions.abs (hMax - hMin) ≥ 2 * Real.pi - 1.0e-9 := not_le.mpr bounded
  obtain ⟨targetNonneg, targetBelow⟩ := along_bounds 0 target
  obtain ⟨minNonneg, minBelow⟩ := along_bounds 0 hMin
  obtain ⟨maxNonneg, maxBelow⟩ := along_bounds 0 hMax
  unfold HeadingInsideWindow
  rw [twoPi, if_neg span, along_eq 0 hMin target, along_eq 0 hMin hMax]
  simp only [normalizeHeadingPositive_eq]
  split_ifs with ordered before before
  · constructor
    · rintro ⟨-, below⟩
      linarith
    · intro within
      exact ⟨before, by linarith⟩
  · constructor
    · rintro ⟨above, -⟩
      exact absurd above before
    · intro within
      linarith
  · constructor
    · intro
      linarith
    · exact fun _ => .inl before
  · constructor
    · rintro (above | below)
      · exact absurd above before
      · linarith
    · intro within
      exact .inr (by linarith)

theorem headingInsideWindow_of_wide (wide : ¬Bounded hMin hMax) :
    HeadingInsideWindow realFunctions target hMin hMax := by
  have span : realFunctions.abs (hMax - hMin) ≥ 2 * Real.pi - 1.0e-9 := not_lt.mp wide
  unfold HeadingInsideWindow
  rw [twoPi, if_pos span]
  trivial

theorem headingInsideWindow_min : HeadingInsideWindow realFunctions hMin hMin hMax := by
  by_cases bounded : Bounded hMin hMax
  · rw [headingInsideWindow_iff bounded, along_self]
    exact (along_bounds hMin hMax).1
  · exact headingInsideWindow_of_wide bounded

theorem headingInsideWindow_max : HeadingInsideWindow realFunctions hMax hMin hMax := by
  by_cases bounded : Bounded hMin hMax
  · exact (headingInsideWindow_iff bounded).mpr le_rfl
  · exact headingInsideWindow_of_wide bounded

/-- A clamped heading is in the window. -/
theorem clampHeadingWindow_inside (target hMin hMax : ℝ) :
    HeadingInsideWindow realFunctions (clampHeadingWindow realFunctions target hMin hMax) hMin
      hMax := by
  unfold clampHeadingWindow
  split_ifs with inside nearer
  · exact inside
  · exact headingInsideWindow_min
  · exact headingInsideWindow_max

/-- Seen from a heading outside, a window runs from its first heading to its last. -/
theorem between_of_outside {heading : ℝ} (bounded : Bounded hMin hMax)
    (outside : ¬HeadingInsideWindow realFunctions target hMin hMax)
    (inside : HeadingInsideWindow realFunctions heading hMin hMax) :
    along target hMin ≤ along target heading ∧ along target heading ≤ along target hMax := by
  rw [headingInsideWindow_iff bounded, not_le, along_eq target hMin target,
    along_eq target hMin hMax, along_self] at outside
  rw [headingInsideWindow_iff bounded, along_eq target hMin heading,
    along_eq target hMin hMax] at inside
  obtain ⟨minNonneg, minBelow⟩ := along_bounds target hMin
  obtain ⟨maxNonneg, maxBelow⟩ := along_bounds target hMax
  obtain ⟨nonneg, below⟩ := along_bounds target heading
  split_ifs at outside inside <;> constructor <;> linarith

/-- No heading of the window is nearer to a target than the clamped one. -/
theorem clampHeadingWindow_nearest {heading : ℝ}
    (inside : HeadingInsideWindow realFunctions heading hMin hMax) :
    circularHeadingDistance realFunctions target (clampHeadingWindow realFunctions target hMin hMax)
      ≤ circularHeadingDistance realFunctions target heading := by
  by_cases within : HeadingInsideWindow realFunctions target hMin hMax
  · rw [clampHeadingWindow, if_pos within, circularHeadingDistance_eq_norm, sub_self, norm_zero,
      circularHeadingDistance_eq_norm]
    exact norm_nonneg _
  have bounded : Bounded hMin hMax := by
    by_contra wide
    exact within (headingInsideWindow_of_wide wide)
  obtain ⟨afterMin, beforeMax⟩ := between_of_outside bounded within inside
  have shorter : min (circularHeadingDistance realFunctions target hMin)
        (circularHeadingDistance realFunctions target hMax) ≤
      circularHeadingDistance realFunctions target heading := by
    simp only [circularHeadingDistance_eq_along]
    refine le_min ?_ ?_
    · exact (min_le_left _ _).trans ((min_le_left _ _).trans afterMin)
    · exact (min_le_right _ _).trans ((min_le_right _ _).trans (by linarith))
  rw [clampHeadingWindow, if_neg within]
  split_ifs with nearer
  · rwa [min_eq_left nearer] at shorter
  · rwa [min_eq_right (not_le.mp nearer).le] at shorter

end Windows

/-! ### The box -/

/-- A box admits a heading that is, up to whole turns, between its bounds. -/
def Admits (box : ℝ × ℝ) (heading : ℝ) : Prop :=
  ∃ turns : ℤ, box.1 ≤ heading + turns * (2 * Real.pi) ∧ heading + turns * (2 * Real.pi) ≤ box.2

/-- The window spans almost a whole turn, or it reaches across the heading astern. -/
def Opened (hMin hMax refPsi : ℝ) : Prop :=
  2 * Real.pi - 0.05 ≤ hMax - hMin ∨
    HeadingInsideWindow realFunctions (refPsi + Real.pi) hMin hMax ∧
      along hMin (refPsi + Real.pi) ≠ 0

section Box

variable {hMin hMax refPsi : ℝ}

theorem admits_full (heading : ℝ) : Admits (-Real.pi, Real.pi) heading := by
  obtain ⟨turns, same⟩ := along_same (-Real.pi) heading
  obtain ⟨nonneg, below⟩ := along_bounds (-Real.pi) heading
  refine ⟨-turns, ?_⟩
  push_cast
  constructor <;> linarith

theorem normalizeAngle_eq (angle refPsi : ℝ) :
    normalizeAngle realFunctions angle refPsi =
      refPsi - Real.pi + along (refPsi - Real.pi) angle := by
  have normalized : normalizeAngle realFunctions angle refPsi =
      refPsi + (normalizeHeadingPositive realFunctions (angle - refPsi + Real.pi) - Real.pi) := rfl
  have shifted : along 0 (angle - refPsi + Real.pi) = along (refPsi - Real.pi) angle := by
    unfold along
    congr 1
    ring
  rw [normalized, normalizeHeadingPositive_eq, shifted]
  ring

/-- Bounds the right way round admit what comes, clockwise from the first, no later than the
last. -/
theorem admits_iff {origin heading : ℝ} (ordered : along origin hMin ≤ along origin hMax) :
    Admits (origin + along origin hMin, origin + along origin hMax) heading ↔
      along hMin heading ≤ along hMin hMax := by
  obtain ⟨minTurns, minSame⟩ := along_same origin hMin
  obtain ⟨headingTurns, headingSame⟩ := along_same hMin heading
  obtain ⟨minNonneg, -⟩ := along_bounds origin hMin
  obtain ⟨-, maxBelow⟩ := along_bounds origin hMax
  obtain ⟨nonneg, -⟩ := along_bounds hMin heading
  rw [along_eq origin hMin hMax, if_pos ordered]
  constructor
  · rintro ⟨turns, above, below⟩
    dsimp only at above below
    have turn : along hMin heading =
        heading + turns * (2 * Real.pi) - (origin + along origin hMin) := by
      refine along_eq_iff.mpr ⟨⟨by linarith, by linarith⟩, -minTurns - turns, ?_⟩
      push_cast
      linarith
    linarith
  · intro within
    refine ⟨-minTurns - headingTurns, ?_⟩
    push_cast
    constructor <;> linarith

/-- Bounds come the wrong way round where the heading opposite the reference is in the window, and
is not its first. -/
theorem lt_iff_astern (bounded : Bounded hMin hMax) :
    along (refPsi - Real.pi) hMax < along (refPsi - Real.pi) hMin ↔
      HeadingInsideWindow realFunctions (refPsi + Real.pi) hMin hMax ∧
        along hMin (refPsi + Real.pi) ≠ 0 := by
  have opposite : along (refPsi - Real.pi) (refPsi + Real.pi) = 0 :=
    along_eq_iff.mpr ⟨⟨le_rfl, Real.two_pi_pos⟩, 1, by push_cast; ring⟩
  obtain ⟨minNonneg, minBelow⟩ := along_bounds (refPsi - Real.pi) hMin
  obtain ⟨maxNonneg, maxBelow⟩ := along_bounds (refPsi - Real.pi) hMax
  rw [headingInsideWindow_iff bounded, along_eq (refPsi - Real.pi) hMin (refPsi + Real.pi),
    along_eq (refPsi - Real.pi) hMin hMax, opposite]
  constructor
  · intro reversed
    rw [if_neg (by linarith), if_neg (by linarith)]
    exact ⟨by linarith, by linarith⟩
  · rintro ⟨within, apart⟩
    by_contra ordered
    rw [if_pos (not_lt.mp ordered)] at within
    split_ifs at within apart with first
    · exact apart (by linarith)
    · linarith

/-- The bounds are never the wrong way round. -/
theorem resolveHeadingBoxBounds_ordered (hMin hMax refPsi : ℝ) :
    (resolveHeadingBoxBounds realFunctions hMin hMax refPsi).1 ≤
      (resolveHeadingBoxBounds realFunctions hMin hMax refPsi).2 := by
  have full : -realFunctions.pi ≤ realFunctions.pi := neg_le_self Real.pi_pos.le
  unfold resolveHeadingBoxBounds
  dsimp only
  split_ifs with wide reversed
  · exact full
  · exact full
  · exact not_lt.mp reversed

theorem bounded_of_narrow (notBelow : hMin - hMax < 2 * Real.pi - 1.0e-9)
    (narrow : ¬2 * Real.pi - 0.05 ≤ hMax - hMin) : Bounded hMin hMax := by
  refine abs_lt.mpr ⟨by linarith, ?_⟩
  norm_num at narrow ⊢
  linarith

theorem resolveHeadingBoxBounds_of_opened (notBelow : hMin - hMax < 2 * Real.pi - 1.0e-9)
    (opened : Opened hMin hMax refPsi) :
    resolveHeadingBoxBounds realFunctions hMin hMax refPsi = (-Real.pi, Real.pi) := by
  unfold resolveHeadingBoxBounds
  rw [twoPi]
  dsimp only
  split_ifs with wide reversed
  · rfl
  · rfl
  · rcases opened with spans | across
    · exact absurd spans wide
    · have turned := (lt_iff_astern (bounded_of_narrow notBelow wide)).mpr across
      rw [normalizeAngle_eq, normalizeAngle_eq] at reversed
      exact absurd (by linarith) reversed

/-- A box that was not opened has the two ends of the window, in their order. -/
theorem resolveHeadingBoxBounds_of_closed (notBelow : hMin - hMax < 2 * Real.pi - 1.0e-9)
    (closed : ¬Opened hMin hMax refPsi) :
    resolveHeadingBoxBounds realFunctions hMin hMax refPsi =
        (refPsi - Real.pi + along (refPsi - Real.pi) hMin,
          refPsi - Real.pi + along (refPsi - Real.pi) hMax) ∧
      along (refPsi - Real.pi) hMin ≤ along (refPsi - Real.pi) hMax ∧ Bounded hMin hMax := by
  have narrow : ¬2 * Real.pi - 0.05 ≤ hMax - hMin := fun wide => closed (.inl wide)
  have bounded := bounded_of_narrow notBelow narrow
  have ordered : along (refPsi - Real.pi) hMin ≤ along (refPsi - Real.pi) hMax := by
    by_contra reversed
    exact closed (.inr ((lt_iff_astern bounded).mp (not_le.mp reversed)))
  refine ⟨?_, ordered, bounded⟩
  unfold resolveHeadingBoxBounds
  rw [twoPi, if_neg narrow, normalizeAngle_eq, normalizeAngle_eq]
  exact if_neg (by linarith)

/-- The bounds of the solver's box are the right way round, and it admits the headings of the
arbiter's window. It admits others only where the window spans almost a whole turn, or reaches
across the heading astern: there it admits all. -/
theorem resolveHeadingBoxBounds_admits (heading : ℝ)
    (notBelow : hMin - hMax < 2 * Real.pi - 1.0e-9) :
    (resolveHeadingBoxBounds realFunctions hMin hMax refPsi).1 ≤
        (resolveHeadingBoxBounds realFunctions hMin hMax refPsi).2 ∧
      (Admits (resolveHeadingBoxBounds realFunctions hMin hMax refPsi) heading ↔
        HeadingInsideWindow realFunctions heading hMin hMax ∨ Opened hMin hMax refPsi) := by
  refine ⟨resolveHeadingBoxBounds_ordered hMin hMax refPsi, ?_⟩
  by_cases opened : Opened hMin hMax refPsi
  · rw [resolveHeadingBoxBounds_of_opened notBelow opened]
    exact iff_of_true (admits_full heading) (.inr opened)
  · obtain ⟨box, ordered, bounded⟩ := resolveHeadingBoxBounds_of_closed notBelow opened
    rw [box, admits_iff ordered, ← headingInsideWindow_iff bounded, or_iff_left opened]

end Box

theorem along_zero_one : along 0 1 = 1 := by
  have half := Real.two_le_pi
  exact along_eq_iff.mpr ⟨⟨by norm_num, by linarith⟩, 0, by norm_num⟩

theorem resolveHeadingBoxBounds_admits_ahead :
    Admits (resolveHeadingBoxBounds realFunctions 0 1 0) 0.5 := by
  have half := Real.two_le_pi
  refine (resolveHeadingBoxBounds_admits 0.5 (by linarith)).2.mpr (.inl ?_)
  have bounded : Bounded 0 1 := by
    unfold Bounded
    norm_num
    linarith
  have heading : along 0 0.5 = 0.5 :=
    along_eq_iff.mpr ⟨⟨by norm_num, by linarith⟩, 0, by norm_num⟩
  rw [headingInsideWindow_iff bounded, heading, along_zero_one]
  norm_num

/-! ### The heading of the fallback over the reals -/

section Fallback

variable (colregsConflictActive : Bool) (risks : List (TargetRiskSnapshot ℝ))
  (routeBrg minAltRad : ℝ) (direction : ColregsPreferredDirection)

theorem riskAwareFallbackTargetHeading_inside (hMin hMax : ℝ) :
    HeadingInsideWindow realFunctions
      (riskAwareFallbackTargetHeading realFunctions colregsConflictActive risks routeBrg hMin hMax
        minAltRad direction) hMin hMax := by
  unfold riskAwareFallbackTargetHeading
  split_ifs
  · cases direction with
    | starboard => exact headingInsideWindow_max
    | port => exact headingInsideWindow_min
    | hold => exact clampHeadingWindow_inside ..
    | reduceSpeed => exact clampHeadingWindow_inside ..
  · exact clampHeadingWindow_inside ..

/-- The heading of an alteration is in the window, and none of the window is nearer to the one that
the encounter asks for. -/
theorem fallbackTargetHeading_isLeast (hMin hMax : ℝ) :
    HeadingInsideWindow realFunctions
        (fallbackTargetHeading realFunctions routeBrg hMin hMax minAltRad direction) hMin hMax ∧
      IsLeast
        (circularHeadingDistance realFunctions
            (demandedHeading routeBrg hMin hMax minAltRad direction) ''
          {heading | HeadingInsideWindow realFunctions heading hMin hMax})
        (circularHeadingDistance realFunctions
          (demandedHeading routeBrg hMin hMax minAltRad direction)
          (fallbackTargetHeading realFunctions routeBrg hMin hMax minAltRad direction)) := by
  refine ⟨clampHeadingWindow_inside .., ⟨_, clampHeadingWindow_inside .., rfl⟩, ?_⟩
  rintro _ ⟨heading, inside, rfl⟩
  exact clampHeadingWindow_nearest inside

theorem along_congr {start again heading : ℝ} (turns : ℤ)
    (same : again = start + turns * (2 * Real.pi)) : along again heading = along start heading := by
  obtain ⟨headingTurns, headingSame⟩ := along_same start heading
  refine along_eq_iff.mpr ⟨along_bounds start heading, headingTurns - turns, ?_⟩
  push_cast
  linarith

/-- The planner passes its box to the fallback for a window. The fallback still turns to no heading
that the arbiter does not allow, unless the box was opened. -/
theorem riskAwareFallbackTargetHeading_allowed {hMin hMax refPsi : ℝ}
    (notBelow : hMin - hMax < 2 * Real.pi - 1.0e-9)
    (gap : along hMin hMax < 2 * Real.pi - 1.0e-9) :
    HeadingInsideWindow realFunctions
        (riskAwareFallbackTargetHeading realFunctions colregsConflictActive risks routeBrg
          (resolveHeadingBoxBounds realFunctions hMin hMax refPsi).1
          (resolveHeadingBoxBounds realFunctions hMin hMax refPsi).2 minAltRad direction)
        hMin hMax ∨
      Opened hMin hMax refPsi := by
  by_cases opened : Opened hMin hMax refPsi
  · exact .inr opened
  obtain ⟨box, ordered, bounded⟩ := resolveHeadingBoxBounds_of_closed notBelow opened
  have width : refPsi - Real.pi + along (refPsi - Real.pi) hMax -
      (refPsi - Real.pi + along (refPsi - Real.pi) hMin) = along hMin hMax := by
    rw [along_eq (refPsi - Real.pi) hMin hMax, if_pos ordered]
    ring
  obtain ⟨minTurns, minSame⟩ := along_same (refPsi - Real.pi) hMin
  have first (heading : ℝ) :
      along (refPsi - Real.pi + along (refPsi - Real.pi) hMin) heading = along hMin heading :=
    along_congr (-minTurns) (by push_cast; linarith)
  have last : along hMin (refPsi - Real.pi + along (refPsi - Real.pi) hMax) = along hMin hMax := by
    refine along_eq_iff.mpr ⟨along_bounds hMin hMax, -minTurns, ?_⟩
    push_cast
    linarith
  have boxBounded : Bounded (refPsi - Real.pi + along (refPsi - Real.pi) hMin)
      (refPsi - Real.pi + along (refPsi - Real.pi) hMax) := by
    unfold Bounded
    rwa [width, abs_of_nonneg (along_bounds hMin hMax).1]
  rw [box]
  have inside := riskAwareFallbackTargetHeading_inside colregsConflictActive risks routeBrg
    minAltRad direction (refPsi - Real.pi + along (refPsi - Real.pi) hMin)
    (refPsi - Real.pi + along (refPsi - Real.pi) hMax)
  rw [headingInsideWindow_iff boxBounded, first, first, last] at inside
  exact .inl ((headingInsideWindow_iff bounded).mpr inside)

end Fallback

/-- A target that is inside its warning domain. -/
noncomputable def pressing : TargetRiskSnapshot ℝ where
  targetId := "1"
  riskScore := 0.9
  warningMarginM := -100.0
  dangerMarginM := 50.0
  tcpaS := 60.0
  closingSpeedMps := 5.0
  primary := true

theorem pressing_pressed : Pressed realFunctions true [pressing] := by
  refine ⟨rfl, pressing, rfl, .inl ?_⟩
  norm_num [pressing]

theorem riskAwareFallbackTargetHeading_allowed_ahead :
    Pressed realFunctions true [pressing] ∧
      (HeadingInsideWindow realFunctions
          (riskAwareFallbackTargetHeading realFunctions true [pressing] 0
            (resolveHeadingBoxBounds realFunctions 0 1 0).1
            (resolveHeadingBoxBounds realFunctions 0 1 0).2 0.5 .starboard) 0 1 ∨
        Opened 0 1 0) := by
  have half := Real.two_le_pi
  refine ⟨pressing_pressed, riskAwareFallbackTargetHeading_allowed true [pressing] 0 0.5 .starboard
    (by linarith) ?_⟩
  rw [along_zero_one]
  norm_num
  linarith

end MassL3.M5.Windows
