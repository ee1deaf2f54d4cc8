/-
This file compares the risk of a target as the arbiter measures it with the risk that the operator
is shown, over the real numbers, where turning the axes is exact. The arbiter counts angles from
the east and against the clock, so its second axis points to port; the risk model takes it for
starboard. The display counts from the north and with the clock, and has the sides right. A target
off the centreline is therefore measured against opposite sides of a domain that is wider to
starboard.
-/

import MassTdl.Arbiter.Optimum
import MassTdl.Arbiter.RealRisk
import MassTdl.Hmi.ThreatState

namespace MassL3.Risk.Scalars

open Clamps

/-! ### What both modules read -/

/-- The fields of a world state and one of its targets that the conversions read. -/
structure Sighting (Scalar : Type) where
  ownHeadingDeg : Scalar
  ownSogKn : Scalar
  brgDeg : Scalar
  rngM : Scalar
  cogDeg : Scalar
  sogKn : Scalar
  cpaM : Scalar
  tcpaS : Scalar
  confidence : Scalar

section Conversions

variable {Scalar : Type} [Add Scalar] [Sub Scalar] [Mul Scalar] [Div Scalar] [Neg Scalar]
  [OfScientific Scalar] [LE Scalar] [LT Scalar] [DecidableLE Scalar] [DecidableLT Scalar]

variable (functions : Functions Scalar) (sighting : Sighting Scalar)

def kDegToRad : Scalar := functions.pi / 180.0

def kKnotsToMps : Scalar := 0.5144444444444445

/-- `nav_heading_deg_to_math_rad`. -/
def navHeadingDegToMathRad (headingDeg : Scalar) : Scalar :=
  (90.0 - headingDeg) * kDegToRad functions

/-- `ownship_risk_input` of the arbiter. -/
def arbiterOwnShip : OwnShip Scalar where
  xM := 0.0
  yM := 0.0
  headingRad := navHeadingDegToMathRad functions sighting.ownHeadingDeg
  sogMps := stdMax 0.0 (sighting.ownSogKn * kKnotsToMps * 1.0)
  loaM := 46.0

/-- `target_risk_input` of the arbiter. -/
def arbiterTarget : Target Scalar :=
  let bearingRad := sighting.brgDeg * kDegToRad functions
  let rangeM := stdMax 0.0 sighting.rngM
  { xM := functions.sin bearingRad * rangeM
    yM := functions.cos bearingRad * rangeM
    cogRad := navHeadingDegToMathRad functions sighting.cogDeg
    sogMps := stdMax 0.0 (sighting.sogKn * kKnotsToMps)
    cpaM := sighting.cpaM
    tcpaS := sighting.tcpaS
    confidence := sighting.confidence }

/-- `ownship_risk_input` of the display. -/
def displayOwnShip : OwnShip Scalar where
  xM := 0.0
  yM := 0.0
  headingRad := sighting.ownHeadingDeg * kDegToRad functions
  sogMps := stdMax 0.0 (sighting.ownSogKn * kKnotsToMps)
  loaM := 46.0

/-- `target_risk_input` of the display. -/
def displayTarget : Target Scalar :=
  let bearingRad := sighting.brgDeg * kDegToRad functions
  let rangeM := stdMax 0.0 sighting.rngM
  { xM := functions.cos bearingRad * rangeM
    yM := functions.sin bearingRad * rangeM
    cogRad := sighting.cogDeg * kDegToRad functions
    sogMps := stdMax 0.0 (sighting.sogKn * kKnotsToMps)
    cpaM := sighting.cpaM
    tcpaS := sighting.tcpaS
    confidence := sighting.confidence }

end Conversions

/-- The sighting of a target in a world state. -/
def sightingOf (world : M4.WorldState) (target : M4.TrackedTarget) : Sighting Float where
  ownHeadingDeg := world.ownShip.headingDeg
  ownSogKn := world.ownShip.sogKn
  brgDeg := target.brgDeg
  rngM := target.rngM
  cogDeg := target.cogDeg
  sogKn := target.sogKn
  cpaM := target.cpaM
  tcpaS := target.tcpaS
  confidence := Binary64.widen target.confidence

section MachineNumbers

variable (lib : MathLibrary) (world : M4.WorldState) (target : M4.TrackedTarget)

/-- On machine numbers the conversions are those of the two modules. -/
theorem ofOwnShip_arbiter :
    ofOwnShip (M4.ownshipRiskInput world 1.0) =
      arbiterOwnShip (ofLibrary lib) (sightingOf world target) := rfl

theorem ofTarget_arbiter :
    ofTarget (M4.targetRiskInput lib target) =
      arbiterTarget (ofLibrary lib) (sightingOf world target) := rfl

theorem ofOwnShip_display :
    ofOwnShip (M8.ownshipRiskInput world) =
      displayOwnShip (ofLibrary lib) (sightingOf world target) := rfl

theorem ofTarget_display :
    ofTarget (M8.targetRiskInput lib target) =
      displayTarget (ofLibrary lib) (sightingOf world target) := rfl

end MachineNumbers

/-! ### The two frames -/

section Frames

variable (sighting : Sighting ℝ)

/-- The angle from the heading of own ship to the target, clockwise. -/
noncomputable def relativeBearingRad : ℝ :=
  (sighting.brgDeg - sighting.ownHeadingDeg) * (Real.pi / 180.0)

/-- The target in the frame of own ship, as each module sees it. -/
noncomputable def arbiterRelative : Relative ℝ :=
  relativeTo realFunctions (arbiterOwnShip realFunctions sighting)
    (arbiterTarget realFunctions sighting)

noncomputable def displayRelative : Relative ℝ :=
  relativeTo realFunctions (displayOwnShip realFunctions sighting)
    (displayTarget realFunctions sighting)

theorem kDegToRad_real : kDegToRad realFunctions = Real.pi / 180 := by
  unfold kDegToRad realFunctions
  norm_num

/-- The angles of the arbiter are complements. -/
theorem navHeadingDegToMathRad_real (headingDeg : ℝ) :
    navHeadingDegToMathRad realFunctions headingDeg =
      Real.pi / 2 - headingDeg * (Real.pi / 180) := by
  unfold navHeadingDegToMathRad
  rw [kDegToRad_real]
  norm_num
  ring

theorem arbiterOwnShip_sogMps :
    (arbiterOwnShip realFunctions sighting).sogMps =
      (displayOwnShip realFunctions sighting).sogMps := by
  unfold arbiterOwnShip displayOwnShip
  norm_num

/-- The display has the starboard side where it is. -/
theorem displayRelative_yBodyM :
    (displayRelative sighting).yBodyM =
      max 0 sighting.rngM * Real.sin (relativeBearingRad sighting) := by
  unfold displayRelative relativeTo displayOwnShip displayTarget relativeBearingRad
  simp only [stdMax_eq_max, kDegToRad_real]
  rw [sub_mul, Real.sin_sub]
  unfold realFunctions
  norm_num
  ring

theorem displayRelative_rangeM : (displayRelative sighting).rangeM = max 0 sighting.rngM := by
  unfold displayRelative relativeTo displayOwnShip displayTarget
  simp only [stdMax_eq_max, kDegToRad_real]
  unfold realFunctions
  norm_num only [sub_zero]
  have square : (Real.cos (sighting.brgDeg * (Real.pi / 180)) * max 0 sighting.rngM) ^ 2 +
      (Real.sin (sighting.brgDeg * (Real.pi / 180)) * max 0 sighting.rngM) ^ 2 =
        max 0 sighting.rngM ^ 2 := by
    rw [mul_pow, mul_pow, ← add_mul, Real.cos_sq_add_sin_sq, one_mul]
  rw [square, Real.sqrt_sq (le_max_left 0 _)]

/-- The arbiter sees the mirror image of what the display sees. -/
theorem arbiterRelative_eq :
    arbiterRelative sighting =
      { displayRelative sighting with yBodyM := -(displayRelative sighting).yBodyM } := by
  have sog := arbiterOwnShip_sogMps sighting
  unfold arbiterRelative displayRelative relativeTo
  unfold arbiterOwnShip displayOwnShip at sog ⊢
  unfold arbiterTarget displayTarget
  dsimp only at sog ⊢
  rw [sog]
  simp only [navHeadingDegToMathRad_real, kDegToRad_real]
  unfold realFunctions
  dsimp only
  simp only [Real.cos_pi_div_two_sub, Real.sin_pi_div_two_sub]
  norm_num only [sub_zero, Relative.mk.injEq]
  refine ⟨by ring, by ring, by rw [add_comm], ?_⟩
  rw [add_comm (_ ^ 2 : ℝ), add_comm ((_ - _) * _ : ℝ)]

end Frames

/-! ### The comparison -/

/-- Two modules judge a target alike. -/
structure SameRisk (first second : Measures ℝ) : Prop where
  warningMarginM : first.warningMarginM = second.warningMarginM
  dangerMarginM : first.dangerMarginM = second.dangerMarginM
  riskPhase : first.riskPhase = second.riskPhase
  riskScore : first.riskScore = second.riskScore

/-- The lateral axes of both domains that a target is measured against are those to starboard. -/
def MeasuredToStarboard (own : OwnShip ℝ) (relative : Relative ℝ) (config : DomainConfig ℝ) :
    Prop :=
  selectedLateralAxis relative.yBodyM (dangerAxes own) = (dangerAxes own).starboardM ∧
    selectedLateralAxis relative.yBodyM (warningAxes own config) =
      (warningAxes own config).starboardM

/-- A target on the starboard side. -/
def ToStarboard (sighting : Sighting ℝ) : Prop :=
  0 < sighting.rngM ∧ 0 < Real.sin (relativeBearingRad sighting)

/-- The arbiter and the display see the same risk, and both have the starboard side right. -/
def SeesSameRisk (sighting : Sighting ℝ) (duty : ColregsDuty) (config : DomainConfig ℝ) : Prop :=
  SameRisk
      (measures realFunctions (arbiterOwnShip realFunctions sighting)
        (arbiterTarget realFunctions sighting) duty config)
      (measures realFunctions (displayOwnShip realFunctions sighting)
        (displayTarget realFunctions sighting) duty config) ∧
    (ToStarboard sighting →
      MeasuredToStarboard (arbiterOwnShip realFunctions sighting) (arbiterRelative sighting)
          config ∧
        MeasuredToStarboard (displayOwnShip realFunctions sighting) (displayRelative sighting)
          config)

/-- A target right ahead, right astern or at no distance. -/
def OnCentreline (sighting : Sighting ℝ) : Prop :=
  sighting.rngM ≤ 0 ∨ Real.sin (relativeBearingRad sighting) = 0

section Comparison

variable {sighting : Sighting ℝ} {duty : ColregsDuty} {config : DomainConfig ℝ}

variable (sighting duty config) in
/-- What the arbiter measures is what the display would measure of the mirror image. -/
theorem measures_arbiter :
    measures realFunctions (arbiterOwnShip realFunctions sighting)
        (arbiterTarget realFunctions sighting) duty config =
      measuresAt realFunctions (displayOwnShip realFunctions sighting)
        { displayRelative sighting with yBodyM := -(displayRelative sighting).yBodyM }
        (displayTarget realFunctions sighting) duty config := by
  have danger : dangerAxes (arbiterOwnShip realFunctions sighting) =
      dangerAxes (displayOwnShip realFunctions sighting) := by
    unfold dangerAxes
    rw [arbiterOwnShip_sogMps]
    rfl
  have warning : warningAxes (arbiterOwnShip realFunctions sighting) config =
      warningAxes (displayOwnShip realFunctions sighting) config := by
    unfold warningAxes
    rw [danger]
  unfold measures
  rw [← arbiterRelative_eq]
  unfold measuresAt
  rw [danger, warning]
  rfl

/-- A target to starboard is measured against the port axis by the arbiter. -/
theorem not_seesSameRisk_of_toStarboard (sighting : Sighting ℝ)
    (toStarboard : ToStarboard sighting) :
    ¬ SeesSameRisk sighting duty config := by
  rintro ⟨-, sides⟩
  have side : 0 < (displayRelative sighting).yBodyM := by
    rw [displayRelative_yBodyM]
    exact mul_pos (lt_max_of_lt_right toStarboard.1) toStarboard.2
  have mirrored : (arbiterRelative sighting).yBodyM < 0 := by
    rw [arbiterRelative_eq]
    exact neg_neg_of_pos side
  have lateral := (sides toStarboard).1.1
  rw [selectedLateralAxis_of_neg mirrored] at lateral
  exact (lopsided_dangerAxes rfl).starboard.ne lateral

/-- A target to port is measured against the starboard axis by the arbiter. -/
theorem not_sameRisk_of_toPort (away : 0 < sighting.rngM)
    (toPort : Real.sin (relativeBearingRad sighting) < 0) :
    ¬ SeesSameRisk sighting duty config := by
  rintro ⟨same, -⟩
  have side : (displayRelative sighting).yBodyM < 0 := by
    rw [displayRelative_yBodyM]
    exact mul_neg_of_pos_of_neg (lt_max_of_lt_right away) toPort
  have range : 0 < (displayRelative sighting).rangeM := by
    rw [displayRelative_rangeM]
    exact lt_max_of_lt_right away
  rw [measures_arbiter] at same
  exact (measuresAt_mirrored rfl range side same.dangerMarginM).ne same.riskScore.symm

theorem seesSameRisk_of_onCentreline (centred : OnCentreline sighting) :
    SeesSameRisk sighting duty config := by
  have side : (displayRelative sighting).yBodyM = 0 := by
    rw [displayRelative_yBodyM]
    rcases centred with here | inLine
    · rw [max_eq_left here, zero_mul]
    · rw [inLine, mul_zero]
  constructor
  · have unmoved : ({ displayRelative sighting with yBodyM := -(displayRelative sighting).yBodyM } :
        Relative ℝ) = displayRelative sighting := by
      rw [side, neg_zero, ← side]
    rw [measures_arbiter, unmoved]
    exact ⟨rfl, rfl, rfl, rfl⟩
  · rintro ⟨away, toStarboard⟩
    rcases centred with here | inLine
    · exact absurd away (not_lt.mpr here)
    · exact absurd inLine toStarboard.ne'

end Comparison

/-- For every sighting, duty and configuration: the two modules see the same risk exactly if the
target is on the centreline of own ship. -/
theorem seesSameRisk_iff (sighting : Sighting ℝ) (duty : ColregsDuty) (config : DomainConfig ℝ) :
    SeesSameRisk sighting duty config ↔ OnCentreline sighting := by
  refine ⟨fun same => ?_, seesSameRisk_of_onCentreline⟩
  by_contra offside
  obtain ⟨away, turned⟩ := not_or.mp offside
  rcases lt_or_gt_of_ne turned with toPort | toStarboard
  · exact not_sameRisk_of_toPort (not_le.mp away) toPort same
  · exact not_seesSameRisk_of_toStarboard sighting ⟨not_le.mp away, toStarboard⟩ same

/-! ### A target abeam -/

/-- Five cables to starboard, both ships heading north at ten knots. -/
def abeamToStarboard : Sighting ℝ where
  ownHeadingDeg := 0
  ownSogKn := 10.0
  brgDeg := 90.0
  rngM := 926.0
  cogDeg := 0
  sogKn := 10.0
  cpaM := 926.0
  tcpaS := 0
  confidence := 1

/-- On machine numbers, too, the two modules have it on opposite sides. -/
example :
    let functions := ofLibrary M4.meridianLibrary
    let abeam : Sighting Float := ⟨0.0, 10.0, 90.0, 926.0, 0.0, 10.0, 926.0, 0.0, 1.0⟩
    (relativeTo functions (arbiterOwnShip functions abeam) (arbiterTarget functions abeam)).yBodyM <
        -900.0 ∧
      (relativeTo functions (displayOwnShip functions abeam)
        (displayTarget functions abeam)).yBodyM > 900.0 := by
  decide +kernel

theorem seesSameRisk_false :
    ¬ ∀ (sighting : Sighting ℝ) (duty : ColregsDuty) (config : DomainConfig ℝ),
      SeesSameRisk sighting duty config := by
  intro same
  refine not_seesSameRisk_of_toStarboard abeamToStarboard ⟨?_, ?_⟩
    (same abeamToStarboard .giveWay ⟨2.5, 1.8, 600, 60⟩)
  · unfold abeamToStarboard
    norm_num
  · have abeam : relativeBearingRad abeamToStarboard = Real.pi / 2 := by
      unfold relativeBearingRad abeamToStarboard
      norm_num only
      ring
    rw [abeam, Real.sin_pi_div_two]
    exact zero_lt_one

end MassL3.Risk.Scalars
