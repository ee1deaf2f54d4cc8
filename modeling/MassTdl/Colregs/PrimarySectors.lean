/-
This file asks whether the three primary rules tile the meetings of two ships. Forward of the
abaft-beam sector Rule 15 leaves out the bow, and there only an overtaking by more than two knots
or a nearly reciprocal course is a meeting. The rest of the bow has no rule. Rule 15 also does not
ask whether the own ship overtakes, so on the port bow it can stand on where Rule 13 gives way.
-/

import MassTdl.Binary64.Extrema
import MassTdl.Colregs.Targets

namespace MassL3.M6.Colregs

open Binary64

/-! ### The sectors of a relative bearing -/

section Sectors

variable {bearing : Float}

/-- Forward of the abaft-beam sector. -/
def IsForward (bearing : Float) : Prop := bearing < 112.5 ∨ bearing > 247.5

def OnStarboard (bearing : Float) : Prop := bearing ≥ 22.5 ∧ bearing < 112.5

def OnPort (bearing : Float) : Prop := bearing ≥ 247.5 ∧ bearing < 337.5

/-- Between the two crossing sectors. -/
def OnBow (bearing : Float) : Prop := bearing < 22.5 ∨ bearing ≥ 337.5

theorem OnBow.isForward (bow : OnBow bearing) : IsForward bearing :=
  bow.imp (fun ahead => chain_lt ahead (by decide)) fun ahead => chain_lt_le (by decide) ahead

theorem OnBow.not_onStarboard (bow : OnBow bearing) : ¬ OnStarboard bearing := by
  rintro ⟨low, high⟩
  obtain ahead | ahead := bow
  · exact not_le_of_lt ahead low
  · exact not_le_of_lt (chain_lt high (by decide)) ahead

theorem OnBow.not_onPort (bow : OnBow bearing) : ¬ OnPort bearing := by
  rintro ⟨low, high⟩
  obtain ahead | ahead := bow
  · exact not_le_of_lt (chain_lt ahead (by decide)) low
  · exact not_le_of_lt high ahead

/-- Forward of the beam a target is on one of the bows or between them. -/
theorem IsForward.cases (isForward : IsForward bearing) :
    OnStarboard bearing ∨ OnPort bearing ∨ OnBow bearing := by
  obtain before | behind := isForward
  · by_cases low : (22.5 : Float) ≤ bearing
    · exact .inl ⟨low, before⟩
    · exact .inr (.inr (.inl (lt_of_number_of_not_le (number_of_lt before).1 rfl low)))
  · by_cases high : (337.5 : Float) ≤ bearing
    · exact .inr (.inr (.inr high))
    · exact .inr (.inl ⟨le_of_lt behind,
        lt_of_number_of_not_le (number_of_lt behind).2 rfl high⟩)

theorem IsForward.not_abaft (isForward : IsForward bearing) :
    inAbaftBeamSector bearing = false := by
  refine Bool.eq_false_iff.mpr fun abaft => ?_
  obtain ⟨low, high⟩ := Bool.and_eq_true_iff.mp abaft
  obtain before | behind := isForward
  · exact not_le_of_lt before (of_decide_eq_true low)
  · exact not_le_of_lt behind (of_decide_eq_true high)

theorem OnStarboard.isForward (starboard : OnStarboard bearing) : IsForward bearing :=
  .inl starboard.2

/-- At the edge of the abaft-beam sector a target may be on the port side as well. -/
theorem OnPort.not_onStarboard (port : OnPort bearing) : ¬ OnStarboard bearing :=
  fun starboard => not_le_of_lt (chain_lt starboard.2 (by decide)) port.1

end Sectors

/-! ### The three rules -/

section PrimaryRules

variable (lib : MathLibrary) (geo : TargetGeometricState) (params : RuleParameters)

/-- `kTargetRelBearingFromOwn`. -/
def targetRelBearingFromOwn : Float := relativeBearingDeg lib geo.ownshipHeadingDeg geo.bearingDeg

/-- `kOwnRelBearingFromTarget`. -/
def ownRelBearingFromTarget : Float :=
  relativeBearingDeg lib geo.targetHeadingDeg (normalizeBearingDeg lib (geo.bearingDeg + 180.0))

/-- `kOwnOvertakingTarget`. -/
def OwnOvertakingTarget : Prop :=
  geo.ownshipSpeedKn > geo.targetSpeedKn + 2.0 ∧
    inAbaftBeamSector (ownRelBearingFromTarget lib geo) = true

/-- `kTargetOvertakingOwn`. -/
def TargetOvertakingOwn : Prop :=
  geo.targetSpeedKn > geo.ownshipSpeedKn + 2.0 ∧
    inAbaftBeamSector (targetRelBearingFromOwn lib geo) = true

/-- The courses, the bearing and the aspect of a head-on meeting. -/
def HeadOn : Prop :=
  (angleDiffDeg lib geo.ownshipHeadingDeg geo.targetHeadingDeg - 180.0).abs ≤ 15.0 ∧
    (targetRelBearingFromOwn lib geo ≤ 6.0 ∨ targetRelBearingFromOwn lib geo ≥ 360.0 - 6.0) ∧
    (aspectAngleDeg lib geo.ownshipHeadingDeg geo.targetHeadingDeg
        (targetRelBearingFromOwn lib geo) ≤ 10.0 ∨
      aspectAngleDeg lib geo.ownshipHeadingDeg geo.targetHeadingDeg
        (targetRelBearingFromOwn lib geo) ≥ 360.0 - 10.0)

/-- How fast the distance grows on these courses, in knots. -/
def rangeRateKn : Float :=
  geo.targetSpeedKn * lib.cos (deg2rad (geo.targetHeadingDeg - geo.bearingDeg)) -
    geo.ownshipSpeedKn * lib.cos (deg2rad (geo.ownshipHeadingDeg - geo.bearingDeg))

def Converging : Prop := rangeRateKn lib geo < 0.0

/-- Rule 13 gives way, stands on, or does not apply. -/
theorem rule13Overtaking_cases :
    OwnOvertakingTarget lib geo ∧ (rule13Overtaking lib geo params).isActive = true ∧
        (rule13Overtaking lib geo params).role = .giveWay ∨
      ¬ OwnOvertakingTarget lib geo ∧ TargetOvertakingOwn lib geo ∧
        (rule13Overtaking lib geo params).isActive = true ∧
        (rule13Overtaking lib geo params).role = .standOn ∨
      ¬ OwnOvertakingTarget lib geo ∧ ¬ TargetOvertakingOwn lib geo ∧
        (rule13Overtaking lib geo params).isActive = false := by
  unfold rule13Overtaking OwnOvertakingTarget TargetOvertakingOwn
  dsimp only
  split_ifs with own target <;>
    simp only [Bool.and_eq_true, decide_eq_true_eq] at own
  · exact .inl ⟨own, rfl, rfl⟩
  · simp only [Bool.and_eq_true, decide_eq_true_eq] at target
    exact .inr (.inl ⟨own, target, rfl, rfl⟩)
  · simp only [Bool.and_eq_true, decide_eq_true_eq] at target
    exact .inr (.inr ⟨own, target, rfl⟩)

/-- Rule 14 gives way, or does not apply. -/
theorem rule14HeadOn_cases :
    HeadOn lib geo ∧ (rule14HeadOn lib geo params).isActive = true ∧
        (rule14HeadOn lib geo params).role = .bothGiveWay ∨
      ¬ HeadOn lib geo ∧ (rule14HeadOn lib geo params).isActive = false := by
  unfold rule14HeadOn HeadOn
  dsimp only
  split_ifs with headOn <;>
    simp only [Bool.and_eq_true, Bool.or_eq_true, decide_eq_true_eq, and_assoc] at headOn
  · exact .inl ⟨headOn, rfl, rfl⟩
  · exact .inr ⟨headOn, rfl⟩

/-- Rule 15 gives way, stands on, or does not apply. -/
theorem rule15Crossing_cases :
    OnStarboard (targetRelBearingFromOwn lib geo) ∧
        (rule15Crossing lib geo params).isActive = true ∧
        (rule15Crossing lib geo params).role = .giveWay ∨
      OnPort (targetRelBearingFromOwn lib geo) ∧
        (rule15Crossing lib geo params).isActive = true ∧
        (rule15Crossing lib geo params).role = .standOn ∨
      ¬ OnStarboard (targetRelBearingFromOwn lib geo) ∧
        ¬ OnPort (targetRelBearingFromOwn lib geo) ∧
        (rule15Crossing lib geo params).isActive = false := by
  unfold rule15Crossing OnStarboard OnPort targetRelBearingFromOwn
  dsimp only
  split_ifs with starboard port <;>
    simp only [Bool.and_eq_true, decide_eq_true_eq] at starboard
  · exact .inl ⟨starboard, rfl, rfl⟩
  · simp only [Bool.and_eq_true, decide_eq_true_eq] at port
    exact .inr (.inl ⟨port, rfl, rfl⟩)
  · simp only [Bool.and_eq_true, decide_eq_true_eq] at port
    exact .inr (.inr ⟨starboard, port, rfl⟩)

/-! ### Exhaustive and consistent -/

/-- A converging target forward of the abaft-beam sector meets a primary rule. -/
def PrimaryExhaustive : Prop :=
  IsForward (targetRelBearingFromOwn lib geo) → Converging lib geo →
    ∃ rule : PrimaryRule, (rule.evaluate lib geo params).isActive = true

/-- No active rule gives way while another one stands on. -/
def PrimaryConsistent : Prop :=
  ¬ ∃ giving standing : PrimaryRule,
    (giving.evaluate lib geo params).isActive = true ∧
      (standing.evaluate lib geo params).isActive = true ∧
      (giving.evaluate lib geo params).role.isGiveWay = true ∧
      (standing.evaluate lib geo params).role = .standOn

/-- A converging target ahead that is neither overtaken nor met head-on. -/
def MetOnBow : Prop :=
  Converging lib geo ∧ OnBow (targetRelBearingFromOwn lib geo) ∧
    ¬ OwnOvertakingTarget lib geo ∧ ¬ HeadOn lib geo

/-- A target on the port bow that the own ship overtakes. -/
def OvertakenOnPort : Prop :=
  OwnOvertakingTarget lib geo ∧ OnPort (targetRelBearingFromOwn lib geo)

variable {lib geo params}

theorem primaryExhaustive_iff : PrimaryExhaustive lib geo params ↔ ¬ MetOnBow lib geo := by
  constructor
  · rintro exhaustive ⟨converging, bow, notOvertaking, notHeadOn⟩
    obtain ⟨rule, active⟩ := exhaustive bow.isForward converging
    cases rule with
    | rule13 =>
      obtain ⟨own, -⟩ | ⟨-, ⟨-, abaft⟩, -⟩ | ⟨-, -, inactive⟩ :=
        rule13Overtaking_cases lib geo params
      · exact notOvertaking own
      · exact Bool.false_ne_true (bow.isForward.not_abaft.symm.trans abaft)
      · exact Bool.false_ne_true (inactive.symm.trans active)
    | rule14 =>
      obtain ⟨headOn, -⟩ | ⟨-, inactive⟩ := rule14HeadOn_cases lib geo params
      · exact notHeadOn headOn
      · exact Bool.false_ne_true (inactive.symm.trans active)
    | rule15 =>
      obtain ⟨starboard, -⟩ | ⟨port, -⟩ | ⟨-, -, inactive⟩ := rule15Crossing_cases lib geo params
      · exact bow.not_onStarboard starboard
      · exact bow.not_onPort port
      · exact Bool.false_ne_true (inactive.symm.trans active)
  · intro notMet isForward converging
    by_contra none
    refine notMet ⟨converging, ?_, ?_, ?_⟩
    · obtain ⟨-, active, -⟩ | ⟨-, active, -⟩ | ⟨notStarboard, notPort, -⟩ :=
        rule15Crossing_cases lib geo params
      · exact absurd ⟨.rule15, active⟩ none
      · exact absurd ⟨.rule15, active⟩ none
      · exact (isForward.cases.resolve_left notStarboard).resolve_left notPort
    · intro own
      obtain ⟨-, active, -⟩ | ⟨-, -, active, -⟩ | ⟨notOwn, -⟩ :=
        rule13Overtaking_cases lib geo params
      · exact none ⟨.rule13, active⟩
      · exact none ⟨.rule13, active⟩
      · exact notOwn own
    · intro headOn
      obtain ⟨-, active, -⟩ | ⟨notHeadOn, -⟩ := rule14HeadOn_cases lib geo params
      · exact none ⟨.rule14, active⟩
      · exact notHeadOn headOn

theorem HeadOn.onBow (headOn : HeadOn lib geo) :
    OnBow (targetRelBearingFromOwn lib geo) :=
  headOn.2.1.imp (fun ahead => chain_le_lt ahead (by decide)) fun ahead =>
    chain_le (by decide) ahead

/-- Where a rule gives way. -/
theorem gives_way {rule : PrimaryRule} (active : (rule.evaluate lib geo params).isActive = true)
    (giveWay : (rule.evaluate lib geo params).role.isGiveWay = true) :
    rule = .rule13 ∧ OwnOvertakingTarget lib geo ∨
      rule ≠ .rule13 ∧ IsForward (targetRelBearingFromOwn lib geo) ∧
        ¬ OnPort (targetRelBearingFromOwn lib geo) := by
  cases rule with
  | rule13 =>
    obtain ⟨own, -⟩ | ⟨-, -, -, standOn⟩ | ⟨-, -, inactive⟩ := rule13Overtaking_cases lib geo params
    · exact .inl ⟨rfl, own⟩
    · rw [PrimaryRule.evaluate, standOn] at giveWay
      exact absurd giveWay (by decide)
    · exact absurd (inactive.symm.trans active) Bool.false_ne_true
  | rule14 =>
    obtain ⟨headOn, -⟩ | ⟨-, inactive⟩ := rule14HeadOn_cases lib geo params
    · exact .inr ⟨by decide, headOn.onBow.isForward, headOn.onBow.not_onPort⟩
    · exact absurd (inactive.symm.trans active) Bool.false_ne_true
  | rule15 =>
    obtain ⟨starboard, -⟩ | ⟨-, -, standOn⟩ | ⟨-, -, inactive⟩ :=
      rule15Crossing_cases lib geo params
    · exact .inr ⟨by decide, starboard.isForward, fun port => port.not_onStarboard starboard⟩
    · rw [PrimaryRule.evaluate, standOn] at giveWay
      exact absurd giveWay (by decide)
    · exact absurd (inactive.symm.trans active) Bool.false_ne_true

/-- Where a rule stands on. -/
theorem stands_on {rule : PrimaryRule} (active : (rule.evaluate lib geo params).isActive = true)
    (standOn : (rule.evaluate lib geo params).role = .standOn) :
    ¬ OwnOvertakingTarget lib geo ∧ ¬ IsForward (targetRelBearingFromOwn lib geo) ∨
      rule = .rule15 ∧ OnPort (targetRelBearingFromOwn lib geo) := by
  cases rule with
  | rule13 =>
    obtain ⟨-, -, giveWay⟩ | ⟨notOwn, ⟨-, abaft⟩, -⟩ | ⟨-, -, inactive⟩ :=
      rule13Overtaking_cases lib geo params
    · exact absurd (giveWay.symm.trans standOn) (by decide)
    · refine .inl ⟨notOwn, fun isForward => ?_⟩
      exact Bool.false_ne_true (isForward.not_abaft.symm.trans abaft)
    · exact absurd (inactive.symm.trans active) Bool.false_ne_true
  | rule14 => exact absurd standOn rule14HeadOn_role_ne
  | rule15 =>
    obtain ⟨-, -, giveWay⟩ | ⟨port, -⟩ | ⟨-, -, inactive⟩ := rule15Crossing_cases lib geo params
    · exact absurd (giveWay.symm.trans standOn) (by decide)
    · exact .inr ⟨rfl, port⟩
    · exact absurd (inactive.symm.trans active) Bool.false_ne_true

theorem primaryConsistent_iff :
    PrimaryConsistent lib geo params ↔ ¬ OvertakenOnPort lib geo := by
  constructor
  · rintro consistent ⟨own, port⟩
    have giving : (rule13Overtaking lib geo params).isActive = true ∧
        (rule13Overtaking lib geo params).role = .giveWay := by
      obtain ⟨-, giving⟩ | ⟨notOwn, -⟩ | ⟨notOwn, -⟩ := rule13Overtaking_cases lib geo params
      · exact giving
      · exact absurd own notOwn
      · exact absurd own notOwn
    have standing : (rule15Crossing lib geo params).isActive = true ∧
        (rule15Crossing lib geo params).role = .standOn := by
      obtain ⟨starboard, -⟩ | ⟨-, standing⟩ | ⟨-, notPort, -⟩ := rule15Crossing_cases lib geo params
      · exact absurd starboard port.not_onStarboard
      · exact standing
      · exact absurd port notPort
    refine consistent ⟨.rule13, .rule15, giving.1, standing.1, ?_, standing.2⟩
    rw [PrimaryRule.evaluate, giving.2]
    decide
  · rintro notOvertaken ⟨giving, standing, givingActive, standingActive, giveWay, standOn⟩
    obtain ⟨rfl, own⟩ | ⟨-, isForward, notPort⟩ := gives_way givingActive giveWay
    · obtain ⟨notOwn, -⟩ | ⟨rfl, port⟩ := stands_on standingActive standOn
      · exact notOwn own
      · exact notOvertaken ⟨own, port⟩
    · obtain ⟨-, notForward⟩ | ⟨rfl, port⟩ := stands_on standingActive standOn
      · exact notForward isForward
      · exact notPort port

/-- The primary rules are exhaustive and consistent at a geometry exactly when the target is
neither met on the bow outside every rule nor overtaken on the port bow. -/
theorem primary_rules_tile_iff :
    PrimaryExhaustive lib geo params ∧ PrimaryConsistent lib geo params ↔
      ¬ MetOnBow lib geo ∧ ¬ OvertakenOnPort lib geo :=
  and_congr primaryExhaustive_iff primaryConsistent_iff

end PrimaryRules

/-! ### Two meetings -/

/-- What a meeting of two ships at ten knots has in common with another. -/
def meetingGeometry (bearingDeg targetHeadingDeg : Float) : TargetGeometricState where
  targetId := 10
  bearingDeg := bearingDeg
  rangeM := 3000.0
  targetHeadingDeg := targetHeadingDeg
  targetSpeedKn := 10.0
  aspectDeg := 0.0
  relativeSpeedKn := 10.0
  cpaM := 500.0
  tcpaS := 300.0
  ownshipHeadingDeg := 0.0
  ownshipSpeedKn := 10.0
  targetShipTypePriority := 5

/-- A target dead ahead that crosses from starboard to port. -/
def crossingAhead : TargetGeometricState := meetingGeometry 0.0 270.0

/-- A slow target on the port bow that runs straight away from the own ship. -/
def slowOnPort : TargetGeometricState :=
  { meetingGeometry 300.0 300.0 with
    ownshipSpeedKn := 14.0
    targetSpeedKn := 4.0 }

theorem primary_rules_leave_out_and_contradict :
    ¬ PrimaryExhaustive meridianLibrary crossingAhead fallbackParameters ∧
      ¬ PrimaryConsistent meridianLibrary slowOnPort fallbackParameters := by
  constructor
  · intro exhaustive
    obtain ⟨rule, active⟩ := exhaustive (by unfold IsForward; decide +kernel)
      (by unfold Converging; decide +kernel)
    revert active
    cases rule <;> decide +kernel
  · intro consistent
    exact consistent ⟨.rule13, .rule15, by decide +kernel, by decide +kernel,
      by decide +kernel, by decide +kernel⟩

end MassL3.M6.Colregs
