/-
This file translates the release policy: the tests by which a give-way duty, an overtaking or a
stand-on action counts as over, and the small gates between the rules.
-/

import MassTdl.Colregs.EncounterStateMachine

namespace MassL3.M6.Colregs

open Clamps

def kGiveWayProjectionReleaseRangeMultiple : Float := 1.0

def kGiveWayOpeningReleaseRangeMultiple : Float := 1.0

def kGiveWayProjectionReleaseCurrentAbaftDeg : Float := 150.0

def kGiveWayProjectionReleaseReferenceBowClearDeg : Float := 90.0

def kGiveWayReleaseKnToMps : Float := 0.514444

def kFinallyPastClearEmergencyCpaM : Float := 185.2

def kStandOnEmergencyReleaseCpaM : Float := kFinallyPastClearEmergencyCpaM

def kStandOnEmergencyReleaseRangeMultiple : Float := 2.0

def kTcpaClampedPastEpsilonS : Float := 0.5

inductive GiveWayProjectionReleaseGate where
  | referenceClear
  | currentAbaft
  deriving DecidableEq

/-! ### Primary rules -/

/-- The rules that classify an encounter. -/
inductive PrimaryRule where
  | rule13
  | rule14
  | rule15
  deriving DecidableEq, Repr

def PrimaryRule.id : PrimaryRule → Nat
  | .rule13 => 13
  | .rule14 => 14
  | .rule15 => 15

/-- The order in which the reasoner takes them. -/
def PrimaryRule.all : List PrimaryRule := [.rule13, .rule14, .rule15]

/-- `primary_rule_onset_allowed`. -/
def primaryRuleOnsetAllowed (candidate : PrimaryRule) (latched : Option PrimaryRule) : Bool :=
  latched = none || latched = some candidate

/-- `give_way_opening_reference_release_applies_to_rule`. -/
def givewayOpeningReferenceReleaseAppliesToRule (rule : PrimaryRule) : Bool := rule = .rule15

/-- `give_way_projection_reference_release_applies_to_rule`. -/
def givewayProjectionReferenceReleaseAppliesToRule (rule : PrimaryRule) : Bool :=
  rule = .rule15

/-! ### Duties -/

/-- `evaluation_has_give_way_duty`. -/
def evaluationHasGiveWayDuty (eval : RuleEvaluation) : Bool :=
  eval.isActive && eval.role.isGiveWay

/-- `give_way_duty_from_raw_or_fsm`. -/
def giveWayDutyFromRawOrFsm (rawGiveWayDuty fsmEngaged : Bool) (fsmHeldEval : RuleEvaluation) :
    Bool :=
  rawGiveWayDuty || fsmEngaged && evaluationHasGiveWayDuty fsmHeldEval

/-- `give_way_duty_onset_signal`. -/
def giveWayDutyOnsetSignal (rawOwnGiveWay ownStandOn pastAndClear cpaProjectionPastAndSafe : Bool)
    (tcpaS cpaM tPlanS cpaHardM : Float) (rangeClosing primaryOwnGiveWay : Bool) : Bool :=
  rawOwnGiveWay && primaryOwnGiveWay && !ownStandOn && !pastAndClear &&
    !cpaProjectionPastAndSafe && rangeClosing && tcpaS.isFinite && cpaM.isFinite &&
    tPlanS.isFinite && cpaHardM.isFinite && tcpaS ≤ tPlanS && cpaM < cpaHardM

/-- `rule5_follows_primary_latch`. -/
def rule5FollowsPrimaryLatch (ruleId : Nat) (anyPrimaryLatched : Bool) : Bool :=
  ruleId = 5 && anyPrimaryLatched

/-! ### Release tests -/

variable (lib : MathLibrary)

/-- The closest approach if the ship kept the reference heading. -/
def giveWayReferenceHeadingCpaM (rangeM bearingDeg targetHeadingDeg targetSpeedKn ownSpeedKn
    referenceHeadingDeg : Float) : Float :=
  if !rangeM.isFinite || !bearingDeg.isFinite || !targetHeadingDeg.isFinite ||
      !targetSpeedKn.isFinite || !ownSpeedKn.isFinite || !referenceHeadingDeg.isFinite ||
      rangeM < 0.0 then
    0.0 / 0.0
  else
    let bearingRad := bearingDeg * kPi / 180.0
    let targetHeadingRad := targetHeadingDeg * kPi / 180.0
    let referenceHeadingRad := referenceHeadingDeg * kPi / 180.0
    let relX := rangeM * lib.sin bearingRad
    let relY := rangeM * lib.cos bearingRad
    let targetSpeedMps := targetSpeedKn * kGiveWayReleaseKnToMps
    let ownSpeedMps := ownSpeedKn * kGiveWayReleaseKnToMps
    let relVx :=
      targetSpeedMps * lib.sin targetHeadingRad - ownSpeedMps * lib.sin referenceHeadingRad
    let relVy :=
      targetSpeedMps * lib.cos targetHeadingRad - ownSpeedMps * lib.cos referenceHeadingRad
    let relV2 := relVx * relVx + relVy * relVy
    let tcpaS :=
      if relV2 > 1e-9 then
        let tcpaS := -(relX * relVx + relY * relVy) / relV2
        if tcpaS < 0.0 then 0.0 else tcpaS
      else 0.0
    lib.hypot (relX + relVx * tcpaS) (relY + relVy * tcpaS)

/-- How far a bearing is off the reference heading, in degrees up to 180. -/
def referenceRelAbsDeg (bearingDeg referenceHeadingDeg : Float) : Float :=
  let deltaRad := (bearingDeg - referenceHeadingDeg) * kPi / 180.0
  let rel := lib.fmod (deltaRad + 3.0 * kPi) (2.0 * kPi) - kPi
  rel.abs * 180.0 / kPi

/-- `give_way_reference_heading_release_safe`. -/
def giveWayReferenceHeadingReleaseSafe (rangeM bearingDeg targetHeadingDeg targetSpeedKn
    ownSpeedKn referenceHeadingDeg cpaSafeM : Float) : Bool :=
  if !rangeM.isFinite || !cpaSafeM.isFinite || cpaSafeM ≤ 0.0 ||
      rangeM < cpaSafeM * kGiveWayProjectionReleaseRangeMultiple then
    false
  else if referenceRelAbsDeg lib bearingDeg referenceHeadingDeg <
      kGiveWayProjectionReleaseReferenceBowClearDeg then
    false
  else
    let cpaM := giveWayReferenceHeadingCpaM lib rangeM bearingDeg targetHeadingDeg targetSpeedKn
      ownSpeedKn referenceHeadingDeg
    cpaM.isFinite && cpaM ≥ cpaSafeM

/-- `give_way_opening_reference_heading_release_safe`. -/
def giveWayOpeningReferenceHeadingReleaseSafe (rangeClosing : Bool) (rangeM bearingDeg
    targetHeadingDeg targetSpeedKn ownSpeedKn referenceHeadingDeg cpaSafeM : Float) : Bool :=
  if rangeClosing || !rangeM.isFinite || !cpaSafeM.isFinite || cpaSafeM ≤ 0.0 ||
      rangeM < cpaSafeM * kGiveWayOpeningReleaseRangeMultiple then
    false
  else if referenceRelAbsDeg lib bearingDeg referenceHeadingDeg ≤
      kGiveWayProjectionReleaseReferenceBowClearDeg then
    false
  else
    let cpaM := giveWayReferenceHeadingCpaM lib rangeM bearingDeg targetHeadingDeg targetSpeedKn
      ownSpeedKn referenceHeadingDeg
    cpaM.isFinite && cpaM ≥ cpaSafeM

/-- How far the ship is ahead of the target along the target's axis. -/
def ownMinusTargetAlongM (rangeM bearingDeg targetHeadingDeg : Float) : Float :=
  let bearingRad := bearingDeg * kPi / 180.0
  let targetHeadingRad := targetHeadingDeg * kPi / 180.0
  let relEastM := rangeM * lib.sin bearingRad
  let relNorthM := rangeM * lib.cos bearingRad
  (-(relEastM * lib.sin targetHeadingRad + relNorthM * lib.cos targetHeadingRad))

/-- `rule15_target_track_release_safe`. -/
def rule15TargetTrackReleaseSafe (rangeClosing : Bool)
    (rangeM bearingDeg targetHeadingDeg cpaM tcpaS cpaSafeM : Float) : Bool :=
  if rangeClosing || !rangeM.isFinite || !bearingDeg.isFinite || !targetHeadingDeg.isFinite ||
      !cpaM.isFinite || !tcpaS.isFinite || !cpaSafeM.isFinite || cpaSafeM ≤ 0.0 ||
      rangeM < cpaSafeM * kGiveWayOpeningReleaseRangeMultiple || cpaM < cpaSafeM ||
      tcpaS > kTcpaClampedPastEpsilonS then
    false
  else ownMinusTargetAlongM lib rangeM bearingDeg targetHeadingDeg < 0.0

/-- `give_way_final_release_cpa_floor_m`. -/
def giveWayFinalReleaseCpaFloorM (configuredCpaSafeM configuredCpaReleaseM : Float)
    (giveWayLatched rule13Latched : Bool) : Float :=
  if rule13Latched then kFinallyPastClearEmergencyCpaM
  else if giveWayLatched && configuredCpaReleaseM.isFinite && configuredCpaReleaseM > 0.0 then
    configuredCpaReleaseM
  else configuredCpaSafeM

/-- `rule13_overtaking_along_axis_past_clear`. -/
def rule13OvertakingAlongAxisPastClear (rangeM bearingDeg targetHeadingDeg : Float) : Bool :=
  if !rangeM.isFinite || !bearingDeg.isFinite || !targetHeadingDeg.isFinite ||
      rangeM ≤ 0.0 then
    false
  else ownMinusTargetAlongM lib rangeM bearingDeg targetHeadingDeg > 0.0

/-- `rule13_release_past_and_clear`. -/
def rule13ReleasePastAndClear (rule13ReleaseContext bearingPastAndClear
    alongAxisPastAndClear : Bool) : Bool :=
  bearingPastAndClear && (!rule13ReleaseContext || alongAxisPastAndClear)

/-- `rule13_release_context_active`. -/
def rule13ReleaseContextActive (rule13ProjectionLatched rule13FsmEngaged isOvertakingOnset
    rule14PrimaryLatched rule15PrimaryLatched giveWayDutyLatched : Bool) : Bool :=
  (rule13ProjectionLatched || rule13FsmEngaged || isOvertakingOnset) &&
    !(rule14PrimaryLatched || rule15PrimaryLatched || giveWayDutyLatched)

/-- `give_way_projection_release_safe`. -/
def giveWayProjectionReleaseSafe (cpaProjectionPastAndSafe : Bool) (rangeM cpaSafeM
    currentRelativeBearingAbsDeg referenceRelativeBearingAbsDeg : Float)
    (gate : GiveWayProjectionReleaseGate) : Bool :=
  if !cpaProjectionPastAndSafe || !rangeM.isFinite || !cpaSafeM.isFinite ||
      !currentRelativeBearingAbsDeg.isFinite || !referenceRelativeBearingAbsDeg.isFinite ||
      cpaSafeM ≤ 0.0 then
    false
  else if rangeM < cpaSafeM * kGiveWayProjectionReleaseRangeMultiple then false
  else
    match gate with
    | .referenceClear =>
        referenceRelativeBearingAbsDeg > kGiveWayProjectionReleaseReferenceBowClearDeg
    | .currentAbaft => currentRelativeBearingAbsDeg ≥ kGiveWayProjectionReleaseCurrentAbaftDeg

/-- `stand_on_release_cpa_floor_m`. -/
def standOnReleaseCpaFloorM (configuredCpaSafeM : Float) : Float :=
  if !configuredCpaSafeM.isFinite || configuredCpaSafeM ≤ 0.0 then kStandOnEmergencyReleaseCpaM
  else stdMin configuredCpaSafeM kStandOnEmergencyReleaseCpaM

/-- `stand_on_late_action_release_safe`. -/
def standOnLateActionReleaseSafe (latched rangeClosing : Bool) (rangeM cpaM tcpaS
    configuredCpaSafeM currentRelativeBearingAbsDeg : Float) : Bool :=
  let cpaFloorM := standOnReleaseCpaFloorM configuredCpaSafeM
  latched && !rangeClosing && rangeM.isFinite && cpaM.isFinite && tcpaS.isFinite &&
    currentRelativeBearingAbsDeg.isFinite &&
    rangeM ≥ cpaFloorM * kStandOnEmergencyReleaseRangeMultiple && cpaM ≥ cpaFloorM &&
    tcpaS ≤ kTcpaClampedPastEpsilonS

end MassL3.M6.Colregs
