/-
This file translates how the operator display turns a world state into inputs of the risk model,
with north and east for the axes and headings that count from the north, and the threat state that
the operator is shown: the risks of the targets, the worst of them first and flagged as the primary
threat, and the safety domains around own ship.

The texts that explain a state are left out.
-/

import MassTdl.Arbiter.Guidance

namespace MassL3.M8

open Clamps
open Binary64 (narrow widen)
open MassL3.M4 (TrackedTarget COLREGsConstraint OwnShipState)
open MassL3.M6.Colregs (kPi)
open MassL3.Risk

def kDegToRad : Float := kPi / 180.0

def kKnotsToMps : Float := 0.5144444444444445

/-- The world state, with the confidence that the display passes on. -/
structure WorldState extends M4.WorldState where
  confidence : Float32

def ownshipRiskInput (world : M4.WorldState) : OwnShipInput where
  headingRad := world.ownShip.headingDeg * kDegToRad
  sogMps := stdMax 0.0 (world.ownShip.sogKn * kKnotsToMps)
  loaM := 46.0

def targetRiskInput (lib : MathLibrary) (target : TrackedTarget) : TargetInput :=
  let bearingRad := target.brgDeg * kDegToRad
  let rangeM := stdMax 0.0 target.rngM
  { id := target.key
    xM := lib.cos bearingRad * rangeM
    yM := lib.sin bearingRad * rangeM
    cogRad := target.cogDeg * kDegToRad
    sogMps := stdMax 0.0 (target.sogKn * kKnotsToMps)
    cpaM := target.cpaM
    tcpaS := target.tcpaS
    confidence := widen target.confidence }

def colregsDutyFrom (colreg : Option COLREGsConstraint) (target : TrackedTarget) : ColregsDuty :=
  match colreg with
  | none => .free
  | some colreg =>
      if !colreg.conflictDetected then .free
      else if target.encounter.isGiveway then .giveWay
      else if target.encounter.encounterType = M4.encounterTypeCrossedBy ∨
          target.encounter.encounterType = M4.encounterTypeOvertaken then .standOnHold
      else if colreg.primaryRole = M4.roleGiveWay then .giveWay
      else if colreg.primaryRole = M4.roleBothGiveWay then .bothGiveWay
      else if colreg.primaryRole = M4.roleStandOn then
        if colreg.phase = "INDEPENDENT_ACTION" ∨ colreg.phase = "CRITICAL_ACTION" then
          .rule17Action
        else .standOnHold
      else .free

/-! ### The message -/

/-- `to_string` of a duty. -/
def dutyText : ColregsDuty → String
  | .free => "Free"
  | .standOnHold => "StandOnHold"
  | .giveWay => "GiveWay"
  | .bothGiveWay => "BothGiveWay"
  | .rule17Action => "Rule17Action"

/-- One index of the arrays of the message. -/
structure ThreatEntry where
  targetId : String
  riskPhase : String
  riskScore : Float32
  primaryFlag : Bool
  rangeM : Float
  dcpaM : Float
  tcpaS : Float
  warningMarginM : Float
  dangerMarginM : Float
  closingSpeedMps : Float
  relativeBearingDeg : Float
  colregsDuty : String
  tdvWarningS : Float
  tdvDangerS : Float

structure ThreatState where
  schemaVersion : Nat := 114
  stamp : Int
  confidence : Float32
  danger : DomainAxes
  warning : DomainAxes
  superellipsePower : Float
  actionHorizonS : Float
  criticalHorizonS : Float
  cpaStatus : String := "cleared"
  targetRelativePosition : String := "none"
  entries : List ThreatEntry := []

/-- The targets that are flagged as the primary threat. -/
def ThreatState.primaryIds (threat : ThreatState) : List String :=
  (threat.entries.filter (·.primaryFlag)).map (·.targetId)

/-! ### Building the message -/

/-- `relative_position_from_bearing`. -/
def relativePositionFromBearing (lib : MathLibrary) (bearingDeg : Float) : String :=
  let normalized := lib.fmod (bearingDeg + 360.0) 360.0
  if normalized ≤ 45.0 || normalized ≥ 315.0 then "ahead"
  else if normalized ≥ 135.0 && normalized ≤ 225.0 then "astern"
  else if normalized > 45.0 && normalized < 135.0 then "starboard"
  else "port"

def riskIsPrimary (risk primary : RiskVector) : Bool :=
  primary.targetId ≠ "" && risk.targetId = primary.targetId

/-- The order in which the risks are shown. -/
def shownBefore (primary lhs rhs : RiskVector) : Bool :=
  if riskIsPrimary lhs primary ≠ riskIsPrimary rhs primary then riskIsPrimary lhs primary
  else if lhs.riskPhase ≠ rhs.riskPhase then lhs.riskPhase.rank > rhs.riskPhase.rank
  else if lhs.riskScore > rhs.riskScore then true
  else if rhs.riskScore > lhs.riskScore then false
  else lhs.rangeM < rhs.rangeM

/-- The sort by that order. -/
def sortShown (primary : RiskVector) (risks : List RiskVector) : List RiskVector :=
  risks.mergeSort fun lhs rhs => !shownBefore primary rhs lhs

def threatEntry (primary risk : RiskVector) : ThreatEntry where
  targetId := risk.targetId
  riskPhase := risk.riskPhase.text
  riskScore := narrow risk.riskScore
  primaryFlag := riskIsPrimary risk primary
  rangeM := risk.rangeM
  dcpaM := risk.dcpaM
  tcpaS := risk.tcpaS
  warningMarginM := risk.warningMarginM
  dangerMarginM := risk.dangerMarginM
  closingSpeedMps := risk.closingSpeedMps
  relativeBearingDeg := risk.relativeBearingDeg
  colregsDuty := dutyText risk.colregsDuty
  tdvWarningS := risk.tdvWarningS
  tdvDangerS := risk.tdvDangerS

/-- The message for a list of risks. The primary threat is selected without a ranking state: it is
the worst of the list. -/
def threatStateOf (lib : MathLibrary) (world : WorldState) (risks : List RiskVector) :
    ThreatState :=
  let config : DomainConfig := {}
  let own := ownshipRiskInput world.toWorldState
  let msg : ThreatState :=
    { stamp := world.stamp
      confidence := world.confidence
      danger := dangerAxes own
      warning := warningAxes own config
      superellipsePower := config.superellipsePower
      actionHorizonS := config.actionHorizonS
      criticalHorizonS := config.criticalHorizonS }
  match risks with
  | [] => msg
  | first :: later =>
      let primary := bestOf first later
      { msg with
        cpaStatus := if primary.closingSpeedMps > 0.0 then "closing" else "sustained"
        targetRelativePosition := relativePositionFromBearing lib primary.relativeBearingDeg
        entries := (sortShown primary risks).map (threatEntry primary) }

/-- The risks of the targets with a usable range. -/
def risksOf (lib : MathLibrary) (world : WorldState) (colreg : Option COLREGsConstraint) :
    List RiskVector :=
  (world.targets.filter fun target => target.rngM > 0.0 && target.rngM.isFinite).map fun target =>
    evaluateTarget lib (ownshipRiskInput world.toWorldState) (targetRiskInput lib target)
      (colregsDutyFrom colreg target) {}

def buildThreatState (lib : MathLibrary) (world : WorldState)
    (colreg : Option COLREGsConstraint) : ThreatState :=
  threatStateOf lib world (risksOf lib world colreg)

/-! ### Who is flagged -/

section Flags

variable {lib : MathLibrary} {world : WorldState}

theorem bestOf_mem (first : RiskVector) (later : List RiskVector) :
    bestOf first later ∈ first :: later := by
  unfold bestOf
  induction later generalizing first with
  | nil => exact List.mem_singleton_self first
  | cons risk later inductionHypothesis =>
    rw [List.foldl_cons]
    refine List.mem_cons.mpr ?_
    rcases List.mem_cons.mp (inductionHypothesis
      (if isBetterPrimaryCandidate risk first then risk else first)) with better | member
    · rw [better]
      split_ifs
      · exact Or.inr List.mem_cons_self
      · exact Or.inl rfl
    · exact Or.inr (List.mem_cons_of_mem _ member)

/-- Among named targets the flags mark the worst risk and no other target. -/
theorem mem_primaryIds_iff {first : RiskVector} {later : List RiskVector}
    (named : (bestOf first later).targetId ≠ "") {targetId : String} :
    targetId ∈ (threatStateOf lib world (first :: later)).primaryIds ↔
      targetId = (bestOf first later).targetId := by
  unfold ThreatState.primaryIds threatStateOf
  simp only [List.mem_map, List.mem_filter, sortShown, List.mem_mergeSort]
  constructor
  · rintro ⟨entry, ⟨⟨risk, -, rfl⟩, flagged⟩, rfl⟩
    exact of_decide_eq_true (Bool.and_eq_true_iff.mp flagged).2
  · rintro rfl
    refine ⟨_, ⟨⟨_, bestOf_mem first later, rfl⟩, ?_⟩, rfl⟩
    exact Bool.and_eq_true_iff.mpr ⟨decide_eq_true named, decide_eq_true rfl⟩

end Flags

end MassL3.M8
