/-
This file embeds the helpers of the arbitration: whether a constraint asks for action, which
rule and target it is about, whether its target has passed, the risk of the targets for the own
ship, and how far the ship is off its route.
-/

import MassTdl.Arbiter.Directive
import MassTdl.Binary64.Order

namespace MassL3.M4

open Clamps
open Binary64 (widen)
open MassL3.M6.Colregs (kPi)
open MassL3.Risk

/-! ### Constants -/

def kDegToRad : Float := kPi / 180.0

def kKnotsToMps : Float := 0.5144444444444445

def kOwnShipLoaM : Float := 46.0

def kRiskReleaseWarningMarginLoa : Float := 2.0

def kRiskReleaseDangerMarginLoa : Float := 1.0

def kEarthRadiusM : Float := 6371008.8

def kRecoveryCorridorHalfM : Float := 250.0

def kRecoveryXteGateFraction : Float := 0.5

def kRecoveryReleaseDwellCycles : Nat := 4

def kRecoveryCompleteHeadingErrorDeg : Float := 10.0

/-- `std::numeric_limits<double>::quiet_NaN()`. -/
def quietNaN : Float := 0.0 / 0.0

/-! ### The constraint -/

/-- The role obliges the ship to give way. -/
def givesWay (primaryRole : UInt8) : Bool :=
  primaryRole = roleGiveWay || primaryRole = roleBothGiveWay

def colregsActionRequired (msg : COLREGsConstraint) : Bool :=
  if !msg.conflictDetected then false
  else if msg.phase = "" then true
  else if msg.phase = "PRESERVE_COURSE" then false
  else if givesWay msg.primaryRole then
    msg.phase = "SOUND_WARNING" || msg.phase = "INDEPENDENT_ACTION" ||
      msg.phase = "CRITICAL_ACTION"
  else if msg.primaryRole = roleStandOn then
    msg.phase = "INDEPENDENT_ACTION" || msg.phase = "CRITICAL_ACTION"
  else false

def primaryColregsRuleId (msg : COLREGsConstraint) : Option UInt8 :=
  (msg.activeRules.find? (·.ruleId > 0)).map (·.ruleId)

def primaryColregsTargetKey (msg : COLREGsConstraint) : String :=
  match msg.activeRules.find? (·.targetId > 0) with
  | some rule => toString rule.targetId.toNat
  | none => msg.colregsChainTargetId

def sameColregsEncounter (msg : COLREGsConstraint) (releasedRuleId : Option UInt8)
    (releasedTargetKey : String) : Bool :=
  match releasedRuleId with
  | none => false
  | some released =>
      if releasedTargetKey = "" then false
      else primaryColregsRuleId msg = some released &&
        primaryColregsTargetKey msg = releasedTargetKey

/-! ### Targets that have passed -/

variable (lib : MathLibrary)

/-- The angle between a true bearing and a heading. -/
def relBearingDeg (brgDeg headingDeg : Float) : Float :=
  (lib.fmod (brgDeg - headingDeg + 540.0) 360.0 - 180.0).abs

/-- The key of the primary threat, or a second key without one. -/
def threatKey (directive : ColregsDirective) (otherKey : String) : String :=
  if directive.primaryThreatId = "" then otherKey else directive.primaryThreatId

/-- `rule15_give_way_passed_astern`. -/
def rule15GiveWayPassedAstern (world : WorldState) (directive : ColregsDirective)
    (residualRule15CommitActive requireTcpaPast : Bool) (residualTargetKey : String) : Bool :=
  if !(directive.rule15Active || residualRule15CommitActive) then true
  else if !residualRule15CommitActive && !givesWay directive.primaryRole then true
  else if threatKey directive residualTargetKey = "" then false
  else
    match world.find (threatKey directive residualTargetKey) with
    | none => false
    | some target =>
        if target.rngM ≤ 0.0 || !target.rngM.isFinite || !target.brgDeg.isFinite ||
            !target.cogDeg.isFinite || !world.ownShip.headingDeg.isFinite ||
            (requireTcpaPast && !target.tcpaS.isFinite) then false
        else
          let bearingRad := target.brgDeg * kDegToRad
          let targetXM := lib.sin bearingRad * target.rngM
          let targetYM := lib.cos bearingRad * target.rngM
          let targetAxisX := lib.sin (target.cogDeg * kDegToRad)
          let targetAxisY := lib.cos (target.cogDeg * kDegToRad)
          let ownMinusTargetAlongM := -(targetXM * targetAxisX + targetYM * targetAxisY)
          let targetPastCpa := !requireTcpaPast || target.tcpaS ≤ 0.0
          ownMinusTargetAlongM < 0.0 &&
            relBearingDeg lib target.brgDeg world.ownShip.headingDeg ≥ 90.0 && targetPastCpa

/-- `colregs_give_way_target_abaft`. -/
def colregsGiveWayTargetAbaft (world : WorldState) (directive : ColregsDirective)
    (fallbackTargetKey : String) (referenceHeadingDeg : Float) : Bool :=
  if !givesWay directive.primaryRole then true
  else if threatKey directive fallbackTargetKey = "" then true
  else
    match world.find (threatKey directive fallbackTargetKey) with
    | none => true
    | some target =>
        if target.rngM ≤ 0.0 || !target.rngM.isFinite || !target.brgDeg.isFinite then true
        else
          let headingDeg :=
            if referenceHeadingDeg.isFinite then referenceHeadingDeg
            else world.ownShip.headingDeg
          if !headingDeg.isFinite then true
          else relBearingDeg lib target.brgDeg headingDeg ≥ 90.0

/-! ### The risk of the targets -/

def navHeadingDegToMathRad (headingDeg : Float) : Float := (90.0 - headingDeg) * kDegToRad

def ownshipRiskInput (world : WorldState) (speedScale : Float) : OwnShipInput where
  headingRad := navHeadingDegToMathRad world.ownShip.headingDeg
  sogMps := stdMax 0.0 (world.ownShip.sogKn * kKnotsToMps * speedScale)
  loaM := kOwnShipLoaM

def targetRiskInput (target : TrackedTarget) : TargetInput :=
  let bearingRad := target.brgDeg * kDegToRad
  let rangeM := stdMax 0.0 target.rngM
  { id := target.key
    xM := lib.sin bearingRad * rangeM
    yM := lib.cos bearingRad * rangeM
    cogRad := navHeadingDegToMathRad target.cogDeg
    sogMps := stdMax 0.0 (target.sogKn * kKnotsToMps)
    cpaM := target.cpaM
    tcpaS := target.tcpaS
    confidence := widen target.confidence }

def targetColregsDuty (directive : ColregsDirective) (target : TrackedTarget) : ColregsDuty :=
  if !directive.conflictActive then .free
  else if target.encounter.isGiveway then .giveWay
  else if target.encounter.encounterType = encounterTypeCrossedBy ∨
      target.encounter.encounterType = encounterTypeOvertaken then .standOnHold
  else mapRoleToDuty directive.primaryRole directive.conflictActive directive.phase

structure PrimaryRiskGuidance where
  current : RiskVector
  reducedSpeed : RiskVector

/-- The range of the target can be used. -/
def TrackedTarget.hasUsableRange (target : TrackedTarget) : Bool :=
  !(target.rngM ≤ 0.0 || !target.rngM.isFinite)

/-- The risk of a target at a share of the own speed. -/
def targetRisk (world : WorldState) (directive : ColregsDirective) (speedScale : Float)
    (target : TrackedTarget) : RiskVector :=
  evaluateTarget lib (ownshipRiskInput world speedScale) (targetRiskInput lib target)
    (targetColregsDuty directive target) {}

/-- `compute_primary_risk_guidance` with the ranking state; without a usable target there is no
guidance and the state stays. -/
def computePrimaryRiskGuidance (world : WorldState) (directive : ColregsDirective)
    (rankingState : RankingState) : Option PrimaryRiskGuidance × RankingState :=
  let usable := world.targets.filter (·.hasUsableRange)
  if usable.isEmpty then (none, rankingState)
  else
    let (primary, rankingState) :=
      Risk.selectPrimary (usable.map (targetRisk lib world directive 1.0)) rankingState {}
    match world.find primary.targetId with
    | none => (some ⟨primary, primary⟩, rankingState)
    | some target => (some ⟨primary, targetRisk lib world directive 0.6 target⟩, rankingState)

/-! ### The route -/

def signedHeadingErrorDeg (headingDeg referenceDeg : Float) : Float :=
  lib.fmod (headingDeg - referenceDeg + 540.0) 360.0 - 180.0

def computeBearingDeg (ownLat ownLon tgtLat tgtLon : Float) : Float :=
  let deg2rad := kPi / 180.0
  let rad2deg := 180.0 / kPi
  let lat1 := ownLat * deg2rad
  let lat2 := tgtLat * deg2rad
  let dlon := (tgtLon - ownLon) * deg2rad
  let y := lib.sin dlon * lib.cos lat2
  let x := lib.cos lat1 * lib.sin lat2 - lib.sin lat1 * lib.cos lat2 * lib.cos dlon
  let bearingDeg := lib.atan2 y x * rad2deg
  if bearingDeg < 0.0 then bearingDeg + 360.0 else bearingDeg

structure RouteTracking where
  xteM : Float
  routeHeadingDeg : Float
  headingErrorDeg : Float

/-- `current_route_tracking`; only the first leg of the route counts. -/
def currentRouteTracking (route : Option PlannedRoute) (world : WorldState) :
    Option RouteTracking :=
  match route with
  | some { poses := (p0Lat, p0Lon) :: (p1Lat, p1Lon) :: _ } =>
      let ddx := (p1Lat - p0Lat) * kDegToRad * kEarthRadiusM
      let ddy := (p1Lon - p0Lon) * kDegToRad * kEarthRadiusM * lib.cos (p0Lat * kDegToRad)
      let routeLen := lib.hypot ddx ddy
      if routeLen ≤ 1.0 then none
      else
        let ownDx := (world.ownShip.latitude - p0Lat) * kDegToRad * kEarthRadiusM
        let ownDy := (world.ownShip.longitude - p0Lon) * kDegToRad * kEarthRadiusM *
          lib.cos (p0Lat * kDegToRad)
        let routeHeadingDeg := computeBearingDeg lib p0Lat p0Lon p1Lat p1Lon
        some
          { xteM := (ddx * ownDy - ddy * ownDx) / routeLen
            routeHeadingDeg := routeHeadingDeg
            headingErrorDeg := signedHeadingErrorDeg lib world.ownShip.headingDeg routeHeadingDeg }
  | _ => none

/-- The ship is farther off its route than the gate. -/
def xteBeyondGate (tracking : Option RouteTracking) : Bool :=
  match tracking with
  | some tracking => tracking.xteM.abs > kRecoveryCorridorHalfM * kRecoveryXteGateFraction
  | none => false

/-- The ship heads along its route. -/
def headingAligned (tracking : Option RouteTracking) : Bool :=
  match tracking with
  | some tracking => tracking.headingErrorDeg.abs ≤ kRecoveryCompleteHeadingErrorDeg
  | none => false

end MassL3.M4
