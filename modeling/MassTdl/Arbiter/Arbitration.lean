/-
This file embeds the part of a tick that runs the solver: the directive and the gates that may
release it, the geometry of the turn, the utility functions and constraints given to the
solver, and the heading and speed box taken from its solution or, without one, from the
directive.
-/

import MassTdl.Arbiter.Inputs

namespace MassL3.M4

open Clamps
open Binary64 (widen narrow)
open MassL3.M6.Colregs (doubleMax)
open MassL3.Risk

/-! ### The directive and its release -/

/-- The directive of a tick and what the risk gates made of it. -/
structure Guided where
  decision : Decision
  directive : ColregsDirective := {}
  riskReleased : Bool := false
  residualRule15CommitActive : Bool := false
  rule15AllowsRecoveryComplete : Bool := true

def riskRequiresReengage (directive : ColregsDirective) : Bool :=
  directive.primaryRiskPhase = "Warning" || directive.primaryRiskPhase = "Danger" ||
    directive.primaryRiskPhase = "Critical" || directive.primaryWarningMarginM < 0.0 ||
    directive.primaryDangerMarginM < 0.0

def riskAllowsRecoveryEntry (directive : ColregsDirective) : Bool :=
  (directive.primaryRiskPhase = "Clear" ||
    (directive.primaryRiskPhase = "Monitor" && directive.primaryClosingSpeedMps ≤ 1.0e-6)) &&
  (directive.primaryWarningMarginM ≥ kOwnShipLoaM * kRiskReleaseWarningMarginLoa &&
    directive.primaryDangerMarginM ≥ kOwnShipLoaM * kRiskReleaseDangerMarginLoa)

def riskIsClear (directive : ColregsDirective) : Bool :=
  (directive.primaryRiskPhase = "Clear" || directive.primaryRiskPhase = "Monitor") &&
    (directive.primaryWarningMarginM > 0.0 && directive.primaryDangerMarginM > 0.0)

/-- A risk that calls for action ends the hold of the recovery and of the released encounter. -/
def Decision.reengage (decision : Decision) (sameReleasedEncounter : Bool) : Decision :=
  { decision with
    colregsRiskRecoveryHold := false
    releasedColregsRearmHold := !sameReleasedEncounter && decision.releasedColregsRearmHold
    releasedColregsRuleId := if sameReleasedEncounter then none else decision.releasedColregsRuleId
    releasedColregsTargetKey :=
      if sameReleasedEncounter then "" else decision.releasedColregsTargetKey }

variable (lib : MathLibrary)

/-- The gates that weigh a directive with the risk of its primary threat. -/
def weighRisk (world : WorldState) (tracking : Option RouteTracking)
    (conflictDetected sameReleasedEncounter : Bool) (directive : ColregsDirective)
    (guidance : PrimaryRiskGuidance) (decision : Decision) : Guided :=
  let directive := applyPrimaryRiskGuidance directive guidance.current guidance.reducedSpeed
  let sameRule15CommitTarget : Bool :=
    decision.colregsRule15CommitTargetKey = "" ||
      decision.colregsRule15CommitTargetKey = directive.primaryThreatId
  let residual := decision.colregsRule15CommitActive && sameRule15CommitTarget
  let rule15AllowsRecovery := rule15GiveWayPassedAstern lib world directive residual false ""
  let rule15AllowsRecoveryComplete :=
    rule15GiveWayPassedAstern lib world directive residual true
      decision.colregsRule15CommitTargetKey
  let riskAllowsRecoveryHold :=
    riskIsClear directive && (decision.colregsRiskRecoveryHold || rule15AllowsRecovery)
  let safeSameReleasedRearm := sameReleasedEncounter && riskAllowsRecoveryHold
  let decision :=
    if riskRequiresReengage directive then decision.reengage sameReleasedEncounter else decision
  let targetNoLongerClosing : Bool := directive.primaryClosingSpeedMps ≤ 1.0e-6
  let targetAbaftBeam := decision.lastColregsTargetAbaftBeam
  let freshRelease :=
    decision.colregsRecoveryArmed && riskAllowsRecoveryEntry directive && rule15AllowsRecovery &&
      xteBeyondGate tracking && targetNoLongerClosing && targetAbaftBeam
  let heldRelease :=
    decision.colregsRiskRecoveryHold && riskAllowsRecoveryHold && targetNoLongerClosing &&
      targetAbaftBeam
  let riskReleased :=
    (freshRelease || heldRelease || safeSameReleasedRearm) && targetNoLongerClosing &&
      targetAbaftBeam && !conflictDetected
  { decision :=
      { decision with
        colregsRiskRecoveryHold := freshRelease || decision.colregsRiskRecoveryHold }
    directive := { directive with conflictActive := !riskReleased && directive.conflictActive }
    riskReleased := riskReleased
    residualRule15CommitActive := residual
    rule15AllowsRecoveryComplete := rule15AllowsRecoveryComplete }

/-- The directive of a message, released by the risk gates or, for want of any target, by the
hold of a released encounter. -/
def guide (world : WorldState) (tracking : Option RouteTracking) (conflictDetected : Bool)
    (msg : COLREGsConstraint) (decision : Decision) : Guided :=
  let directive := extractColregsDirective msg
  let referenceHeadingDeg :=
    if decision.colregsAnchorSet then decision.colregsAnchorHdg else quietNaN
  let decision :=
    { decision with
      lastColregsTargetAbaftBeam :=
        colregsGiveWayTargetAbaft lib world directive decision.activeColregsTargetKey
          referenceHeadingDeg }
  let sameReleasedEncounter :=
    decision.releasedColregsRearmHold &&
      sameColregsEncounter msg decision.releasedColregsRuleId decision.releasedColregsTargetKey
  if !directive.conflictActive then { decision, directive }
  else
    let (guidance, ranking) :=
      computePrimaryRiskGuidance lib world directive decision.riskRankingState
    let decision := { decision with riskRankingState := ranking }
    match guidance with
    | some guidance =>
        weighRisk lib world tracking conflictDetected sameReleasedEncounter directive guidance
          decision
    | none =>
        if decision.releasedColregsRearmHold then
          { decision
            directive := { directive with conflictActive := false }
            riskReleased := true }
        else { decision, directive }

/-! ### The turn -/

/-- The least positive value, from the greatest double on. -/
def nearestPositive (values : List Float) : Float :=
  values.foldl (fun nearest value => if value > 0.0 ∧ value < nearest then value else nearest)
    doubleMax

def hasQuarteringTarget (world : WorldState) : Bool :=
  world.targets.any fun target => target.encounter.relativeBearingDeg.abs ≥ 90.0

/-- A turn is under way. -/
def ColregsDirective.turnActive (directive : ColregsDirective) : Bool :=
  directive.conflictActive && directive.turns

/-- The heading at the onset of a turn is kept until the turn ends. -/
def Decision.anchorTurn (decision : Decision) (turnActive : Bool) (world : WorldState) :
    Decision :=
  if turnActive && !decision.colregsAnchorSet then
    { decision with
      colregsAnchorHdg := world.ownShip.headingDeg
      colregsQuarteringGate := hasQuarteringTarget world
      colregsAnchorSet := true }
  else if !turnActive && decision.colregsAnchorSet then
    { decision with
      colregsAnchorSet := false
      colregsQuarteringGate := false
      colregsCommittedRequiredDevDeg := 0.0 }
  else decision

/-- A give-way turn under Rule 15 commits to its target. -/
def Decision.commitRule15 (decision : Decision) (directive : ColregsDirective)
    (forDirective : Option COLREGsConstraint) : Decision :=
  if directive.turnActive && directive.rule15Active && directive.primaryRole = roleGiveWay then
    { decision with
      colregsRule15CommitActive := true
      colregsRule15CommitTargetKey :=
        if directive.primaryThreatId = "" then forDirective.elim "" primaryColregsTargetKey
        else directive.primaryThreatId }
  else decision

def kColregsCriticalCpaM : Float := 500.0

def kColregsTacticalCpaBufferM : Float := 1500.0

def kColregsMaxDeviationDeg : Float := 150.0

/-- The deviation demanded by the closest approach of the targets. -/
def cpaRequiredDevDeg (directive : ColregsDirective) (quarteringGate : Bool)
    (effectiveMaxDeviationDeg nearestTargetCpaM : Float) : Float :=
  let minAltDeg := directive.minAlterationDeg
  if quarteringGate && nearestTargetCpaM ≤ kColregsCriticalCpaM then effectiveMaxDeviationDeg
  else if nearestTargetCpaM ≥ kColregsTacticalCpaBufferM then minAltDeg
  else
    let cpaRampM :=
      if quarteringGate then kColregsTacticalCpaBufferM - kColregsCriticalCpaM
      else kColregsTacticalCpaBufferM
    let risk := stdClamp ((kColregsTacticalCpaBufferM - nearestTargetCpaM) / cpaRampM) 0.0 1.0
    stdMax minAltDeg (minAltDeg + risk * (effectiveMaxDeviationDeg - minAltDeg))

/-- The deviation of a directive before any commitment. -/
def demandedDevDeg (world : WorldState) (directive : ColregsDirective) (quarteringGate : Bool) :
    Float :=
  let nearestTargetRangeM := nearestPositive (world.targets.map (·.rngM))
  let nearestTargetCpaM := nearestPositive (world.targets.map (·.cpaM))
  let effectiveMaxDeviationDeg :=
    effectiveColregsMaxDeviationDeg directive quarteringGate 75.0 kColregsMaxDeviationDeg
  if dynamicRiskRequiresMaxDeviation directive then effectiveMaxDeviationDeg
  else if nearestTargetCpaM < doubleMax ∧ directive.turns = true then
    cpaRequiredDevDeg directive quarteringGate effectiveMaxDeviationDeg nearestTargetCpaM
  else
    requiredDeviationDeg lib directive nearestTargetRangeM kColregsTacticalCpaBufferM 2.5
      effectiveMaxDeviationDeg

/-- A turn across the bow of a committed target never eases. -/
def holdsBowCrossingCommitment (directive : ColregsDirective) (decision : Decision) : Bool :=
  directive.turnActive && decision.colregsRule15CommitActive && givesWay directive.primaryRole &&
    !decision.colregsQuarteringGate

/-- The geometry of the turn. -/
structure Turn where
  decision : Decision
  requiredDevDeg : Float
  signedDevDeg : Float
  baseHdg : Float

def planTurn (world : WorldState) (nominalHdg : Float) (forDirective : Option COLREGsConstraint)
    (directive : ColregsDirective) (decision : Decision) : Turn :=
  let decision :=
    (decision.anchorTurn directive.turnActive world).commitRule15 directive forDirective
  let demanded := demandedDevDeg lib world directive decision.colregsQuarteringGate
  let held := holdsBowCrossingCommitment directive decision
  let requiredDevDeg :=
    if held then stdMax demanded decision.colregsCommittedRequiredDevDeg else demanded
  { decision :=
      { decision with colregsCommittedRequiredDevDeg := if held then requiredDevDeg else 0.0 }
    requiredDevDeg := requiredDevDeg
    signedDevDeg := signedDeviationDeg directive requiredDevDeg
    baseHdg := if decision.colregsAnchorSet then decision.colregsAnchorHdg else nominalHdg }

/-! ### The utility functions -/

structure Parameters where
  lib : MathLibrary
  headingDomain : IvPHeadingDomain
  speedDomain : IvPSpeedDomain
  headingReachabilityDtS : Float

/-- The ceiling of the speed domain. -/
def Parameters.speedMaxKn (params : Parameters) : Float := params.speedDomain.maxKn

def Parameters.solver (params : Parameters) : IvPSolver where
  headingDomain := params.headingDomain
  speedDomain := params.speedDomain
  combine := weightedSumCombination params.lib

/-- The bearing of the waypoint, if the mission has one, else the own heading. -/
def nominalHdg (mission : Option MissionGoal) (world : WorldState) : Float :=
  match mission with
  | some goal =>
      if goal.targetLatitude.abs > 1.0e-4 ∨ goal.targetLongitude.abs > 1.0e-4 then
        computeBearingDeg lib world.ownShip.latitude world.ownShip.longitude goal.targetLatitude
          goal.targetLongitude
      else world.ownShip.headingDeg
  | none => world.ownShip.headingDeg

/-- The recommended speed, else the own speed, within the speed domain. -/
def nominalSpd (mission : Option MissionGoal) (world : WorldState) (speedMaxKn : Float) : Float :=
  let current :=
    if world.ownShip.sogKn > 0.5 then world.ownShip.sogKn else speedMaxKn
  let nominal :=
    match mission with
    | some goal => if goal.speedRecommendKn > 0.5 then widen goal.speedRecommendKn else current
    | none => current
  stdMin nominal speedMaxKn

/-- A piece around the nominal heading. -/
def transitPiece (nominalHdg halfWidthDeg speedMinKn speedMaxKn utility : Float) : Piece where
  headingMinDeg := wrapHeadingDeg lib (nominalHdg - halfWidthDeg)
  headingMaxDeg := wrapHeadingDeg lib (nominalHdg + halfWidthDeg)
  speedMinKn := speedMinKn
  speedMaxKn := speedMaxKn
  utility := utility

/-- The piece of low utility that takes in every heading. -/
def basePiece (speedMaxKn : Float) : Piece := ⟨0.0, 359.9, 0.0, speedMaxKn, 0.1⟩

/-- Pieces that are refused leave the function empty. -/
def transitFunction (nominalHdg nominalSpd speedMaxKn : Float) : IvPFunction :=
  (({} : IvPFunction).setPieces
    [ transitPiece lib nominalHdg 2.5 (stdMax 0.0 (nominalSpd - 0.5)) nominalSpd 1.0,
      transitPiece lib nominalHdg 8.0 (stdMax 0.0 (nominalSpd - 1.0)) nominalSpd 0.85,
      transitPiece lib nominalHdg 20.0 0.0 nominalSpd 0.6,
      transitPiece lib nominalHdg 45.0 0.0 nominalSpd 0.3,
      basePiece speedMaxKn ]).1

/-- The pieces of the avoidance: a penalty on the other side, the optimum at the required
deviation, a transition beyond it, and the base. -/
def avoidPieces (turnPort : Bool) (baseHdg requiredDevDeg speedMaxKn : Float) : List Piece :=
  let optimalInnerDeg := if requiredDevDeg ≥ 120.0 then requiredDevDeg - 1.0 else requiredDevDeg
  let optimalOuterDeg :=
    if requiredDevDeg ≥ 120.0 then requiredDevDeg else stdMin 120.0 (requiredDevDeg + 15.0)
  let inner := if turnPort then -optimalInnerDeg else optimalInnerDeg
  let outer := if turnPort then -optimalOuterDeg else optimalOuterDeg
  let wrapped := fun deviation => wrapHeadingDeg lib (baseHdg + deviation)
  let penalty : Piece :=
    ⟨wrapped (if turnPort then inner else -180.0), wrapped (if turnPort then 180.0 else inner),
      0.0, speedMaxKn, 0.05⟩
  let optimal : Piece :=
    ⟨wrapped (if turnPort then outer else inner), wrapped (if turnPort then inner else outer),
      0.0, speedMaxKn, 1.0⟩
  let transition : Piece :=
    ⟨wrapped (if turnPort then -120.0 else outer), wrapped (if turnPort then outer else 120.0),
      0.0, speedMaxKn, 0.6⟩
  [penalty, optimal] ++
    (if transition.headingMinDeg != transition.headingMaxDeg then [transition] else []) ++
    [basePiece speedMaxKn]

/-- The functions the solver is given; an avoidance function with refused pieces is skipped. -/
def weightedFunctions (params : Parameters) (mission : Option MissionGoal) (world : WorldState)
    (directive : ColregsDirective) (turn : Turn) : List WeightedFunction :=
  let nominal := nominalHdg params.lib mission world
  let transit : WeightedFunction :=
    { weight := 1.0
      function :=
        transitFunction params.lib nominal (nominalSpd mission world params.speedMaxKn)
          params.speedMaxKn }
  if directive.conflictActive = true ∧ turn.requiredDevDeg > 0.0 ∧ turn.signedDevDeg.abs > 0.0 then
    let (function, result) :=
      ({} : IvPFunction).setPieces
        (avoidPieces params.lib (directive.direction = .port) turn.baseHdg turn.requiredDevDeg
          params.speedMaxKn)
    if result = .ok then [transit, { weight := 10.0, function }] else [transit]
  else [transit]

/-- The greatest speed a directive leaves. -/
def directiveSpeedMaxKn (params : Parameters) (world : WorldState)
    (directive : ColregsDirective) : Float :=
  if dynamicRiskRequiresSpeedCap directive then
    stdMin params.speedMaxKn (stdMax 0.0 (world.ownShip.sogKn * 0.6))
  else params.speedMaxKn

def hardConstraints (params : Parameters) (world : WorldState) (directive : ColregsDirective)
    (turn : Turn) : IvPHardConstraints where
  headingAllowedRangesDeg :=
    if directive.conflictActive then
      directiveAllowedRanges params.lib turn.baseHdg directive turn.requiredDevDeg
    else []
  speedMinKn := 0.0
  speedMaxKn := directiveSpeedMaxKn params world directive

/-! ### The box -/

structure SafetyConcernEvent where
  anchorHdg : Float32
  suggestedAction : String

/-- The locals of a tick that its later stages read and change. -/
structure Arbitration where
  decision : Decision
  primary : BehaviorType
  hMin : Float
  hMax : Float
  sMin : Float
  sMax : Float
  confidence : Float
  directive : ColregsDirective := {}
  turnActive : Bool := false
  riskReleased : Bool := false
  residualRule15CommitActive : Bool := false
  rule15AllowsRecoveryComplete : Bool := true
  concern : Option SafetyConcernEvent := none

/-- A window of headings around a heading. -/
structure FallbackBox where
  decision : Decision
  hMin : Float
  hMax : Float
  confidence : Float
  concern : Option SafetyConcernEvent

/-- The heading box without a solution: a window on the commanded side of a heading that is
latched once the mission has been active, or the half circle ahead. -/
def fallbackBox (world : WorldState) (directive : ColregsDirective) (turn : Turn) : FallbackBox :=
  let ownHdg := if directive.turnActive then turn.baseHdg else world.ownShip.headingDeg
  if turn.signedDevDeg.abs > 0.0 then
    let latches := turn.decision.m3ActiveLatch && !turn.decision.fallbackAnchorSet
    let decision :=
      if latches then
        { turn.decision with fallbackAnchorHdg := ownHdg, fallbackAnchorSet := true }
      else turn.decision
    let anchor := if decision.fallbackAnchorSet then decision.fallbackAnchorHdg else ownHdg
    let effectiveCentre := lib.fmod (anchor + turn.signedDevDeg + 360.0) 360.0
    { decision := decision
      hMin := lib.fmod (effectiveCentre - 15.0 + 360.0) 360.0
      hMax := lib.fmod (effectiveCentre + 15.0 + 360.0) 360.0
      confidence := if decision.fallbackAnchorSet then 0.55 else 0.45
      concern :=
        if latches then
          some
            { anchorHdg := narrow ownHdg
              suggestedAction :=
                if directive.direction = .port then "turn_port_absolute"
                else "turn_starboard_absolute" }
        else none }
  else
    { decision := turn.decision
      hMin := lib.fmod (ownHdg - 90.0 + 360.0) 360.0
      hMax := lib.fmod (ownHdg + 90.0) 360.0
      confidence := 0.30
      concern := none }

/-- The window that replaces the headings of a solution while a directive turns the ship. -/
def solvedWindow (directive : ColregsDirective) (turn : Turn) (solution : IvPSolution) :
    HeadingWindow :=
  let found : HeadingWindow := ⟨solution.headingMinDeg, solution.headingMaxDeg⟩
  if directive.conflictActive = true ∧ turn.signedDevDeg.abs > 0.0 then
    (directiveHeadingWindow lib turn.baseHdg directive turn.requiredDevDeg 15.0).getD found
  else found

/-- The branch of a tick that runs the solver. -/
def runSolver (params : Parameters) (mission : Option MissionGoal) (world : WorldState)
    (primary : BehaviorType) (forDirective : Option COLREGsConstraint) (guided : Guided)
    (expired : Nat → Nat → Bool) : Arbitration :=
  let directive := guided.directive
  let turn :=
    planTurn params.lib world (nominalHdg params.lib mission world) forDirective directive
      guided.decision
  let box : Arbitration :=
    match params.solver.solveWithFallback
        (weightedFunctions params mission world directive turn)
        (hardConstraints params world directive turn) expired with
    | some solution =>
        let window := solvedWindow params.lib directive turn solution
        { decision := turn.decision
          primary := primary
          hMin := window.headingMinDeg
          hMax := window.headingMaxDeg
          sMin := solution.speedMinKn
          sMax := solution.speedMaxKn
          confidence := if solution.relaxLevel > 0 then 0.75 else 0.95 }
    | none =>
        let fallback := fallbackBox params.lib world directive turn
        { decision := fallback.decision
          primary := primary
          hMin := fallback.hMin
          hMax := fallback.hMax
          sMin := 0.0
          sMax := directiveSpeedMaxKn params world directive
          confidence := fallback.confidence
          concern := fallback.concern }
  { box with
    directive := directive
    turnActive := directive.turnActive
    riskReleased := guided.riskReleased
    residualRule15CommitActive := guided.residualRule15CommitActive
    rule15AllowsRecoveryComplete := guided.rule15AllowsRecoveryComplete }

/-- The directive of the message a tick goes by, if there is one. -/
def guideHeard (world : WorldState) (tracking : Option RouteTracking) (heard : Heard) : Guided :=
  match heard.forDirective with
  | some msg => guide lib world tracking heard.inputs.colregsConflictDetected msg heard.decision
  | none => { decision := heard.decision }

/-- A minimum-risk drift stops the ship; active behaviours run the solver; without any the ship
stays on its transit. -/
def arbitrate (params : Parameters) (mission : Option MissionGoal) (world : WorldState)
    (tracking : Option RouteTracking) (heard : Heard) (expired : Nat → Nat → Bool) : Arbitration :=
  let activeSet := computeActiveSet heard.inputs
  if hasMrc activeSet then
    { decision := heard.decision
      primary := .mrcDrift
      hMin := 0.0
      hMax := 360.0
      sMin := 0.0
      sMax := 0.0
      confidence := 1.0 }
  else if activeSet.isEmpty then
    { decision := heard.decision
      primary := .transit
      hMin := 0.0
      hMax := 360.0
      sMin := 0.0
      sMax := params.speedMaxKn
      confidence := 0.60 }
  else
    runSolver params mission world (selectPrimary activeSet heard.inputs) heard.forDirective
      (guideHeard params.lib world tracking heard) expired

end MassL3.M4
