/-
This file embeds the rest of a tick, from the commitment under Rule 15 over the recovery of the
route to the published plan, and the node as a machine that takes messages, ticks of its timer
and the loading of a scenario.

The texts of the plan, the audit records, the transparency data and the weights of the behaviour
dictionary, which no decision reads, are left out.
-/

import MassTdl.Arbiter.Arbitration
import MassTdl.Runs

namespace MassL3.M4

open Clamps
open Binary64 (narrow widen)
open MassL3.M6.Colregs (kPi)
open MassL3.Risk

/-! ### The commitment under Rule 15 -/

variable (lib : MathLibrary)

/-- While a commitment lasts, the recovery is complete only when its target has passed or, after
the conflict, is gone. -/
def Arbitration.keepCommitment (arbitration : Arbitration) (world : WorldState) : Arbitration :=
  let key := arbitration.decision.colregsRule15CommitTargetKey
  let directive := arbitration.directive
  if arbitration.decision.colregsRule15CommitActive then
    let sameTarget : Bool :=
      directive.primaryThreatId = "" || key = "" || key = directive.primaryThreatId
    if sameTarget then
      { arbitration with
        residualRule15CommitActive := true
        rule15AllowsRecoveryComplete :=
          (!directive.conflictActive && key ≠ "" && (world.find key).isNone) ||
            rule15GiveWayPassedAstern lib world directive true true key }
    else { arbitration with residualRule15CommitActive := false }
  else arbitration

/-! ### The recovery of the route -/

/-- A live turn directive is always an avoidance, except for a minimum-risk behaviour. -/
def Arbitration.holdTurn (arbitration : Arbitration) (mrc : Bool) : Arbitration :=
  if arbitration.turnActive then
    { arbitration with
      primary := if !mrc then .colregAvoid else arbitration.primary
      decision := { arbitration.decision with colregsRecoveryArmed := true } }
  else arbitration

/-- The conflict of the inputs, unless the risk gates released it. -/
def Arbitration.conflictActive (arbitration : Arbitration) (conflictDetected : Bool) : Bool :=
  conflictDetected && !arbitration.riskReleased

/-- A recovery that is under way goes on for another tick. -/
def Arbitration.staysInRecovery (arbitration : Arbitration) (tracking : Option RouteTracking) :
    Bool :=
  xteBeyondGate tracking || !headingAligned tracking ||
    !arbitration.rule15AllowsRecoveryComplete ||
    arbitration.decision.recoveryDwellCycles + 1 < kRecoveryReleaseDwellCycles

/-- A released conflict leads to a recovery. -/
def Arbitration.entersRecovery (arbitration : Arbitration) (tracking : Option RouteTracking) :
    Bool :=
  arbitration.decision.colregsRecoveryArmed &&
    arbitration.directive.primaryClosingSpeedMps ≤ 1.0e-6 &&
    arbitration.decision.lastColregsTargetAbaftBeam &&
    (xteBeyondGate tracking ||
      (arbitration.residualRule15CommitActive && !arbitration.rule15AllowsRecoveryComplete))

/-- The recovery after a tick without an active conflict. -/
def Arbitration.recovering (arbitration : Arbitration) (tracking : Option RouteTracking) : Bool :=
  if arbitration.decision.recoveryActive then arbitration.staysInRecovery tracking
  else arbitration.entersRecovery tracking

/-- The state of the recovery after a tick without an active conflict. -/
def Arbitration.advanceRecovery (arbitration : Arbitration) (tracking : Option RouteTracking) :
    Decision :=
  let decision := arbitration.decision
  if decision.recoveryActive then
    if xteBeyondGate tracking || !headingAligned tracking ||
        !arbitration.rule15AllowsRecoveryComplete then
      { decision with recoveryDwellCycles := 0 }
    else if decision.recoveryDwellCycles + 1 < kRecoveryReleaseDwellCycles then
      { decision with recoveryDwellCycles := decision.recoveryDwellCycles + 1 }
    else
      { decision with
        recoveryDwellCycles := decision.recoveryDwellCycles + 1
        recoveryActive := false
        colregsRule15CommitActive := false
        colregsRule15CommitTargetKey := "" }
  else if arbitration.entersRecovery tracking then
    { decision with recoveryActive := true, recoveryDwellCycles := 0 }
  else decision

/-- A released conflict disarms the recovery and is remembered as the released encounter. -/
def Decision.release (decision : Decision) (released : Bool) : Decision :=
  if released then
    let known : Bool := decision.activeColregsRuleId.isSome && decision.activeColregsTargetKey ≠ ""
    { decision with
      colregsRecoveryArmed := false
      releasedColregsRuleId :=
        if known then decision.activeColregsRuleId else decision.releasedColregsRuleId
      releasedColregsTargetKey :=
        if known then decision.activeColregsTargetKey else decision.releasedColregsTargetKey
      releasedColregsRearmHold := known || decision.releasedColregsRearmHold }
  else decision

/-- An active conflict cancels the recovery; otherwise the recovery advances and takes the
place of the primary behaviour. -/
def Arbitration.recover (arbitration : Arbitration) (tracking : Option RouteTracking)
    (conflictDetected : Bool) : Arbitration :=
  if arbitration.conflictActive conflictDetected then
    { arbitration with
      decision := { arbitration.decision with recoveryActive := false, recoveryDwellCycles := 0 } }
  else
    let released := arbitration.decision.colregsRecoveryArmed &&
      (!conflictDetected || arbitration.riskReleased)
    let decision := (arbitration.advanceRecovery tracking).release released
    if arbitration.recovering tracking then
      { arbitration with decision, primary := .recovery, confidence := 0.80 }
    else if arbitration.riskReleased then
      { arbitration with decision, primary := .transit, confidence := 0.75 }
    else if !conflictDetected then
      { arbitration with decision := { decision with colregsRiskRecoveryHold := false } }
    else { arbitration with decision }

/-! ### The published box -/

/-- Outside a minimum-risk behaviour the speed box contains the own speed. -/
def Arbitration.widenSpeed (arbitration : Arbitration) (world : WorldState) : Arbitration :=
  if !isMrcType arbitration.primary && world.ownShip.sogKn > 0.5 then
    { arbitration with
      sMin := stdMin arbitration.sMin world.ownShip.sogKn
      sMax := stdMax arbitration.sMax world.ownShip.sogKn }
  else arbitration

/-- Outside a minimum-risk behaviour the heading box can be reached in one step. -/
def Arbitration.clampHeading (arbitration : Arbitration) (params : Parameters)
    (gncOdd : Option GncExecutionOdd) (world : WorldState) : Arbitration :=
  match gncOdd with
  | some gncOdd =>
      if !isMrcType arbitration.primary && arbitration.hMin != arbitration.hMax then
        let rotStepDeg := gncOdd.cruiseMaxYawRateDegS * params.headingReachabilityDtS
        let box := clampHeadingBoxReachable params.lib arbitration.hMin arbitration.hMax
          world.ownShip.headingDeg rotStepDeg
        { arbitration with hMin := box.1, hMax := box.2 }
      else arbitration
  | none => arbitration

structure BehaviorPlan where
  behavior : BehaviorType
  headingMinDeg : Float32
  headingMaxDeg : Float32
  speedMinKn : Float32
  speedMaxKn : Float32
  confidence : Float32
  headingBoxReachableFromPsi0Deg : Float32 := 0.0
  rotStepDeg : Float32 := 0.0
  minAltRequiredRad : Float32 := 0.0
  earliestMinAltK : Float32 := 0.0

/-- The reachability of the published heading box, for a conflict with a least alteration. -/
def BehaviorPlan.fillReachabilityContract (plan : BehaviorPlan) (params : Parameters)
    (gncOdd : Option GncExecutionOdd) (world : WorldState) (directive : ColregsDirective) :
    BehaviorPlan :=
  if directive.conflictActive = true ∧ directive.minAlterationDeg > 0.0 then
    let rotStepDeg :=
      match gncOdd with
      | some gncOdd => gncOdd.cruiseMaxYawRateDegS * params.headingReachabilityDtS
      | none => 4.7 * params.headingReachabilityDtS
    let minAltRad := directive.minAlterationDeg * kPi / 180.0
    let reach := computeHeadingBoxReachability params.lib (widen plan.headingMinDeg)
      (widen plan.headingMaxDeg) world.ownShip.headingDeg minAltRad directive.direction
    let rotStepRad := rotStepDeg * kPi / 180.0
    let earliestK : Int :=
      if rotStepRad > 1.0e-9 then max 0 (params.lib.ceilToInt (minAltRad / rotStepRad) - 1) else 0
    { plan with
      headingBoxReachableFromPsi0Deg := narrow reach.headingBoxReachableFromPsi0Deg
      rotStepDeg := narrow rotStepDeg
      minAltRequiredRad := narrow minAltRad
      earliestMinAltK := narrow (.ofInt earliestK) }
  else plan

def Arbitration.plan (arbitration : Arbitration) (params : Parameters)
    (gncOdd : Option GncExecutionOdd) (world : WorldState) : BehaviorPlan :=
  let plan : BehaviorPlan :=
    { behavior := arbitration.primary
      headingMinDeg := narrow arbitration.hMin
      headingMaxDeg := narrow arbitration.hMax
      speedMinKn := narrow arbitration.sMin
      speedMaxKn := narrow arbitration.sMax
      confidence := narrow arbitration.confidence }
  plan.fillReachabilityContract params gncOdd world arbitration.directive

/-! ### The tick -/

/-- What a tick publishes. -/
structure Output where
  plan : BehaviorPlan
  concern : Option SafetyConcernEvent := none

/-- The plan while the envelope or the world is unknown. -/
def standbyPlan (params : Parameters) : BehaviorPlan where
  behavior := .transit
  headingMinDeg := 0.0
  headingMaxDeg := 360.0
  speedMinKn := 0.0
  speedMaxKn := narrow params.speedMaxKn
  confidence := 0.0

/-- The plan without a mission and without a conflict. -/
def failsafePlan (params : Parameters) : BehaviorPlan where
  behavior := .transit
  headingMinDeg := -5.0
  headingMaxDeg := 5.0
  speedMinKn := 0.0
  speedMaxKn := narrow params.speedMaxKn
  confidence := 0.85

/-- The stages of a tick between the early returns and the publication. -/
def resolveBehavior (params : Parameters) (inbox : Inbox) (world : WorldState) (heard : Heard)
    (expired : Nat → Nat → Bool) : Arbitration :=
  let tracking := currentRouteTracking params.lib inbox.route world
  ((arbitrate params inbox.mission world tracking heard expired).keepCommitment params.lib
    world).holdTurn (hasMrc (computeActiveSet heard.inputs)) |>.recover tracking
      heard.inputs.colregsConflictDetected

/-- What the state keeps of a published tick. -/
def Decision.conclude (decision : Decision) (inbox : Inbox) (primary : BehaviorType)
    (oddZone : UInt8) (health : HealthState) : Decision :=
  { decision with
    fallbackAnchorSet := decision.fallbackAnchorSet && !m3TaskValid inbox
    prevPrimary := primary
    prevOddZone := oddZone
    prevHealth := health }

/-- What a tick hears. -/
def hearTick (inbox : Inbox) (decision : Decision) (now : Int) : Heard :=
  hear inbox (buildInputs inbox now) (decision.latchM3 inbox)

def tick (params : Parameters) (inbox : Inbox) (decision : Decision) (now : Int)
    (expired : Nat → Nat → Bool) : Decision × Output :=
  let heard := hearTick inbox decision now
  match inbox.odd, inbox.world with
  | some _, some world =>
      if !inbox.mission.isSome && !heard.inputs.colregsConflictDetected then
        (heard.decision, { plan := failsafePlan params })
      else
        let decided := resolveBehavior params inbox world heard expired
        let published :=
          (decided.widenSpeed world).clampHeading params inbox.gncOdd world
        (decided.decision.conclude inbox decided.primary heard.inputs.oddZone
            (computeHealthState heard.inputs),
          { plan := published.plan params inbox.gncOdd world, concern := decided.concern })
  | _, _ => (heard.decision, { plan := standbyPlan params })

/-! ### The node -/

structure Node where
  inbox : Inbox := {}
  decision : Decision := {}

/-- `reset_cross_run_state`. -/
def Decision.resetCrossRunState (decision : Decision) : Decision :=
  { decision with
    prevPrimary := .mrcDrift
    prevOddZone := 99
    prevHealth := .normal
    m3ActiveLatch := false
    fallbackAnchorSet := false
    fallbackAnchorHdg := 0.0
    colregsAnchorSet := false
    colregsAnchorHdg := 0.0
    colregsQuarteringGate := false
    colregsRule15CommitActive := false
    colregsCommittedRequiredDevDeg := 0.0
    colregsInactiveCycles := 0
    riskRankingState := {}
    recoveryActive := false
    recoveryDwellCycles := 0
    colregsRecoveryArmed := false
    colregsRiskRecoveryHold := false
    lastActiveColregs := none }

/-- The events of the node. A tick has its time and, for each search of the solver, the cells
before which the time is up. -/
inductive Event where
  | oddState (msg : ODDState)
  | gncExecutionOdd (msg : GncExecutionOdd)
  | worldState (msg : WorldState)
  | modeCmd (msg : ModeCmd)
  | missionGoal (msg : MissionGoal)
  | colregsConstraint (msg : COLREGsConstraint)
  | plannedRoute (msg : PlannedRoute)
  | arbitrationTimer (now : Int) (expired : Nat → Nat → Bool)
  | scenarioLoaded

def Inbox.receive (inbox : Inbox) : Event → Inbox
  | .oddState msg => { inbox with odd := some msg }
  | .gncExecutionOdd msg => { inbox with gncOdd := some msg }
  | .worldState msg => { inbox with world := some msg }
  | .modeCmd msg => { inbox with mode := some msg }
  | .missionGoal msg => { inbox with mission := some msg }
  | .colregsConstraint msg => { inbox with colregs := some msg }
  | .plannedRoute msg => { inbox with route := some msg }
  | .arbitrationTimer _ _ | .scenarioLoaded => inbox

def Node.step (params : Parameters) (node : Node) (event : Event) : Node where
  inbox := node.inbox.receive event
  decision :=
    match event with
    | .arbitrationTimer now expired => (tick params node.inbox node.decision now expired).1
    | .scenarioLoaded => node.decision.resetCrossRunState
    | _ => node.decision

/-- What an event makes the node publish. -/
def Node.published (params : Parameters) (node : Node) : Event → Option Output
  | .arbitrationTimer now expired => some (tick params node.inbox node.decision now expired).2
  | _ => none

/-- The node after the first events of a run. -/
def nodeAt (params : Parameters) (events : List Event) (count : Nat) : Node :=
  Runs.stateAt (Node.step params) {} events count

end MassL3.M4
