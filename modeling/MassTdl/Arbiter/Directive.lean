/-
This file embeds the COLREGs directive: what is read from the constraint of the reasoner, how
the primary risk adds to it, the deviation and the speed it demands, the heading window and the
allowed headings built from them, and the clamp of a heading box to what the ship can reach.

In front of it stand the messages the behaviour arbiter reads, as they arrive: roles, phases and
directions are the numbers and texts of the messages. Fields that no decision reads are left
out. Stamps are in nanoseconds.
-/

import MassTdl.Arbiter.Risk

namespace MassL3.M4

open Clamps

/-! ### Messages -/

structure ODDState where
  stamp : Int
  currentZone : UInt8

structure GncExecutionOdd where
  cruiseMaxYawRateDegS : Float

structure OwnShipState where
  latitude : Float
  longitude : Float
  sogKn : Float
  headingDeg : Float

structure EncounterClassification where
  encounterType : UInt8 := 0
  relativeBearingDeg : Float := 0.0
  isGiveway : Bool := false

def encounterTypeOvertaken : UInt8 := 4

def encounterTypeCrossedBy : UInt8 := 5

structure TrackedTarget where
  targetId : UInt64
  sogKn : Float
  cogDeg : Float
  cpaM : Float
  tcpaS : Float
  brgDeg : Float
  rngM : Float
  confidence : Float32
  encounter : EncounterClassification

/-- `std::to_string` of the identifier. -/
def TrackedTarget.key (target : TrackedTarget) : String := toString target.targetId.toNat

structure WorldState where
  stamp : Int
  ownShip : OwnShipState
  targets : List TrackedTarget

/-- The target with a key. -/
def WorldState.find (world : WorldState) (key : String) : Option TrackedTarget :=
  world.targets.find? (·.key = key)

structure ModeCmd where
  mode : UInt8

def modeEmergency : UInt8 := 3

structure MissionGoal where
  stamp : Int
  targetLatitude : Float
  targetLongitude : Float
  speedRecommendKn : Float32
  fsmState : UInt8
  taskValidity : UInt8

def fsmActive : UInt8 := 4

def taskValidityValid : UInt8 := 1

structure RuleActive where
  ruleId : UInt8
  targetId : UInt64

structure Constraint where
  constraintType : String
  numericValue : Float
  unit : String

structure COLREGsConstraint where
  stamp : Int
  activeRules : List RuleActive
  phase : String
  primaryRole : UInt8
  primaryPreferredDirection : String
  constraints : List Constraint
  conflictDetected : Bool
  confidence : Float32
  colregsChainTargetId : String

def roleStandOn : UInt8 := 0

def roleGiveWay : UInt8 := 1

def roleBothGiveWay : UInt8 := 2

/-- The route as the positions of its poses. -/
structure PlannedRoute where
  poses : List (Float × Float)

open MassL3.M6.Colregs (kPi)
open MassL3.Risk

/-! ### The directive -/

inductive ColregsDirection where
  | hold
  | starboard
  | port
  | reduceSpeed
  deriving DecidableEq, Repr

structure ColregsDirective where
  conflictActive : Bool := false
  direction : ColregsDirection := .hold
  minAlterationDeg : Float := 0.0
  primaryRole : UInt8 := 3
  phase : String := ""
  rule13Active : Bool := false
  rule15Active : Bool := false
  rule14Active : Bool := false
  primaryThreatId : String := ""
  primaryRiskScore : Float := 0.0
  primaryWarningMarginM : Float := 0.0
  primaryDangerMarginM : Float := 0.0
  primaryClosingSpeedMps : Float := 0.0
  primaryTdvWarningS : Float := 0.0
  primaryRiskPhase : String := ""
  speedReductionPreferred : Bool := false

/-- The directive asks for a turn. -/
def ColregsDirective.turns (directive : ColregsDirective) : Bool :=
  directive.direction = .starboard || directive.direction = .port

def kRiskEpsilon : Float := 1.0e-6

variable (lib : MathLibrary)

def wrapHeadingDeg (headingDeg : Float) : Float :=
  let wrapped := lib.fmod headingDeg 360.0
  if wrapped < 0.0 then wrapped + 360.0 else wrapped

def splitLinearRange (startDeg endDeg : Float) : List (Float × Float) :=
  let first := wrapHeadingDeg lib startDeg
  let second := wrapHeadingDeg lib endDeg
  if first ≤ second then [(first, second)] else [(first, 360.0), (0.0, second)]

/-- A phase in which a stand-on vessel acts itself. -/
def isActionPhase (phase : String) : Bool :=
  phase = "INDEPENDENT_ACTION" || phase = "CRITICAL_ACTION"

def isStandOnAction (directive : ColregsDirective) : Bool :=
  directive.primaryRole = roleStandOn && isActionPhase directive.phase

def isStandOnCriticalAction (directive : ColregsDirective) : Bool :=
  directive.primaryRole = roleStandOn && directive.phase = "CRITICAL_ACTION"

def isDangerOrCritical (risk : RiskVector) : Bool :=
  risk.riskPhase = .danger || risk.riskPhase = .critical ||
    risk.dangerDdv > kRiskEpsilon || risk.dangerMarginM < 0.0

def speedReductionImprovesMargin (current reducedSpeed : RiskVector) : Bool :=
  reducedSpeed.warningMarginM ≥ current.warningMarginM + 10.0 &&
    reducedSpeed.dangerMarginM ≥ current.dangerMarginM - kRiskEpsilon

def speedReductionArrestsClosing (current reducedSpeed : RiskVector) : Bool :=
  current.closingSpeedMps > 0.5 &&
    current.closingSpeedMps - reducedSpeed.closingSpeedMps ≥ 1.0 &&
    reducedSpeed.closingSpeedMps ≤ 0.5 &&
    reducedSpeed.dangerMarginM ≥ current.dangerMarginM - kRiskEpsilon

def parseColregsDirection (direction : String) : ColregsDirection :=
  if direction = "STARBOARD" then .starboard
  else if direction = "PORT" then .port
  else if direction = "REDUCE_SPEED" then .reduceSpeed
  else .hold

def mapRoleToDuty (primaryRole : UInt8) (conflictActive : Bool) (phase : String) : ColregsDuty :=
  if !conflictActive then .free
  else if primaryRole = roleGiveWay then .giveWay
  else if primaryRole = roleBothGiveWay then .bothGiveWay
  else if primaryRole = roleStandOn then
    if isActionPhase phase then .rule17Action else .standOnHold
  else .free

/-- One constraint of the message raises the minimum alteration. -/
def raiseMinAlteration (minAlterationDeg : Float) (constraint : Constraint) : Float :=
  if constraint.constraintType = "colregs" ∧ constraint.unit = "deg" ∧
      constraint.numericValue > 0.0 then
    stdMax minAlterationDeg constraint.numericValue
  else minAlterationDeg

def extractColregsDirective (msg : COLREGsConstraint) : ColregsDirective :=
  let out : ColregsDirective :=
    { conflictActive := msg.conflictDetected
      primaryRole := msg.primaryRole
      phase := msg.phase
      rule13Active := msg.activeRules.any (·.ruleId = 13)
      rule15Active := msg.activeRules.any (·.ruleId = 15)
      rule14Active := msg.activeRules.any (·.ruleId = 14) }
  if !out.conflictActive then out
  else
    { out with
      direction := parseColregsDirection msg.primaryPreferredDirection
      minAlterationDeg := msg.constraints.foldl raiseMinAlteration 0.0 }

/-! ### Risk guidance -/

/-- A turn the risk model may replace by a reduction of speed. -/
def canPreferSpeedReduction (directive : ColregsDirective) (primaryRisk reducedSpeedRisk :
    RiskVector) : Bool :=
  let duty := mapRoleToDuty directive.primaryRole directive.conflictActive directive.phase
  let canReduceSpeed :=
    (!directive.rule13Active && !directive.rule15Active && duty = .giveWay) || duty = .bothGiveWay
  canReduceSpeed && primaryRisk.riskPhase ≠ .clear && primaryRisk.tcpaS > 180.0 &&
    !isDangerOrCritical primaryRisk &&
    (speedReductionImprovesMargin primaryRisk reducedSpeedRisk ||
      speedReductionArrestsClosing primaryRisk reducedSpeedRisk)

def applyPrimaryRiskGuidance (directive : ColregsDirective) (primaryRisk reducedSpeedRisk :
    RiskVector) : ColregsDirective :=
  let directive :=
    { directive with
      primaryThreatId := primaryRisk.targetId
      primaryRiskScore := primaryRisk.riskScore
      primaryWarningMarginM := primaryRisk.warningMarginM
      primaryDangerMarginM := primaryRisk.dangerMarginM
      primaryClosingSpeedMps := primaryRisk.closingSpeedMps
      primaryTdvWarningS := primaryRisk.tdvWarningS
      primaryRiskPhase := primaryRisk.riskPhase.text
      speedReductionPreferred := false }
  if !directive.conflictActive || !directive.turns then directive
  else if directive.rule14Active && directive.primaryRole = roleBothGiveWay then directive
  else if canPreferSpeedReduction directive primaryRisk reducedSpeedRisk then
    { directive with direction := .reduceSpeed, speedReductionPreferred := true }
  else directive

def dynamicRiskRequiresMaxDeviation (directive : ColregsDirective) : Bool :=
  if !directive.conflictActive || !isStandOnCriticalAction directive then false
  else
    directive.primaryRiskPhase = "Danger" || directive.primaryRiskPhase = "Critical" ||
      directive.primaryDangerMarginM < -kRiskEpsilon

def dynamicRiskRequiresSpeedCap (directive : ColregsDirective) : Bool :=
  if !directive.conflictActive then false
  else if directive.rule13Active && directive.primaryRole = roleGiveWay && directive.turns then
    directive.direction = .reduceSpeed || directive.speedReductionPreferred ||
      directive.primaryRiskPhase = "Danger" || directive.primaryRiskPhase = "Critical" ||
      directive.primaryDangerMarginM < -kRiskEpsilon
  else
    let warningEntryWithinTmr : Bool :=
      directive.primaryRiskPhase = "Monitor" && directive.primaryClosingSpeedMps > kRiskEpsilon &&
        directive.primaryTdvWarningS.isFinite && directive.primaryTdvWarningS ≤ 60.0
    directive.direction = .reduceSpeed || directive.speedReductionPreferred ||
      warningEntryWithinTmr || directive.primaryRiskPhase = "Warning" ||
      directive.primaryRiskPhase = "Danger" || directive.primaryRiskPhase = "Critical" ||
      directive.primaryWarningMarginM < -kRiskEpsilon ||
      directive.primaryDangerMarginM < -kRiskEpsilon

/-! ### Deviations and headings -/

def requiredDeviationDeg (directive : ColregsDirective) (nearestTargetRangeM cpaSafeM
    boldnessFactor maxDeviationDeg : Float) : Float :=
  if !directive.conflictActive || !directive.turns then 0.0
  else if dynamicRiskRequiresMaxDeviation directive then maxDeviationDeg
  else
    let required := directive.minAlterationDeg
    let required :=
      if nearestTargetRangeM > cpaSafeM then
        stdMax required (lib.asin (cpaSafeM / nearestTargetRangeM) * kRadToDeg * boldnessFactor)
      else if nearestTargetRangeM > 0.0 then maxDeviationDeg
      else required
    stdMin maxDeviationDeg required

def effectiveColregsMaxDeviationDeg (directive : ColregsDirective) (hasQuarteringTarget : Bool)
    (bowMaxDeviationDeg quarteringMaxDeviationDeg : Float) : Float :=
  if !directive.turns then 0.0
  else
    let baseCap := if hasQuarteringTarget then quarteringMaxDeviationDeg else bowMaxDeviationDeg
    if isStandOnCriticalAction directive then stdMax baseCap directive.minAlterationDeg
    else if isStandOnAction directive then stdMax 60.0 directive.minAlterationDeg
    else stdMax baseCap directive.minAlterationDeg

def signedDeviationDeg (directive : ColregsDirective) (requiredDeviationDeg : Float) : Float :=
  match directive.direction with
  | .starboard => requiredDeviationDeg
  | .port => -requiredDeviationDeg
  | .hold | .reduceSpeed => 0.0

structure HeadingWindow where
  headingMinDeg : Float
  headingMaxDeg : Float

def directiveHeadingWindow (baseHeadingDeg : Float) (directive : ColregsDirective)
    (requiredDeviationDeg halfWidthDeg : Float) : Option HeadingWindow :=
  let signedDev := signedDeviationDeg directive requiredDeviationDeg
  if signedDev == 0.0 then none
  else
    let centre := wrapHeadingDeg lib (baseHeadingDeg + signedDev)
    some
      { headingMinDeg := wrapHeadingDeg lib (centre - halfWidthDeg)
        headingMaxDeg := wrapHeadingDeg lib (centre + halfWidthDeg) }

def directiveAllowedRanges (baseHeadingDeg : Float) (directive : ColregsDirective)
    (requiredDeviationDeg : Float) : List (Float × Float) :=
  if directive.direction = .starboard ∧ requiredDeviationDeg > 0.0 then
    splitLinearRange lib (baseHeadingDeg + requiredDeviationDeg) (baseHeadingDeg + 180.0)
  else if directive.direction = .port ∧ requiredDeviationDeg > 0.0 then
    splitLinearRange lib (baseHeadingDeg - 180.0) (baseHeadingDeg - requiredDeviationDeg)
  else []

/-! ### Reachable headings -/

def signedDeltaDeg (fromDeg toDeg : Float) : Float :=
  let d := lib.fmod (toDeg - fromDeg) 360.0
  let d := if d > 180.0 then d - 360.0 else d
  if d < -180.0 then d + 360.0 else d

/-- `clamp_heading_box_reachable`. -/
def clampHeadingBoxReachable (hMinDeg hMaxDeg ownHdgDeg rotStepDeg : Float) : Float × Float :=
  if rotStepDeg ≤ 0.0 then (hMinDeg, hMaxDeg)
  else
    let effRotStep := stdMax (rotStepDeg - 0.3) 0.0
    let wMin := wrapHeadingDeg lib hMinDeg
    let wMax := wrapHeadingDeg lib hMaxDeg
    let width := wMax - wMin
    let width := if width < 0.0 then width + 360.0 else width
    let halfWidth := 0.5 * width
    let centre := signedDeltaDeg lib ownHdgDeg (wrapHeadingDeg lib (wMin + halfWidth))
    let dMin := centre - halfWidth
    let dMax := centre + halfWidth
    let reachLo := -effRotStep
    let reachHi := effRotStep
    if dMin ≤ reachHi ∧ dMax ≥ reachLo then (hMinDeg, hMaxDeg)
    else
      let newDMin := if centre > 0.0 then reachHi else reachLo - 2.0 * halfWidth
      let newDMax := if centre > 0.0 then reachHi + 2.0 * halfWidth else reachLo
      let newHMin := wrapHeadingDeg lib (ownHdgDeg + newDMin)
      let newHMax := wrapHeadingDeg lib (ownHdgDeg + newDMax)
      (stdMin newHMin newHMax, stdMax newHMin newHMax)

structure HeadingBoxReachability where
  headingBoxReachableFromPsi0Deg : Float
  boxAllowsMinAlt : Bool

/-- `compute_heading_box_reachability`; its rationale tells only whether the box allows the
alteration. -/
def computeHeadingBoxReachability (hMinDeg hMaxDeg ownHdgDeg minAltRad : Float)
    (preferredDirection : ColregsDirection) : HeadingBoxReachability :=
  let dMin := signedDeltaDeg lib ownHdgDeg hMinDeg
  let dMax := signedDeltaDeg lib ownHdgDeg hMaxDeg
  let directionalReachDeg :=
    match preferredDirection with
    | .starboard => if dMax > 0.0 then dMax else 0.0
    | .port => if dMin < 0.0 then dMin.abs else 0.0
    | .hold | .reduceSpeed => stdMax dMin.abs dMax.abs
  { headingBoxReachableFromPsi0Deg := directionalReachDeg
    boxAllowsMinAlt := directionalReachDeg ≥ minAltRad * 180.0 / kPi }

end MassL3.M4
