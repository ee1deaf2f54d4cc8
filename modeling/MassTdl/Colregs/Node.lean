/-
This file translates the reasoner node: the messages it caches, the reasoning cycle over the
targets of a world state, the lifecycle semantics it publishes with a constraint, and its reset
between scenarios.

The layers of the explanation chain, the audit records and the Rule 14 assessment are left out:
no constraint depends on them.
-/

import MassTdl.Colregs.ConstraintGenerator
import MassTdl.Colregs.TargetCycle

namespace MassL3.M6.Colregs

open Clamps

/-! ### Messages -/

structure OwnShipState where
  latitude : Float
  longitude : Float
  headingDeg : Float
  cogDeg : Float
  sogKn : Float

/-- A tracked target, with its compliance as a double. -/
structure TrackedTarget where
  targetId : UInt64
  latitude : Float
  longitude : Float
  sogKn : Float
  cogDeg : Float
  headingDeg : Float
  classification : String
  cpaM : Float
  tcpaS : Float
  brgDeg : Float
  rngM : Float
  targetCompliance : Float

/-- The stamp is in nanoseconds. -/
structure WorldState where
  stamp : Int
  ownShip : OwnShipState
  targets : List TrackedTarget
  confidence : Float32

/-- The key of a target: the low half of its id. -/
def TrackedTarget.mmsi (target : TrackedTarget) : UInt32 := target.targetId.toUInt32

def TargetGeometricState.mmsi (target : TargetGeometricState) : UInt32 :=
  target.targetId.toUInt32

/-! ### Conversion -/

variable (lib : MathLibrary)

/-- `classify_ship_priority`. -/
def classifyShipPriority (classification : String) : Int :=
  if classification = "vessel" then 1
  else if classification = "fixed_object" then 0
  else -1

/-- One target of `convert_world_state`. -/
def convertTarget (own : OwnShipState) (target : TrackedTarget) : TargetGeometricState :=
  let bearingToTarget :=
    bearingBetween lib own.latitude own.longitude target.latitude target.longitude
  let targetHeadingDeg := normalizeBearingDeg lib target.headingDeg
  let bearingRad := deg2rad bearingToTarget
  { targetId := target.targetId
    bearingDeg := normalizeBearingDeg lib bearingToTarget
    rangeM := target.rngM
    targetHeadingDeg := targetHeadingDeg
    targetSpeedKn := target.sogKn
    aspectDeg := normalizeBearingDeg lib (targetHeadingDeg - bearingToTarget + 180.0)
    relativeSpeedKn :=
      target.sogKn * lib.cos (deg2rad target.cogDeg - bearingRad) -
        own.sogKn * lib.cos (deg2rad own.cogDeg - bearingRad)
    cpaM := target.cpaM
    tcpaS := target.tcpaS
    ownshipHeadingDeg := own.headingDeg
    ownshipSpeedKn := own.sogKn
    targetShipTypePriority := classifyShipPriority target.classification
    targetCompliance := stdClamp target.targetCompliance 0.0 1.0 }

/-- `convert_world_state`. -/
def convertWorldState (world : WorldState) : List TargetGeometricState :=
  world.targets.map (convertTarget lib world.ownShip)

/-- `odd_domain_from_zone`. -/
def oddDomainFromZone (zone : UInt8) : OddDomain :=
  if zone = 0 then .oddA
  else if zone = 1 then .oddB
  else if zone = 2 then .oddC
  else if zone = 3 then .oddD
  else .oddUnknown

/-! ### Configuration -/

structure Config where
  lib : MathLibrary
  oddThresholds : OddDomain → Option RuleParameters
  worldStateTimeoutS : Float := 5.0

/-- The parameters of a domain without a section of its own. -/
def fallbackParameters : RuleParameters where
  tStandOnS := 480.0
  tActS := 240.0
  tEmergencyS := 60.0
  minAlterationDeg := 30.0
  cpaSafeM := 1852.0
  maxSpeedKn := 0.0

/-- The thresholds of `odd_aware_thresholds.yaml`. -/
def shippedThresholds : OddDomain → Option RuleParameters
  | .oddA =>
      some
        { tStandOnS := 480.0
          tActS := 240.0
          tEmergencyS := 60.0
          minAlterationDeg := 30.0
          cpaSafeM := 1852.0
          maxSpeedKn := 20.0 }
  | .oddB =>
      some
        { tStandOnS := 360.0
          tActS := 180.0
          tEmergencyS := 45.0
          minAlterationDeg := 20.0
          cpaSafeM := 926.0
          maxSpeedKn := 12.0 }
  | .oddC =>
      some
        { tStandOnS := 180.0
          tActS := 90.0
          tEmergencyS := 30.0
          minAlterationDeg := 30.0
          cpaSafeM := 463.0
          maxSpeedKn := 8.0 }
  | .oddD =>
      some
        { tStandOnS := 600.0
          tActS := 300.0
          tEmergencyS := 90.0
          minAlterationDeg := 10.0
          cpaSafeM := 2778.0
          maxSpeedKn := 8.0 }
  | .oddUnknown => none

/-! ### The node -/

structure ColregsReasonerNode where
  currentOdd : Option OddDomain := none
  lastWorldState : Option WorldState := none
  prevWorldStamp : Int := 0
  memory : UInt32 → TargetMemory := fun _ => {}

/-- `reset_cross_run_state_locked_`. -/
def ColregsReasonerNode.resetCrossRunState (node : ColregsReasonerNode) : ColregsReasonerNode :=
  { node with memory := fun _ => {} }

/-- The current domain, or the open sea. -/
def ColregsReasonerNode.domain (node : ColregsReasonerNode) : OddDomain :=
  node.currentOdd.getD .oddA

/-- `Time::seconds` and `Duration::seconds`. -/
def seconds (nanoseconds : Int) : Float := Float.ofInt nanoseconds / 1.0e9

variable (config : Config)

/-- `get_current_rule_params`. -/
def currentRuleParams (odd : OddDomain) : RuleParameters :=
  (config.oddThresholds odd).getD fallbackParameters

/-! ### The targets of a cycle -/

/-- The range of the first target with a key. -/
def currentRange (targets : List TrackedTarget) (mmsi : UInt32) : Float :=
  ((targets.find? fun target => target.mmsi = mmsi).map fun target => target.rngM).getD (-1.0)

/-- The memory and the evaluations of a cycle, with its own three maps. -/
structure Cycle where
  memory : UInt32 → TargetMemory
  semanticState : UInt32 → Option EncounterState := fun _ => none
  latchReleased : UInt32 → Bool := fun _ => false
  releasePredicted : UInt32 → Bool := fun _ => false
  evaluations : List RuleEvaluation := []

/-- The cycle of one target, from the cycle so far. -/
def Cycle.outcome (odd : OddDomain) (world : WorldState) (cycle : Cycle)
    (target : TargetGeometricState) : TargetOutcome :=
  reasonTarget config.lib odd (currentRuleParams config odd) target (seconds world.stamp)
    (currentRange world.targets target.mmsi) (cycle.memory target.mmsi)
    (cycle.semanticState target.mmsi)

/-- The loop of `run_reasoning` over the targets. -/
def Cycle.add (odd : OddDomain) (world : WorldState) (cycle : Cycle)
    (target : TargetGeometricState) : Cycle :=
  let outcome := cycle.outcome config odd world target
  { memory := Function.update cycle.memory target.mmsi outcome.memory
    semanticState := Function.update cycle.semanticState target.mmsi outcome.semanticState
    latchReleased := Function.update cycle.latchReleased target.mmsi outcome.latchReleased
    releasePredicted :=
      Function.update cycle.releasePredicted target.mmsi outcome.releasePredicted
    evaluations := cycle.evaluations ++ outcome.evaluations }

def reasonTargets (odd : OddDomain) (world : WorldState) (memory : UInt32 → TargetMemory) :
    Cycle :=
  (convertWorldState config.lib world).foldl (Cycle.add config odd world) { memory }

/-- The history of the targets, for the next cycle. -/
def updateHistory (targets : List TrackedTarget) (memory : UInt32 → TargetMemory) :
    UInt32 → TargetMemory :=
  targets.foldl
    (fun memory target =>
      Function.update memory target.mmsi
        { memory target.mmsi with
          prevTargetBearing := some target.brgDeg
          prevTargetRange := some target.rngM })
    memory

/-! ### Lifecycle semantics -/

/-- The first of the targets with the least closest approach. One that is not a number, or
that is not below the largest number, is never taken. -/
def closestTarget (targets : List TargetGeometricState) : Option TargetGeometricState :=
  (targets.foldl
    (fun closest target =>
      if target.cpaM < closest.1 then (target.cpaM, some target) else closest)
    (doubleMax, none)).2

/-- The target id of `build_colregs_chain`. -/
def chainTargetId (targets : List TargetGeometricState) (evaluations : List RuleEvaluation) :
    Option UInt64 :=
  if evaluations.any fun eval => eval.isActive then
    (closestTarget targets).map fun target => target.targetId
  else none

/-- The key of the target whose lifecycle is published, or zero. -/
def semanticTarget (targets : List TargetGeometricState) (evaluations : List RuleEvaluation) :
    UInt32 :=
  let ofChain := ((chainTargetId targets evaluations).map UInt64.toUInt32).getD 0
  let ofActive := ((evaluations.find? fun eval => eval.isActive).map
    fun eval => eval.targetId.toUInt32).getD 0
  let ofClosest := ((closestTarget targets).map TargetGeometricState.mmsi).getD 0
  if ofChain ≠ 0 then ofChain else if ofActive ≠ 0 then ofActive else ofClosest

/-- The lifecycle a state stands for. -/
def EncounterState.lifecycle : EncounterState → EncounterLifecycle
  | .clear => .clear
  | .detected | .candidate | .preplan => .onset
  | .active | .monitor => .active
  | .release => .release

/-- `populate_colregs_semantics_`. -/
def populateColregsSemantics (constraint : COLREGsConstraint) (state : EncounterState)
    (latchReleased releasePredicted : Bool) : COLREGsConstraint :=
  { constraint with
    encounterState := state.lifecycle
    pastClear :=
      (state.lifecycle = .release || state.lifecycle = .clear) && latchReleased
    releasePredicted := releasePredicted }

/-- The constraint of a cycle. -/
def Cycle.constraint (cycle : Cycle) (odd : OddDomain) (world : WorldState) (nowNs : Int) :
    COLREGsConstraint :=
  let targets := convertWorldState config.lib world
  let constraint :=
    { generate (currentRuleParams config odd) world.confidence cycle.evaluations with
      stamp := nowNs
      colregsChainTargetId := chainTargetId targets cycle.evaluations }
  let mmsi := semanticTarget targets cycle.evaluations
  if mmsi = 0 then populateColregsSemantics constraint .clear false false
  else
    populateColregsSemantics constraint ((cycle.semanticState mmsi).getD .clear)
      (cycle.latchReleased mmsi) (cycle.releasePredicted mmsi)

/-! ### The reasoning cycle -/

/-- The constraint that is published while the world state is stale. -/
def degradedConstraint (nowNs : Int) (worldAge : Float) : COLREGsConstraint where
  stamp := nowNs
  phase := "DEGRADED"
  confidence := 0.5
  constraints := [worldAge]

/-- A stamp far behind the one of the cycle before starts a new run. -/
def ColregsReasonerNode.rewinds (node : ColregsReasonerNode) (world : WorldState) : Bool :=
  node.prevWorldStamp > 0 && seconds (world.stamp - node.prevWorldStamp) < -1.0

/-- The node after the check of the stamp. -/
def ColregsReasonerNode.observe (node : ColregsReasonerNode) (world : WorldState) :
    ColregsReasonerNode :=
  let node := if node.rewinds world then node.resetCrossRunState else node
  { node with prevWorldStamp := world.stamp }

/-- The world state is too old. -/
def isStale (world : WorldState) (nowNs : Int) : Bool :=
  seconds (nowNs - world.stamp) > config.worldStateTimeoutS

/-- A cycle on a world state, with the constraint it publishes. -/
def ColregsReasonerNode.reasonOn (node : ColregsReasonerNode) (world : WorldState)
    (nowNs : Int) : ColregsReasonerNode × COLREGsConstraint :=
  let node := node.observe world
  if isStale config world nowNs then
    (node, degradedConstraint nowNs (seconds (nowNs - world.stamp)))
  else
    let cycle := reasonTargets config node.domain world node.memory
    ({ node with memory := updateHistory world.targets cycle.memory },
      cycle.constraint config node.domain world nowNs)

/-- `run_reasoning`. -/
def ColregsReasonerNode.runReasoning (node : ColregsReasonerNode) (nowNs : Int) :
    ColregsReasonerNode × Option COLREGsConstraint :=
  match node.lastWorldState with
  | none => (node, none)
  | some world =>
      let (node, constraint) := node.reasonOn config world nowNs
      (node, some constraint)

/-! ### Events -/

inductive Event where
  | oddState (currentZone : UInt8)
  | worldState (world : WorldState)
  | reasoningTick (nowNs : Int)
  | scenarioLoaded

/-- One callback, with the constraint it publishes. -/
def ColregsReasonerNode.handle (node : ColregsReasonerNode) :
    Event → ColregsReasonerNode × Option COLREGsConstraint
  | .oddState currentZone =>
      ({ node with currentOdd := some (oddDomainFromZone currentZone) }, none)
  | .worldState world => ({ node with lastWorldState := some world }, none)
  | .reasoningTick nowNs => node.runReasoning config nowNs
  | .scenarioLoaded => (node.resetCrossRunState, none)

/-- The node after a callback. -/
def ColregsReasonerNode.next (node : ColregsReasonerNode) (event : Event) :
    ColregsReasonerNode :=
  (node.handle config event).1

/-- What a run publishes, callback by callback. -/
def ColregsReasonerNode.published (node : ColregsReasonerNode) :
    List Event → List (Option COLREGsConstraint)
  | [] => []
  | event :: later =>
      (node.handle config event).2 :: (node.next config event).published later

end MassL3.M6.Colregs
