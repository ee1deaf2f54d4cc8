/-
This file embeds the envelope manager: the inputs it caches, the cycle that scores them, steps
the state machine and asks for a takeover when the automation can cope for no longer than the
operator needs, and the messages it publishes.

The audit records, the transparency data, the log and the selection of a minimum-risk manoeuvre,
whose result is only logged, are left out, as are the texts that explain a takeover request and
the zone. A cycle reads the steady clock once.
-/

import MassTdl.Odd.ConformanceScore

namespace MassL3.M1

open Binary64
open Clamps

/-! ### Messages -/

structure SafetyAlert where
  severity : UInt8

def severityCritical : UInt8 := 2

def severityMrcRequired : UInt8 := 3

structure EnvironmentState where
  waveHeightM : Float
  visibilityRangeNm : Float

structure FilteredOwnShipState where
  navMode : String
  sogKn : Float

structure TrackedTarget where
  tcpaS : Float

structure WorldState where
  targets : List TrackedTarget

structure DiagnosticStatus where
  level : UInt8
  name : String
  values : List (String × String)

structure MissionGoal where
  fsmState : UInt8
  taskValidity : UInt8

def fsmActive : UInt8 := 4

def taskValidityValid : UInt8 := 1

inductive Mode where
  | normal
  | degraded
  | limited
  | emergency
  deriving DecidableEq, Repr

inductive Constraint where
  | none
  | speed
  | heading
  | both
  deriving DecidableEq, Repr

structure ModeCmd where
  mode : Mode
  behaviorConstraint : Constraint
  assumedOperatorState : UInt8
  rationale : String

structure ODDState where
  currentZone : OddZone
  autoLevel : UInt8
  health : SystemHealth
  envelopeState : EnvelopeState
  conformanceScore : Float32
  tmrS : Float32
  tdlS : Float32
  allowedZones : List OddZone
  rotMaxCurrent : Float32
  rationale : String

structure ToRRequest where
  deadlineS : Float32
  tdlS : Float32
  assumedOperatorState : UInt8
  reason : UInt8
  targetLevel : UInt8

structure SafetyConcernEvent where
  concernType : UInt8
  suggestedAction : String

inductive Published where
  | modeCmd (command : ModeCmd)
  | oddState (state : ODDState)
  | torRequest (request : ToRRequest)
  | safetyConcern (concern : SafetyConcernEvent)

def Published.isTorRequest : Published → Bool
  | .torRequest _ => true
  | _ => false

/-! ### What the messages say -/

def envelopeToMode : EnvelopeState → Mode
  | .inEnvelope | .edge => .normal
  | .out => .limited
  | .mrcPrep => .degraded
  | .mrcActive | .overridden => .emergency

def envelopeToConstraint : EnvelopeState → Constraint
  | .inEnvelope | .edge => .none
  | .mrcPrep => .speed
  | .out | .mrcActive | .overridden => .both

def scoreToHealth (score : Float) : SystemHealth :=
  if score ≥ 0.7 then .full
  else if score ≥ 0.3 then .degraded
  else .critical

def zonesForHealth : SystemHealth → List OddZone
  | .full => [.a, .b, .c, .d]
  | .degraded => [.a, .b]
  | .critical => [.a]

/-- The segments of `interpolate_rot_max`. -/
def interpolateSegments (speedKn : Float) : List RotMaxCurvePoint → Option Float
  | first :: second :: later =>
      let denom := second.speedKn - first.speedKn
      if ¬ denom ≤ 0.0 ∧ speedKn ≥ first.speedKn ∧ speedKn ≤ second.speedKn then
        let t := (speedKn - first.speedKn) / denom
        some (first.rotMaxDegS + t * (second.rotMaxDegS - first.rotMaxDegS))
      else interpolateSegments speedKn (second :: later)
  | _ => none

def interpolateRotMax (speedKn : Float) (curve : List RotMaxCurvePoint) : Float :=
  match curve with
  | [] => 0.0
  | [point] => point.rotMaxDegS
  | front :: second :: later =>
      let back := (second :: later).getLast (List.cons_ne_nil _ _)
      if speedKn ≤ front.speedKn then front.rotMaxDegS
      else if speedKn ≥ back.speedKn then back.rotMaxDegS
      else (interpolateSegments speedKn curve).getD back.rotMaxDegS

/-! ### Diagnostics -/

structure DiagExtract where
  radarHealthOk : Bool := false
  commOk : Bool := false
  tmrAvailable : Bool := false
  commDelayS : Float := 999.0
  anySensorCritical : Bool := true

def contains (name part : String) : Bool := 1 < (name.splitOn part).length

/-- One status of `extract_diagnostics`; the last delay named in it counts. -/
def DiagExtract.read (strtod : String → Float) (result : DiagExtract)
    (status : DiagnosticStatus) : DiagExtract :=
  let ok : Bool := status.level = 0
  let result := if contains status.name "radar" then { result with radarHealthOk := ok }
    else result
  let result := if contains status.name "comm" then
      { result with
        commOk := ok
        commDelayS := status.values.foldl (fun delay (key, value) =>
          if key = "delay_s" then strtod value else delay) result.commDelayS }
    else result
  let result := if contains status.name "tmr" then { result with tmrAvailable := ok }
    else result
  if status.level = 2 ∨ status.level = 3 then { result with anySensorCritical := true }
  else result

def extractDiagnostics (strtod : String → Float) :
    Option (List DiagnosticStatus) → DiagExtract
  | none => {}
  | some statuses =>
      statuses.foldl (DiagExtract.read strtod) { anySensorCritical := false, commDelayS := 0.0 }

/-! ### The nearest encounter -/

/-- One target of `compute_min_tcpa`: the least time so far, and whether there was one. -/
def nearerTarget (best : Float × Bool) (target : TrackedTarget) : Float × Bool :=
  if target.tcpaS ≥ 0.0 && (!best.2 || target.tcpaS < best.1) then (target.tcpaS, true) else best

/-! ### The node -/

/-- The parameters, and the library function that reads a number. -/
structure Config where
  params : ParameterSet
  strtod : String → Float

structure OddEnvelopeManagerNode where
  stateMachine : OddStateMachine
  lastEnvState : Option EnvironmentState := none
  lastOwnShip : Option FilteredOwnShipState := none
  lastWorldState : Option WorldState := none
  lastSafetyAlert : Option SafetyAlert := none
  lastDiagnostics : Option (List DiagnosticStatus) := none
  lastMissionGoal : Option MissionGoal := none
  lastWorldStateReceived : Int := 0
  lastSafetyAlertReceived : Int := 0
  overrideActive : Bool := false
  reflexActive : Bool := false
  lastScore : ScoreTriple := {}
  lastTmrTdl : TmrTdlPair := {}
  currentZone : OddZone := .a
  currentAutoLevel : UInt8 := 3
  currentOperatorState : UInt8 := 0
  conformanceEma : EmaState := {}
  lastM7Heartbeat : Int := 0
  prevM7Heartbeat : Int := 0
  hasPrevM7Heartbeat : Bool := false
  mttfRollingAvgS : Float := 0.0
  m3ActiveDurationS : Float := 0.0
  watchdogConcernEmitted : Bool := false

/-- The constructor. Parameters that one of the components refuses end the process. -/
def OddEnvelopeManagerNode.construct (config : Config) (nowSteady : Int) :
    Except ErrorCode OddEnvelopeManagerNode :=
  let thresholds : StateMachineThresholds :=
    { inToEdge := config.params.inToEdge
      edgeToOut := config.params.edgeToOut
      staleDegradationFactor := config.params.staleDegradationFactor }
  match OddStateMachine.create thresholds nowSteady with
  | .error code => .error code
  | .ok stateMachine =>
      if weightsAccepted config.params then
        match createTmrTdl config.params with
        | .error code => .error code
        | .ok () => .ok { stateMachine }
      else .error .weightsNotNormalized

/-- Nanoseconds, in seconds. -/
def seconds (nanoseconds : Int) : Float := Float.ofInt nanoseconds / 1.0e9

def kMainLoopPeriodS : Float := 0.25

namespace OddEnvelopeManagerNode

variable (config : Config) (node : OddEnvelopeManagerNode)

/-! ### Publications -/

def onOddStatePublishTick : Published :=
  let health := scoreToHealth node.lastScore.conformanceScore
  .oddState
    { currentZone := node.currentZone
      autoLevel := node.currentAutoLevel
      health
      envelopeState := node.stateMachine.current
      conformanceScore := narrow (stdClamp node.lastScore.conformanceScore 0.0 1.0)
      tmrS := narrow node.lastTmrTdl.tmrS
      tdlS := narrow node.lastTmrTdl.tdlS
      allowedZones := zonesForHealth health
      rotMaxCurrent := narrow (interpolateRotMax
        (node.lastOwnShip.elim 0.0 (·.sogKn)) config.params.rotMaxCurve)
      rationale := node.stateMachine.currentRationale }

def publishModeCmd : Published :=
  .modeCmd
    { mode := envelopeToMode node.stateMachine.current
      behaviorConstraint := envelopeToConstraint node.stateMachine.current
      assumedOperatorState := node.currentOperatorState
      rationale := node.stateMachine.currentRationale }

def handleStateChange : List Published :=
  [node.onOddStatePublishTick config, node.publishModeCmd]

def publishTorRequest (deadlineS tdlS : Float) : Published :=
  .torRequest
    { deadlineS := narrow deadlineS
      tdlS := narrow tdlS
      assumedOperatorState := node.currentOperatorState
      reason := 0
      targetLevel := 2 }

/-! ### The inputs of a cycle -/

def m7Critical : Bool := node.lastSafetyAlert.any (·.severity = severityCritical)

def m7MrcRequired : Bool := node.lastSafetyAlert.any (·.severity = severityMrcRequired)

def buildScoringInputs : ScoringInputs :=
  let diag := extractDiagnostics config.strtod node.lastDiagnostics
  { visibilityNm := node.lastEnvState.elim 2.0 (·.visibilityRangeNm)
    seaStateHs := node.lastEnvState.elim 2.0 (·.waveHeightM)
    gnssQualityGood := node.lastOwnShip.any fun own =>
      own.navMode = "OPTIMAL" || own.navMode = "DR_SHORT"
    radarHealthOk := diag.radarHealthOk
    commOk := diag.commOk
    commDelayS := diag.commDelayS
    anySensorCritical := diag.anySensorCritical
    tmrAvailable := diag.tmrAvailable }

/-- The scoring inputs of a cycle: its own flag replaces that of the diagnostics. -/
def cycleScoringInputs : ScoringInputs :=
  { node.buildScoringInputs config with anySensorCritical := node.m7Critical }

/-- The smoothed score of a cycle, with the filter it leaves. -/
def cycleScores : ScoreTriple × EmaState :=
  computeWithEma config.params (node.cycleScoringInputs config) node.conformanceEma
    kMainLoopPeriodS

def buildSystemHealth (nowSteady : Int) : SystemHealthSnapshot where
  mttfEstimateS := node.mttfRollingAvgS
  heartbeatRecencyS := seconds (nowSteady - node.lastM7Heartbeat)
  faultCount := if node.m7Critical then 1 else 0
  hasRedundancy := config.params.redundancyEnabled

def computeMinTcpa : Float :=
  node.lastWorldState.elim 9999.0 fun world =>
    (world.targets.foldl nearerTarget (9999.0, false)).1

def cycleTmrTdl (nowSteady : Int) : TmrTdlPair :=
  computeTmrTdl config.params
    { tcpaMinS := node.computeMinTcpa
      currentRttS := 0.0
      systemHealth := node.buildSystemHealth config nowSteady
      hScoreTmrAvailable := (node.cycleScoringInputs config).tmrAvailable }
    node.currentOperatorState

/-- `build_event_flags`, with the watchdog over the supervisor's heartbeat. -/
def cycleEvents (nowRos nowSteady : Int) : EventFlags where
  overrideActive := node.overrideActive
  reflexActivation := node.reflexActive
  m7SafetyCritical := node.m7Critical
  m7SafetyMrcRequired := node.m7MrcRequired
  m2InputStale := node.lastWorldState.isSome &&
    seconds (nowRos - node.lastWorldStateReceived) > 5.0
  m7InputStale := (node.lastSafetyAlert.isSome &&
      seconds (nowRos - node.lastSafetyAlertReceived) > 5.0) ||
    nowSteady - node.lastM7Heartbeat > 500000000

/-- What the state machine is stepped with. -/
def cycleInputs (nowRos nowSteady : Int) : StepInputs :=
  let score := (node.cycleScores config).1.conformanceScore
  let tmrTdl := node.cycleTmrTdl config nowSteady
  { score
    tdlS := tmrTdl.tdlS
    tmrS := tmrTdl.tmrS
    events := node.cycleEvents nowRos nowSteady
    zoneHealth := { zone := node.currentZone, health := scoreToHealth score }
    now := nowSteady }

/-! ### The watchdog over the mission manager -/

/-- The mission manager is active without a valid task. -/
def m3ActiveAndNotValid : Bool :=
  node.lastMissionGoal.any fun goal =>
    goal.fsmState = fsmActive && goal.taskValidity ≠ taskValidityValid

def m3RouteStaleWatchdog : OddEnvelopeManagerNode × List Published :=
  if node.m3ActiveAndNotValid then
    let duration := node.m3ActiveDurationS + kMainLoopPeriodS
    if duration > config.params.m3RouteStaleThresholdS ∧ ¬ node.watchdogConcernEmitted then
      ({ node with m3ActiveDurationS := duration, watchdogConcernEmitted := true },
        [.safetyConcern { concernType := 2, suggestedAction := "M3_route_stale_watchdog" }])
    else ({ node with m3ActiveDurationS := duration }, [])
  else if node.m3ActiveDurationS > 0.0 then
    ({ node with m3ActiveDurationS := 0.0, watchdogConcernEmitted := false }, [])
  else (node, [])

/-! ### The main loop -/

/-- The state machine takes a step; a state it leaves is reported. -/
def stepMachine (inputs : StepInputs) : OddEnvelopeManagerNode × List Published :=
  let stepped := { node with stateMachine := node.stateMachine.step inputs }
  if stepped.stateMachine.current ≠ node.stateMachine.current then
    (stepped, stepped.handleStateChange config)
  else (stepped, [])

/-- The node has prepared, is executing, or has been relieved. -/
def handedOver : Bool :=
  node.stateMachine.current = .mrcPrep || node.stateMachine.current = .mrcActive ||
    node.stateMachine.current = .overridden

/-- The takeover trigger: the preparation is forced and the takeover requested. -/
def triggerToR (inputs : StepInputs) : OddEnvelopeManagerNode × List Published :=
  let (forced, reported) :=
    node.stepMachine config { inputs with events := { m7SafetyMrcRequired := true } }
  (forced, reported ++ [forced.publishTorRequest inputs.tmrS inputs.tdlS])

def onMainLoopTick (nowRos nowSteady : Int) : OddEnvelopeManagerNode × List Published :=
  let inputs := node.cycleInputs config nowRos nowSteady
  let scored := { node with
    lastScore := (node.cycleScores config).1
    conformanceEma := (node.cycleScores config).2
    lastTmrTdl := node.cycleTmrTdl config nowSteady }
  let (watched, concerns) := scored.m3RouteStaleWatchdog config
  let (stepped, reported) := watched.stepMachine config inputs
  if inputs.tdlS ≤ inputs.tmrS ∧ ¬ stepped.handedOver then
    let (forced, requested) := stepped.triggerToR config inputs
    (forced, concerns ++ reported ++ requested)
  else (stepped, concerns ++ reported)

/-! ### Callbacks -/

def onSafetyAlert (alert : SafetyAlert) (nowRos nowSteady : Int) : OddEnvelopeManagerNode :=
  { node with
    lastSafetyAlert := some alert
    lastSafetyAlertReceived := nowRos
    lastM7Heartbeat := nowSteady }

def onM7Heartbeat (nowSteady : Int) : OddEnvelopeManagerNode :=
  { node with
    mttfRollingAvgS := if node.hasPrevM7Heartbeat then
        0.2 * seconds (nowSteady - node.prevM7Heartbeat) + (1.0 - 0.2) * node.mttfRollingAvgS
      else node.mttfRollingAvgS
    prevM7Heartbeat := node.lastM7Heartbeat
    hasPrevM7Heartbeat := true
    lastM7Heartbeat := nowSteady }

def onMissionGoal (goal : MissionGoal) : OddEnvelopeManagerNode :=
  if goal.taskValidity = taskValidityValid then
    { node with
      lastMissionGoal := some goal, m3ActiveDurationS := 0.0, watchdogConcernEmitted := false }
  else { node with lastMissionGoal := some goal }

end OddEnvelopeManagerNode

/-! ### Events -/

inductive Event where
  | safetyAlert (alert : SafetyAlert) (nowRos nowSteady : Int)
  | m7Heartbeat (nowSteady : Int)
  | operatorState (assumedOperatorState : UInt8)
  | reflexActivation (l3FreezeRequired : Bool)
  | overrideSignal (overrideActive : Bool)
  | environmentState (environment : EnvironmentState)
  | ownShipState (own : FilteredOwnShipState)
  | worldState (world : WorldState) (nowRos : Int)
  | diagnostics (statuses : List DiagnosticStatus)
  | missionGoal (goal : MissionGoal)
  | mainLoopTick (nowRos nowSteady : Int)
  | oddStatePublishTick

/-- One callback, with what it publishes. -/
def OddEnvelopeManagerNode.handle (config : Config) (node : OddEnvelopeManagerNode) :
    Event → OddEnvelopeManagerNode × List Published
  | .safetyAlert alert nowRos nowSteady => (node.onSafetyAlert alert nowRos nowSteady, [])
  | .m7Heartbeat nowSteady => (node.onM7Heartbeat nowSteady, [])
  | .operatorState assumed => ({ node with currentOperatorState := assumed }, [])
  | .reflexActivation freeze => ({ node with reflexActive := freeze }, [])
  | .overrideSignal active => ({ node with overrideActive := active }, [])
  | .environmentState environment => ({ node with lastEnvState := some environment }, [])
  | .ownShipState own => ({ node with lastOwnShip := some own }, [])
  | .worldState world nowRos =>
      ({ node with lastWorldState := some world, lastWorldStateReceived := nowRos }, [])
  | .diagnostics statuses => ({ node with lastDiagnostics := some statuses }, [])
  | .missionGoal goal => (node.onMissionGoal goal, [])
  | .mainLoopTick nowRos nowSteady => node.onMainLoopTick config nowRos nowSteady
  | .oddStatePublishTick => (node, [node.onOddStatePublishTick config])

/-- The node after a callback. -/
def OddEnvelopeManagerNode.next (config : Config) (node : OddEnvelopeManagerNode)
    (event : Event) : OddEnvelopeManagerNode :=
  (node.handle config event).1

namespace OddEnvelopeManagerNode

variable (config : Config) (node : OddEnvelopeManagerNode)

/-! ### What the node starts with -/

/-- Where the constructor accepts the parameters, everything but the state machine is as
declared. -/
theorem construct_fresh {config : Config} {nowSteady : Int} {node : OddEnvelopeManagerNode}
    (constructed : construct config nowSteady = .ok node) :
    ∃ stateMachine, node = { stateMachine } := by
  unfold construct at constructed
  simp only at constructed
  split at constructed
  · cases constructed
  · split_ifs at constructed
    split at constructed
    · cases constructed
    · cases constructed
      exact ⟨_, rfl⟩

/-! ### What a cycle may change -/

theorem m3RouteStaleWatchdog_frame :
    ∃ m3ActiveDurationS watchdogConcernEmitted, (node.m3RouteStaleWatchdog config).1 =
      { node with m3ActiveDurationS, watchdogConcernEmitted } := by
  unfold m3RouteStaleWatchdog
  simp only
  split_ifs <;> exact ⟨_, _, rfl⟩

theorem stepMachine_fst (inputs : StepInputs) :
    (node.stepMachine config inputs).1 =
      { node with stateMachine := node.stateMachine.step inputs } := by
  unfold stepMachine
  simp only
  split_ifs <;> rfl

/-- A cycle moves the state machine, keeps the results it computed, and leaves what the callbacks
stored. -/
theorem onMainLoopTick_frame (nowRos nowSteady : Int) :
    ∃ stateMachine m3ActiveDurationS watchdogConcernEmitted,
      (node.onMainLoopTick config nowRos nowSteady).1 =
        { node with
          stateMachine
          m3ActiveDurationS
          watchdogConcernEmitted
          lastScore := (node.cycleScores config).1
          conformanceEma := (node.cycleScores config).2
          lastTmrTdl := node.cycleTmrTdl config nowSteady } := by
  unfold onMainLoopTick triggerToR
  simp only
  obtain ⟨m3ActiveDurationS, watchdogConcernEmitted, watched⟩ :=
    m3RouteStaleWatchdog_frame config
      { node with
        lastScore := (node.cycleScores config).1
        conformanceEma := (node.cycleScores config).2
        lastTmrTdl := node.cycleTmrTdl config nowSteady }
  split_ifs
  · rw [stepMachine_fst, stepMachine_fst, watched]
    exact ⟨_, _, _, rfl⟩
  · rw [stepMachine_fst, watched]
    exact ⟨_, _, _, rfl⟩

end OddEnvelopeManagerNode

end MassL3.M1
