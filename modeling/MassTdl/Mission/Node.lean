/-
This file embeds the mission manager node: the messages it caches, the cursor along the planned
route, the callbacks of its subscriptions and timers, and the messages they publish.

The log is left out. A callback reads the steady clock once. A position is its latitude and
longitude; the altitude is never read.
-/

import MassTdl.Mission.Monitors
import MassTdl.Mission.StateMachine
import MassTdl.Mission.Validator
import MassTdl.Runs

namespace MassL3.M3

open Binary64
open MassL3.M6.Colregs (MathLibrary)

/-- The parameters, and the functions of the mathematics library. -/
structure Config where
  lib : MathLibrary
  voyageTask : VoyageTaskValidatorConfig := {}
  eta : EtaProjectorConfig := {}
  trigger : ReplanTriggerConfig := {}
  attemptMaxCount : Int := 3
  distanceCompletionM : Float := 50.0
  currentError : CurrentErrorMonitorConfig := {}
  l1Watchdog : L1WatchdogConfig := {}
  l1TimeoutS : Float := 30.0
  l2TimeoutS : Float := 5.0
  l1WatchdogBypass : Bool := true
  replanCooldownS : Float := 10.0

structure MissionManagerNode where
  stateMachine : MissionStateMachine := {}
  replanTrigger : ReplanRequestTrigger := {}
  etaProjector : EtaProjector := {}
  currentErrorMonitor : CurrentErrorMonitor := {}
  l1Watchdog : L1WatchdogMonitor := {}
  lastOddState : Option ODDState := none
  lastWorldState : Option WorldState := none
  lastPlannedRoute : Option PlannedRoute := none
  currentWpIndex : Nat := 0
  replanAttemptCount : Int := 0
  replanDeadline : Option Int := none
  currentPosition : GeoPoint := {}
  lastCurrentErrorSeverity : CurrentErrorSeverity := .normal
  lastL1WatchdogStatus : L1WatchdogStatus := .ok
  lastOddZone : UInt8 := 0xFF
  lastPlannedRouteTime : Option Int := none
  lastVoyageTaskTime : Option Int := none
  lastReplanTime : Int

/-- The constructor. The last replan lies an hour back, so that the first is not held up. -/
def MissionManagerNode.construct (nowSteady : Int) : MissionManagerNode where
  stateMachine := ({} : MissionStateMachine).handleEvent .nodeReady
  lastReplanTime := nowSteady - 3600 * kNanoPerSec

/-! ### The target of the mission goal -/

def kMetersPerDegLat : Float := 111120.0

def kFinalLegLookaheadM : Float := 1000.0

/-- Past the end of the final leg the target runs ahead of the ship on the line of the leg. -/
def lookaheadPoint (lib : MathLibrary) (prevPoint finalPoint ownPoint : GeoPoint) :
    Option GeoPoint :=
  let latRefDeg := (prevPoint.latitude + finalPoint.latitude) * 0.5
  let metersPerDegLon := kMetersPerDegLat * lib.cos (latRefDeg * kDegToRad)
  let segEM := (finalPoint.longitude - prevPoint.longitude) * metersPerDegLon
  let segNM := (finalPoint.latitude - prevPoint.latitude) * kMetersPerDegLat
  let segLenM := lib.hypot segEM segNM
  let ownEM := (ownPoint.longitude - prevPoint.longitude) * metersPerDegLon
  let ownNM := (ownPoint.latitude - prevPoint.latitude) * kMetersPerDegLat
  let alongM := (ownEM * segEM + ownNM * segNM) / segLenM
  if metersPerDegLon.abs > 1.0 && segLenM > 1.0 && alongM > segLenM then
    let targetAlongM := alongM + kFinalLegLookaheadM
    some
      { longitude := prevPoint.longitude + segEM / segLenM * targetAlongM / metersPerDegLon
        latitude := prevPoint.latitude + segNM / segLenM * targetAlongM / kMetersPerDegLat }
  else none

/-- The pose before the cursor and the pose at the cursor, where the cursor is inside. -/
def PlannedRoute.leg (route : PlannedRoute) (wpIndex : Nat) : Option (GeoPoint × GeoPoint) :=
  match route.poses[wpIndex - 1]?, route.poses[wpIndex]? with
  | some prevPose, some targetPose => some (prevPose, targetPose)
  | _, _ => none

/-- The cursor moves on while the ship is close to the waypoint it points to. `poses` are those
from the cursor on, and the last of them is never passed. -/
def advanceWaypoint (lib : MathLibrary) (thresholdM : Float) (own : GeoPoint) :
    List GeoPoint → Nat → Nat
  | target :: next :: later, wpIndex =>
      if haversineNm lib own target * 1852.0 < thresholdM then
        advanceWaypoint lib thresholdM own (next :: later) (wpIndex + 1)
      else wpIndex
  | _, wpIndex => wpIndex

/-- The `fsm_state` of a goal. A transit to the minimum risk condition has no number of its
own. -/
def MissionState.toUInt8 : MissionState → UInt8
  | .init | .mrcTransit => 0
  | .idle => 1
  | .taskValidation => 2
  | .awaitingRoute => 3
  | .active => 4
  | .replanWait => 5

namespace MissionManagerNode

variable (config : Config) (node : MissionManagerNode)

/-- The leg the ship is on. -/
def currentLeg : Option (GeoPoint × GeoPoint) :=
  node.lastPlannedRoute.bind fun route => route.leg node.currentWpIndex

/-- The point an active mission steers for. -/
def targetPoint (route : PlannedRoute) (leg : GeoPoint × GeoPoint) : GeoPoint :=
  match node.lastWorldState with
  | some world =>
      if node.currentWpIndex > 0 ∧ node.currentWpIndex + 1 = route.poses.length then
        (lookaheadPoint config.lib leg.1 leg.2 world.ownShip.position).getD leg.2
      else leg.2
  | none => leg.2

/-! ### Publications -/

def asdrRecord (decisionType : String) (decision : List (String × DecisionValue)) : Published :=
  .asdrRecord { decisionType, decision }

/-- The target of an active mission: the default where the cursor is outside of the route. -/
def goalTarget : GeoPoint :=
  match node.lastPlannedRoute, node.currentLeg with
  | some route, some leg => node.targetPoint config route leg
  | _, _ => {}

/-- The cross-track error is measured against the leg to the target. -/
def measureGoalLeg : CurrentErrorMonitor :=
  match node.lastPlannedRoute, node.currentLeg, node.lastWorldState with
  | some route, some leg, some world =>
      node.currentErrorMonitor.updateRouteState config.lib world.ownShip.position leg.1
        (node.targetPoint config route leg)
  | _, _, _ => node.currentErrorMonitor

/-- The arrival time of a goal, while the route is fresh. -/
def goalEta (now : Int) : Float32 :=
  let routeFresh := node.lastPlannedRouteTime.any fun time => now - time ≤ 3 * kNanoPerSec
  match node.lastWorldState with
  | some world =>
      if routeFresh then
        ((node.etaProjector.project config.lib config.eta world now).map
          fun projection => narrow projection.etaS).getD (-1.0)
      else -1.0
  | none => -1.0

/-- `publish_mission_goal`. -/
def publishMissionGoal (now : Int) : MissionManagerNode × List Published :=
  let taskValidity := node.stateMachine.taskValidity.toUInt8
  if node.stateMachine.state ≠ .active then
    (node, [.missionGoal { fsmState := node.stateMachine.state.toUInt8, taskValidity }])
  else
    let node' := { node with currentErrorMonitor := node.measureGoalLeg config }
    let wd := node'.l1Watchdog.evaluate config.l1Watchdog now
    let cerd := node'.currentErrorMonitor.evaluate config.currentError now
    let confidence :=
      if cerd.severity = .high ∧ wd.confidenceFactor > 0.4 then
        let lowered := wd.confidenceFactor * 0.85
        if lowered < 0.4 then 0.4 else lowered
      else wd.confidenceFactor
    (node', [.missionGoal
      { currentTargetWp := node.goalTarget config
        etaToTargetS := node.goalEta config now
        confidence
        currentErrorSeverity := cerd.severity.toUInt8
        xteNm := cerd.xteNm
        seaCurrentKn := cerd.seaCurrentKn
        l1WatchdogStatus := wd.status.toUInt8
        fsmState := MissionState.active.toUInt8
        taskValidity }])

/-- `publish_asdr_snapshot`. -/
def publishAsdrSnapshot : List Published :=
  [asdrRecord "heartbeat"
    [("mission_state", .text node.stateMachine.state.name),
      ("replan_attempts", .count node.replanAttemptCount)]]

/-! ### Voyage tasks -/

/-- The position a task is checked against. -/
def ownPosition : GeoPoint :=
  node.lastWorldState.elim node.currentPosition (·.ownShip.position)

def validateTask (task : VoyageTask) (nowRos : Int) : ValidationResult :=
  validate config.lib config.voyageTask task node.ownPosition nowRos

/-- `on_voyage_task`. -/
def onVoyageTask (task : VoyageTask) (nowRos nowSteady : Int) :
    MissionManagerNode × List Published :=
  let result := node.validateTask config task nowRos
  let node :=
    { node with
      lastVoyageTaskTime := some nowSteady
      l1Watchdog := L1WatchdogMonitor.notifyVoyageTaskReceived nowSteady
      stateMachine := node.stateMachine.handleEvent .voyageTaskReceived }
  if result.isValid then
    let node := { node with stateMachine := node.stateMachine.handleEvent .validationPassed }
    let accepted := asdrRecord "voyage_task_accepted" [("task_id", .count task.taskId.toNat)]
    if node.stateMachine.state = .active then
      let published := node.publishMissionGoal config nowSteady
      (published.1, accepted :: published.2)
    else (node, [accepted])
  else
    ({ node with stateMachine := node.stateMachine.handleEvent .validationFailed },
      [asdrRecord "voyage_task_rejected" [("reason", .text result.failedCheck)]])

/-! ### The route -/

/-- A route with an id other than the cached one's. -/
def isNewRoute (route : PlannedRoute) : Bool :=
  node.lastPlannedRoute.all (·.routeId ≠ route.routeId)

/-- `on_planned_route`. An active mission does not switch routes. -/
def onPlannedRoute (route : PlannedRoute) (nowSteady : Int) : MissionManagerNode :=
  if node.isNewRoute route && node.lastPlannedRoute.isSome && node.stateMachine.state = .active
  then node
  else
    { node with
      lastPlannedRouteTime := some nowSteady
      lastPlannedRoute := some route
      currentWpIndex := if node.isNewRoute route then 0 else node.currentWpIndex
      etaProjector := node.etaProjector.updateRoute route
      stateMachine :=
        if node.stateMachine.state = .awaitingRoute then
          node.stateMachine.handleEvent .routeReceived
        else node.stateMachine }

/-- `on_speed_profile`. -/
def onSpeedProfile (profile : SpeedProfile) : MissionManagerNode :=
  { node with etaProjector := node.etaProjector.updateSpeedProfile profile }

/-! ### Replanning -/

/-- What a response means for the mission. -/
def responseOutcome (response : ReplanResponse) : ReplanOutcome :=
  handleResponse config.attemptMaxCount response node.replanAttemptCount

/-- `on_replan_response`. -/
def onReplanResponse (response : ReplanResponse) : MissionManagerNode × List Published :=
  let outcome := node.responseOutcome config response
  let node :=
    { node with stateMachine := node.stateMachine.handleEvent (.replanResponseReceived outcome) }
  if outcome.success then
    ({ node with
        replanAttemptCount := 0
        replanDeadline := none
        replanTrigger := ReplanRequestTrigger.resetDegradedTimer },
      [asdrRecord "replan_success" []])
  else if outcome.escalateToMrc then
    ({ node with replanDeadline := none },
      [asdrRecord "replan_escalate_mrc" [("rationale", .text outcome.rationale)]])
  else (node, [asdrRecord "replan_failed" [("rationale", .text outcome.rationale)]])

/-- The cooldown since the last request has passed. -/
def cooledDown (now : Int) : Bool :=
  !(seconds (now - node.lastReplanTime) < config.replanCooldownS)

/-- The decision on a request, with the trigger it leaves. -/
def evaluateTrigger (odd : ODDState) (currentEtaS plannedEtaS : Float) (now : Int) :
    ReplanDecision × ReplanRequestTrigger :=
  node.replanTrigger.evaluate config.trigger odd currentEtaS plannedEtaS node.replanAttemptCount
    now

/-- `check_and_trigger_replan`. -/
def checkAndTriggerReplan (odd : ODDState) (currentEtaS plannedEtaS : Float) (now : Int) :
    MissionManagerNode × List Published :=
  if !node.cooledDown config now then (node, [])
  else
    let (decision, replanTrigger) := node.evaluateTrigger config odd currentEtaS plannedEtaS now
    if !decision.shouldTrigger then ({ node with replanTrigger }, [])
    else
      ({ node with
          replanTrigger
          lastReplanTime := now
          stateMachine := node.stateMachine.handleEvent .replanTriggered
          replanAttemptCount := node.replanAttemptCount + 1
          replanDeadline := some (now + nanoseconds decision.deadlineS) },
        [.replanRequest
            { reason := decision.reason
              deadlineS := narrow decision.deadlineS
              currentPosition := node.currentPosition
              confidence := 1.0 },
          asdrRecord "replan_triggered"
            [("reason", .text decision.rationale), ("deadline_s", .number decision.deadlineS)]])

/-- The arrival time an ODD state is judged with. -/
def projectedEtaS (now : Int) : Float :=
  (node.lastWorldState.bind fun world =>
    (node.etaProjector.project config.lib config.eta world now).map (·.etaS)).getD 0.0

/-- `on_odd_state`. -/
def onOddState (odd : ODDState) (now : Int) : MissionManagerNode × List Published :=
  let node := { node with lastOddState := some odd }
  if !node.stateMachine.hasActiveMission then (node, [])
  else
    let zoneChanged : Bool := odd.currentZone ≠ node.lastOddZone
    let node := { node with lastOddZone := odd.currentZone }
    let triggered := node.checkAndTriggerReplan config odd (node.projectedEtaS config now) 0.0 now
    if zoneChanged then
      let published := triggered.1.publishMissionGoal config now
      (published.1, triggered.2 ++ published.2)
    else triggered

/-- `check_replan_deadline`. -/
def checkReplanDeadline (now : Int) : MissionManagerNode × List Published :=
  if node.stateMachine.state ≠ .replanWait then (node, [])
  else
    match node.replanDeadline with
    | none => (node, [])
    | some deadline =>
        if now ≥ deadline then
          ({ node with
              stateMachine := node.stateMachine.handleEvent .replanDeadlineExpired
              replanDeadline := none },
            [asdrRecord "replan_deadline_expired" [("attempts", .count node.replanAttemptCount)]])
        else (node, [])

/-! ### World states and tracking errors -/

/-- `check_current_error_severity_change`. -/
def checkCurrentErrorSeverityChange (now : Int) : MissionManagerNode × List Published :=
  if node.stateMachine.state ≠ .active then (node, [])
  else
    let reading := node.currentErrorMonitor.evaluate config.currentError now
    if reading.severity = node.lastCurrentErrorSeverity then (node, [])
    else
      let records :=
        if reading.severity = .high then
          [asdrRecord "current_error_high_alert"
            [("xte_nm", .single reading.xteNm), ("sea_current_kn", .single reading.seaCurrentKn)]]
        else if node.lastCurrentErrorSeverity = .high then
          [asdrRecord "current_error_resolved"
            [("severity", .count reading.severity.toUInt8.toNat)]]
        else []
      let published :=
        { node with lastCurrentErrorSeverity := reading.severity }.publishMissionGoal config now
      (published.1, records ++ published.2)

/-- The cursor after a world state. -/
def nextWpIndex (own : GeoPoint) : Nat :=
  node.lastPlannedRoute.elim node.currentWpIndex fun route =>
    advanceWaypoint config.lib config.distanceCompletionM own
      (route.poses.drop node.currentWpIndex) node.currentWpIndex

/-- What a world state writes before anything is published. -/
def cacheWorldState (world : WorldState) : MissionManagerNode :=
  let node :=
    { node with
      lastWorldState := some world
      currentPosition := world.ownShip.position
      currentWpIndex := node.nextWpIndex config world.ownShip.position }
  let monitor :=
    match node.currentLeg with
    | some leg =>
        node.currentErrorMonitor.updateRouteState config.lib world.ownShip.position leg.1 leg.2
    | none => node.currentErrorMonitor
  { node with currentErrorMonitor := monitor.updateWorldState world }

def hasL1Task (now : Int) : Bool :=
  node.lastVoyageTaskTime.any fun time => younger now time config.l1TimeoutS

def hasL2Route (now : Int) : Bool :=
  node.lastPlannedRouteTime.any fun time => younger now time config.l2TimeoutS

def autonomyOk : Bool := node.lastOddState.any fun odd => odd.currentZone ≠ oddZoneD

/-- The validity of the task after a world state. There is no check of the chart. -/
def refreshTaskValidity (now : Int) : MissionManagerNode × List Published :=
  if node.stateMachine.state ≠ .active then (node, [])
  else
    let updated :=
      node.stateMachine.updateTaskValidity (node.hasL1Task config now)
        (node.hasL2Route config now) true node.autonomyOk
    let node := { node with stateMachine := updated.1 }
    if updated.2 then node.publishMissionGoal config now else (node, [])

/-- `on_world_state`. -/
def onWorldState (world : WorldState) (now : Int) : MissionManagerNode × List Published :=
  let checked := (node.cacheWorldState config world).checkCurrentErrorSeverityChange config now
  let refreshed := checked.1.refreshTaskValidity config now
  (refreshed.1, checked.2 ++ refreshed.2)

/-- `on_tracking_error`. -/
def onTrackingError (msg : TrackingError) (now : Int) : MissionManagerNode × List Published :=
  { node with
    currentErrorMonitor :=
      node.currentErrorMonitor.updateTrackingError msg now }.checkCurrentErrorSeverityChange
        config now

/-! ### The watchdog -/

def publishTorRequest : Published :=
  .torRequest
    { reason := 1
      deadlineS := 60.0
      targetLevel := 2
      confidence := 1.0 }

/-- `evaluate_l1_watchdog`. -/
def evaluateL1Watchdog (now : Int) : MissionManagerNode × List Published :=
  if config.l1WatchdogBypass then
    if node.lastL1WatchdogStatus ≠ .ok then
      { node with lastL1WatchdogStatus := .ok }.publishMissionGoal config now
    else (node, [])
  else if node.stateMachine.state ≠ .active then (node, [])
  else
    let result := node.l1Watchdog.evaluate config.l1Watchdog now
    if result.status = node.lastL1WatchdogStatus then (node, [])
    else
      let records :=
        match result.status with
        | .warning => [asdrRecord "l1_dropout_warning" [("elapsed_s", .number result.elapsedS)]]
        | .timeout =>
            [asdrRecord "l1_dropout_timeout" [("elapsed_s", .number result.elapsedS)],
              publishTorRequest]
        | .ok => [asdrRecord "l1_recovered" []]
      let published :=
        { node with lastL1WatchdogStatus := result.status }.publishMissionGoal config now
      (published.1, records ++ published.2)

end MissionManagerNode

/-! ### Events -/

/-- A message or a timer, with the clock readings of its callback. -/
inductive Event where
  | voyageTask (task : VoyageTask) (nowRos now : Int)
  | plannedRoute (route : PlannedRoute) (now : Int)
  | speedProfile (profile : SpeedProfile) (now : Int)
  | replanResponse (response : ReplanResponse) (now : Int)
  | oddState (odd : ODDState) (now : Int)
  | worldState (world : WorldState) (now : Int)
  | trackingError (msg : TrackingError) (now : Int)
  | missionGoalTick (now : Int)
  | asdrTick (now : Int)
  | replanDeadlineTick (now : Int)
  | heartbeatTick (now : Int)
  | l1WatchdogTick (now : Int)

/-- The steady clock at an event. -/
def Event.now : Event → Int
  | .voyageTask _ _ now | .plannedRoute _ now | .speedProfile _ now | .replanResponse _ now
  | .oddState _ now | .worldState _ now | .trackingError _ now | .missionGoalTick now
  | .asdrTick now | .replanDeadlineTick now | .heartbeatTick now | .l1WatchdogTick now => now

namespace MissionManagerNode

variable (config : Config) (node : MissionManagerNode)

/-- A callback, with what it publishes. -/
def handle : Event → MissionManagerNode × List Published
  | .voyageTask task nowRos now => node.onVoyageTask config task nowRos now
  | .plannedRoute route now => (node.onPlannedRoute route now, [])
  | .speedProfile profile _ => (node.onSpeedProfile profile, [])
  | .replanResponse response _ => node.onReplanResponse config response
  | .oddState odd now => node.onOddState config odd now
  | .worldState world now => node.onWorldState config world now
  | .trackingError msg now => node.onTrackingError config msg now
  | .missionGoalTick now => node.publishMissionGoal config now
  | .asdrTick _ => (node, node.publishAsdrSnapshot)
  | .replanDeadlineTick now => node.checkReplanDeadline now
  | .heartbeatTick _ => (node, [])
  | .l1WatchdogTick now => node.evaluateL1Watchdog config now

/-- The node after a callback. -/
def next (event : Event) : MissionManagerNode := (node.handle config event).1

/-- The publications of a callback. -/
def published (event : Event) : List Published := (node.handle config event).2

/-- The node after a run from its construction. -/
def after (config : Config) (nowSteady : Int) (events : List Event) : MissionManagerNode :=
  Runs.run (next config) (construct nowSteady) events

end MissionManagerNode

/-! ### A short voyage -/

/-- The functions of the library for the small angles of a short voyage near the origin, as the
first terms of their series. -/
def smallAngleLibrary : MathLibrary where
  sin angle := angle - angle * angle * angle / 6.0
  cos angle := 1.0 - angle * angle / 2.0
  atan2 y x :=
    let ratio := y / x
    ratio - ratio * ratio * ratio / 3.0
  hypot x y := (x * x + y * y).sqrt
  fmod value _ := value
  turns := 0

def shortVoyageConfig : Config where
  lib := smallAngleLibrary

def secondsNs (second : Int) : Int := second * kNanoPerSec

/-- A task that starts where the ship lies. -/
def shortVoyage : VoyageTask where
  stamp := { sec := 0, nanosec := 0 }
  taskId := 1
  departure := {}
  destination := { latitude := 0.1 }
  etaWindowLatest := { sec := 3600, nanosec := 0 }
  optimizationPriority := "balanced"
  mandatoryWaypoints := [{ latitude := 0.1 }]
  exclusionZones := []

/-- A route through points on the meridian. -/
def meridianRoute (routeId : UInt64) (latitudes : List Float) : PlannedRoute where
  routeId := routeId
  poses := latitudes.map fun latitude => { latitude }
  totalDistanceNm := 6.0

/-- The ship on the meridian. -/
def onMeridian (second : Int32) (latitude : Float) : WorldState where
  stamp := { sec := second, nanosec := 0 }
  ownShip :=
    { position := { latitude }
      sogKn := 10.0
      currentSpeedKn := 0.0 }

/-- The task is accepted and the route arrives: the mission is active. -/
def departureEvents (latitudes : List Float) : List Event :=
  [.voyageTask shortVoyage 0 0, .plannedRoute (meridianRoute 1 latitudes) 0]

/-- An ODD state that prepares for the minimum risk. -/
def mrcPrepState : ODDState where
  currentZone := 0
  envelopeState := envelopeMrcPrep
  conformanceScore := 1.0

/-- After a second another route is asked for. -/
def requestEvents : List Event :=
  departureEvents [0.1] ++ [.oddState mrcPrepState (secondsNs 1)]

end MassL3.M3
