/-
This file says once what each callback of the mission manager can do: where it leads the mission,
and what it leaves of the route, the cursor and the deadline. The runs of the later files are
built on these facts and do not open the callbacks again.
-/

import MassTdl.Mission.Node

namespace MassL3.M3

namespace MissionManagerNode

variable (config : Config) (node : MissionManagerNode)

/-! ### What is only measured -/

/-- The node without what it only measures and reports. -/
def mission : MissionManagerNode :=
  { node with
    etaProjector := {}
    currentErrorMonitor := {}
    lastCurrentErrorSeverity := .normal
    lastL1WatchdogStatus := .ok }

theorem mission_stateMachine : node.mission.stateMachine = node.stateMachine := rfl

theorem mission_lastPlannedRoute : node.mission.lastPlannedRoute = node.lastPlannedRoute := rfl

theorem publishMissionGoal_mission (now : Int) :
    (node.publishMissionGoal config now).1.mission = node.mission := by
  unfold publishMissionGoal
  dsimp only
  split_ifs <;> rfl

theorem checkCurrentErrorSeverityChange_mission (now : Int) :
    (node.checkCurrentErrorSeverityChange config now).1.mission = node.mission := by
  unfold checkCurrentErrorSeverityChange
  dsimp only
  by_cases inactive : node.stateMachine.state ≠ .active
  · rw [if_pos inactive]
  · rw [if_neg inactive]
    split
    · rfl
    · exact publishMissionGoal_mission config _ now

theorem onTrackingError_mission (msg : TrackingError) (now : Int) :
    (node.onTrackingError config msg now).1.mission = node.mission := by
  unfold onTrackingError
  rw [checkCurrentErrorSeverityChange_mission]
  rfl

theorem evaluateL1Watchdog_mission (now : Int) :
    (node.evaluateL1Watchdog config now).1.mission = node.mission := by
  unfold evaluateL1Watchdog
  dsimp only
  split_ifs
  · exact publishMissionGoal_mission config _ now
  · rfl
  · rfl
  · rfl
  · exact publishMissionGoal_mission config _ now

/-! ### Voyage tasks -/

/-- The verdict on a task, as an event of the mission. -/
def verdictEvent (result : ValidationResult) : MissionEvent :=
  if result.isValid then .validationPassed else .validationFailed

theorem onVoyageTask_mission (task : VoyageTask) (nowRos now : Int) :
    (node.onVoyageTask config task nowRos now).1.mission =
      { node.mission with
        lastVoyageTaskTime := some now
        l1Watchdog := L1WatchdogMonitor.notifyVoyageTaskReceived now
        stateMachine := (node.stateMachine.handleEvent .voyageTaskReceived).handleEvent
          (verdictEvent (node.validateTask config task nowRos)) } := by
  unfold onVoyageTask verdictEvent
  dsimp only
  split_ifs
  · exact publishMissionGoal_mission config _ now
  · rfl
  · rfl

/-! ### ODD states -/

/-- The decision on an ODD state. -/
def oddDecision (odd : ODDState) (now : Int) : ReplanDecision :=
  (node.evaluateTrigger config odd (node.projectedEtaS config now) 0.0 now).1

/-- An ODD state for which the node asks for another route. -/
def Requests (odd : ODDState) (now : Int) : Prop :=
  node.stateMachine.hasActiveMission = true ∧ node.cooledDown config now = true ∧
    (node.oddDecision config odd now).shouldTrigger = true

instance (odd : ODDState) (now : Int) : Decidable (node.Requests config odd now) :=
  inferInstanceAs (Decidable (_ ∧ _ ∧ _))

/-- What an engaged mission does with an ODD state, before a change of the zone is reported. -/
theorem onOddState_mission_of_engaged (engaged : node.stateMachine.hasActiveMission = true)
    (odd : ODDState) (now : Int) :
    (node.onOddState config odd now).1.mission =
      ({ node with
        lastOddState := some odd
        lastOddZone := odd.currentZone }.checkAndTriggerReplan config odd
          (node.projectedEtaS config now) 0.0 now).1.mission := by
  unfold onOddState
  dsimp only
  rw [engaged, Bool.not_true, if_neg Bool.false_ne_true]
  split_ifs
  · exact publishMissionGoal_mission config _ now
  · rfl

/-- A request writes its time, its deadline and the number of attempts. -/
theorem onOddState_mission_of_requests {odd : ODDState} {now : Int}
    (requests : node.Requests config odd now) :
    ∃ trigger, (node.onOddState config odd now).1.mission =
      { node.mission with
        lastOddState := some odd
        lastOddZone := odd.currentZone
        replanTrigger := trigger
        lastReplanTime := now
        stateMachine := node.stateMachine.handleEvent .replanTriggered
        replanAttemptCount := node.replanAttemptCount + 1
        replanDeadline :=
          some (now + nanoseconds (node.oddDecision config odd now).deadlineS) } := by
  obtain ⟨engaged, cooled, triggers⟩ := requests
  refine ⟨(node.evaluateTrigger config odd (node.projectedEtaS config now) 0.0 now).2, ?_⟩
  unfold oddDecision evaluateTrigger at triggers
  unfold cooledDown at cooled
  rw [onOddState_mission_of_engaged config node engaged]
  unfold checkAndTriggerReplan cooledDown evaluateTrigger
  dsimp only
  rw [cooled, triggers, Bool.not_true, if_neg Bool.false_ne_true, if_neg Bool.false_ne_true]
  rfl

/-- Any other ODD state is only remembered. -/
theorem onOddState_mission_of_not_requests {odd : ODDState} {now : Int}
    (silent : ¬ node.Requests config odd now) :
    ∃ zone trigger, (node.onOddState config odd now).1.mission =
      { node.mission with
        lastOddState := some odd
        lastOddZone := zone
        replanTrigger := trigger } := by
  cases engaged : node.stateMachine.hasActiveMission with
  | false =>
    unfold onOddState
    dsimp only
    rw [engaged, Bool.not_false, if_pos rfl]
    exact ⟨_, _, rfl⟩
  | true =>
    rw [onOddState_mission_of_engaged config node engaged]
    unfold checkAndTriggerReplan
    dsimp only
    cases cooled : node.cooledDown config now with
    | false =>
      unfold cooledDown at cooled ⊢
      dsimp only
      rw [cooled, Bool.not_false, if_pos rfl]
      exact ⟨_, _, rfl⟩
    | true =>
      have quiet : (node.oddDecision config odd now).shouldTrigger = false :=
        Bool.eq_false_iff.mpr fun triggers => silent ⟨engaged, cooled, triggers⟩
      unfold cooledDown at cooled ⊢
      unfold oddDecision evaluateTrigger at quiet
      unfold evaluateTrigger
      dsimp only
      rw [cooled, quiet, Bool.not_true, Bool.not_false, if_neg Bool.false_ne_true, if_pos rfl]
      exact ⟨_, _, rfl⟩

/-! ### World states -/

theorem refreshTaskValidity_mission (now : Int) :
    ∃ validity, (node.refreshTaskValidity config now).1.mission =
      { node.mission with
        stateMachine := { node.stateMachine with taskValidity := validity } } := by
  unfold refreshTaskValidity
  dsimp only
  by_cases inactive : node.stateMachine.state ≠ .active
  · rw [if_pos inactive]
    exact ⟨_, rfl⟩
  · rw [if_neg inactive]
    unfold MissionStateMachine.updateTaskValidity
    rw [if_neg inactive]
    dsimp only
    split_ifs
    · exact ⟨_, publishMissionGoal_mission config _ now⟩
    · exact ⟨_, rfl⟩
    · exact ⟨_, publishMissionGoal_mission config _ now⟩
    · exact ⟨_, rfl⟩

/-- The four conditions on the task of an active mission. -/
theorem onWorldState_stateMachine (world : WorldState) (now : Int) :
    (node.onWorldState config world now).1.stateMachine =
      (node.stateMachine.updateTaskValidity (node.hasL1Task config now)
        (node.hasL2Route config now) true node.autonomyOk).1 := by
  have checked :=
    checkCurrentErrorSeverityChange_mission config (node.cacheWorldState config world) now
  have refreshed : ∀ node' : MissionManagerNode,
      (node'.refreshTaskValidity config now).1.stateMachine =
        (node'.stateMachine.updateTaskValidity (node'.hasL1Task config now)
          (node'.hasL2Route config now) true node'.autonomyOk).1 := by
    intro node'
    unfold refreshTaskValidity
    dsimp only
    by_cases inactive : node'.stateMachine.state ≠ .active
    · rw [if_pos inactive, MissionStateMachine.updateTaskValidity, if_pos inactive]
    · rw [if_neg inactive]
      split_ifs
      · exact congrArg (·.stateMachine) (publishMissionGoal_mission config _ now)
      · rfl
  have machine := congrArg (·.stateMachine) checked
  have task := congrArg (·.lastVoyageTaskTime) checked
  have route := congrArg (·.lastPlannedRouteTime) checked
  have odd := congrArg (·.lastOddState) checked
  simp only [mission] at machine task route odd
  unfold onWorldState
  dsimp only
  rw [refreshed, hasL1Task, hasL2Route, autonomyOk, machine, task, route, odd]
  rfl

/-- A world state moves the cursor, and beyond the position it changes the validity alone. -/
theorem onWorldState_mission (world : WorldState) (now : Int) :
    ∃ validity, (node.onWorldState config world now).1.mission =
      { node.mission with
        lastWorldState := some world
        currentPosition := world.ownShip.position
        currentWpIndex := node.nextWpIndex config world.ownShip.position
        stateMachine := { node.stateMachine with taskValidity := validity } } := by
  unfold onWorldState
  dsimp only
  have checked :=
    checkCurrentErrorSeverityChange_mission config (node.cacheWorldState config world) now
  obtain ⟨validity, same⟩ := refreshTaskValidity_mission config
    ((node.cacheWorldState config world).checkCurrentErrorSeverityChange config now).1 now
  refine ⟨validity, ?_⟩
  have machine : ((node.cacheWorldState config world).checkCurrentErrorSeverityChange config
      now).1.stateMachine = node.stateMachine := congrArg (·.stateMachine) checked
  rw [same, checked, machine]
  rfl

/-! ### What is sent to the state machine -/

/-- The events that a callback sends to the state machine. A world state sends none, but it
judges the task. -/
def sends (config : Config) (node : MissionManagerNode) : Event → List MissionEvent
  | .voyageTask task nowRos _ =>
      [.voyageTaskReceived, verdictEvent (node.validateTask config task nowRos)]
  | .plannedRoute _ _ =>
      if node.stateMachine.state = .awaitingRoute then [.routeReceived] else []
  | .replanResponse response _ => [.replanResponseReceived (node.responseOutcome config response)]
  | .oddState odd now => if node.Requests config odd now then [.replanTriggered] else []
  | .replanDeadlineTick now =>
      if node.stateMachine.state = .replanWait ∧ node.replanDeadline.any (· ≤ now) then
        [.replanDeadlineExpired]
      else []
  | _ => []

variable {config node}

theorem onPlannedRoute_stateMachine (route : PlannedRoute) (now : Int) :
    (node.next config (.plannedRoute route now)).stateMachine =
      (node.sends config (.plannedRoute route now)).foldl MissionStateMachine.handleEvent
        node.stateMachine := by
  simp only [next, handle, onPlannedRoute, sends]
  by_cases awaiting : node.stateMachine.state = .awaitingRoute
  · simp [awaiting]
  · rw [if_neg awaiting, if_neg awaiting]
    split_ifs <;> rfl

theorem checkReplanDeadline_stateMachine (now : Int) :
    (node.next config (.replanDeadlineTick now)).stateMachine =
      (node.sends config (.replanDeadlineTick now)).foldl MissionStateMachine.handleEvent
        node.stateMachine := by
  simp only [next, handle, checkReplanDeadline, sends]
  by_cases waiting : node.stateMachine.state = .replanWait
  · rw [if_neg (not_not_intro waiting)]
    cases node.replanDeadline with
    | none => simp
    | some limit =>
      by_cases due : limit ≤ now
      · simp [waiting, due]
      · simp [due]
  · rw [if_pos waiting, if_neg fun both => waiting both.1]
    rfl

/-- The state machine after any event but a world state. -/
theorem next_stateMachine {event : Event} (notWorld : ∀ world now, event ≠ .worldState world now) :
    (node.next config event).stateMachine =
      (node.sends config event).foldl MissionStateMachine.handleEvent node.stateMachine := by
  cases event with
  | voyageTask task nowRos now =>
    exact congrArg (·.stateMachine) (onVoyageTask_mission config node task nowRos now)
  | plannedRoute route now => exact onPlannedRoute_stateMachine route now
  | replanResponse response now =>
    simp only [next, handle, onReplanResponse]
    split_ifs <;> rfl
  | oddState odd now =>
    simp only [sends]
    split_ifs with requests
    · obtain ⟨trigger, same⟩ := onOddState_mission_of_requests config node requests
      exact congrArg (·.stateMachine) same
    · obtain ⟨zone, trigger, same⟩ := onOddState_mission_of_not_requests config node requests
      exact congrArg (·.stateMachine) same
  | replanDeadlineTick now => exact checkReplanDeadline_stateMachine now
  | worldState world now => exact absurd rfl (notWorld world now)
  | trackingError msg now =>
    exact congrArg (·.stateMachine) (onTrackingError_mission config node msg now)
  | missionGoalTick now =>
    exact congrArg (·.stateMachine) (publishMissionGoal_mission config node now)
  | l1WatchdogTick now =>
    exact congrArg (·.stateMachine) (evaluateL1Watchdog_mission config node now)
  | speedProfile | asdrTick | heartbeatTick => rfl

/-! ### Where the mission goes -/

/-- The state an event leads the mission to, where it leads it anywhere. -/
def move (config : Config) (node : MissionManagerNode) : Event → Option MissionState
  | .voyageTask task nowRos _ =>
      match node.stateMachine.state with
      | .idle | .taskValidation =>
          some (if (node.validateTask config task nowRos).isValid then .awaitingRoute else .idle)
      | _ => none
  | .plannedRoute _ _ => if node.stateMachine.state = .awaitingRoute then some .active else none
  | .replanResponse response _ =>
      node.stateMachine.state.transition
        (.replanResponseReceived (node.responseOutcome config response))
  | .oddState odd now =>
      if node.stateMachine.state = .active ∧ node.Requests config odd now then some .replanWait
      else none
  | .replanDeadlineTick now =>
      if node.stateMachine.state = .replanWait ∧ node.replanDeadline.any (· ≤ now) then
        some .mrcTransit
      else none
  | _ => none

/-- What a move can be: where it begins, what it asks of its event, and where it ends. -/
inductive Moves (config : Config) (node : MissionManagerNode) : Event → MissionState → Prop
  | task {task : VoyageTask} {nowRos now : Int}
      (before : node.stateMachine.state = .idle ∨ node.stateMachine.state = .taskValidation) :
      Moves config node (.voyageTask task nowRos now)
        (if (node.validateTask config task nowRos).isValid then .awaitingRoute else .idle)
  | route {route : PlannedRoute} {now : Int}
      (awaiting : node.stateMachine.state = .awaitingRoute) :
      Moves config node (.plannedRoute route now) .active
  | granted {response : ReplanResponse} {now : Int}
      (waiting : node.stateMachine.state = .replanWait)
      (success : (node.responseOutcome config response).success = true) :
      Moves config node (.replanResponse response now) .active
  | escalated {response : ReplanResponse} {now : Int}
      (waiting : node.stateMachine.state = .replanWait)
      (escalates : (node.responseOutcome config response).escalateToMrc = true) :
      Moves config node (.replanResponse response now) .mrcTransit
  | request {odd : ODDState} {now : Int} (active : node.stateMachine.state = .active)
      (requests : node.Requests config odd now) :
      Moves config node (.oddState odd now) .replanWait
  | expiry {now : Int} (waiting : node.stateMachine.state = .replanWait)
      (due : node.replanDeadline.any (· ≤ now) = true) :
      Moves config node (.replanDeadlineTick now) .mrcTransit

theorem moves_of_move {event : Event} {moved : MissionState}
    (move : node.move config event = some moved) : node.Moves config event moved := by
  cases event with
  | voyageTask task nowRos now =>
    simp only [MissionManagerNode.move] at move
    split at move
    next idle => exact Option.some.inj move ▸ .task (.inl idle)
    next validating => exact Option.some.inj move ▸ .task (.inr validating)
    next => cases move
  | plannedRoute route now =>
    obtain ⟨awaiting, ⟨⟩⟩ := Option.ite_none_right_eq_some.mp move
    exact .route awaiting
  | replanResponse response now =>
    obtain ⟨waiting, ⟨success, rfl⟩ | ⟨-, escalates, rfl⟩⟩ := MissionState.transition_response move
    · exact .granted waiting success
    · exact .escalated waiting escalates
  | oddState odd now =>
    obtain ⟨⟨active, requests⟩, ⟨⟩⟩ := Option.ite_none_right_eq_some.mp move
    exact .request active requests
  | replanDeadlineTick now =>
    obtain ⟨⟨waiting, due⟩, ⟨⟩⟩ := Option.ite_none_right_eq_some.mp move
    exact .expiry waiting due
  | speedProfile | worldState | trackingError | missionGoalTick | asdrTick | heartbeatTick
  | l1WatchdogTick => cases move

/-- What is sent leads the state machine there. -/
theorem sends_state (event : Event) :
    ((node.sends config event).foldl MissionStateMachine.handleEvent node.stateMachine).state =
      (node.move config event).getD node.stateMachine.state := by
  cases event with
  | voyageTask task nowRos now =>
    simp only [sends, move, verdictEvent, List.foldl_cons, List.foldl_nil,
      MissionStateMachine.handleEvent_state]
    cases node.stateMachine.state <;>
      cases (node.validateTask config task nowRos).isValid <;> rfl
  | plannedRoute route now =>
    simp only [sends, move]
    split_ifs with awaiting
    · simp [MissionStateMachine.handleEvent_state, awaiting, MissionState.transition]
    · rfl
  | replanResponse response now => exact MissionStateMachine.handleEvent_state _ _
  | oddState odd now =>
    simp only [sends, move]
    by_cases requests : node.Requests config odd now
    · rw [if_pos requests, List.foldl_cons, List.foldl_nil, MissionStateMachine.handleEvent_state]
      cases node.stateMachine.state <;> simp [requests, MissionState.transition]
    · rw [if_neg requests, if_neg fun both => requests both.2]
      rfl
  | replanDeadlineTick now =>
    simp only [sends, move]
    split_ifs with due
    · simp [MissionStateMachine.handleEvent_state, due.1, MissionState.transition]
    · rfl
  | speedProfile | worldState | trackingError | missionGoalTick | asdrTick | heartbeatTick
  | l1WatchdogTick => rfl

/-- The state after any event. -/
theorem next_state (event : Event) :
    (node.next config event).stateMachine.state =
      (node.move config event).getD node.stateMachine.state := by
  by_cases isWorld : ∃ world now, event = .worldState world now
  · obtain ⟨world, now, rfl⟩ := isWorld
    have machine := onWorldState_stateMachine config node world now
    exact (congrArg (·.state) machine).trans
      (MissionStateMachine.updateTaskValidity_state _ _ _ _ _)
  · rw [next_stateMachine fun world now same => isWorld ⟨world, now, same⟩, sends_state]

/-- An event leaves the mission where it is, or it moves it. -/
theorem next_state_cases (config : Config) (node : MissionManagerNode) (event : Event) :
    (node.next config event).stateMachine.state = node.stateMachine.state ∨
      ∃ moved, (node.next config event).stateMachine.state = moved ∧
        node.Moves config event moved := by
  rw [next_state]
  cases move : node.move config event with
  | none => exact .inl rfl
  | some moved => exact .inr ⟨moved, rfl, moves_of_move move⟩

/-! ### The route and the cursor -/

/-- Where the ship is on which route. -/
structure Navigation where
  lastWorldState : Option WorldState
  lastPlannedRoute : Option PlannedRoute
  lastPlannedRouteTime : Option Int
  currentWpIndex : Nat

def navigation (node : MissionManagerNode) : Navigation where
  lastWorldState := node.lastWorldState
  lastPlannedRoute := node.lastPlannedRoute
  lastPlannedRouteTime := node.lastPlannedRouteTime
  currentWpIndex := node.currentWpIndex

/-- Only a route and a world state navigate. -/
theorem next_navigation {event : Event} (notRoute : ∀ route now, event ≠ .plannedRoute route now)
    (notWorld : ∀ world now, event ≠ .worldState world now) :
    (node.next config event).navigation = node.navigation := by
  cases event with
  | voyageTask task nowRos now =>
    exact congrArg (·.navigation) (onVoyageTask_mission config node task nowRos now)
  | plannedRoute route now => exact absurd rfl (notRoute route now)
  | replanResponse response now =>
    unfold next handle onReplanResponse
    dsimp only
    split_ifs <;> rfl
  | oddState odd now =>
    by_cases requests : node.Requests config odd now
    · obtain ⟨trigger, same⟩ := onOddState_mission_of_requests config node requests
      exact congrArg (·.navigation) same
    · obtain ⟨zone, trigger, same⟩ := onOddState_mission_of_not_requests config node requests
      exact congrArg (·.navigation) same
  | worldState world now => exact absurd rfl (notWorld world now)
  | trackingError msg now =>
    exact congrArg (·.navigation) (onTrackingError_mission config node msg now)
  | missionGoalTick now =>
    exact congrArg (·.navigation) (publishMissionGoal_mission config node now)
  | l1WatchdogTick now =>
    exact congrArg (·.navigation) (evaluateL1Watchdog_mission config node now)
  | replanDeadlineTick now =>
    unfold next handle checkReplanDeadline
    dsimp only
    split_ifs
    · rfl
    · cases node.replanDeadline with
      | none => rfl
      | some limit =>
        dsimp only
        split_ifs <;> rfl
  | speedProfile | asdrTick | heartbeatTick => rfl

/-- A world state moves the cursor along the same route. -/
theorem onWorldState_navigation (world : WorldState) (now : Int) :
    (node.next config (.worldState world now)).navigation =
      { node.navigation with
        lastWorldState := some world
        currentWpIndex := node.nextWpIndex config world.ownShip.position } := by
  obtain ⟨validity, same⟩ := onWorldState_mission config node world now
  exact congrArg (·.navigation) same

/-- A route that an active mission ignores: it would switch to it. -/
def Ignores (node : MissionManagerNode) (route : PlannedRoute) : Prop :=
  node.isNewRoute route = true ∧ node.lastPlannedRoute.isSome = true ∧
    node.stateMachine.state = .active

theorem onPlannedRoute_of_ignores {route : PlannedRoute} (ignores : node.Ignores route)
    (now : Int) : node.next config (.plannedRoute route now) = node := by
  unfold next handle onPlannedRoute
  simp only [ignores.1, ignores.2.1, ignores.2.2, decide_true, Bool.and_true, if_true]

/-- Any other route is taken, and the cursor starts anew where the id is new. -/
theorem onPlannedRoute_navigation (config : Config) {route : PlannedRoute}
    (taken : ¬ node.Ignores route) (now : Int) :
    (node.next config (.plannedRoute route now)).navigation =
      { node.navigation with
        lastPlannedRoute := some route
        lastPlannedRouteTime := some now
        currentWpIndex := if node.isNewRoute route then 0 else node.currentWpIndex } := by
  have proceeds : ¬ (node.isNewRoute route && node.lastPlannedRoute.isSome &&
      decide (node.stateMachine.state = .active)) = true := by
    simpa only [Ignores, Bool.and_eq_true, decide_eq_true_eq, and_assoc] using taken
  unfold next handle onPlannedRoute
  simp only
  rw [if_neg proceeds]
  rfl

/-- Only a route replaces the route. -/
theorem next_lastPlannedRoute {event : Event}
    (notRoute : ∀ route now, event ≠ .plannedRoute route now) :
    (node.next config event).lastPlannedRoute = node.lastPlannedRoute := by
  by_cases isWorld : ∃ world now, event = .worldState world now
  · obtain ⟨world, now, rfl⟩ := isWorld
    exact congrArg Navigation.lastPlannedRoute (onWorldState_navigation world now)
  · refine congrArg Navigation.lastPlannedRoute (next_navigation notRoute fun world now same => ?_)
    exact isWorld ⟨world, now, same⟩

/-! ### The cursor stays on the route -/

/-- The cursor points to a pose of the route, if the route has one. -/
def CursorValid (node : MissionManagerNode) : Prop :=
  ∀ route, node.lastPlannedRoute = some route → route.poses ≠ [] →
    node.currentWpIndex < route.poses.length

/-- The cursor never passes the last pose. -/
theorem advanceWaypoint_lt (lib : MassL3.M6.Colregs.MathLibrary) (thresholdM : Float)
    (own : GeoPoint) {poses : List GeoPoint} (wpIndex : Nat) (some : poses ≠ []) :
    advanceWaypoint lib thresholdM own poses wpIndex < wpIndex + poses.length := by
  induction poses generalizing wpIndex with
  | nil => exact absurd rfl some
  | cons target later inductionHypothesis =>
    cases later with
    | nil => simp [advanceWaypoint]
    | cons next later =>
      unfold advanceWaypoint
      have further := inductionHypothesis (wpIndex + 1) (List.cons_ne_nil next later)
      simp only [List.length_cons] at further ⊢
      split_ifs <;> omega

/-- Nothing but a route can invalidate the cursor. -/
theorem next_cursorValid {event : Event} (valid : node.CursorValid)
    (notRoute : ∀ route now, event ≠ .plannedRoute route now) :
    (node.next config event).CursorValid := by
  intro route onRoute poses
  rw [next_lastPlannedRoute notRoute] at onRoute
  have inside := valid route onRoute poses
  by_cases isWorld : ∃ world now, event = .worldState world now
  · obtain ⟨world, now, rfl⟩ := isWorld
    have cursor : (node.next config (.worldState world now)).currentWpIndex =
        node.nextWpIndex config world.ownShip.position :=
      congrArg Navigation.currentWpIndex (onWorldState_navigation world now)
    have ahead : route.poses.drop node.currentWpIndex ≠ [] := by
      rw [Ne, List.drop_eq_nil_iff, Nat.not_le]
      exact inside
    have bounded := advanceWaypoint_lt config.lib config.distanceCompletionM
      world.ownShip.position node.currentWpIndex ahead
    rw [List.length_drop] at bounded
    rw [cursor, nextWpIndex, onRoute, Option.elim_some]
    omega
  · have cursor : (node.next config event).currentWpIndex = node.currentWpIndex :=
      congrArg Navigation.currentWpIndex (next_navigation notRoute fun world now same =>
        isWorld ⟨world, now, same⟩)
    rw [cursor]
    exact inside

/-! ### The deadline -/

/-- Only an ODD state, a response and the deadline itself write the deadline. -/
theorem next_replanDeadline {event : Event} (notOdd : ∀ odd now, event ≠ .oddState odd now)
    (notResponse : ∀ response now, event ≠ .replanResponse response now)
    (notTick : ∀ now, event ≠ .replanDeadlineTick now) :
    (node.next config event).replanDeadline = node.replanDeadline := by
  cases event with
  | voyageTask task nowRos now =>
    exact congrArg (·.replanDeadline) (onVoyageTask_mission config node task nowRos now)
  | plannedRoute route now =>
    unfold next handle onPlannedRoute
    dsimp only
    split_ifs <;> rfl
  | replanResponse response now => exact absurd rfl (notResponse response now)
  | oddState odd now => exact absurd rfl (notOdd odd now)
  | worldState world now =>
    obtain ⟨validity, same⟩ := onWorldState_mission config node world now
    exact congrArg (·.replanDeadline) same
  | trackingError msg now =>
    exact congrArg (·.replanDeadline) (onTrackingError_mission config node msg now)
  | missionGoalTick now =>
    exact congrArg (·.replanDeadline) (publishMissionGoal_mission config node now)
  | l1WatchdogTick now =>
    exact congrArg (·.replanDeadline) (evaluateL1Watchdog_mission config node now)
  | replanDeadlineTick now => exact absurd rfl (notTick now)
  | speedProfile | asdrTick | heartbeatTick => rfl

/-- The time at which the request of an ODD state expires. -/
def expiry (config : Config) (node : MissionManagerNode) (odd : ODDState) (now : Int) : Int :=
  now + nanoseconds (node.oddDecision config odd now).deadlineS

/-- The deadline is that of the last request. -/
theorem onOddState_replanDeadline (odd : ODDState) (now : Int) :
    (node.next config (.oddState odd now)).replanDeadline =
      if node.Requests config odd now then some (node.expiry config odd now)
      else node.replanDeadline := by
  split_ifs with requests
  · obtain ⟨trigger, same⟩ := onOddState_mission_of_requests config node requests
    exact congrArg (·.replanDeadline) same
  · obtain ⟨zone, trigger, same⟩ := onOddState_mission_of_not_requests config node requests
    exact congrArg (·.replanDeadline) same

/-! ### The departure of the short voyage -/

theorem shortVoyage_isValid :
    ((construct 0).validateTask shortVoyageConfig shortVoyage 0).isValid = true := by
  decide +kernel

/-- The task is accepted, the route is taken, and the mission is active. -/
theorem after_departure (latitudes : List Float) :
    (after shortVoyageConfig 0 (departureEvents latitudes)).mission =
      { construct 0 with
        stateMachine := { state := .active }
        l1Watchdog := { lastReceived := some 0 }
        lastPlannedRoute := some (meridianRoute 1 latitudes)
        lastPlannedRouteTime := some 0
        lastVoyageTaskTime := some 0 } := by
  unfold after departureEvents Runs.run next handle onVoyageTask
  simp only [List.foldl_cons, List.foldl_nil]
  rw [shortVoyage_isValid]
  rfl

theorem after_departure_state (latitudes : List Float) :
    (after shortVoyageConfig 0 (departureEvents latitudes)).stateMachine.state = .active := by
  rw [← mission_stateMachine, after_departure]

theorem after_departure_route (latitudes : List Float) :
    (after shortVoyageConfig 0 (departureEvents latitudes)).lastPlannedRoute =
      some (meridianRoute 1 latitudes) := by
  rw [← mission_lastPlannedRoute, after_departure]

end MissionManagerNode

end MassL3.M3
