/-
This file follows the cursor along the planned route. A route is replaced by every message, but
the cursor starts anew only with a new id: a route that is sent again with fewer poses can leave
the cursor behind its end, and the goal of the mission then points to the default position.
-/

import MassTdl.Mission.Steps

namespace MassL3.M3

open MissionManagerNode

namespace MissionManagerNode

variable {config : Config} {node : MissionManagerNode}

/-! ### The target of a goal -/

/-- The target belongs to the route: it is the pose at the cursor or, where that is the last one,
the point that runs ahead of the ship past the end of the last leg. -/
def TargetOnRoute (config : Config) (node : MissionManagerNode) (route : PlannedRoute)
    (target : GeoPoint) : Prop :=
  ∃ leg, route.leg node.currentWpIndex = some leg ∧
    (target = leg.2 ∨ node.currentWpIndex + 1 = route.poses.length ∧
      ∃ world, node.lastWorldState = some world ∧
        lookaheadPoint config.lib leg.1 leg.2 world.ownShip.position = some target)

variable {route : PlannedRoute}

theorem targetPoint_onRoute {leg : GeoPoint × GeoPoint}
    (onLeg : route.leg node.currentWpIndex = some leg) :
    TargetOnRoute config node route (node.targetPoint config route leg) := by
  refine ⟨leg, onLeg, ?_⟩
  unfold targetPoint
  cases node.lastWorldState with
  | none => exact .inl rfl
  | some world =>
    dsimp only
    split_ifs with final
    · cases lookahead : lookaheadPoint config.lib leg.1 leg.2 world.ownShip.position with
      | none => exact .inl rfl
      | some target => exact .inr ⟨final.2, world, rfl, lookahead⟩
    · exact .inl rfl

/-- A cursor inside of the route has a leg. -/
theorem exists_leg {wpIndex : Nat} (inside : wpIndex < route.poses.length) :
    ∃ leg, route.leg wpIndex = some leg := by
  unfold PlannedRoute.leg
  rw [List.getElem?_eq_getElem inside,
    List.getElem?_eq_getElem (Nat.lt_of_le_of_lt (Nat.sub_le wpIndex 1) inside)]
  exact ⟨_, rfl⟩

/-- While the cursor is valid, a goal steers for the route. -/
theorem goalTarget_onRoute (valid : node.CursorValid) (onRoute : node.lastPlannedRoute = some route)
    (poses : route.poses ≠ []) :
    TargetOnRoute config node route (node.goalTarget config) := by
  obtain ⟨leg, onLeg⟩ := exists_leg (valid route onRoute poses)
  have current : node.currentLeg = some leg := by
    rw [currentLeg, onRoute, Option.bind_some, onLeg]
  unfold goalTarget
  rw [onRoute, current]
  exact targetPoint_onRoute onLeg

/-- The target depends on the navigation alone. -/
theorem goalTarget_congr {node' : MissionManagerNode} (same : node'.navigation = node.navigation) :
    node'.goalTarget config = node.goalTarget config := by
  obtain ⟨world, route, -, cursor⟩ := Navigation.mk.inj same
  unfold goalTarget currentLeg targetPoint
  rw [world, route, cursor]

/-! ### Published goals -/

/-- A goal of an active mission. -/
def MissionGoalOf (published : List Published) (goal : MissionGoal) : Prop :=
  .missionGoal goal ∈ published ∧ goal.fsmState = MissionState.active.toUInt8

theorem toUInt8_active {state : MissionState}
    (same : state.toUInt8 = MissionState.active.toUInt8) : state = .active := by
  cases state <;> first | rfl | cases same

variable {now : Int} {goal : MissionGoal}

theorem publishMissionGoal_target
    (isGoal : MissionGoalOf (node.publishMissionGoal config now).2 goal) :
    goal.currentTargetWp = node.goalTarget config := by
  obtain ⟨member, active⟩ := isGoal
  unfold publishMissionGoal at member
  dsimp only at member
  by_cases standby : node.stateMachine.state ≠ .active
  · rw [if_pos standby, List.mem_singleton] at member
    obtain rfl := Published.missionGoal.inj member
    exact absurd (toUInt8_active active) standby
  · rw [if_neg standby, List.mem_singleton] at member
    rw [Published.missionGoal.inj member]

theorem missionGoalOf_append {first second : List Published}
    (isGoal : MissionGoalOf (first ++ second) goal) :
    MissionGoalOf first goal ∨ MissionGoalOf second goal := by
  obtain ⟨member, active⟩ := isGoal
  exact (List.mem_append.mp member).imp (⟨·, active⟩) (⟨·, active⟩)

/-- A publication of this node whose target is that of another with the same navigation. -/
theorem publishMissionGoal_target_of {node' : MissionManagerNode}
    (isGoal : MissionGoalOf (node.publishMissionGoal config now).2 goal)
    (same : node'.navigation = node.navigation) :
    goal.currentTargetWp = node'.goalTarget config :=
  (publishMissionGoal_target isGoal).trans (goalTarget_congr same).symm

theorem not_missionGoalOf_asdrRecord {decisionType : String}
    {decision : List (String × DecisionValue)} :
    ¬ MissionGoalOf [asdrRecord decisionType decision] goal := by
  rintro ⟨member, -⟩
  cases List.mem_singleton.mp member

theorem checkCurrentErrorSeverityChange_target
    (isGoal : MissionGoalOf (node.checkCurrentErrorSeverityChange config now).2 goal) :
    goal.currentTargetWp = node.goalTarget config := by
  unfold checkCurrentErrorSeverityChange at isGoal
  dsimp only at isGoal
  by_cases inactive : node.stateMachine.state ≠ .active
  · rw [if_pos inactive] at isGoal
    cases isGoal.1
  · rw [if_neg inactive] at isGoal
    by_cases same : (node.currentErrorMonitor.evaluate config.currentError now).severity =
        node.lastCurrentErrorSeverity
    · rw [if_pos same] at isGoal
      cases isGoal.1
    · rw [if_neg same] at isGoal
      obtain isRecord | isGoal := missionGoalOf_append isGoal
      · split_ifs at isRecord
        · exact absurd isRecord not_missionGoalOf_asdrRecord
        · exact absurd isRecord not_missionGoalOf_asdrRecord
        · cases isRecord.1
      · exact publishMissionGoal_target_of isGoal rfl

theorem refreshTaskValidity_target
    (isGoal : MissionGoalOf (node.refreshTaskValidity config now).2 goal) :
    goal.currentTargetWp = node.goalTarget config := by
  unfold refreshTaskValidity at isGoal
  dsimp only at isGoal
  split_ifs at isGoal
  · cases isGoal.1
  · exact publishMissionGoal_target_of isGoal rfl
  · cases isGoal.1

theorem onVoyageTask_target {task : VoyageTask} {nowRos now : Int}
    (isGoal : MissionGoalOf (node.onVoyageTask config task nowRos now).2 goal) :
    goal.currentTargetWp = node.goalTarget config := by
  unfold onVoyageTask at isGoal
  dsimp only at isGoal
  split_ifs at isGoal
  · obtain isRecord | isGoal := missionGoalOf_append (List.singleton_append ▸ isGoal)
    · exact absurd isRecord not_missionGoalOf_asdrRecord
    · exact publishMissionGoal_target_of isGoal rfl
  · exact absurd isGoal not_missionGoalOf_asdrRecord
  · exact absurd isGoal not_missionGoalOf_asdrRecord

theorem evaluateL1Watchdog_target
    (isGoal : MissionGoalOf (node.evaluateL1Watchdog config now).2 goal) :
    goal.currentTargetWp = node.goalTarget config := by
  unfold evaluateL1Watchdog at isGoal
  dsimp only at isGoal
  split_ifs at isGoal
  · exact publishMissionGoal_target_of isGoal rfl
  · cases isGoal.1
  · cases isGoal.1
  · cases isGoal.1
  · obtain isRecord | isGoal := missionGoalOf_append isGoal
    · obtain ⟨member, -⟩ := isRecord
      split at member <;> simp [asdrRecord, publishTorRequest] at member
    · exact publishMissionGoal_target_of isGoal rfl

theorem checkAndTriggerReplan_silent {odd : ODDState} {currentEtaS plannedEtaS : Float} :
    ¬ MissionGoalOf (node.checkAndTriggerReplan config odd currentEtaS plannedEtaS now).2 goal := by
  rintro ⟨member, -⟩
  unfold checkAndTriggerReplan at member
  dsimp only at member
  split_ifs at member <;> simp [asdrRecord] at member

theorem checkAndTriggerReplan_navigation (node : MissionManagerNode) (odd : ODDState)
    (currentEtaS plannedEtaS : Float) (now : Int) :
    (node.checkAndTriggerReplan config odd currentEtaS plannedEtaS now).1.navigation =
      node.navigation := by
  unfold checkAndTriggerReplan
  dsimp only
  split_ifs <;> rfl

theorem onOddState_target {odd : ODDState}
    (isGoal : MissionGoalOf (node.onOddState config odd now).2 goal) :
    goal.currentTargetWp = node.goalTarget config := by
  unfold onOddState at isGoal
  dsimp only at isGoal
  split_ifs at isGoal
  · cases isGoal.1
  · obtain isTrigger | isGoal := missionGoalOf_append isGoal
    · exact absurd isTrigger checkAndTriggerReplan_silent
    · rw [publishMissionGoal_target isGoal,
        goalTarget_congr (checkAndTriggerReplan_navigation _ _ _ _ _)]
      exact goalTarget_congr rfl
  · exact absurd isGoal checkAndTriggerReplan_silent

theorem onWorldState_target {world : WorldState}
    (isGoal : MissionGoalOf (node.onWorldState config world now).2 goal) :
    goal.currentTargetWp = (node.next config (.worldState world now)).goalTarget config := by
  have cached : (node.next config (.worldState world now)).navigation =
      (node.cacheWorldState config world).navigation := onWorldState_navigation world now
  have checked : ((node.cacheWorldState config world).checkCurrentErrorSeverityChange config
      now).1.navigation = (node.cacheWorldState config world).navigation :=
    congrArg (·.navigation) (checkCurrentErrorSeverityChange_mission config _ now)
  obtain isGoal | isGoal := missionGoalOf_append isGoal
  · rw [checkCurrentErrorSeverityChange_target isGoal, goalTarget_congr cached]
  · rw [refreshTaskValidity_target isGoal, goalTarget_congr (cached.trans checked.symm)]

/-- A goal of an active mission steers for the target of the node that its callback leaves. -/
theorem published_target {event : Event}
    (isGoal : MissionGoalOf (node.published config event) goal) :
    goal.currentTargetWp = (node.next config event).goalTarget config := by
  have same : (∀ route now, event ≠ .plannedRoute route now) →
      (∀ world now, event ≠ .worldState world now) → goal.currentTargetWp = node.goalTarget config →
        goal.currentTargetWp = (node.next config event).goalTarget config :=
    fun notRoute notWorld target =>
      target.trans (goalTarget_congr (next_navigation notRoute notWorld)).symm
  cases event with
  | voyageTask => exact same nofun nofun (onVoyageTask_target isGoal)
  | oddState => exact same nofun nofun (onOddState_target isGoal)
  | worldState world now => exact onWorldState_target isGoal
  | trackingError msg now =>
    refine same nofun nofun ((checkCurrentErrorSeverityChange_target isGoal).trans ?_)
    exact goalTarget_congr rfl
  | missionGoalTick => exact same nofun nofun (publishMissionGoal_target isGoal)
  | l1WatchdogTick => exact same nofun nofun (evaluateL1Watchdog_target isGoal)
  | replanResponse response now =>
    obtain ⟨member, -⟩ := isGoal
    simp only [published, handle, onReplanResponse] at member
    split_ifs at member <;> simp [asdrRecord] at member
  | replanDeadlineTick now =>
    obtain ⟨member, -⟩ := isGoal
    simp only [published, handle, checkReplanDeadline] at member
    split_ifs at member
    · cases member
    · split at member
      · cases member
      · split_ifs at member <;> simp [asdrRecord] at member
  | asdrTick => exact absurd isGoal not_missionGoalOf_asdrRecord
  | plannedRoute | speedProfile | heartbeatTick => cases isGoal.1

/-! ### Routes that are sent again -/

/-- A route under the current id does not end before the cursor, unless it is empty. -/
def Extends (node : MissionManagerNode) (route : PlannedRoute) : Prop :=
  node.isNewRoute route = false → route.poses ≠ [] → node.currentWpIndex < route.poses.length

/-- What a route does to the cursor. -/
theorem onPlannedRoute_cursorValid_iff (valid : node.CursorValid) (route : PlannedRoute)
    (now : Int) :
    (node.next config (.plannedRoute route now)).CursorValid ↔ node.Extends route := by
  by_cases ignores : node.Ignores route
  · rw [onPlannedRoute_of_ignores ignores]
    exact iff_of_true valid fun known => absurd (known.symm.trans ignores.1) Bool.false_ne_true
  · have taken := onPlannedRoute_navigation config ignores now
    have onRoute : (node.next config (.plannedRoute route now)).lastPlannedRoute = some route :=
      congrArg Navigation.lastPlannedRoute taken
    have cursor : (node.next config (.plannedRoute route now)).currentWpIndex =
        if node.isNewRoute route then 0 else node.currentWpIndex :=
      congrArg Navigation.currentWpIndex taken
    unfold CursorValid Extends
    rw [cursor, onRoute]
    cases known : node.isNewRoute route with
    | true => simp [List.length_pos_iff]
    | false => simp

end MissionManagerNode

/-! ### Along a run -/

section Runs

variable (config : Config) (nowSteady : Int) (events : List Event)

/-- The node after the first events of a run. -/
def nodeAt (count : Nat) : MissionManagerNode :=
  Runs.stateAt (next config) (construct nowSteady) events count

/-- The cursor is valid in every state, and every goal of an active mission with a route that has
a pose steers for that route. -/
structure CursorStaysOnRoute : Prop where
  valid : ∀ count, (nodeAt config nowSteady events count).CursorValid
  goals : ∀ count event goal, events[count]? = some event →
    MissionGoalOf ((nodeAt config nowSteady events count).published config event) goal →
    ∀ route, (nodeAt config nowSteady events (count + 1)).lastPlannedRoute = some route →
    route.poses ≠ [] →
    TargetOnRoute config (nodeAt config nowSteady events (count + 1)) route goal.currentTargetWp

/-- The cursor stays on the route exactly if every route sent under the current id is empty or
has more poses than the cursor has passed. -/
theorem cursor_stays_on_route_iff :
    CursorStaysOnRoute config nowSteady events ↔
      ∀ count route now, events[count]? = some (.plannedRoute route now) →
        (nodeAt config nowSteady events count).Extends route := by
  constructor
  · intro stays count route now present
    rw [← onPlannedRoute_cursorValid_iff (stays.valid count) route now]
    have valid := stays.valid (count + 1)
    rw [nodeAt, Runs.stateAt_succ _ _ _ present] at valid
    exact valid
  · intro reaches
    have valid : ∀ count, (nodeAt config nowSteady events count).CursorValid := by
      refine Runs.stateAt_invariant CursorValid (fun route onRoute => by cases onRoute) ?_
      intro count event present valid
      by_cases isRoute : ∃ route now, event = .plannedRoute route now
      · obtain ⟨route, now, rfl⟩ := isRoute
        exact (onPlannedRoute_cursorValid_iff valid route now).mpr
          (reaches count route now present)
      · exact next_cursorValid valid fun route now same => isRoute ⟨route, now, same⟩
    refine ⟨valid, fun count event goal present isGoal route onRoute poses => ?_⟩
    have later : nodeAt config nowSteady events (count + 1) =
        (nodeAt config nowSteady events count).next config event :=
      Runs.stateAt_succ _ _ _ present
    rw [published_target isGoal, ← later]
    exact goalTarget_onRoute (valid (count + 1)) onRoute poses

end Runs

/-- The ship has reached the first of two waypoints when the route is sent again without the
second. -/
def shortenedEvents : List Event :=
  departureEvents [0.0, 0.1] ++
    [.worldState (onMeridian 1 0.0) (secondsNs 1),
      .plannedRoute (meridianRoute 1 [0.0]) (secondsNs 2)]

theorem cursor_leaves_route : ¬ ∀ events, CursorStaysOnRoute shortVoyageConfig 0 events := by
  intro stays
  have cursor : (nodeAt shortVoyageConfig 0 shortenedEvents 4).currentWpIndex = 1 := by
    decide +kernel
  have poses : (nodeAt shortVoyageConfig 0 shortenedEvents 4).lastPlannedRoute.map
      (·.poses.length) = some 1 := by
    decide +kernel
  obtain ⟨route, onRoute, single⟩ := Option.map_eq_some_iff.mp poses
  have inside := (stays shortenedEvents).valid 4 route onRoute fun empty => by
    rw [empty] at single
    cases single
  rw [cursor, single] at inside
  exact Nat.lt_irrefl 1 inside

end MassL3.M3
