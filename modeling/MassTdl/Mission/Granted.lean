/-
This file follows a mission to its end, and a request for another route to its answer. The state
machine knows two events that end a mission, but no callback of the node ever sends them: once a
mission has begun, no sequence of messages and timers leads it back to where the next task is
accepted.

The planner answers a request in two messages on two topics, a response and the route itself, and
either may come first. The response alone makes the mission active again, and an active mission
does not switch routes: a route that comes after its response is ignored.
-/

import MassTdl.Mission.Steps

namespace MassL3.M3

open MissionManagerNode

/-! ### A mission that has begun -/

/-- The mission has begun, and it is not over. -/
def MissionState.underway : MissionState → Bool
  | .active | .replanWait | .mrcTransit => true
  | _ => false

namespace MissionManagerNode

variable (config : Config) {node : MissionManagerNode}

/-- No event ends a mission. -/
theorem next_underway (underway : node.stateMachine.state.underway = true) (event : Event) :
    (node.next config event).stateMachine.state.underway = true := by
  obtain same | ⟨moved, after, moves⟩ := next_state_cases config node event
  · rwa [same]
  · rw [after]
    cases moves with
    | task before =>
      rcases before with idle | validating
      · rw [idle] at underway
        cases underway
      · rw [validating] at underway
        cases underway
    | route awaiting =>
      rw [awaiting] at underway
      cases underway
    | granted => rfl
    | escalated => rfl
    | request => rfl
    | expiry => rfl

/-- Nor does any sequence of them. -/
theorem run_underway (underway : node.stateMachine.state.underway = true) (events : List Event) :
    (Runs.run (next config) node events).stateMachine.state.underway = true :=
  Runs.run_invariant (fun node : MissionManagerNode => node.stateMachine.state.underway = true)
    underway fun _ event underway => next_underway config underway event

end MissionManagerNode

/-! ### The end of a mission -/

section

variable (config : Config) (node : MissionManagerNode)

/-- A world state that has own ship within the completion distance of the last waypoint of the
route of an active mission. -/
structure Arrives (world : WorldState) : Prop where
  active : node.stateMachine.state = .active
  near : ∃ route final, node.lastPlannedRoute = some route ∧ route.poses.getLast? = some final ∧
    haversineNm config.lib world.ownShip.position final * 1852.0 < config.distanceCompletionM

/-- The mission is over: the node is idle, and a valid task is accepted. -/
structure ReadyForNextTask : Prop where
  idle : node.stateMachine.state = .idle
  accepts : ∀ task nowRos now, (node.validateTask config task nowRos).isValid = true →
    (node.next config (.voyageTask task nowRos now)).stateMachine.state = .awaitingRoute

end

/-- Missions end: an arrival ends one, and from the minimum risk some inputs lead back. -/
structure MissionsEnd (config : Config) (nowSteady : Int) : Prop where
  completes : ∀ history world now, Arrives config (after config nowSteady history) world →
    ReadyForNextTask config (after config nowSteady (history ++ [.worldState world now]))
  recovers : ∀ history, (after config nowSteady history).stateMachine.state = .mrcTransit →
    ∃ events, (after config nowSteady (history ++ events)).stateMachine.state = .idle

/-- The end of no mission is reached: neither an arrival nor anything after it, and nothing from
the minimum risk on, leads to a node that is idle again or takes the next task. -/
theorem missions_never_end (config : Config) (nowSteady : Int) (history : List Event) :
    (∀ world now, Arrives config (after config nowSteady history) world → ∀ events,
      ¬ ReadyForNextTask config
          (after config nowSteady (history ++ .worldState world now :: events)) ∧
        ∀ task nowRos now', (after config nowSteady (history ++ .worldState world now :: events ++
          [.voyageTask task nowRos now'])).stateMachine.state ≠ .awaitingRoute) ∧
      ((after config nowSteady history).stateMachine.state = .mrcTransit → ∀ events,
        (after config nowSteady (history ++ events)).stateMachine.state ≠ .idle) := by
  have stays : (after config nowSteady history).stateMachine.state.underway = true →
      ∀ events,
        (after config nowSteady (history ++ events)).stateMachine.state.underway = true := by
    intro underway events
    unfold after at underway ⊢
    rw [Runs.run_append]
    exact run_underway config underway events
  have stopped : ∀ {state : MissionState}, state.underway = true →
      state ≠ .idle ∧ state ≠ .awaitingRoute := by
    intro state underway
    cases state <;> simp_all [MissionState.underway]
  refine ⟨fun world now arrives events => ?_, fun transit events => ?_⟩
  · have underway : (after config nowSteady history).stateMachine.state.underway = true := by
      rw [arrives.active]
      rfl
    refine ⟨fun ready => (stopped (stays underway _)).1 ready.idle, fun task nowRos now' => ?_⟩
    rw [List.append_assoc]
    exact (stopped (stays underway _)).2
  · refine (stopped (stays ?_ events)).1
    rw [transit]
    rfl

/-- A ship lies on the only waypoint of its route. -/
theorem missions_end_false : ¬ MissionsEnd shortVoyageConfig 0 := by
  intro ends
  have active := after_departure_state [0.0]
  have near : haversineNm smallAngleLibrary {} { latitude := 0.0 } * 1852.0 < 50.0 := by
    decide +kernel
  have ready := ends.completes (departureEvents [0.0]) (onMeridian 1 0.0) (secondsNs 1)
    ⟨active, _, _, after_departure_route [0.0], rfl, near⟩
  have underway : (after shortVoyageConfig 0 (departureEvents [0.0] ++
      [.worldState (onMeridian 1 0.0) (secondsNs 1)])).stateMachine.state.underway = true := by
    unfold after at active ⊢
    rw [Runs.run_append]
    refine run_underway shortVoyageConfig ?_ _
    rw [active]
    rfl
  rw [ready.idle] at underway
  cases underway

namespace MissionManagerNode

/-! ### A mission under way has a route -/

variable {config : Config} {node : MissionManagerNode}

/-- Only a route brings a mission under way. -/
theorem underway_of_next {event : Event} (notRoute : ∀ route now, event ≠ .plannedRoute route now)
    (underway : (node.next config event).stateMachine.state.underway = true) :
    node.stateMachine.state.underway = true := by
  obtain same | ⟨moved, after, moves⟩ := next_state_cases config node event
  · rwa [same] at underway
  · cases moves with
    | task before =>
      rw [after] at underway
      split at underway <;> cases underway
    | route awaiting => exact absurd rfl (notRoute _ _)
    | granted waiting success =>
      rw [waiting]
      rfl
    | escalated waiting escalates =>
      rw [waiting]
      rfl
    | request active requests =>
      rw [active]
      rfl
    | expiry waiting due =>
      rw [waiting]
      rfl

theorem exists_route_of_underway {nowSteady : Int} {events : List Event}
    (underway : (after config nowSteady events).stateMachine.state.underway = true) :
    ∃ route, (after config nowSteady events).lastPlannedRoute = some route := by
  revert underway
  refine Runs.run_invariant (fun node : MissionManagerNode =>
    node.stateMachine.state.underway = true → ∃ route, node.lastPlannedRoute = some route)
    (fun underway => by cases underway) fun node event inductionHypothesis underway => ?_
  by_cases isRoute : ∃ route now, event = .plannedRoute route now
  · obtain ⟨route, now, rfl⟩ := isRoute
    by_cases ignores : node.Ignores route
    · rw [onPlannedRoute_of_ignores ignores]
      exact Option.isSome_iff_exists.mp ignores.2.1
    · have taken := onPlannedRoute_navigation config ignores now
      exact ⟨route, congrArg Navigation.lastPlannedRoute taken⟩
  · have notRoute : ∀ route now, event ≠ .plannedRoute route now :=
      fun route now same => isRoute ⟨route, now, same⟩
    rw [next_lastPlannedRoute notRoute]
    exact inductionHypothesis (underway_of_next notRoute underway)

end MissionManagerNode

/-! ### The two messages of the planner -/

/-- A message with which the planner answers. -/
def Event.isReply : Event → Bool
  | .plannedRoute _ _ | .replanResponse _ _ => true
  | _ => false

/-- The order in which the two messages arrive. -/
inductive Order where
  | routeFirst
  | responseFirst
  deriving DecidableEq

def granted : ReplanResponse where
  status := statusSuccess

/-- What arrives until both have been delivered. -/
def deliveries (order : Order) (before between : List Event) (route : PlannedRoute)
    (routeNow responseNow : Int) : List Event :=
  match order with
  | .routeFirst =>
      before ++ .plannedRoute route routeNow :: (between ++ [.replanResponse granted responseNow])
  | .responseFirst =>
      before ++ .replanResponse granted responseNow :: (between ++ [.plannedRoute route routeNow])

/-- The route is the one that is followed. -/
structure Follows (node : MissionManagerNode) (route : PlannedRoute) : Prop where
  active : node.stateMachine.state = .active
  onRoute : node.lastPlannedRoute = some route
  cursor : node.currentWpIndex < route.poses.length

/-! ### While nothing is answered -/

/-- The mission waits for an answer, or has waited too long. -/
def MissionState.unanswered : MissionState → Bool
  | .replanWait | .mrcTransit => true
  | _ => false

namespace MissionManagerNode

variable (config : Config) {node : MissionManagerNode} {events : List Event}

theorem next_unanswered (unanswered : node.stateMachine.state.unanswered = true) {event : Event}
    (quiet : event.isReply = false) :
    (node.next config event).stateMachine.state.unanswered = true := by
  obtain same | ⟨moved, after, moves⟩ := next_state_cases config node event
  · rwa [same]
  · rw [after]
    cases moves with
    | task before =>
      rcases before with idle | validating
      · rw [idle] at unanswered
        cases unanswered
      · rw [validating] at unanswered
        cases unanswered
    | route => cases quiet
    | granted => cases quiet
    | escalated => cases quiet
    | request => rfl
    | expiry => rfl

theorem run_unanswered (unanswered : node.stateMachine.state.unanswered = true)
    (quiet : ∀ event ∈ events, event.isReply = false) :
    (Runs.run (next config) node events).stateMachine.state.unanswered = true :=
  Runs.run_invariant_of_mem
    (fun node : MissionManagerNode => node.stateMachine.state.unanswered = true) unanswered
    fun _ event member unanswered => next_unanswered config unanswered (quiet event member)

theorem not_route_of_quiet {event : Event} (quiet : event.isReply = false) (route : PlannedRoute)
    (now : Int) : event ≠ .plannedRoute route now := by
  rintro rfl
  cases quiet

/-- The route stays the same. -/
theorem run_lastPlannedRoute (quiet : ∀ event ∈ events, event.isReply = false) :
    (Runs.run (next config) node events).lastPlannedRoute = node.lastPlannedRoute :=
  Runs.run_invariant_of_mem
    (fun node' : MissionManagerNode => node'.lastPlannedRoute = node.lastPlannedRoute) rfl
    fun _ event member same =>
      (next_lastPlannedRoute (not_route_of_quiet (quiet event member))).trans same

theorem run_cursorValid (valid : node.CursorValid)
    (quiet : ∀ event ∈ events, event.isReply = false) :
    (Runs.run (next config) node events).CursorValid :=
  Runs.run_invariant_of_mem CursorValid valid fun _ event member valid =>
    next_cursorValid valid (not_route_of_quiet (quiet event member))

theorem isNewRoute_congr {node' : MissionManagerNode}
    (same : node'.lastPlannedRoute = node.lastPlannedRoute) (route : PlannedRoute) :
    node'.isNewRoute route = node.isNewRoute route := by
  unfold isNewRoute
  rw [same]

/-- A route does not move a mission under way. -/
theorem onPlannedRoute_state_of_underway (underway : node.stateMachine.state.underway = true)
    (route : PlannedRoute) (now : Int) :
    (node.next config (.plannedRoute route now)).stateMachine.state = node.stateMachine.state := by
  refine (next_state_cases config node _).resolve_right ?_
  rintro ⟨moved, -, moves⟩
  cases moves with
  | route awaiting =>
    rw [awaiting] at underway
    cases underway

theorem waiting_or_transit {state : MissionState} (unanswered : state.unanswered = true) :
    state = .replanWait ∨ state = .mrcTransit := by
  cases state <;> simp_all [MissionState.unanswered]

theorem underway_of_unanswered {state : MissionState} (unanswered : state.unanswered = true) :
    state.underway = true := by
  obtain rfl | rfl := waiting_or_transit unanswered <;> rfl

/-- A grant makes the mission active exactly if it waits for it. -/
theorem onReplanResponse_active_iff (unanswered : node.stateMachine.state.unanswered = true)
    (now : Int) :
    (node.next config (.replanResponse granted now)).stateMachine.state = .active ↔
      node.stateMachine.state = .replanWait := by
  rw [next_state]
  obtain waiting | transit := waiting_or_transit unanswered
  · simp [move, waiting, MissionState.transition, responseOutcome, handleResponse, granted]
  · simp [move, transit, MissionState.transition]

/-! ### Which order is followed -/

section Orders

variable {between : List Event} {route : PlannedRoute} (routeNow responseNow : Int)
  (unanswered : node.stateMachine.state.unanswered = true)
  (fresh : node.isNewRoute route = true)
  (quiet : ∀ event ∈ between, event.isReply = false)

include unanswered fresh quiet

/-- A route that arrives in time is taken, and the response makes the mission follow it. -/
theorem route_first_followed_iff :
    let taken := Runs.run (next config) (node.next config (.plannedRoute route routeNow)) between
    Follows (taken.next config (.replanResponse granted responseNow)) route ↔
      taken.stateMachine.state = .replanWait ∧ route.poses ≠ [] := by
  intro taken
  have inactive : ¬ node.Ignores route := by
    rintro ⟨-, -, active⟩
    rw [active] at unanswered
    cases unanswered
  have arrived := onPlannedRoute_navigation config inactive routeNow
  have stillUnanswered : taken.stateMachine.state.unanswered = true := by
    refine run_unanswered config ?_ quiet
    rw [onPlannedRoute_state_of_underway config (underway_of_unanswered unanswered)]
    exact unanswered
  have onRoute : taken.lastPlannedRoute = some route :=
    (run_lastPlannedRoute config quiet).trans (congrArg Navigation.lastPlannedRoute arrived)
  have valid : taken.CursorValid := by
    refine run_cursorValid config (fun route' onRoute' poses => ?_) quiet
    have same : (node.next config (.plannedRoute route routeNow)).lastPlannedRoute = some route :=
      congrArg Navigation.lastPlannedRoute arrived
    have start : (node.next config (.plannedRoute route routeNow)).currentWpIndex = 0 := by
      refine (congrArg Navigation.currentWpIndex arrived).trans ?_
      rw [fresh]
      rfl
    rw [start]
    exact List.length_pos_iff.mpr poses
  have responded : (taken.next config (.replanResponse granted responseNow)).navigation =
      taken.navigation := next_navigation (fun _ _ => nofun) fun _ _ => nofun
  have keepsRoute : (taken.next config (.replanResponse granted responseNow)).lastPlannedRoute =
      some route := (congrArg Navigation.lastPlannedRoute responded).trans onRoute
  have keepsCursor : (taken.next config (.replanResponse granted responseNow)).currentWpIndex =
      taken.currentWpIndex := congrArg Navigation.currentWpIndex responded
  rw [← onReplanResponse_active_iff config stillUnanswered responseNow]
  constructor
  · intro follows
    exact ⟨follows.active, List.length_pos_iff.mp (Nat.zero_lt_of_lt follows.cursor)⟩
  · rintro ⟨active, poses⟩
    refine ⟨active, keepsRoute, ?_⟩
    rw [keepsCursor]
    exact valid route onRoute poses

/-- After the response the mission is active on the old route, and the new one is ignored. Where
it is not active again, the new route does not make it so. -/
theorem response_first_not_followed {old : PlannedRoute}
    (onOld : node.lastPlannedRoute = some old) :
    ¬ Follows ((Runs.run (next config) (node.next config (.replanResponse granted responseNow))
      between).next config (.plannedRoute route routeNow)) route := by
  intro follows
  have responded : (node.next config (.replanResponse granted responseNow)).lastPlannedRoute =
      node.lastPlannedRoute := next_lastPlannedRoute fun _ _ => nofun
  have stillOld : (Runs.run (next config)
      (node.next config (.replanResponse granted responseNow)) between).lastPlannedRoute =
        some old :=
    (run_lastPlannedRoute config quiet).trans (responded.trans onOld)
  have underway := run_underway config
    (next_underway config (underway_of_unanswered unanswered)
      (.replanResponse granted responseNow)) between
  have active := follows.active
  rw [onPlannedRoute_state_of_underway config underway] at active
  have ignores : (Runs.run (next config)
      (node.next config (.replanResponse granted responseNow)) between).Ignores route :=
    ⟨(isNewRoute_congr (stillOld.trans onOld.symm) route).trans fresh,
      by rw [stillOld]; rfl, active⟩
  have onRoute := follows.onRoute
  rw [onPlannedRoute_of_ignores ignores, stillOld] at onRoute
  obtain rfl := Option.some.inj onRoute
  rw [isNewRoute, onOld] at fresh
  simp at fresh

end Orders

end MissionManagerNode

/-- A granted route is followed exactly if it arrives before the response, the mission still
waits when the response arrives, and the route has a pose to point to. -/
theorem granted_route_followed_iff (config : Config) (nowSteady : Int)
    (history before between : List Event) (order : Order) (route : PlannedRoute)
    (routeNow responseNow : Int)
    (waiting : (after config nowSteady history).stateMachine.state = .replanWait)
    (fresh : (after config nowSteady history).isNewRoute route = true)
    (quietBefore : ∀ event ∈ before, event.isReply = false)
    (quietBetween : ∀ event ∈ between, event.isReply = false) :
    Follows (after config nowSteady
        (history ++ deliveries order before between route routeNow responseNow)) route ↔
      order = .routeFirst ∧
        (after config nowSteady (history ++ (before ++ .plannedRoute route routeNow :: between)
          )).stateMachine.state = .replanWait ∧
        route.poses ≠ [] := by
  obtain ⟨old, onOld⟩ : ∃ old, (after config nowSteady history).lastPlannedRoute = some old :=
    exists_route_of_underway (by rw [waiting]; rfl)
  have unanswered : (after config nowSteady history).stateMachine.state.unanswered = true := by
    rw [waiting]
    rfl
  have asked := run_unanswered config unanswered quietBefore
  have stillOld := (run_lastPlannedRoute config quietBefore).trans onOld
  have stillFresh := (isNewRoute_congr (stillOld.trans onOld.symm) route).trans fresh
  have split : ∀ events later, after config nowSteady (history ++ (events ++ later)) =
      Runs.run (next config) (Runs.run (next config) (after config nowSteady history) events)
        later := by
    intro events later
    rw [after, Runs.run_append, Runs.run_append]
    rfl
  cases order with
  | routeFirst =>
    have followed :=
      route_first_followed_iff config routeNow responseNow asked stillFresh quietBetween
    rw [deliveries, split, split]
    simpa [Runs.run] using followed
  | responseFirst =>
    have ignored := response_first_not_followed config routeNow responseNow asked stillFresh
      quietBetween stillOld
    rw [deliveries, split]
    refine iff_of_false ?_ (fun absurdly => by cases absurdly.1)
    simpa [Runs.run] using ignored

theorem requestEvents_waiting :
    (after shortVoyageConfig 0 requestEvents).stateMachine.state = .replanWait := by
  decide +kernel

theorem requestEvents_fresh :
    (after shortVoyageConfig 0 requestEvents).isNewRoute (meridianRoute 2 [0.2]) = true := by
  decide +kernel

theorem granted_route_followed_iff_routeFirst :
    Follows (after shortVoyageConfig 0 (requestEvents ++
      deliveries .routeFirst [] [] (meridianRoute 2 [0.2]) (secondsNs 2) (secondsNs 3)))
      (meridianRoute 2 [0.2]) :=
  (granted_route_followed_iff shortVoyageConfig 0 requestEvents [] [] .routeFirst
    (meridianRoute 2 [0.2]) (secondsNs 2) (secondsNs 3) requestEvents_waiting requestEvents_fresh
    (fun _ => nofun) fun _ => nofun).mpr ⟨rfl, by decide +kernel, List.cons_ne_nil _ _⟩

/-- A granted route is followed, in whichever order the two messages arrive. -/
def GrantedRoutesFollowed (config : Config) (nowSteady : Int) : Prop :=
  ∀ history before between order route routeNow responseNow,
    (after config nowSteady history).stateMachine.state = .replanWait →
    (after config nowSteady history).isNewRoute route = true → route.poses ≠ [] →
    (∀ event ∈ before, event.isReply = false) → (∀ event ∈ between, event.isReply = false) →
    Follows (after config nowSteady
      (history ++ deliveries order before between route routeNow responseNow)) route

/-- The response comes first. -/
theorem granted_routes_followed_false : ¬ GrantedRoutesFollowed shortVoyageConfig 0 := by
  intro followed
  have follows := followed requestEvents [] [] .responseFirst (meridianRoute 2 [0.2])
    (secondsNs 3) (secondsNs 2) requestEvents_waiting requestEvents_fresh
    (List.cons_ne_nil _ _) (fun _ => nofun) fun _ => nofun
  have stays : (after shortVoyageConfig 0 (requestEvents ++ deliveries .responseFirst [] []
      (meridianRoute 2 [0.2]) (secondsNs 3) (secondsNs 2))).lastPlannedRoute.map (·.routeId) =
        some 1 := by
    decide +kernel
  rw [follows.onRoute] at stays
  cases stays

end MassL3.M3
