/-
This file translates the planner's solve cycle. The input is assembled and the solver run, the
manager is told of take-over, solver failures and BC-MPC's health, a plan is selected, and the
publication step offers the manager the optimized candidate, the avoidance corridor or the way
back to the route. Messages that are published are left out, what they are made of is not.

An event is the arrival of a message or the firing of the timer.
-/

import MassTdl.MidMpc.Node

namespace MassL3.M5.MidMpc

open CommittedRoute CommittedAvoidanceRoute

variable {Details Ranking Graph Backend : Type} (planner : Planner Details Ranking Graph Backend)

/-! ### Solving -/

/-- The symbolic graph is rebuilt when the signature of the constraints changed. -/
def MidMpcNode.rebuildGraph (node : MidMpcNode Details Ranking Graph Backend)
    (input : MidMpcInput Details) : MidMpcNode Details Ranking Graph Backend :=
  if constraintSignature input ≠ node.lastConstraintSignature ∨
      planner.solverValid node.graph = false then
    { node with
      graph := planner.buildSymbolicGraph input
      lastConstraintSignature := constraintSignature input }
  else node

/-- A wrapped heading window is reported infeasible without a solve. -/
def wrappedHeadingWindow (behavior : BehaviorPlan Details) (input : MidMpcInput Details) :
    Bool :=
  behavior.behavior ≠ behaviorTransit && behavior.behavior ≠ behaviorRecovery &&
    headingWindowIsWrapped input.headingMinRad input.headingMaxRad

/-- The solve of a cycle and its solution. -/
def MidMpcNode.runSolver (node : MidMpcNode Details Ranking Graph Backend)
    (behavior : BehaviorPlan Details) (input : MidMpcInput Details) :
    MidMpcNode Details Ranking Graph Backend × MidMpcSolution :=
  let node := node.rebuildGraph planner input
  if wrappedHeadingWindow behavior input then (node, { status := .infeasible })
  else
    let answer := planner.solve node.graph node.backend input node.lastSolution
    let solved := node.solver.solve answer.1
    ({ node with solver := solved.1, backend := answer.2, lastSolution := some solved.2 },
      solved.2)

/-! ### Telling the manager -/

/-- `kBcMpcTakeoverThreshold`. -/
def bcMpcTakeoverThreshold : Nat := 3

def computeBcMpcTakeOver (consecutiveFailures threshold : Nat)
    (minaltBoxInfeasible speedGapInfeasible : Bool) : Bool :=
  decide (threshold ≤ consecutiveFailures) || minaltBoxInfeasible || speedGapInfeasible

/-- BC-MPC should take over: by the solver's verdicts or by the reachability envelope. -/
def bcMpcShouldTakeOver (solver : MidMpcSolver) (input : MidMpcInput Details) : Bool :=
  computeBcMpcTakeOver solver.consecutiveFailures bcMpcTakeoverThreshold
      solver.lastMinaltBoxInfeasible input.speedGapInfeasible ||
    planner.envelopeTakeover input

/-- Everything the manager is told between the solve and the selection of a plan. -/
def notifyManager (route : CommittedAvoidanceRoute) (solver : MidMpcSolver)
    (health : BcMpcHealth) (input : MidMpcInput Details) (sol : MidMpcSolution) :
    CommittedAvoidanceRoute :=
  let route :=
    if bcMpcShouldTakeOver planner solver input then route.markBcMpcTakeover else route
  let route := route.notifySolverConsecutiveFailures solver.reportedFailures
  let route := route.notifyBcMpcHealth health.overrideNoImproveCount
    health.worstCaseCpaM.toFloat health.overrideActive
  let route := route.notifyHandoverInputs (sol.status == .converged)
    health.predictedShortHorizonCpaM.toFloat
  if route.current.state = .bcMpcFollow ∧ route.shouldEnterFinalDegrade = true then
    route.enterFinalDegrade
  else route

/-! ### Selecting a plan -/

def buildRecoveryPlan (input : MidMpcInput Details) (lat0Deg lon0Deg : Float) :
    AvoidancePlan :=
  { status := "RECOVERY"
    confidence := 0.8
    waypoints := planner.recoveryWaypoints input lat0Deg lon0Deg }

/-- The empty plan of a transit. -/
def transitPlan : AvoidancePlan :=
  { status := "NORMAL", rationale := "M4 TRANSIT — no avoidance required", confidence := 1.0 }

def buildGeometricFallbackPlan (input : MidMpcInput Details) (lat0Deg lon0Deg : Float) :
    AvoidancePlan :=
  { status := "DEGRADED"
    confidence := 0.6
    waypoints := planner.geometricFallbackWaypoints input lat0Deg lon0Deg }

def solverFailed (sol : MidMpcSolution) : Bool :=
  sol.status != .converged || sol.trajectory.isEmpty

/-- The text mentions the pattern. -/
def mentions (text pattern : String) : Bool := 1 < (text.splitOn pattern).length

/-- The plan of a cycle: recovery and transit first, the geometric fallback if the solver, its
tail gate or M4 asks for it, the solver's own route otherwise. -/
def selectPlan (behavior : BehaviorPlan Details) (input : MidMpcInput Details)
    (sol : MidMpcSolution) (lat0Deg lon0Deg : Float) : AvoidancePlan :=
  let m4Geometric := mentions behavior.rationale "geometric starboard" ||
    mentions behavior.rationale "fallback"
  let nlpMissesColregsTarget := !solverFailed sol && input.colregsConflictActive &&
    !planner.acceptTailGate sol input
  if behavior.behavior = behaviorRecovery then buildRecoveryPlan planner input lat0Deg lon0Deg
  else if behavior.behavior = behaviorTransit then transitPlan
  else if wrappedHeadingWindow behavior input || solverFailed sol || m4Geometric ||
      nlpMissesColregsTarget then
    buildGeometricFallbackPlan planner input lat0Deg lon0Deg
  else planner.generate sol lat0Deg lon0Deg

/-! ### Offering the optimized candidate -/

/-- `kAvoidancePlanTtl_s`, in nanoseconds. -/
def avoidancePlanTtl : Int := 70000000000

/-- `kReturnToRouteRepublishWindow_s`, in nanoseconds. -/
def returnToRouteRepublishWindow : Int := 30000000000

def l2HistoricalPrefix : UInt8 := 5

/-- The risk context: the nearest target's range, the primary target's closing speed and the
closest approach the solution ends with. -/
def riskContext (input : MidMpcInput Details) (sol : MidMpcSolution) (lat0Deg lon0Deg : Float) :
    CommittedCandidateRiskContext :=
  let nearest := input.targets.foldl
    (fun risk target =>
      let currentRangeM := planner.lib.hypot target.xM target.yM
      if currentRangeM < risk.minTargetCurrentRangeM then
        { risk with minTargetCurrentRangeM := currentRangeM, hasTarget := true }
      else risk)
    ({ ownLatDeg := lat0Deg, ownLonDeg := lon0Deg } : CommittedCandidateRiskContext)
  { nearest with
    primaryTargetClosingSpeedMps :=
      (planner.primaryTargetClosingSpeed input).getD nearest.primaryTargetClosingSpeedMps
    candidateTerminalCpaM :=
      (planner.terminalStateCpa sol input).getD nearest.candidateTerminalCpaM }

/-- `gnc_avoidance_navigation_mode`. -/
def gncAvoidanceNavigationMode (colregsOvertakeCorridor : Bool) : String :=
  if colregsOvertakeCorridor then "colregs_overtake" else "emergency_avoidance"

/-- The optimized branch: preflight, then the manager. The flag says whether it committed. -/
def offerOptimized (node : MidMpcNode Details Ranking Graph Backend) (input : MidMpcInput Details)
    (sol : MidMpcSolution) (selectedPlan : AvoidancePlan) (lat0Deg lon0Deg : Float)
    (now : Int) : CommittedAvoidanceRoute × Bool :=
  let plan := planner.canonicalRoute selectedPlan sol input node.inbox lat0Deg lon0Deg
    s!"m5-midmpc-{now}"
  let prefixPrepended := plan.segmentSource.head? == some l2HistoricalPrefix
  if planner.validateCanonicalRouteForGnc plan lat0Deg lon0Deg !prefixPrepended then
    node.committedRouteManager.tryRevise
      (committedCandidateFromPlan planner.lib plan (!plan.nlpTailGateFailed)
        (planner.seconds (now + avoidancePlanTtl))
        (riskContext planner input sol lat0Deg lon0Deg) planner.cpaHardM)
      (planner.seconds now) node.solver.reportedFailures
  else (node.committedRouteManager, false)

/-! ### Offering a degraded candidate -/

/-- Whether the committed route can be kept. An unavailable solver never asks. -/
def committedRouteCanContinue (route : CommittedAvoidanceRoute) (nlpUnavailable : Bool)
    (nowS : Float) : CommittedAvoidanceRoute × Bool :=
  if nlpUnavailable || route.current.activeGeometry.isEmpty then (route, false)
  else
    let held := route.shouldEnterDegradedHold nowS
    (held.1, !held.2)

def nlpUnavailable (selectedPlan : AvoidancePlan) (sol : MidMpcSolution) : Bool :=
  selectedPlan.status == "DEGRADED" || sol.status != .converged

def degradedPoints (waypoints : List WaypointLatLon) (speedMps : Float)
    (navigationMode : String) : List DegradedCandidatePoint :=
  waypoints.map fun waypoint =>
    { latitude := waypoint.lat
      longitude := waypoint.lon
      speedMps := speedMps
      navigationMode := navigationMode }

/-- Both degraded branches: the question whether the route can continue, then the adapter. -/
def offerDegraded (route : CommittedAvoidanceRoute) (request : DegradedCandidateRequest)
    (now validUntil : Int) : CommittedAvoidanceRoute :=
  let continued := committedRouteCanContinue route request.nlpUnavailable (planner.seconds now)
  (buildCommittedDegradedCandidatePlan
    { request with committedRouteCanContinue := continued.2 } continued.1 (planner.seconds now)
    (planner.seconds validUntil)).1

/-- `requires_colregs_overtake_corridor`. -/
def requiresColregsOvertakeCorridor (input : MidMpcInput Details) : Bool :=
  input.colregsConflictActive && input.applicableRules.contains 13

/-- The corridor's anchor stays as long as the preferred direction does. -/
def corridorAnchor (current : Option AvoidanceCorridorAnchor) (input : MidMpcInput Details)
    (lat0Deg lon0Deg : Float) (now : Int) : AvoidanceCorridorAnchor :=
  let colregsOvertakeCorridor := requiresColregsOvertakeCorridor input
  let routeFrame := planner.alignRouteFrameWithHeading input.plannedRouteBearingRad
    input.routeXteM input.ownPsiRad
  let fresh : AvoidanceCorridorAnchor :=
    { latDeg := lat0Deg
      lonDeg := lon0Deg
      headingMinDeg := input.headingMinRad / kRadPerDeg
      headingMaxDeg := input.headingMaxRad / kRadPerDeg
      commandSpeedMps :=
        planner.gncAvoidanceCommandSpeedMps input.plannedSpeedMps colregsOvertakeCorridor
      routeBearingRad := routeFrame.bearingRad
      routeXteSign := if routeFrame.reversed then -1.0 else 1.0
      direction := input.colregsPreferredDirection
      colregsOvertakeCorridor := colregsOvertakeCorridor
      planId := s!"m5-colregs-{now}" }
  match current with
  | none => fresh
  | some anchor =>
      if anchor.direction ≠ input.colregsPreferredDirection then fresh else anchor

/-- The request for an avoidance corridor, if its waypoints pass the preflight. -/
def corridorRequest (anchor : AvoidanceCorridorAnchor) (input : MidMpcInput Details)
    (sol : MidMpcSolution) (selectedPlan : AvoidancePlan) (lat0Deg lon0Deg : Float) :
    Option DegradedCandidateRequest :=
  let colregsOvertakeCorridor := requiresColregsOvertakeCorridor input
  let navigationMode := gncAvoidanceNavigationMode colregsOvertakeCorridor
  let waypoints := planner.corridorWaypoints anchor colregsOvertakeCorridor input lat0Deg lon0Deg
  let speeds := waypoints.map fun _ => anchor.commandSpeedMps
  if planner.validateGncAvoidancePlan anchor.latDeg anchor.lonDeg waypoints speeds true then
    some
      { planId := anchor.planId
        behaviorMode := navigationMode
        confidence := 0.8
        rationale :=
          if colregsOvertakeCorridor then "Rule13 overtake corridor candidate"
          else "encounter-anchored avoidance corridor candidate"
        nlpUnavailable := nlpUnavailable selectedPlan sol
        hasReturnToRoutePoint := false
        safetyConcernEvent := "m5_degraded_corridor_no_return_route"
        points := degradedPoints waypoints anchor.commandSpeedMps navigationMode }
  else none

/-- The corridor branch. -/
def offerCorridor (node : MidMpcNode Details Ranking Graph Backend) (input : MidMpcInput Details)
    (sol : MidMpcSolution) (selectedPlan : AvoidancePlan) (lat0Deg lon0Deg : Float)
    (now : Int) : MidMpcNode Details Ranking Graph Backend :=
  let anchor := corridorAnchor planner node.avoidanceCorridorAnchor input lat0Deg lon0Deg now
  let node :=
    { node with
      returnToRouteEmitUntil := none
      returnRouteAnchor := none
      avoidanceCorridorAnchor := some anchor }
  match corridorRequest planner anchor input sol selectedPlan lat0Deg lon0Deg with
  | none => node
  | some request =>
      { node with
        committedRouteManager := offerDegraded planner node.committedRouteManager request now
          (now + avoidancePlanTtl) }

/-- The way back to the route from the ship's position, as the encounter ends. -/
def newReturnAnchor (corridor : Option AvoidanceCorridorAnchor) (input : MidMpcInput Details)
    (lat0Deg lon0Deg : Float) (now : Int) : ReturnRouteAnchor :=
  let colregsOvertakeRejoin := (corridor.map (·.colregsOvertakeCorridor)).getD false
  let frame := planner.alignRouteFrameWithHeading input.plannedRouteBearingRad input.routeXteM
    input.ownPsiRad
  let bearingRad := (corridor.map (·.routeBearingRad)).getD frame.bearingRad
  let routeXteM := (corridor.map (·.routeXteSign * input.routeXteM)).getD frame.routeXteM
  { waypoints :=
      planner.generateReturnToRouteWaypoints lat0Deg lon0Deg bearingRad routeXteM
    commandSpeedMps :=
      planner.gncAvoidanceCommandSpeedMps input.plannedSpeedMps colregsOvertakeRejoin
    navigationMode := gncAvoidanceNavigationMode colregsOvertakeRejoin
    planId := s!"m5-return-{now}" }

/-- An encounter that just ended renews the way back, a repetition keeps it. -/
def returnAnchor (node : MidMpcNode Details Ranking Graph Backend) (input : MidMpcInput Details)
    (lat0Deg lon0Deg : Float) (now : Int) : ReturnRouteAnchor :=
  if node.lastEmittedConflictActive then
    newReturnAnchor planner node.avoidanceCorridorAnchor input lat0Deg lon0Deg now
  else node.returnRouteAnchor.getD (newReturnAnchor planner none input lat0Deg lon0Deg now)

/-- The request for the way back, if it passes the preflight. -/
def returnRequest (anchor : ReturnRouteAnchor) (sol : MidMpcSolution)
    (selectedPlan : AvoidancePlan) (lat0Deg lon0Deg : Float) :
    Option DegradedCandidateRequest :=
  let speeds := anchor.waypoints.map fun _ => anchor.commandSpeedMps
  if planner.validateGncAvoidancePlan lat0Deg lon0Deg anchor.waypoints speeds false then
    some
      { planId := anchor.planId
        behaviorMode := "return_to_route"
        confidence := 0.8
        rationale :=
          if anchor.navigationMode == "colregs_overtake" then
            "Rule13 return_to_route candidate on M6 conflict-clear"
          else "return_to_route candidate on M6 conflict-clear"
        nlpUnavailable := nlpUnavailable selectedPlan sol
        hasReturnToRoutePoint := true
        returnLatitude := (anchor.waypoints.getLast?.map (·.lat)).getD 0.0
        returnLongitude := (anchor.waypoints.getLast?.map (·.lon)).getD 0.0
        points := degradedPoints anchor.waypoints anchor.commandSpeedMps anchor.navigationMode }
  else none

/-- The return branch. -/
def offerReturn (node : MidMpcNode Details Ranking Graph Backend) (input : MidMpcInput Details)
    (sol : MidMpcSolution) (selectedPlan : AvoidancePlan) (lat0Deg lon0Deg : Float)
    (now : Int) : MidMpcNode Details Ranking Graph Backend :=
  let anchor := returnAnchor planner node input lat0Deg lon0Deg now
  let node :=
    { node with
      returnToRouteEmitUntil :=
        if node.lastEmittedConflictActive then some (now + returnToRouteRepublishWindow)
        else node.returnToRouteEmitUntil
      avoidanceCorridorAnchor := none
      returnRouteAnchor := some anchor }
  match returnRequest planner anchor sol selectedPlan lat0Deg lon0Deg with
  | none => node
  | some request =>
      { node with
        committedRouteManager := offerDegraded planner node.committedRouteManager request now
          (now + returnToRouteRepublishWindow) }

/-! ### Publishing -/

/-- `should_emit_collision_avoidance_waypoints`. -/
def collisionAvoidanceAuthorized (behavior : BehaviorPlan Details)
    (input : MidMpcInput Details) : Bool :=
  input.colregsConflictActive && behavior.behavior == behaviorColregAvoid

/-- The committed route follows BC-MPC or is being handed back. -/
def FollowsBcMpc (state : LifecycleState) : Prop :=
  state = .bcMpcFollow ∨ state = .handoverNeutral

instance (state : LifecycleState) : Decidable (FollowsBcMpc state) :=
  inferInstanceAs (Decidable (_ ∨ _))

/-- The way back is still being repeated. -/
def returnRepublishActive (node : MidMpcNode Details Ranking Graph Backend) (now : Int) : Bool :=
  match node.returnToRouteEmitUntil with
  | none => false
  | some deadline => decide (planner.seconds (deadline - now) > 0.0)

/-- The branches of `publish_committed_route_` behind the authorization check. -/
def publishBranches (node : MidMpcNode Details Ranking Graph Backend)
    (behavior : BehaviorPlan Details) (input : MidMpcInput Details) (sol : MidMpcSolution)
    (selectedPlan : AvoidancePlan) (lat0Deg lon0Deg : Float) (now : Int) :
    MidMpcNode Details Ranking Graph Backend :=
  let conflictActive := collisionAvoidanceAuthorized behavior input
  if FollowsBcMpc node.committedRouteManager.current.state then node
  else if conflictActive && selectedPlan.status == "NORMAL" &&
      !selectedPlan.waypoints.isEmpty then
    let node :=
      { node with
        returnToRouteEmitUntil := none
        returnRouteAnchor := none
        avoidanceCorridorAnchor := none }
    let offered := offerOptimized planner node input sol selectedPlan lat0Deg lon0Deg now
    let node := { node with committedRouteManager := offered.1 }
    if offered.2 then node
    else offerCorridor planner node input sol selectedPlan lat0Deg lon0Deg now
  else if conflictActive then
    offerCorridor planner node input sol selectedPlan lat0Deg lon0Deg now
  else if node.lastEmittedConflictActive || returnRepublishActive planner node now then
    offerReturn planner node input sol selectedPlan lat0Deg lon0Deg now
  else node

/-- `publish_committed_route_`: a conflict M4 does not authorize ends the encounter, every other
path remembers whether there is one. -/
def publishCommittedRoute (node : MidMpcNode Details Ranking Graph Backend)
    (behavior : BehaviorPlan Details) (input : MidMpcInput Details) (sol : MidMpcSolution)
    (selectedPlan : AvoidancePlan) (lat0Deg lon0Deg : Float) (now : Int) :
    MidMpcNode Details Ranking Graph Backend :=
  if input.colregsConflictActive && !collisionAvoidanceAuthorized behavior input then
    { node with
      avoidanceCorridorAnchor := none
      returnRouteAnchor := none
      returnToRouteEmitUntil := none
      lastEmittedConflictActive := false }
  else
    { publishBranches planner node behavior input sol selectedPlan lat0Deg lon0Deg now with
      lastEmittedConflictActive := collisionAvoidanceAuthorized behavior input }

/-! ### The cycle and the other events -/

/-- A cycle up to the publication. -/
structure PreparedCycle (Details Ranking Graph Backend : Type) where
  node : MidMpcNode Details Ranking Graph Backend
  input : MidMpcInput Details
  sol : MidMpcSolution
  selectedPlan : AvoidancePlan

def MidMpcNode.prepare (node : MidMpcNode Details Ranking Graph Backend)
    (world : WorldState Details) (behavior : BehaviorPlan Details) :
    PreparedCycle Details Ranking Graph Backend :=
  let assembled := planner.assembleInput node.inbox
    node.committedRouteManager.current.committedPrefix node.riskRankingState
  let input := assembled.1
  let solved := { node with riskRankingState := assembled.2 }.runSolver planner behavior input
  let node := solved.1
  let sol := solved.2
  { node :=
      { node with
        committedRouteManager := notifyManager planner node.committedRouteManager node.solver
          node.inbox.bcHealth input sol }
    input := input
    sol := sol
    selectedPlan :=
      selectPlan planner behavior input sol world.ownLatitude world.ownLongitude }

/-- `on_solve_cycle_` once the required messages are there. -/
def MidMpcNode.solveCycle (node : MidMpcNode Details Ranking Graph Backend)
    (world : WorldState Details) (behavior : BehaviorPlan Details) (now : Int) :
    MidMpcNode Details Ranking Graph Backend :=
  let prepared := node.prepare planner world behavior
  publishCommittedRoute planner prepared.node behavior prepared.input prepared.sol
    prepared.selectedPlan world.ownLatitude world.ownLongitude now

/-- `on_solve_cycle_`. -/
def MidMpcNode.onSolveCycle (node : MidMpcNode Details Ranking Graph Backend) (now : Int) :
    MidMpcNode Details Ranking Graph Backend :=
  match node.inbox.required with
  | some (world, behavior) => node.solveCycle planner world behavior now
  | none => node

/-- What can happen to the node. -/
inductive Event (Details : Type) where
  | worldState (message : WorldState Details)
  | behaviorPlan (message : BehaviorPlan Details)
  | colregsConstraint (message : Details)
  | plannedRoute (message : Details)
  | speedProfile (message : Details)
  | gncExecutionOdd (message : Details)
  | bcHealth (message : BcMpcHealth)
  | solveTimer (now : Int)

/-- A message replaces the last one of its topic. -/
def Inbox.receive (inbox : Inbox Details) : Event Details → Inbox Details
  | .worldState message => { inbox with worldState := some message }
  | .behaviorPlan message => { inbox with behaviorPlan := some message }
  | .colregsConstraint message => { inbox with colregsConstraint := some message }
  | .plannedRoute message => { inbox with plannedRoute := some message }
  | .speedProfile message => { inbox with speedProfile := some message }
  | .gncExecutionOdd message => { inbox with gncExecutionOdd := some message }
  | .bcHealth message => { inbox with bcHealth := message }
  | .solveTimer _ => inbox

def MidMpcNode.handle (node : MidMpcNode Details Ranking Graph Backend) :
    Event Details → MidMpcNode Details Ranking Graph Backend
  | .solveTimer now => node.onSolveCycle planner now
  | message => { node with inbox := node.inbox.receive message }

end MassL3.M5.MidMpc
