/-
This file holds the data of the planner node: the messages it caches, the input it assembles
from them, the solver with its failure counter, the anchors it keeps between cycles, and the
functions a cycle calls that are pure and defined elsewhere.

Members that only decide what is published, and when, are left out: nothing the node commits
depends on them.
-/

import MassTdl.MidMpc.DegradedAdapter

namespace MassL3.M5.MidMpc

open CommittedRoute CommittedAvoidanceRoute

/-! ### Messages -/

variable (Details : Type)

structure WorldState where
  ownLatitude : Float
  ownLongitude : Float
  details : Details

structure BehaviorPlan where
  behavior : UInt8
  rationale : String
  details : Details

def behaviorTransit : UInt8 := 0

def behaviorColregAvoid : UInt8 := 1

def behaviorRecovery : UInt8 := 7

/-- What BC-MPC reports of itself. -/
structure BcMpcHealth where
  overrideActive : Bool := false
  worstCaseCpaM : Float32 := 0.0
  predictedShortHorizonCpaM : Float32 := 0.0
  overrideNoImproveCount : UInt32 := 0

/-- The last message of each topic. -/
structure Inbox where
  worldState : Option (WorldState Details) := none
  behaviorPlan : Option (BehaviorPlan Details) := none
  colregsConstraint : Option Details := none
  plannedRoute : Option Details := none
  speedProfile : Option Details := none
  gncExecutionOdd : Option Details := none
  bcHealth : BcMpcHealth := {}

/-- `has_required_inputs_`, with the two messages a cycle reads directly. -/
def Inbox.required {Details : Type} (inbox : Inbox Details) :
    Option (WorldState Details × BehaviorPlan Details) :=
  match inbox.worldState, inbox.behaviorPlan, inbox.colregsConstraint with
  | some world, some behavior, some _ => some (world, behavior)
  | _, _, _ => none

/-! ### The assembled input -/

inductive ColregsPreferredDirection where
  | hold
  | starboard
  | port
  | reduceSpeed
  deriving DecidableEq, Repr

/-- A target in the ship's frame. -/
structure TargetState where
  xM : Float
  yM : Float
  cogRad : Float
  sogMps : Float

structure MidMpcInput where
  ownPsiRad : Float
  headingMinRad : Float
  headingMaxRad : Float
  applicableRules : List UInt8
  targets : List TargetState
  prefixActiveK : Int32
  colregsConflictActive : Bool
  colregsPreferredDirection : ColregsPreferredDirection
  colregsPrimaryRole : UInt8
  speedGapInfeasible : Bool
  plannedSpeedMps : Float
  plannedRouteBearingRad : Float
  routeXteM : Float
  details : Details

variable {Details}

/-- `heading_window_is_wrapped`. -/
def headingWindowIsWrapped (hMin hMax : Float) : Bool :=
  if (hMax - hMin).abs ≥ 2.0 * kPi - 1e-9 then false else decide (hMin > hMax)

/-- The 64-bit signature of the constraint structure, on which the solver's graph is rebuilt. -/
def constraintSignature (input : MidMpcInput Details) : UInt64 :=
  let rules := (input.applicableRules.take 4).zipIdx.foldl
    (fun sig rule => sig ^^^ rule.1.toUInt64 <<< (40 - rule.2 * 8).toUInt64)
    (input.applicableRules.length.toUInt64 <<< 48)
  let direction : UInt64 :=
    match input.colregsPreferredDirection with
    | .starboard => 1
    | .port => 2
    | .hold | .reduceSpeed => 0
  rules ^^^ input.prefixActiveK.toInt64.toUInt64 <<< 32 ^^^ input.targets.length.toUInt64 <<< 24 ^^^
    direction <<< 16 ^^^ input.colregsPrimaryRole.toUInt64 <<< 8

/-! ### The solver -/

/-- `MidMpcSolution::Status`. -/
inductive SolveStatus where
  | converged
  | timeout
  | infeasible
  | numericalFailure
  | notInitialized
  deriving DecidableEq, Repr

structure TrajectoryPoint where
  xM : Float
  yM : Float
  psiRad : Float
  uMps : Float

structure MidMpcSolution where
  status : SolveStatus := .notInitialized
  trajectory : List TrajectoryPoint := []

/-- The members of the solver that outlive a solve. -/
structure MidMpcSolver where
  consecutiveFailures : Nat := 0
  lastMinaltBoxInfeasible : Bool := false
  deriving DecidableEq

/-- What a backend answers. The IPOPT path derives the minimum-alteration verdict before it
solves, and a registry mismatch or an exception there is a numerical failure. -/
inductive SolveAttempt where
  | acados (solution : MidMpcSolution)
  | ipopt (minaltBoxInfeasible : Bool) (solution : MidMpcSolution)

/-- The bookkeeping of `MidMpcSolver::solve`. -/
def MidMpcSolver.solve (solver : MidMpcSolver) :
    SolveAttempt → MidMpcSolver × MidMpcSolution
  | .acados solution =>
      let failed := solution.status ≠ .converged ∧ solution.status ≠ .notInitialized
      ({ solver with
          consecutiveFailures := if failed then solver.consecutiveFailures + 1 else 0 },
        solution)
  | .ipopt minaltBoxInfeasible solution =>
      ({ consecutiveFailures :=
          if solution.status = .converged then 0 else solver.consecutiveFailures + 1
         lastMinaltBoxInfeasible := minaltBoxInfeasible },
        solution)

/-- The counter as the manager is told of it: its low 32 bits. -/
def MidMpcSolver.reportedFailures (solver : MidMpcSolver) : UInt32 :=
  solver.consecutiveFailures.toUInt32

/-! ### Anchors -/

structure WaypointLatLon where
  lat : Float
  lon : Float

structure AlignedRouteFrame where
  bearingRad : Float
  routeXteM : Float
  reversed : Bool

/-- Where the current encounter's corridor begins. -/
structure AvoidanceCorridorAnchor where
  latDeg : Float
  lonDeg : Float
  headingMinDeg : Float
  headingMaxDeg : Float
  commandSpeedMps : Float
  routeBearingRad : Float
  routeXteSign : Float
  direction : ColregsPreferredDirection
  colregsOvertakeCorridor : Bool
  planId : String

/-- The way back to the route after an encounter. -/
structure ReturnRouteAnchor where
  waypoints : List WaypointLatLon
  commandSpeedMps : Float
  navigationMode : String
  planId : String

/-! ### The functions a cycle calls -/

/-- The functions a cycle calls, with the node's constants. `Graph` is the symbolic graph of the
solver, `Ranking` the history of the risk ranking, and `Backend` what the acados backend keeps
between two solves: the last converged solution, the number of its targets and the capsule. -/
structure Planner (Details Ranking Graph Backend : Type) where
  lib : MathLibrary
  cpaHardM : Float
  /-- `rclcpp::Time::seconds`. -/
  seconds : Int → Float
  initialRanking : Ranking
  /-- `assemble_input_`: the frozen waypoints are projected into the input. -/
  assembleInput : Inbox Details → List GeoWP → Ranking → MidMpcInput Details × Ranking
  /-- The graph the constructor builds. -/
  initialGraph : Graph
  buildSymbolicGraph : MidMpcInput Details → Graph
  solverValid : Graph → Bool
  /-- The backend as its warm-up leaves it. -/
  initialBackend : Backend
  solve : Graph → Backend → MidMpcInput Details → Option MidMpcSolution → SolveAttempt × Backend
  /-- The envelope is empty, or a target lies inside it. -/
  envelopeTakeover : MidMpcInput Details → Bool
  acceptTailGate : MidMpcSolution → MidMpcInput Details → Bool
  generate : MidMpcSolution → Float → Float → AvoidancePlan
  geometricFallbackWaypoints : MidMpcInput Details → Float → Float → List AvoidanceWaypoint
  recoveryWaypoints : MidMpcInput Details → Float → Float → List AvoidanceWaypoint
  /-- The selected plan with the L2 history before it and the L2 suffix behind it. -/
  canonicalRoute : AvoidancePlan → MidMpcSolution → MidMpcInput Details → Inbox Details →
    Float → Float → String → AvoidancePlan
  validateCanonicalRouteForGnc : AvoidancePlan → Float → Float → Bool → Bool
  primaryTargetClosingSpeed : MidMpcInput Details → Option Float
  terminalStateCpa : MidMpcSolution → MidMpcInput Details → Option Float
  gncAvoidanceCommandSpeedMps : Float → Bool → Float
  alignRouteFrameWithHeading : Float → Float → Float → AlignedRouteFrame
  corridorWaypoints : AvoidanceCorridorAnchor → Bool → MidMpcInput Details → Float → Float →
    List WaypointLatLon
  generateReturnToRouteWaypoints : Float → Float → Float → Float → List WaypointLatLon
  validateGncAvoidancePlan : Float → Float → List WaypointLatLon → List Float → Bool → Bool

/-! ### The node -/

/-- The members a later cycle reads. -/
structure MidMpcNode (Details Ranking Graph Backend : Type) where
  inbox : Inbox Details := {}
  committedRouteManager : CommittedAvoidanceRoute := {}
  solver : MidMpcSolver := {}
  backend : Backend
  graph : Graph
  riskRankingState : Ranking
  lastConstraintSignature : UInt64 := 0
  lastSolution : Option MidMpcSolution := none
  lastEmittedConflictActive : Bool := false
  returnToRouteEmitUntil : Option Int := none
  avoidanceCorridorAnchor : Option AvoidanceCorridorAnchor := none
  returnRouteAnchor : Option ReturnRouteAnchor := none

variable {Ranking Graph Backend : Type}

/-- The constructor. -/
def MidMpcNode.construct (planner : Planner Details Ranking Graph Backend) :
    MidMpcNode Details Ranking Graph Backend :=
  { backend := planner.initialBackend
    graph := planner.initialGraph
    riskRankingState := planner.initialRanking }

/-- `reset_cross_run_state`. -/
def MidMpcNode.resetCrossRunState (planner : Planner Details Ranking Graph Backend)
    (node : MidMpcNode Details Ranking Graph Backend) : MidMpcNode Details Ranking Graph Backend :=
  { node with
    lastSolution := none
    riskRankingState := planner.initialRanking
    lastEmittedConflictActive := false
    returnToRouteEmitUntil := none
    avoidanceCorridorAnchor := none
    returnRouteAnchor := none
    lastConstraintSignature := 0 }

end MassL3.M5.MidMpc
