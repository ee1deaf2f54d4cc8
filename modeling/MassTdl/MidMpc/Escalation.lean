/-
This file follows the escalation through runs of the node in which every solve fails. The node
tells the manager of the take-over and of the solver's count before it publishes, so from the
third failure on the manager is escalated when the publication begins, up to the width of its
counters. What is left of that after the cycle depends on the degraded candidate alone: a
corridor or a way back that reaches the manager is offered without a failure count.

The optimized branch plays no part, a failing cycle never takes it.
-/

import MassTdl.MidMpc.Publication
import MassTdl.Runs
import Mathlib.Tactic.IntervalCases

namespace MassL3.M5.MidMpc

open CommittedRoute CommittedAvoidanceRoute Runs

variable {Details Ranking Graph Backend : Type} (planner : Planner Details Ranking Graph Backend)

/-! ### Failing solves -/

/-- The solver counts the attempt as a failure. -/
def SolveAttempt.Failed : SolveAttempt → Prop
  | .acados solution => solution.status ≠ .converged ∧ solution.status ≠ .notInitialized
  | .ipopt _ solution => solution.status ≠ .converged

/-- A failed attempt raises the count and reports a solution that did not converge. -/
theorem MidMpcSolver.solve_of_failed (solver : MidMpcSolver) {attempt : SolveAttempt}
    (failed : attempt.Failed) :
    (solver.solve attempt).1.consecutiveFailures = solver.consecutiveFailures + 1 ∧
      (solver.solve attempt).2.status ≠ .converged := by
  cases attempt with
  | acados solution => exact ⟨if_pos failed, failed.1⟩
  | ipopt minaltBoxInfeasible solution => exact ⟨if_neg failed, failed⟩

/-- The solve of a cycle fails: the heading window is reported infeasible, or the solver counts
a failure. -/
def SolveFails (node : MidMpcNode Details Ranking Graph Backend) (behavior : BehaviorPlan Details)
    (input : MidMpcInput Details) : Prop :=
  wrappedHeadingWindow behavior input = true ∨
    let rebuilt := node.rebuildGraph planner input
    (planner.solve rebuilt.graph rebuilt.backend input rebuilt.lastSolution).1.Failed

/-- If a cycle is run at all, its solve fails. -/
def CycleFails (node : MidMpcNode Details Ranking Graph Backend) : Prop :=
  ∀ world behavior, node.inbox.required = some (world, behavior) →
    let assembled := planner.assembleInput node.inbox
      node.committedRouteManager.current.committedPrefix node.riskRankingState
    SolveFails planner { node with riskRankingState := assembled.2 } behavior assembled.1

variable (node : MidMpcNode Details Ranking Graph Backend) (behavior : BehaviorPlan Details)
  (input : MidMpcInput Details)

theorem rebuildGraph_solver : (node.rebuildGraph planner input).solver = node.solver := by
  unfold MidMpcNode.rebuildGraph
  split <;> rfl

/-- A failing solve keeps or raises the count, and its solution did not converge. -/
theorem runSolver_of_fails (fails : SolveFails planner node behavior input) :
    node.solver.consecutiveFailures ≤
        (node.runSolver planner behavior input).1.solver.consecutiveFailures ∧
      (node.runSolver planner behavior input).2.status ≠ .converged := by
  unfold MidMpcNode.runSolver
  by_cases wrapped : wrappedHeadingWindow behavior input = true
  · simp only [wrapped, if_true, rebuildGraph_solver]
    exact ⟨Nat.le_refl _, SolveStatus.noConfusion⟩
  · have failed := fails.resolve_left wrapped
    have counted := (node.rebuildGraph planner input).solver.solve_of_failed failed
    rw [rebuildGraph_solver] at counted
    simp only [if_neg wrapped, rebuildGraph_solver]
    exact ⟨by rw [counted.1]; exact Nat.le_succ _, counted.2⟩

/-! ### What the manager has been told -/

variable {behavior input}

theorem bcMpcShouldTakeOver_of_failures {solver : MidMpcSolver}
    (escalated : 3 ≤ solver.consecutiveFailures) :
    bcMpcShouldTakeOver planner solver input = true := by
  have reached : decide (bcMpcTakeoverThreshold ≤ solver.consecutiveFailures) = true :=
    decide_eq_true escalated
  simp only [bcMpcShouldTakeOver, computeBcMpcTakeOver, reached, Bool.true_or]

/-- Without convergence no hand-over is completed: a pending take-over and the cached count stay
as they are. -/
theorem notifyHandoverInputs_unconverged (route : CommittedAvoidanceRoute)
    (bcPredictedCpaM : Float) :
    (route.notifyHandoverInputs false bcPredictedCpaM).bcMpcTakeoverRequested =
        route.bcMpcTakeoverRequested ∧
      (route.notifyHandoverInputs false bcPredictedCpaM).lastSolverConsecutiveFailures =
        route.lastSolverConsecutiveFailures := by
  have broken : route.dualConditionMet false bcPredictedCpaM = false := rfl
  by_cases neutral : route.current.state = .handoverNeutral
  · rw [route.notifyHandoverInputs_of_broken false bcPredictedCpaM neutral broken]
    exact ⟨rfl, rfl⟩
  by_cases follow : route.current.state = .bcMpcFollow
  · rw [route.notifyHandoverInputs_of_follow false bcPredictedCpaM follow, broken,
      route.handoverHysteresis_of_broken]
    exact ⟨rfl, rfl⟩
  · rw [route.notifyHandoverInputs_of_other false bcPredictedCpaM neutral follow]
    exact ⟨rfl, rfl⟩

/-- From the third failure on the take-over is pending when the publication begins, and the
manager has the solver's count. -/
theorem notifyManager_of_failures (route : CommittedAvoidanceRoute) {solver : MidMpcSolver}
    (health : BcMpcHealth) {sol : MidMpcSolution}
    (escalated : 3 ≤ solver.consecutiveFailures) (unconverged : sol.status ≠ .converged) :
    (notifyManager planner route solver health input sol).bcMpcTakeoverRequested = true ∧
      (notifyManager planner route solver health input sol).lastSolverConsecutiveFailures =
        solver.reportedFailures := by
  have diverged : (sol.status == .converged) = false := beq_eq_false_iff_ne.mpr unconverged
  have degraded : ∀ told : CommittedAvoidanceRoute, told.bcMpcTakeoverRequested = true ∧
        told.lastSolverConsecutiveFailures = solver.reportedFailures →
      (if told.current.state = .bcMpcFollow ∧ told.shouldEnterFinalDegrade = true then
          told.enterFinalDegrade else told).bcMpcTakeoverRequested = true ∧
        (if told.current.state = .bcMpcFollow ∧ told.shouldEnterFinalDegrade = true then
          told.enterFinalDegrade else told).lastSolverConsecutiveFailures =
            solver.reportedFailures := by
    intro told pending
    split
    · exact pending
    · exact pending
  unfold notifyManager
  rw [bcMpcShouldTakeOver_of_failures planner escalated, if_pos rfl, diverged]
  refine degraded _ ?_
  rw [(notifyHandoverInputs_unconverged _ _).1, (notifyHandoverInputs_unconverged _ _).2]
  exact ⟨rfl, rfl⟩

/-! ### Failing cycles -/

/-- The manager is escalated and the take-over is pending. -/
def EscalationPending (route : CommittedAvoidanceRoute) : Prop :=
  Escalated route ∧ route.bcMpcTakeoverRequested = true

instance (route : CommittedAvoidanceRoute) : Decidable (EscalationPending route) :=
  inferInstanceAs (Decidable (_ ∧ _))

/-- An offer spares the escalation: it does not reach the manager, which is escalated, or the
manager refuses it and escalates on its own commit counter. -/
def OfferSpares (route : CommittedAvoidanceRoute) :
    Option (DegradedCandidateRequest × Float) → Prop
  | none => Escalated route
  | some (request, validUntilS) => SparesEscalation request route validUntilS

/-- Once the take-over is pending, an offer leaves the escalation pending exactly when it spares
it. -/
theorem takeOffer_pending_iff (route : CommittedAvoidanceRoute) (nowS : Float)
    (offer : Option (DegradedCandidateRequest × Float))
    (pending : route.bcMpcTakeoverRequested = true) :
    EscalationPending (takeOffer route nowS offer) ↔ OfferSpares route offer := by
  cases offer with
  | none => exact and_iff_left pending
  | some offer =>
    obtain ⟨request, validUntilS⟩ := offer
    exact (offer_keeps_iff request route nowS validUntilS).trans (and_iff_left pending)

/-- From the third failure on the escalation is pending. -/
def Held (node : MidMpcNode Details Ranking Graph Backend) : Prop :=
  3 ≤ node.solver.consecutiveFailures → EscalationPending node.committedRouteManager

/-- If a cycle is run and the solver has failed three times by then, the cycle's degraded offer
spares the escalation. -/
def CycleSpares (node : MidMpcNode Details Ranking Graph Backend) (now : Int) : Prop :=
  ∀ world behavior, node.inbox.required = some (world, behavior) →
    let prepared := node.prepare planner world behavior
    3 ≤ prepared.node.solver.consecutiveFailures →
      OfferSpares prepared.node.committedRouteManager
        (degradedOffer planner prepared.node behavior prepared.input prepared.sol
          prepared.selectedPlan world.ownLatitude world.ownLongitude now)

section Cycle

variable {planner} {node : MidMpcNode Details Ranking Graph Backend} {now : Int}

variable {world : WorldState Details} {behavior : BehaviorPlan Details}

/-- What the publication of a failing cycle finds. -/
theorem prepare_of_fails (fails : CycleFails planner node)
    (required : node.inbox.required = some (world, behavior)) :
    node.solver.consecutiveFailures ≤
        (node.prepare planner world behavior).node.solver.consecutiveFailures ∧
      (node.prepare planner world behavior).sol.status ≠ .converged ∧
      (3 ≤ (node.prepare planner world behavior).node.solver.consecutiveFailures →
        (node.prepare planner world
            behavior).node.committedRouteManager.bcMpcTakeoverRequested = true ∧
          (node.prepare planner world
            behavior).node.committedRouteManager.lastSolverConsecutiveFailures =
              (node.prepare planner world behavior).node.solver.reportedFailures) := by
  obtain ⟨counted, unconverged⟩ := runSolver_of_fails planner _ behavior _
    (fails world behavior required)
  exact ⟨counted, unconverged, fun escalated =>
    notifyManager_of_failures planner _ _ escalated unconverged⟩

/-- A cycle leaves the solver as its solve left it. -/
theorem solveCycle_solver (world : WorldState Details) (behavior : BehaviorPlan Details) :
    (node.solveCycle planner world behavior now).solver =
      (node.prepare planner world behavior).node.solver :=
  (publishCommittedRoute_publishes planner _ behavior _ _ _ _ _ now).solver_eq

/-- A failing cycle leaves the manager its degraded offer left. -/
theorem solveCycle_committedRouteManager (fails : CycleFails planner node)
    (required : node.inbox.required = some (world, behavior)) :
    (node.solveCycle planner world behavior now).committedRouteManager =
      takeOffer (node.prepare planner world behavior).node.committedRouteManager
        (planner.seconds now)
        (degradedOffer planner (node.prepare planner world behavior).node behavior
          (node.prepare planner world behavior).input (node.prepare planner world behavior).sol
          (node.prepare planner world behavior).selectedPlan world.ownLatitude world.ownLongitude
          now) := by
  obtain ⟨_, unconverged, _⟩ := prepare_of_fails fails required
  exact publishCommittedRoute_committedRouteManager planner _ _ now _ unconverged
    (selectPlan_of_unconverged planner _ _ unconverged)

theorem failures_le_onSolveCycle (fails : CycleFails planner node) :
    node.solver.consecutiveFailures ≤
      (node.onSolveCycle planner now).solver.consecutiveFailures := by
  unfold MidMpcNode.onSolveCycle
  split
  · next world behavior required =>
    rw [solveCycle_solver]
    exact (prepare_of_fails fails required).1
  · exact Nat.le_refl _

/-- After a failing cycle the escalation stands exactly when the cycle spared it. -/
theorem solveCycle_held_iff (fails : CycleFails planner node)
    (required : node.inbox.required = some (world, behavior)) :
    Held (node.solveCycle planner world behavior now) ↔ CycleSpares planner node now := by
  obtain ⟨_, _, pending⟩ := prepare_of_fails fails required
  unfold Held
  rw [solveCycle_solver, solveCycle_committedRouteManager fails required]
  constructor
  · intro held otherWorld otherBehavior present prepared escalated
    rw [required] at present
    obtain ⟨rfl, rfl⟩ := Prod.mk.inj (Option.some.inj present)
    exact (takeOffer_pending_iff _ _ _ (pending escalated).1).mp (held escalated)
  · intro spares escalated
    exact (takeOffer_pending_iff _ _ _ (pending escalated).1).mpr
      (spares world behavior required escalated)

end Cycle

/-! ### Runs of failing cycles -/

section Runs

variable {planner} {start : MidMpcNode Details Ranking Graph Backend}
  {events : List (Event Details)}

/-- While every cycle fails the count does not fall. -/
theorem failures_le_of_failing
    (failing : ∀ count now, events[count]? = some (.solveTimer now) →
      CycleFails planner (stateAt (MidMpcNode.handle planner) start events count))
    {first last : Nat} (later : first ≤ last) :
    (stateAt (MidMpcNode.handle planner) start events first).solver.consecutiveFailures ≤
      (stateAt (MidMpcNode.handle planner) start events last).solver.consecutiveFailures := by
  refine stateAt_invariant_between
    (fun node : MidMpcNode Details Ranking Graph Backend => _ ≤ node.solver.consecutiveFailures)
    later (Nat.le_refl _) fun count event _ _ present reached => reached.trans ?_
  cases event with
  | solveTimer now => exact failures_le_onSolveCycle (failing count now present)
  | _ => exact Nat.le_refl _

/-- In every run whose cycles all fail, the escalation is pending from the third failure on
exactly when it is at the start and every cycle spares it. -/
theorem escalation_survives_iff
    (failing : ∀ count now, events[count]? = some (.solveTimer now) →
      CycleFails planner (stateAt (MidMpcNode.handle planner) start events count)) :
    (∀ first last, first ≤ last →
        3 ≤ (stateAt (MidMpcNode.handle planner) start events
          first).solver.consecutiveFailures →
        EscalationPending
          (stateAt (MidMpcNode.handle planner) start events last).committedRouteManager) ↔
      Held start ∧ ∀ count now, events[count]? = some (.solveTimer now) →
        CycleSpares planner (stateAt (MidMpcNode.handle planner) start events count) now := by
  constructor
  · intro survives
    refine ⟨survives 0 0 (Nat.le_refl 0), fun count now present world behavior required => ?_⟩
    have held : Held (stateAt (MidMpcNode.handle planner) start events (count + 1)) :=
      survives (count + 1) (count + 1) (Nat.le_refl _)
    rw [stateAt_succ _ start events present] at held
    simp only [MidMpcNode.handle, MidMpcNode.onSolveCycle, required] at held
    exact (solveCycle_held_iff (failing count now present) required).mp held world behavior
      required
  · rintro ⟨initially, spares⟩ first last later escalated
    have held : Held (stateAt (MidMpcNode.handle planner) start events last) := by
      refine stateAt_invariant Held initially (fun count event present holds => ?_) last
      cases event with
      | solveTimer now =>
        simp only [MidMpcNode.handle, MidMpcNode.onSolveCycle]
        split
        · next world behavior required =>
          exact (solveCycle_held_iff (failing count now present) required).mpr
            (spares count now present)
        · exact holds
      | _ => exact holds
    exact held (escalated.trans (failures_le_of_failing failing later))

end Runs

/-! ### An overtaking encounter -/

/-- The Rule 13 corridor of a ship that heads north across the equator. -/
def overtakeCorridor (latDeg lonDeg : Float) : List WaypointLatLon :=
  [(0.0, 0.0), (600.0, 60.0), (1200.0, 120.0), (2000.0, 200.0), (3000.0, 270.0),
    (4200.0, 270.0), (5600.0, 270.0), (7000.0, 270.0), (8400.0, 216.0), (10000.0, 120.0),
    (12000.0, 0.0)].map fun (alongM, lateralM) =>
      { lat := latDeg + alongM / 111320.0, lon := lonDeg + lateralM / 111320.0 }

/-- The encounter as the planner sees it. -/
def overtakeInput : MidMpcInput Unit where
  ownPsiRad := 0.0
  headingMinRad := 0.0
  headingMaxRad := 0.5
  applicableRules := [13]
  targets := []
  prefixActiveK := 0
  colregsConflictActive := true
  colregsPreferredDirection := .starboard
  colregsPrimaryRole := 1
  speedGapInfeasible := false
  plannedSpeedMps := 5.0
  plannedRouteBearingRad := 0.0
  routeXteM := 0.0
  details := ()

/-- A planner in that encounter whose solver never finds a solution. -/
def overtakePlanner : Planner Unit Unit Unit Unit where
  lib := meridianLibrary
  cpaHardM := 1852.0
  seconds := fun nanoseconds => Float.ofInt nanoseconds / 1.0e9
  initialRanking := ()
  assembleInput := fun _ _ _ => (overtakeInput, ())
  initialGraph := ()
  buildSymbolicGraph := fun _ => ()
  solverValid := fun _ => true
  initialBackend := ()
  solve := fun _ _ _ _ => (.ipopt false { status := .infeasible }, ())
  envelopeTakeover := fun _ => false
  acceptTailGate := fun _ _ => true
  generate := fun _ _ _ => { status := "NORMAL" }
  geometricFallbackWaypoints := fun _ latDeg lonDeg =>
    [{ latitude := latDeg + 150.0 / 111320.0, longitude := lonDeg }]
  recoveryWaypoints := fun _ _ _ => []
  canonicalRoute := fun plan _ _ _ _ _ planId => { plan with planId := planId }
  validateCanonicalRouteForGnc := fun _ _ _ _ => true
  primaryTargetClosingSpeed := fun _ => none
  terminalStateCpa := fun _ _ => none
  gncAvoidanceCommandSpeedMps := fun desiredMps _ => desiredMps
  alignRouteFrameWithHeading := fun bearingRad routeXteM _ =>
    { bearingRad := bearingRad, routeXteM := routeXteM, reversed := false }
  corridorWaypoints := fun anchor _ _ _ _ => overtakeCorridor anchor.latDeg anchor.lonDeg
  generateReturnToRouteWaypoints := fun latDeg lonDeg _ _ =>
    [{ lat := latDeg + 500.0 / 111320.0, lon := lonDeg }]
  validateGncAvoidancePlan := fun _ _ _ _ _ => true

/-- Three cycles of a transit, then M4 calls for the avoidance. -/
def overtakeEvents : List (Event Unit) :=
  [.worldState { ownLatitude := 0.0, ownLongitude := 0.0, details := () },
    .behaviorPlan { behavior := behaviorTransit, rationale := "transit", details := () },
    .colregsConstraint (),
    .solveTimer 0,
    .solveTimer 1000000000,
    .solveTimer 2000000000,
    .behaviorPlan { behavior := behaviorColregAvoid, rationale := "Rule 13", details := () },
    .solveTimer 3000000000]

theorem overtakePlanner_fails (node : MidMpcNode Unit Unit Unit Unit) :
    CycleFails overtakePlanner node :=
  fun _ _ _ => .inr SolveStatus.noConfusion

/-- While the ship is in transit nothing is offered and the escalation comes up. -/
theorem escalation_pending_in_transit :
    EscalationPending (stateAt (MidMpcNode.handle overtakePlanner)
      (MidMpcNode.construct overtakePlanner) (overtakeEvents.take 6) 6).committedRouteManager := by
  refine (escalation_survives_iff fun _ _ _ => overtakePlanner_fails _).mpr
    ⟨fun failed => absurd failed (by decide), fun count now present world behavior required => ?_⟩
    6 6 (Nat.le_refl 6) (by decide)
  have within : count < 6 := (List.getElem?_eq_some_iff.mp present).1
  interval_cases count
  all_goals cases present
  all_goals
    cases required
    show 3 ≤ _ → Escalated _
    decide

/-- The first corridor clears an escalation that was pending. -/
theorem corridor_clears_escalation :
    ¬ ∀ (planner : Planner Unit Unit Unit Unit) (events : List (Event Unit)),
        (∀ count now, events[count]? = some (.solveTimer now) →
          CycleFails planner (stateAt (MidMpcNode.handle planner)
            (MidMpcNode.construct planner) events count)) →
        ∀ first last, first ≤ last →
          3 ≤ (stateAt (MidMpcNode.handle planner) (MidMpcNode.construct planner) events
            first).solver.consecutiveFailures →
          EscalationPending (stateAt (MidMpcNode.handle planner)
            (MidMpcNode.construct planner) events first).committedRouteManager →
          EscalationPending (stateAt (MidMpcNode.handle planner)
            (MidMpcNode.construct planner) events last).committedRouteManager := by
  intro survives
  have pending := survives overtakePlanner overtakeEvents
    (fun _ _ _ => overtakePlanner_fails _) 6 8 (by decide) (by decide)
    (by decide)
  revert pending
  decide +kernel

end MassL3.M5.MidMpc
