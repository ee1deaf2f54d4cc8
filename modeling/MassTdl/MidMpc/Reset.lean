/-
This file compares two nodes on the same later events: one that has been through a run and was
reset, and a new one. The reset drops the warm start, the ranking history and the anchors. The
committed-route manager and the solver with its failure count stay as the run left them, and so
do the memory of the backend, the messages and the symbolic graph.

Where the run left nothing, every later cycle finds the two nodes alike, once every topic has
been heard again, and only there.
-/

import MassTdl.MidMpc.Escalation

namespace MassL3.M5.MidMpc

open CommittedRoute CommittedAvoidanceRoute Runs

variable {Details Ranking Graph Backend : Type} (planner : Planner Details Ranking Graph Backend)

/-! ### Outcomes -/

/-- A manager without the three members that are only reported. -/
def withoutReports (route : CommittedAvoidanceRoute) : CommittedAvoidanceRoute :=
  { route with bcLastWorstCaseCpaM := 1.0e9, bcHealthReceived := false, lastMidConverged := true }

/-- Two nodes agree in what they have committed, in lifecycle, prefix, revision and counters of
the manager, in a pending take-over, and in the solver's failure count. -/
structure SameOutcome (first second : MidMpcNode Details Ranking Graph Backend) : Prop where
  manager :
    withoutReports first.committedRouteManager = withoutReports second.committedRouteManager
  failures : first.solver.consecutiveFailures = second.solver.consecutiveFailures

/-- Two managers that differ in the reported members at most, and only before a hand-over. -/
def ReportsApart (route other : CommittedAvoidanceRoute) : Prop :=
  route = other ∨
    withoutReports route = withoutReports other ∧ route.current.state ≠ .handoverNeutral

variable {route other : CommittedAvoidanceRoute}

theorem ReportsApart.withoutReports_eq (apart : ReportsApart route other) :
    withoutReports route = withoutReports other := by
  rcases apart with rfl | ⟨same, _⟩
  · rfl
  · exact same

theorem ReportsApart.current_eq (apart : ReportsApart route other) :
    route.current = other.current :=
  congrArg (·.current) apart.withoutReports_eq

/-- Two graphs answer alike as long as the constraints keep the given signature. -/
structure GraphsAgree (first second : Graph) (signature : UInt64) : Prop where
  valid : planner.solverValid first = planner.solverValid second
  solve : planner.solverValid first = true → ∀ backend input warm,
    constraintSignature input = signature →
      planner.solve first backend input warm = planner.solve second backend input warm

theorem GraphsAgree.refl (graph : Graph) (signature : UInt64) :
    GraphsAgree planner graph graph signature :=
  ⟨rfl, fun _ _ _ _ _ => rfl⟩

/-- Two nodes that no cycle tells apart once their messages agree. -/
inductive NodesAgree :
    MidMpcNode Details Ranking Graph Backend → MidMpcNode Details Ranking Graph Backend → Prop where
  | intro (node : MidMpcNode Details Ranking Graph Backend) (inbox : Inbox Details)
      (manager : CommittedAvoidanceRoute) (graph : Graph)
      (managers : ReportsApart node.committedRouteManager manager)
      (graphs : GraphsAgree planner node.graph graph node.lastConstraintSignature) :
      NodesAgree node
        { node with inbox := inbox, committedRouteManager := manager, graph := graph }

variable {planner}

variable {first second : MidMpcNode Details Ranking Graph Backend}

theorem NodesAgree.sameOutcome (agree : NodesAgree planner first second) :
    SameOutcome first second := by
  cases agree with
  | intro inbox manager graph managers graphs => exact ⟨managers.withoutReports_eq, rfl⟩

/-! ### The manager of a cycle -/

/-- A manager that differs in the reported members is the other with these three replaced. -/
theorem eq_of_withoutReports_eq (same : withoutReports route = withoutReports other) :
    other = { route with
      bcLastWorstCaseCpaM := other.bcLastWorstCaseCpaM
      bcHealthReceived := other.bcHealthReceived
      lastMidConverged := other.lastMidConverged } := by
  cases route
  cases other
  simp only [withoutReports, CommittedAvoidanceRoute.mk.injEq] at same ⊢
  simp only [same, and_self]

/-- Outside the audit state the convergence of the last cycle is overwritten unread. -/
theorem notifyHandoverInputs_of_lastMidConverged (route : CommittedAvoidanceRoute)
    (lastMidConverged midConverged : Bool) (bcPredictedCpaM : Float)
    (notNeutral : route.current.state ≠ .handoverNeutral) :
    ({ route with lastMidConverged := lastMidConverged } :
        CommittedAvoidanceRoute).notifyHandoverInputs midConverged bcPredictedCpaM =
      route.notifyHandoverInputs midConverged bcPredictedCpaM := by
  by_cases follow : route.current.state = .bcMpcFollow
  · rw [route.notifyHandoverInputs_of_follow midConverged bcPredictedCpaM follow,
      notifyHandoverInputs_of_follow { route with lastMidConverged := lastMidConverged }
        midConverged bcPredictedCpaM follow]
    unfold handoverHysteresis dualConditionMet
    dsimp only
    split
    · split <;> rfl
    · split <;> rfl
  · rw [route.notifyHandoverInputs_of_other midConverged bcPredictedCpaM notNeutral follow,
      notifyHandoverInputs_of_other { route with lastMidConverged := lastMidConverged }
        midConverged bcPredictedCpaM notNeutral follow]
    rfl

/-- What the manager is told overwrites the reported members before anything reads them. -/
theorem notifyManager_of_apart (apart : ReportsApart route other) (solver : MidMpcSolver)
    (health : BcMpcHealth) (input : MidMpcInput Details) (sol : MidMpcSolution) :
    notifyManager planner other solver health input sol =
      notifyManager planner route solver health input sol := by
  rcases apart with rfl | ⟨same, notNeutral⟩
  · rfl
  rw [eq_of_withoutReports_eq same]
  unfold notifyManager
  have told (start : CommittedAvoidanceRoute) (follows : start.current.state ≠ .handoverNeutral) :=
    notifyHandoverInputs_of_lastMidConverged
      ((start.notifySolverConsecutiveFailures solver.reportedFailures).notifyBcMpcHealth
        health.overrideNoImproveCount health.worstCaseCpaM.toFloat health.overrideActive)
      other.lastMidConverged (sol.status == .converged) health.predictedShortHorizonCpaM.toFloat
      follows
  by_cases takeover : bcMpcShouldTakeOver planner solver input = true
  · simp only [takeover, if_true]
    rw [← told route.markBcMpcTakeover notNeutral]
    rfl
  · simp only [takeover, if_false, Bool.false_eq_true]
    rw [← told route notNeutral]
    rfl

/-! ### The solve -/

/-- Agreeing nodes rebuild their graphs together, and then solve alike. -/
theorem rebuildGraph_agree (agree : NodesAgree planner first second) (input : MidMpcInput Details) :
    NodesAgree planner (first.rebuildGraph planner input) (second.rebuildGraph planner input) ∧
      ∀ backend warm,
        planner.solve (second.rebuildGraph planner input).graph backend input warm =
          planner.solve (first.rebuildGraph planner input).graph backend input warm := by
  cases agree with
  | intro inbox manager graph managers graphs =>
    unfold MidMpcNode.rebuildGraph
    dsimp only
    rw [← graphs.valid]
    by_cases rebuilt : constraintSignature input ≠ first.lastConstraintSignature ∨
        planner.solverValid first.graph = false
    · simp only [if_pos rebuilt]
      exact ⟨.intro _ inbox manager _ managers (.refl planner _ _), fun _ _ => trivial⟩
    · simp only [if_neg rebuilt]
      obtain ⟨kept, valid⟩ := not_or.mp rebuilt
      have valid : planner.solverValid first.graph = true := Bool.eq_true_of_not_eq_false valid
      exact ⟨.intro _ inbox manager graph managers graphs, fun backend warm =>
        (graphs.solve valid backend input warm (not_not.mp kept)).symm⟩

/-- Agreeing nodes find the same solution and agree afterwards. -/
theorem runSolver_agree (agree : NodesAgree planner first second) (behavior : BehaviorPlan Details)
    (input : MidMpcInput Details) :
    NodesAgree planner (first.runSolver planner behavior input).1
        (second.runSolver planner behavior input).1 ∧
      (second.runSolver planner behavior input).2 = (first.runSolver planner behavior input).2 := by
  obtain ⟨rebuilt, solve⟩ := rebuildGraph_agree agree input
  unfold MidMpcNode.runSolver
  dsimp only
  generalize first.rebuildGraph planner input = first at rebuilt solve
  generalize second.rebuildGraph planner input = second at rebuilt solve
  by_cases wrapped : wrappedHeadingWindow behavior input = true
  · simp only [if_pos wrapped]
    exact ⟨rebuilt, trivial⟩
  · simp only [if_neg wrapped]
    cases rebuilt with
    | intro inbox manager graph managers graphs =>
      simp only at solve
      simp only [solve]
      exact ⟨.intro _ inbox manager graph managers graphs, trivial⟩

/-! ### The cycle -/

theorem runSolver_inbox (node : MidMpcNode Details Ranking Graph Backend)
    (behavior : BehaviorPlan Details) (input : MidMpcInput Details) :
    (node.runSolver planner behavior input).1.inbox = node.inbox := by
  unfold MidMpcNode.runSolver MidMpcNode.rebuildGraph
  dsimp only
  split <;> split <;> rfl

/-- Agreeing nodes with the same messages are alike when the publication begins, up to a graph
that answers alike. -/
theorem prepare_agree (agree : NodesAgree planner first second)
    (messages : first.inbox = second.inbox) (world : WorldState Details)
    (behavior : BehaviorPlan Details) :
    ∃ graph,
      second.prepare planner world behavior =
        { first.prepare planner world behavior with
          node := { (first.prepare planner world behavior).node with graph := graph } } ∧
      GraphsAgree planner (first.prepare planner world behavior).node.graph graph
        (first.prepare planner world behavior).node.lastConstraintSignature := by
  cases agree with
  | intro inbox manager graph managers graphs =>
    obtain rfl : first.inbox = inbox := messages
    unfold MidMpcNode.prepare
    dsimp only
    rw [← managers.current_eq]
    generalize planner.assembleInput first.inbox
      first.committedRouteManager.current.committedPrefix first.riskRankingState = assembled
    obtain ⟨input, ranking⟩ := assembled
    have firstInbox : (MidMpcNode.runSolver planner { first with
        riskRankingState := ranking } behavior input).1.inbox = first.inbox :=
      runSolver_inbox _ behavior input
    have secondInbox : (MidMpcNode.runSolver planner { first with
        riskRankingState := ranking, committedRouteManager := manager, graph := graph } behavior
          input).1.inbox = first.inbox :=
      runSolver_inbox _ behavior input
    obtain ⟨solved, sameSol⟩ := runSolver_agree
      (.intro { first with riskRankingState := ranking } first.inbox manager graph managers graphs)
      behavior input
    generalize MidMpcNode.runSolver planner { first with riskRankingState := ranking } behavior
      input = firstSolved at *
    generalize MidMpcNode.runSolver planner { first with
      riskRankingState := ranking, committedRouteManager := manager, graph := graph } behavior
      input = secondSolved at *
    obtain ⟨firstSolved, sol⟩ := firstSolved
    obtain ⟨secondSolved, otherSol⟩ := secondSolved
    obtain rfl : otherSol = sol := sameSol
    cases solved with
    | intro inbox manager graph managers graphs =>
      obtain rfl : inbox = firstSolved.inbox := secondInbox.trans firstInbox.symm
      refine ⟨graph, ?_, graphs⟩
      dsimp only
      rw [notifyManager_of_apart managers]

/-- Agreeing nodes with the same messages agree after a cycle. -/
theorem onSolveCycle_agree (agree : NodesAgree planner first second)
    (messages : first.inbox = second.inbox) (now : Int) :
    NodesAgree planner (first.onSolveCycle planner now) (second.onSolveCycle planner now) := by
  unfold MidMpcNode.onSolveCycle
  rw [← messages]
  split
  · next world behavior required =>
    obtain ⟨graph, prepared, graphs⟩ := prepare_agree agree messages world behavior
    have publishes : Publishes (first.prepare planner world behavior).node
        (first.solveCycle planner world behavior now) :=
      publishCommittedRoute_publishes planner _ behavior _ _ _ _ _ now
    have cycled : second.solveCycle planner world behavior now =
        { first.solveCycle planner world behavior now with graph := graph } := by
      unfold MidMpcNode.solveCycle
      rw [prepared]
      exact publishCommittedRoute_graph planner _ behavior _ _ _ _ _ now graph
    rw [← publishes.graph_eq, ← publishes.lastConstraintSignature_eq] at graphs
    rw [cycled]
    exact .intro (first.solveCycle planner world behavior now) _ _ graph (.inl rfl) graphs
  · exact agree

theorem onSolveCycle_inbox (node : MidMpcNode Details Ranking Graph Backend) (now : Int) :
    (node.onSolveCycle planner now).inbox = node.inbox := by
  unfold MidMpcNode.onSolveCycle
  split
  · next world behavior required =>
    have publishes : Publishes (node.prepare planner world behavior).node
        (node.solveCycle planner world behavior now) :=
      publishCommittedRoute_publishes planner _ behavior _ _ _ _ _ now
    rw [publishes.inbox_eq]
    exact runSolver_inbox _ behavior _
  · rfl

/-! ### Later runs -/

/-- The first cycle among the events finds the same messages in two inboxes. -/
def Supersedes : List (Event Details) → Inbox Details → Inbox Details → Prop
  | [], _, _ => True
  | .solveTimer _ :: _, inbox, other => inbox = other
  | message :: later, inbox, other =>
      Supersedes later (inbox.receive message) (other.receive message)

theorem supersedes_refl (later : List (Event Details)) (inbox : Inbox Details) :
    Supersedes later inbox inbox := by
  induction later generalizing inbox with
  | nil => trivial
  | cons event later inductionHypothesis =>
    cases event with
    | solveTimer now => rfl
    | _ => exact inductionHypothesis _

variable {later : List (Event Details)}

/-- Nodes whose cycles all find the same messages have them at the first cycle. -/
theorem supersedes_of_cycles
    (same : ∀ count now, later[count]? = some (.solveTimer now) →
      (stateAt (MidMpcNode.handle planner) first later count).inbox =
        (stateAt (MidMpcNode.handle planner) second later count).inbox) :
    Supersedes later first.inbox second.inbox := by
  induction later generalizing first second with
  | nil => trivial
  | cons event later inductionHypothesis =>
    cases event with
    | solveTimer now => exact same 0 now rfl
    | _ => exact inductionHypothesis fun count now fires => same (count + 1) now fires

/-- Two nodes agree and their first cycle will find the same messages. -/
structure Indistinguishable (planner : Planner Details Ranking Graph Backend)
    (later : List (Event Details)) (first second : MidMpcNode Details Ranking Graph Backend) :
    Prop where
  nodes : NodesAgree planner first second
  messages : Supersedes later first.inbox second.inbox

/-- No event tells such nodes apart. -/
theorem Indistinguishable.handle {event : Event Details}
    (indistinguishable : Indistinguishable planner (event :: later) first second) :
    Indistinguishable planner later (first.handle planner event)
      (second.handle planner event) := by
  obtain ⟨nodes, messages⟩ := indistinguishable
  cases event with
  | solveTimer now =>
    refine ⟨onSolveCycle_agree nodes messages now, ?_⟩
    show Supersedes later (first.onSolveCycle planner now).inbox
      (second.onSolveCycle planner now).inbox
    rw [onSolveCycle_inbox, onSolveCycle_inbox, show first.inbox = second.inbox from messages]
    exact supersedes_refl later second.inbox
  | _ =>
    cases nodes with
    | intro inbox manager graph managers graphs =>
      exact ⟨.intro _ _ manager graph managers graphs, messages⟩

/-- What a run has to leave for its reset node to go on as a new one: nothing in the manager and
the failure count, no verdict on the minimum alteration, the backend as constructed, a graph that
answers as the constructed one while the constraints have signature zero, and no message that the
later events do not replace before their first cycle. -/
structure Forgotten (planner : Planner Details Ranking Graph Backend)
    (node : MidMpcNode Details Ranking Graph Backend) (later : List (Event Details)) : Prop where
  outcome : SameOutcome node (.construct planner)
  minaltBox : node.solver.lastMinaltBoxInfeasible = false
  backend : node.backend = planner.initialBackend
  graph : GraphsAgree planner node.graph planner.initialGraph 0
  messages : Supersedes later node.inbox {}

variable {node : MidMpcNode Details Ranking Graph Backend}

theorem Forgotten.indistinguishable (forgotten : Forgotten planner node later) :
    Indistinguishable planner later (node.resetCrossRunState planner) (.construct planner) := by
  obtain ⟨⟨manager, failures⟩, minaltBox, backend, graph, messages⟩ := forgotten
  have idle : node.committedRouteManager.current.state = .idle :=
    congrArg (·.current.state) manager
  have notNeutral : node.committedRouteManager.current.state ≠ .handoverNeutral := by
    rw [idle]
    exact LifecycleState.noConfusion
  have solver : node.solver = {} := by
    cases solverEq : node.solver
    rw [solverEq] at failures minaltBox
    exact congrArg₂ MidMpcSolver.mk failures minaltBox
  have constructed : MidMpcNode.construct planner =
      { node.resetCrossRunState planner with
        inbox := {}
        committedRouteManager := {}
        graph := planner.initialGraph } := by
    unfold MidMpcNode.construct MidMpcNode.resetCrossRunState
    rw [solver, backend]
  refine ⟨?_, messages⟩
  rw [constructed]
  exact .intro _ {} {} planner.initialGraph (.inr ⟨manager, notNeutral⟩) graph

/-- A reset node that agrees with a new one was left nothing. -/
theorem forgotten_of_agree
    (agree : NodesAgree planner (node.resetCrossRunState planner) (.construct planner))
    (messages : Supersedes later node.inbox {}) : Forgotten planner node later := by
  have outcome : SameOutcome node (.construct planner) := ⟨agree.sameOutcome.1, agree.sameOutcome.2⟩
  generalize constructed : MidMpcNode.construct planner = other at agree
  cases agree with
  | intro inbox manager graph managers graphs =>
    have solver : ({} : MidMpcSolver) = node.solver := congrArg (·.solver) constructed
    have backend : planner.initialBackend = node.backend := congrArg (·.backend) constructed
    obtain rfl : planner.initialGraph = graph := congrArg (·.graph) constructed
    exact ⟨outcome, by rw [← solver], backend.symm, graphs, messages⟩

/-- After every run of a new node and for all later events: the reset node has the outcomes of a
new one and every later cycle finds the two alike, with the same messages, exactly if the run
is forgotten. -/
theorem reset_forgets (planner : Planner Details Ranking Graph Backend)
    (events later : List (Event Details)) :
    let node := run (MidMpcNode.handle planner) (.construct planner) events
    let reset := stateAt (MidMpcNode.handle planner) (node.resetCrossRunState planner) later
    let constructed := stateAt (MidMpcNode.handle planner) (.construct planner) later
    (∀ count, SameOutcome (reset count) (constructed count) ∧
        NodesAgree planner (reset count) (constructed count) ∧
        ∀ now, later[count]? = some (.solveTimer now) →
          (reset count).inbox = (constructed count).inbox) ↔
      Forgotten planner node later := by
  intro node reset constructed
  constructor
  · intro same
    exact forgotten_of_agree (same 0).2.1
      (supersedes_of_cycles fun count now fires => (same count).2.2 now fires)
  · intro forgotten count
    obtain ⟨nodes, messages⟩ := stateAt_related (Indistinguishable planner)
      forgotten.indistinguishable (fun _ _ _ _ related => related.handle) count
    refine ⟨nodes.sameOutcome, nodes, fun now fires => ?_⟩
    obtain ⟨within, isCycle⟩ := List.getElem?_eq_some_iff.mp fires
    rw [← List.getElem_cons_drop within, isCycle] at messages
    exact messages

/-- A planner in the overtaking encounter in which IPOPT always finds a solution and the backend
is never asked. -/
def convergingPlanner : Planner Unit Unit Unit (Option MidMpcSolution) :=
  { overtakePlanner with
    initialBackend := none
    solve := fun _ backend _ _ => (.ipopt false
      { status := .converged
        trajectory := [{ xM := 0.0, yM := 0.0, psiRad := 0.0, uMps := 5.0 }] }, backend) }

/-- A transit whose solves all converge is forgotten. -/
theorem transit_forgotten :
    SameOutcome
      (stateAt (MidMpcNode.handle convergingPlanner)
        ((run (MidMpcNode.handle convergingPlanner) (.construct convergingPlanner)
          (overtakeEvents.take 6)).resetCrossRunState convergingPlanner) overtakeEvents 8)
      (stateAt (MidMpcNode.handle convergingPlanner) (.construct convergingPlanner)
        overtakeEvents 8) :=
  ((reset_forgets convergingPlanner (overtakeEvents.take 6) overtakeEvents).mpr
    ⟨⟨by rfl, by rfl⟩, by rfl, by rfl, ⟨by rfl, fun _ _ _ _ _ => rfl⟩, by rfl⟩ 8).1

/-- After three failed cycles, a reset and one more failed cycle BC-MPC is to take over, on a new
node it is not. -/
theorem failures_survive_reset :
    ¬ ∀ (planner : Planner Unit Unit Unit Unit) (events later : List (Event Unit)) (count : Nat),
        SameOutcome
          (stateAt (MidMpcNode.handle planner)
            ((run (MidMpcNode.handle planner) (.construct planner) events).resetCrossRunState
              planner) later count)
          (stateAt (MidMpcNode.handle planner) (.construct planner) later count) := by
  intro same
  have takeover := congrArg (·.bcMpcTakeoverRequested)
    (same overtakePlanner (overtakeEvents.take 6) (overtakeEvents.take 4) 4).manager
  revert takeover
  decide

end MassL3.M5.MidMpc
