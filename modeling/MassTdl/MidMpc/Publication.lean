/-
This file says what the publication of a cycle does to the node. It writes the committed-route
manager, the anchors and the conflict flag, and it does not read the symbolic graph. In a cycle
whose solver did not converge the manager is offered one degraded candidate at most, and what
the adapter makes of that offer is all that happens to it.
-/

import MassTdl.MidMpc.Cycle

namespace MassL3.M5.MidMpc

open CommittedRoute CommittedAvoidanceRoute

variable {Details Ranking Graph Backend : Type}

/-! ### What the publication writes -/

/-- The node differs in what a publication writes at most. -/
def Publishes (node published : MidMpcNode Details Ranking Graph Backend) : Prop :=
  published = { node with
    committedRouteManager := published.committedRouteManager
    lastEmittedConflictActive := published.lastEmittedConflictActive
    returnToRouteEmitUntil := published.returnToRouteEmitUntil
    avoidanceCorridorAnchor := published.avoidanceCorridorAnchor
    returnRouteAnchor := published.returnRouteAnchor }

variable {node published : MidMpcNode Details Ranking Graph Backend}

theorem Publishes.inbox_eq (publishes : Publishes node published) : published.inbox = node.inbox :=
  congrArg (·.inbox) publishes

theorem Publishes.solver_eq (publishes : Publishes node published) :
    published.solver = node.solver :=
  congrArg (·.solver) publishes

theorem Publishes.graph_eq (publishes : Publishes node published) : published.graph = node.graph :=
  congrArg (·.graph) publishes

theorem Publishes.lastConstraintSignature_eq (publishes : Publishes node published) :
    published.lastConstraintSignature = node.lastConstraintSignature :=
  congrArg (·.lastConstraintSignature) publishes

variable (planner : Planner Details Ranking Graph Backend)
  (node : MidMpcNode Details Ranking Graph Backend)
  (behavior : BehaviorPlan Details) (input : MidMpcInput Details) (sol : MidMpcSolution)
  (selectedPlan : AvoidancePlan) (lat0Deg lon0Deg : Float) (now : Int)

theorem offerCorridor_publishes :
    Publishes node (offerCorridor planner node input sol selectedPlan lat0Deg lon0Deg now) := by
  unfold offerCorridor
  dsimp only
  split <;> rfl

theorem offerReturn_publishes :
    Publishes node (offerReturn planner node input sol selectedPlan lat0Deg lon0Deg now) := by
  unfold offerReturn
  dsimp only
  split <;> rfl

theorem publishBranches_publishes :
    Publishes node (publishBranches planner node behavior input sol selectedPlan lat0Deg lon0Deg
      now) := by
  unfold publishBranches
  dsimp only
  split
  · rfl
  split
  · split
    · rfl
    · exact offerCorridor_publishes planner _ input sol selectedPlan lat0Deg lon0Deg now
  split
  · exact offerCorridor_publishes planner node input sol selectedPlan lat0Deg lon0Deg now
  split
  · exact offerReturn_publishes planner node input sol selectedPlan lat0Deg lon0Deg now
  · rfl

theorem publishCommittedRoute_publishes :
    Publishes node (publishCommittedRoute planner node behavior input sol selectedPlan lat0Deg
      lon0Deg now) := by
  unfold publishCommittedRoute
  split
  · rfl
  · have branches := publishBranches_publishes planner node behavior input sol selectedPlan
      lat0Deg lon0Deg now
    unfold Publishes
    rw [branches]

/-! ### What the publication does not read -/

variable (graph : Graph)

theorem offerCorridor_graph :
    offerCorridor planner { node with graph := graph } input sol selectedPlan lat0Deg lon0Deg
        now =
      { offerCorridor planner node input sol selectedPlan lat0Deg lon0Deg now with
        graph := graph } := by
  unfold offerCorridor
  dsimp only
  split <;> rfl

theorem offerReturn_graph :
    offerReturn planner { node with graph := graph } input sol selectedPlan lat0Deg lon0Deg now =
      { offerReturn planner node input sol selectedPlan lat0Deg lon0Deg now with
        graph := graph } := by
  have anchors : returnAnchor planner { node with graph := graph } input lat0Deg lon0Deg now =
    returnAnchor planner node input lat0Deg lon0Deg now := rfl
  unfold offerReturn
  dsimp only
  rw [anchors]
  split <;> rfl

theorem publishBranches_graph :
    publishBranches planner { node with graph := graph } behavior input sol selectedPlan lat0Deg
        lon0Deg now =
      { publishBranches planner node behavior input sol selectedPlan lat0Deg lon0Deg now with
        graph := graph } := by
  have repeated : returnRepublishActive planner { node with graph := graph } now =
    returnRepublishActive planner node now := rfl
  unfold publishBranches
  dsimp only
  rw [repeated]
  split
  · rfl
  split
  · have offered : offerOptimized planner
        { node with
          graph := graph
          returnToRouteEmitUntil := none
          returnRouteAnchor := none
          avoidanceCorridorAnchor := none } input sol selectedPlan lat0Deg lon0Deg now =
      offerOptimized planner
        { node with
          returnToRouteEmitUntil := none
          returnRouteAnchor := none
          avoidanceCorridorAnchor := none } input sol selectedPlan lat0Deg lon0Deg now := rfl
    rw [offered]
    generalize offerOptimized planner _ input sol selectedPlan lat0Deg lon0Deg now = offered
    split
    · rfl
    · exact offerCorridor_graph planner
        { node with
          committedRouteManager := offered.1
          returnToRouteEmitUntil := none
          returnRouteAnchor := none
          avoidanceCorridorAnchor := none } input sol selectedPlan lat0Deg lon0Deg now graph
  split
  · exact offerCorridor_graph planner node input sol selectedPlan lat0Deg lon0Deg now graph
  split
  · exact offerReturn_graph planner node input sol selectedPlan lat0Deg lon0Deg now graph
  · rfl

/-- The publication does not read the graph. -/
theorem publishCommittedRoute_graph :
    publishCommittedRoute planner { node with graph := graph } behavior input sol selectedPlan
        lat0Deg lon0Deg now =
      { publishCommittedRoute planner node behavior input sol selectedPlan lat0Deg lon0Deg now with
        graph := graph } := by
  unfold publishCommittedRoute
  split
  · rfl
  · rw [publishBranches_graph]

/-! ### Cycles whose solver did not converge -/

variable {behavior input sol}

/-- A failing cycle selects no optimized route. -/
theorem selectPlan_of_unconverged (unconverged : sol.status ≠ .converged) :
    ((selectPlan planner behavior input sol lat0Deg lon0Deg).status == "NORMAL" &&
      !(selectPlan planner behavior input sol lat0Deg lon0Deg).waypoints.isEmpty) = false := by
  have failed : solverFailed sol = true := by
    rw [solverFailed, bne_iff_ne.mpr unconverged, Bool.true_or]
  unfold selectPlan
  simp only [failed, Bool.or_true, Bool.true_or, if_true]
  split
  · rfl
  split
  · rfl
  · rfl

theorem nlpUnavailable_of_unconverged (selectedPlan : AvoidancePlan)
    (unconverged : sol.status ≠ .converged) : nlpUnavailable selectedPlan sol = true := by
  rw [nlpUnavailable, bne_iff_ne.mpr unconverged, Bool.or_true]

/-- The degraded candidate a cycle hands to the adapter, with its expiry in seconds. -/
def degradedOffer (node : MidMpcNode Details Ranking Graph Backend)
    (behavior : BehaviorPlan Details) (input : MidMpcInput Details) (sol : MidMpcSolution)
    (selectedPlan : AvoidancePlan) (lat0Deg lon0Deg : Float) (now : Int) :
    Option (DegradedCandidateRequest × Float) :=
  if FollowsBcMpc node.committedRouteManager.current.state then none
  else if collisionAvoidanceAuthorized behavior input then
    (corridorRequest planner
      (corridorAnchor planner node.avoidanceCorridorAnchor input lat0Deg lon0Deg now) input sol
      selectedPlan lat0Deg lon0Deg).map fun request =>
        (request, planner.seconds (now + avoidancePlanTtl))
  else if input.colregsConflictActive then none
  else if node.lastEmittedConflictActive || returnRepublishActive planner node now then
    (returnRequest planner (returnAnchor planner node input lat0Deg lon0Deg now) sol selectedPlan
      lat0Deg lon0Deg).map fun request =>
        (request, planner.seconds (now + returnToRouteRepublishWindow))
  else none

/-- What an offer makes of the manager. -/
def takeOffer (route : CommittedAvoidanceRoute) (nowS : Float) :
    Option (DegradedCandidateRequest × Float) → CommittedAvoidanceRoute
  | none => route
  | some (request, validUntilS) =>
      (buildCommittedDegradedCandidatePlan request route nowS validUntilS).1

/-- An unavailable solver keeps the question out whether the route can continue. -/
theorem offerDegraded_of_unavailable (route : CommittedAvoidanceRoute)
    (request : DegradedCandidateRequest) (validUntil : Int)
    (unavailable : request.nlpUnavailable = true)
    (unasked : request.committedRouteCanContinue = false) :
    offerDegraded planner route request now validUntil =
      (buildCommittedDegradedCandidatePlan request route (planner.seconds now)
        (planner.seconds validUntil)).1 := by
  have continued : committedRouteCanContinue route request.nlpUnavailable
      (planner.seconds now) = (route, false) := by
    rw [committedRouteCanContinue, unavailable, Bool.true_or, if_pos rfl]
  rw [offerDegraded, continued, ← unasked]

variable {selectedPlan : AvoidancePlan}

/-- A corridor request carries the verdict on the solver and asks nothing of the route. -/
theorem corridorRequest_eq_some {anchor : AvoidanceCorridorAnchor}
    {request : DegradedCandidateRequest}
    (built : corridorRequest planner anchor input sol selectedPlan lat0Deg lon0Deg = some request) :
    request.nlpUnavailable = nlpUnavailable selectedPlan sol ∧
      request.committedRouteCanContinue = false := by
  simp only [corridorRequest, Option.ite_none_right_eq_some, Option.some.injEq] at built
  obtain ⟨_, rfl⟩ := built
  exact ⟨rfl, rfl⟩

/-- So does the request for the way back. -/
theorem returnRequest_eq_some {anchor : ReturnRouteAnchor} {request : DegradedCandidateRequest}
    (built : returnRequest planner anchor sol selectedPlan lat0Deg lon0Deg = some request) :
    request.nlpUnavailable = nlpUnavailable selectedPlan sol ∧
      request.committedRouteCanContinue = false := by
  simp only [returnRequest, Option.ite_none_right_eq_some, Option.some.injEq] at built
  obtain ⟨_, rfl⟩ := built
  exact ⟨rfl, rfl⟩

/-- The corridor branch of a failing cycle. -/
theorem offerCorridor_committedRouteManager (node : MidMpcNode Details Ranking Graph Backend)
    (selectedPlan : AvoidancePlan) (unconverged : sol.status ≠ .converged) :
    (offerCorridor planner node input sol selectedPlan lat0Deg lon0Deg
        now).committedRouteManager =
      takeOffer node.committedRouteManager (planner.seconds now)
        ((corridorRequest planner
          (corridorAnchor planner node.avoidanceCorridorAnchor input lat0Deg lon0Deg now) input
          sol selectedPlan lat0Deg lon0Deg).map fun request =>
            (request, planner.seconds (now + avoidancePlanTtl))) := by
  unfold offerCorridor
  dsimp only
  split
  · next absent =>
    rw [absent]
    rfl
  · next request built =>
    have ⟨carried, unasked⟩ := corridorRequest_eq_some planner lat0Deg lon0Deg built
    rw [built]
    exact offerDegraded_of_unavailable planner now node.committedRouteManager request _
      (carried.trans (nlpUnavailable_of_unconverged selectedPlan unconverged)) unasked

/-- The return branch of a failing cycle. -/
theorem offerReturn_committedRouteManager (node : MidMpcNode Details Ranking Graph Backend)
    (selectedPlan : AvoidancePlan) (unconverged : sol.status ≠ .converged) :
    (offerReturn planner node input sol selectedPlan lat0Deg lon0Deg now).committedRouteManager =
      takeOffer node.committedRouteManager (planner.seconds now)
        ((returnRequest planner (returnAnchor planner node input lat0Deg lon0Deg now) sol
          selectedPlan lat0Deg lon0Deg).map fun request =>
            (request, planner.seconds (now + returnToRouteRepublishWindow))) := by
  unfold offerReturn
  dsimp only
  split
  · next absent =>
    rw [absent]
    rfl
  · next request built =>
    have ⟨carried, unasked⟩ := returnRequest_eq_some planner lat0Deg lon0Deg built
    rw [built]
    exact offerDegraded_of_unavailable planner now node.committedRouteManager request _
      (carried.trans (nlpUnavailable_of_unconverged selectedPlan unconverged)) unasked

/-- The publication of a failing cycle does to the manager what its degraded offer does. -/
theorem publishCommittedRoute_committedRouteManager
    (node : MidMpcNode Details Ranking Graph Backend) (unconverged : sol.status ≠ .converged)
    (noOptimized : (selectedPlan.status == "NORMAL" && !selectedPlan.waypoints.isEmpty) = false) :
    (publishCommittedRoute planner node behavior input sol selectedPlan lat0Deg lon0Deg
        now).committedRouteManager =
      takeOffer node.committedRouteManager (planner.seconds now)
        (degradedOffer planner node behavior input sol selectedPlan lat0Deg lon0Deg now) := by
  unfold publishCommittedRoute publishBranches degradedOffer
  by_cases authorized : collisionAvoidanceAuthorized behavior input = true
  · simp only [authorized, Bool.not_true, Bool.and_false, Bool.false_eq_true, if_false, if_true,
      Bool.and_assoc, noOptimized]
    split
    · rfl
    · exact offerCorridor_committedRouteManager planner lat0Deg lon0Deg now node selectedPlan
        unconverged
  · by_cases conflict : input.colregsConflictActive = true
    · simp only [authorized, conflict, Bool.not_false, Bool.and_true, if_true, ite_self,
        Bool.false_eq_true, if_false]
      rfl
    · simp only [authorized, conflict, Bool.false_and, Bool.false_eq_true, if_false]
      split
      · rfl
      split
      · exact offerReturn_committedRouteManager planner lat0Deg lon0Deg now node selectedPlan
          unconverged
      · rfl

end MassL3.M5.MidMpc
