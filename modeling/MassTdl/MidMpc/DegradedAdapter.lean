/-
This file translates the adapter that turns a geometric corridor into a degraded plan and offers
it to the committed-route manager. A request is either malformed, and then the manager is not
called, or it becomes a candidate without a frozen prefix, labelled as solved and offered without
a failure count of the solver.

What such an offer does to the two failure counters and to a pending take-over is stated once
here, for accepted and refused candidates.
-/

import MassTdl.MidMpc.Candidates

namespace MassL3.M5.MidMpc

open CommittedRoute CommittedAvoidanceRoute

/-! ### Requests -/

structure DegradedCandidatePoint where
  latitude : Float := 0.0
  longitude : Float := 0.0
  speedMps : Float := 0.0
  navigationMode : String := ""

structure DegradedCandidateRequest where
  planId : String := ""
  parentRouteId : String := "nominal"
  behaviorMode : String := "emergency_avoidance"
  rationale : String := ""
  safetyConcernEvent : String := ""
  points : List DegradedCandidatePoint := []
  confidence : Float32 := 0.6
  nlpUnavailable : Bool := false
  committedRouteCanContinue : Bool := false
  hasReturnToRoutePoint : Bool := false
  returnLatitude : Float := 0.0
  returnLongitude : Float := 0.0

def finitePoint (point : DegradedCandidatePoint) : Bool :=
  point.latitude.isFinite && point.longitude.isFinite && point.speedMps.isFinite &&
    !point.navigationMode.isEmpty

def validConfidence (confidence : Float32) : Bool :=
  confidence.isFinite && decide (confidence ≥ 0.0) && decide (confidence ≤ 1.0)

def validReturnToRoutePoint (request : DegradedCandidateRequest) : Bool :=
  !request.hasReturnToRoutePoint ||
    (request.returnLatitude.isFinite && request.returnLongitude.isFinite)

/-! ### The plan -/

/-- `units::kMsPerKn`. -/
def kMsPerKn : Float := 1852.0 / 3600.0

/-- The rationale names the safety event, if the request has one. -/
def degradedRationale (request : DegradedCandidateRequest) : String :=
  let rationale := "M5 degraded candidate (" ++ request.rationale ++ ")"
  if request.safetyConcernEvent.isEmpty then rationale
  else
    rationale ++ "; safety_concern_event=" ++ request.safetyConcernEvent ++
      "; mrm_handoff_intent=m7_only"

/-- `build_degraded_candidate_plan`. -/
def buildDegradedCandidatePlan (request : DegradedCandidateRequest) : Option AvoidancePlan :=
  if !request.nlpUnavailable || request.committedRouteCanContinue || request.points.isEmpty then
    none
  else if !validConfidence request.confidence || !validReturnToRoutePoint request then none
  else if !request.hasReturnToRoutePoint && request.safetyConcernEvent.isEmpty then none
  else if !request.points.all finitePoint then none
  else
    some
      { schemaVersion := 116
        status := "DEGRADED"
        planId := request.planId
        parentRouteId := request.parentRouteId
        behaviorMode := request.behaviorMode
        commandSource := "m5_committed_route"
        allowDegradedExecution := true
        hasReturnToRoutePoint := request.hasReturnToRoutePoint
        returnLatitude := request.returnLatitude
        returnLongitude := request.returnLongitude
        nlpSolverStatus := nlpNonconverged
        nlpKktResidual := 0.0
        nlpTailGateFailed := true
        confidence := request.confidence
        rationale := degradedRationale request
        latitude := request.points.map (·.latitude)
        longitude := request.points.map (·.longitude)
        commandSpeedMps := request.points.map (·.speedMps)
        navigationMode := request.points.map (·.navigationMode)
        segmentSource := request.points.map fun _ => SegmentSource.degradedCorridor
        waypoints := request.points.map fun point =>
          { latitude := point.latitude
            longitude := point.longitude
            targetSpeedKn := point.speedMps / kMsPerKn
            confidence := request.confidence
            rationale := "M5 degraded corridor" } }

/-- `committed_candidate_from_degraded_plan`: the candidate is marked as solved. -/
def committedCandidateFromDegradedPlan (plan : AvoidancePlan) (validUntilS : Float) :
    CommittedRouteCandidate :=
  { planId := plan.planId
    validUntilS := validUntilS
    nlpOk := true
    frozenPrefixCount := 0
    geometry :=
      (plan.latitude.zip (plan.longitude.zip (plan.commandSpeedMps.zip
        plan.segmentSource))).map fun (latDeg, lonDeg, speedMps, _) =>
          { latDeg, lonDeg, speedMps, navMode := "DEGRADED_CORRIDOR" } }

/-- The solver's failure count `try_revise` takes when the caller gives none. -/
def defaultSolverConsecutiveFailures : UInt32 := 0

/-- `build_committed_degraded_candidate_plan`. -/
def buildCommittedDegradedCandidatePlan (request : DegradedCandidateRequest)
    (route : CommittedAvoidanceRoute) (nowS validUntilS : Float) :
    CommittedAvoidanceRoute × Option AvoidancePlan :=
  match buildDegradedCandidatePlan request with
  | none => (route, none)
  | some plan =>
      let revised := route.tryRevise (committedCandidateFromDegradedPlan plan validUntilS) nowS
        defaultSolverConsecutiveFailures
      (revised.1, if revised.2 then some plan else none)

/-! ### What an offer does to the counters -/

/-- The escalation both escalation sites of the manager read. -/
def Escalated (route : CommittedAvoidanceRoute) : Prop :=
  3 ≤ max route.consecutiveNlpFailures route.lastSolverConsecutiveFailures

instance (route : CommittedAvoidanceRoute) : Decidable (Escalated route) :=
  inferInstanceAs (Decidable (_ ≤ _))

theorem max_zero_right (count : UInt32) : max count 0 = count := by
  show (if count ≤ 0 then 0 else count) = count
  split
  · next zero => exact (UInt32.le_zero_iff.mp zero).symm
  · rfl

/-- Without the cached count the commit counter alone escalates. -/
theorem escalated_of_zero {route : CommittedAvoidanceRoute}
    (cleared : route.lastSolverConsecutiveFailures = 0) :
    Escalated route ↔ 3 ≤ route.consecutiveNlpFailures := by
  unfold Escalated
  rw [cleared, max_zero_right]

/-- What an offer needs in order not to clear the escalation: it does not reach the manager, or
the manager refuses it and its commit counter escalates alone. -/
def SparesEscalation (request : DegradedCandidateRequest) (route : CommittedAvoidanceRoute)
    (validUntilS : Float) : Prop :=
  match buildDegradedCandidatePlan request with
  | none => Escalated route
  | some plan =>
      ¬ route.Accepts (committedCandidateFromDegradedPlan plan validUntilS) ∧
        3 ≤ route.consecutiveNlpFailures

variable (request : DegradedCandidateRequest) (route : CommittedAvoidanceRoute)
  (nowS validUntilS : Float)

/-- A malformed request leaves the manager alone. -/
theorem offer_of_malformed (malformed : buildDegradedCandidatePlan request = none) :
    buildCommittedDegradedCandidatePlan request route nowS validUntilS = (route, none) := by
  unfold buildCommittedDegradedCandidatePlan
  rw [malformed]

theorem offer_of_built {plan : AvoidancePlan}
    (built : buildDegradedCandidatePlan request = some plan) :
    (buildCommittedDegradedCandidatePlan request route nowS validUntilS).1 =
      (route.tryRevise (committedCandidateFromDegradedPlan plan validUntilS) nowS
        defaultSolverConsecutiveFailures).1 := by
  unfold buildCommittedDegradedCandidatePlan
  rw [built]

/-- An accepted corridor clears the take-over, whatever the solver is doing. -/
theorem offer_of_accepts {plan : AvoidancePlan}
    (built : buildDegradedCandidatePlan request = some plan)
    (accepted : route.Accepts (committedCandidateFromDegradedPlan plan validUntilS)) :
    (buildCommittedDegradedCandidatePlan request route nowS
      validUntilS).1.bcMpcTakeoverRequested = false := by
  rw [offer_of_built request route nowS validUntilS built,
    route.tryRevise_of_accepts _ nowS _ accepted]
  rfl

/-- A refused corridor leaves the take-over and the commit counter, and clears the cached
count of the solver's failures all the same. -/
theorem offer_of_refused {plan : AvoidancePlan}
    (built : buildDegradedCandidatePlan request = some plan)
    (refused : ¬ route.Accepts (committedCandidateFromDegradedPlan plan validUntilS)) :
    ∃ state event,
      (buildCommittedDegradedCandidatePlan request route nowS validUntilS).1 =
        route.refuse 0 state event route.consecutiveNlpFailures := by
  obtain ⟨state, event, nlpFailures, result, _, counted⟩ := route.tryRevise_of_not_accepts
    (committedCandidateFromDegradedPlan plan validUntilS) nowS defaultSolverConsecutiveFailures
    refused
  rw [offer_of_built request route nowS validUntilS built, result, counted rfl]
  exact ⟨state, event, rfl⟩

/-- After an offer the route is escalated with the take-over pending exactly when the take-over
was pending and the offer spares the escalation. -/
theorem offer_keeps_iff :
    (Escalated (buildCommittedDegradedCandidatePlan request route nowS validUntilS).1 ∧
        (buildCommittedDegradedCandidatePlan request route nowS
          validUntilS).1.bcMpcTakeoverRequested = true) ↔
      SparesEscalation request route validUntilS ∧ route.bcMpcTakeoverRequested = true := by
  unfold SparesEscalation
  split
  · next malformed => rw [offer_of_malformed request route nowS validUntilS malformed]
  · next plan built =>
    by_cases accepted : route.Accepts (committedCandidateFromDegradedPlan plan validUntilS)
    · rw [offer_of_accepts request route nowS validUntilS built accepted]
      exact iff_of_false (fun kept => Bool.false_ne_true kept.2)
        fun spared => spared.1.1 accepted
    · obtain ⟨state, event, result⟩ :=
        offer_of_refused request route nowS validUntilS built accepted
      rw [result, escalated_of_zero rfl]
      exact and_congr_left fun _ => ⟨fun counted => ⟨accepted, counted⟩, fun spared => spared.2⟩

end MassL3.M5.MidMpc
