/-
This file follows the lifecycle state through arbitrary sequences of operations. Two facts
are proved about it. `FinalDegrade` is meant to be left by nothing; it is left by a heartbeat
and by nothing else, and then exactly when there is a committed geometry to keep alive. And a
refused revision is atomic: it leaves the committed payload as it was, and the transient
state a revision passes through is never seen between two operations.

It also asks whether an accepted revision installs the candidate's route. The manager decides it
by the hash of the waypoints, 32 bits wide: waypoints with another hash replace the active ones,
waypoints with the same hash are taken for the same. The stored hash is that of the active
waypoints in every state of every run, so the answer depends on the two routes alone: it is yes
unless they differ and their hashes agree. Such routes exist. A pair of them, about a kilometre
apart, stands at the end.
-/

import MassTdl.CommittedRoute.Effects
import MassTdl.Runs

namespace MassL3.M5.CommittedRoute

open Runs CommittedAvoidanceRoute

/-! ### Reachable managers -/

/-- The managers some sequence of operations makes of a newly constructed one. -/
def Reachable (route : CommittedAvoidanceRoute) : Prop :=
  ∃ staleRouteMaxAgeS bcFinalDegradeThreshold midUnrecoveredThreshold cpaSafeM operations,
    route = run step (.construct staleRouteMaxAgeS bcFinalDegradeThreshold
      midUnrecoveredThreshold cpaSafeM) operations

variable {route : CommittedAvoidanceRoute}

/-- What holds of every new manager and is preserved by every operation holds of every
reachable one. -/
theorem Reachable.invariant (reachable : Reachable route)
    (Invariant : CommittedAvoidanceRoute → Prop)
    (initially : ∀ staleRouteMaxAgeS bcFinalDegradeThreshold midUnrecoveredThreshold cpaSafeM,
      Invariant (.construct staleRouteMaxAgeS bcFinalDegradeThreshold midUnrecoveredThreshold
        cpaSafeM))
    (preserved : ∀ route operation, Invariant route → Invariant (step route operation)) :
    Invariant route := by
  obtain ⟨staleRouteMaxAgeS, bcThreshold, midThreshold, cpaSafeM, operations, rfl⟩ := reachable
  exact run_invariant Invariant (initially staleRouteMaxAgeS bcThreshold midThreshold cpaSafeM)
    preserved

/-! ### Leaving `FinalDegrade` -/

variable {route after : CommittedAvoidanceRoute} {operation : Operation}

/-- One operation leaves `FinalDegrade` only if it is a heartbeat for a committed geometry. -/
theorem effect_finalDegrade_iff (effect : Effect route operation after)
    (final : route.current.state = .finalDegrade) :
    after.current.state = .finalDegrade ↔
      ∀ planId validUntilS nowS, operation = .heartbeat planId validUntilS nowS →
        route.current.activeGeometry = [] := by
  cases effect with
  | accepted candidate nowS failures accepted => exact absurd (.inr final) accepted.notManaged
  | refused candidate nowS failures state event nlpFailures notAccepted refused =>
    rw [final] at refused
    have stays : state = .finalDegrade := refused.eq_of_managed (.inr rfl)
    simp only [refuse, withSolverFailures_current, withNlpFailures_current, settle_state, stays,
      reduceCtorEq, false_implies, implies_true]
  | revived planId validUntilS nowS active notHeld =>
    simp only [revive_state, reduceCtorEq, false_iff]
    exact fun blocked => active (blocked planId validUntilS nowS rfl)
  | silent planId validUntilS nowS blocked =>
    rcases blocked with empty | held
    · simp only [final, empty, implies_true]
    · rw [final] at held
      cases held
  | held nowS state event active exempt => exact absurd (.inr (.inr (.inr final))) exempt
  | completed _ _ neutral | broken _ _ neutral =>
    rw [final] at neutral
    cases neutral
  | reached _ _ follow | counted _ _ follow | uncounted _ _ follow =>
    rw [final] at follow
    cases follow
  | tracked midConverged =>
    simp only [trackMidUnrecovered_current, final, reduceCtorEq, false_implies, implies_true]
  | notHeld | takeover | solver | health | finalDegrade =>
    simp only [reduceCtorEq, false_implies, implies_true, iff_true]
    first | exact final | rfl

/-- Along a run `FinalDegrade` is irreversible exactly when no heartbeat is issued in it while
a geometry is committed. -/
theorem finalDegrade_irreversible_iff (start : CommittedAvoidanceRoute)
    (operations : List Operation) :
    (∀ first last, first ≤ last →
        (stateAt step start operations first).current.state = .finalDegrade →
        (stateAt step start operations last).current.state = .finalDegrade) ↔
      ∀ count planId validUntilS nowS,
        operations[count]? = some (.heartbeat planId validUntilS nowS) →
        (stateAt step start operations count).current.state = .finalDegrade →
        (stateAt step start operations count).current.activeGeometry = [] := by
  rw [stable_iff fun route : CommittedAvoidanceRoute => route.current.state = .finalDegrade]
  constructor
  · intro preserved count planId validUntilS nowS present final
    have stays := preserved count _ present final
    exact (effect_finalDegrade_iff (step_effect _ _) final).mp stays planId validUntilS nowS rfl
  · intro silent count operation present final
    refine (effect_finalDegrade_iff (step_effect _ _) final).mpr
      fun planId validUntilS nowS isHeartbeat => ?_
    exact silent count planId validUntilS nowS (isHeartbeat ▸ present) final

/-- A solved one-waypoint plan. -/
def singleWaypointCandidate : CommittedRouteCandidate :=
  { planId := "plan-1"
    geometry :=
      [{ latDeg := 31.0, lonDeg := 122.0, speedMps := 5.0, navMode := "MID_MPC_OPTIMIZED" }]
    validUntilS := 60.0 }

/-- A plan is committed, the final degrade is entered, and the next heartbeat for the plan
brings the route back to `Committed`. -/
theorem heartbeat_leaves_finalDegrade :
    ¬ ∀ (operations : List Operation) (first last : Nat), first ≤ last →
        (stateAt step (.construct 45.0 5 3 1852.0) operations first).current.state =
          .finalDegrade →
        (stateAt step (.construct 45.0 5 3 1852.0) operations last).current.state =
          .finalDegrade := by
  intro irreversible
  have revived := irreversible
    [.tryRevise singleWaypointCandidate 10.0 0, .enterFinalDegrade,
      .heartbeat "plan-1" 70.0 20.0] 2 3 (by decide) (by decide)
  revert revived
  decide

/-! ### Refused revisions -/

/-- The part of the record other nodes steer by. -/
structure CommittedPayload where
  planId : String
  revision : UInt32
  routeHash : UInt32
  validUntilS : Float
  staleCommittedAtS : Float
  committedPrefix : List GeoWP
  activeGeometry : List GeoWP

def CommittedAvoidanceRoute.payload (route : CommittedAvoidanceRoute) : CommittedPayload where
  planId := route.current.planId
  revision := route.current.revision
  routeHash := route.current.routeHash
  validUntilS := route.current.validUntilS
  staleCommittedAtS := route.current.staleCommittedAtS
  committedPrefix := route.current.committedPrefix
  activeGeometry := route.current.activeGeometry

theorem refuse_payload (route : CommittedAvoidanceRoute) (failures : UInt32)
    (state : LifecycleState) (event : String) (nlpFailures : UInt32) :
    (route.refuse failures state event nlpFailures).payload = route.payload := rfl

/-- A refused revision leaves the committed payload alone. -/
theorem tryRevise_payload_of_refused (route : CommittedAvoidanceRoute)
    (candidate : CommittedRouteCandidate) (nowS : Float) (failures : UInt32)
    (refused : (route.tryRevise candidate nowS failures).2 = false) :
    (route.tryRevise candidate nowS failures).1.payload = route.payload := by
  have notAccepted : ¬ route.Accepts candidate := by
    rw [← tryRevise_snd_eq_true_iff route candidate nowS failures, refused]
    exact Bool.false_ne_true
  obtain ⟨state, event, nlpFailures, result, _⟩ :=
    route.tryRevise_of_not_accepts candidate nowS failures notAccepted
  rw [result]
  exact refuse_payload route failures state event nlpFailures

/-- No operation ends in the transient state unless it began there. -/
theorem effect_ne_candidateEvaluating (effect : Effect route operation after)
    (settled : route.current.state ≠ .candidateEvaluating) :
    after.current.state ≠ .candidateEvaluating := by
  cases effect with
  | refused candidate nowS failures state event nlpFailures notAccepted refused =>
    exact refused.ne_candidateEvaluating
  | held nowS state event active exempt reached =>
    rcases reached with held | follow
    · simp only [settle_state, held, ne_eq, reduceCtorEq, not_false_eq_true]
    · simp only [settle_state, follow, ne_eq, reduceCtorEq, not_false_eq_true]
  | accepted | revived | completed | broken | reached | finalDegrade =>
    exact LifecycleState.noConfusion
  | silent | notHeld | takeover | solver | health | counted | uncounted | tracked => exact settled

/-- Refused revisions are atomic and the transient state does not leak: after any sequence of
operations the lifecycle is settled, and a revision refused there leaves the payload as it
was. -/
theorem refused_revision_atomic (route : CommittedAvoidanceRoute) (reachable : Reachable route) :
    route.current.state ≠ .candidateEvaluating ∧
      ∀ candidate nowS failures, (route.tryRevise candidate nowS failures).2 = false →
        (route.tryRevise candidate nowS failures).1.payload = route.payload := by
  refine ⟨?_, fun candidate nowS failures =>
    tryRevise_payload_of_refused route candidate nowS failures⟩
  refine reachable.invariant (fun route => route.current.state ≠ .candidateEvaluating) ?_ ?_
  · intro staleRouteMaxAgeS bcThreshold midThreshold cpaSafeM
    exact LifecycleState.noConfusion
  · intro route operation
    exact effect_ne_candidateEvaluating (step_effect route operation)

/-- The empty candidate is refused by a route that holds a plan, which keeps its payload. -/
theorem refused_revision_atomic_empty :
    ((step (.construct 45.0 5 3 1852.0) (.tryRevise singleWaypointCandidate 10.0 0)).tryRevise
        {} 20.0 0).1.payload =
      (step (.construct 45.0 5 3 1852.0) (.tryRevise singleWaypointCandidate 10.0 0)).payload :=
  (refused_revision_atomic _
    ⟨45.0, 5, 3, 1852.0, [.tryRevise singleWaypointCandidate 10.0 0], rfl⟩).2 {} 20.0 0
    (by decide)

/-! ### The stored hash -/

/-- The stored hash belongs to the active waypoints, once there are any. -/
def HashesActive (current : CommittedAvoidanceRouteState) : Prop :=
  current.activeGeometry ≠ [] → current.routeHash = hashGeometry current.activeGeometry

theorem HashesActive.of_eq {current later : CommittedAvoidanceRouteState}
    (hashes : HashesActive current) (sameGeometry : later.activeGeometry = current.activeGeometry)
    (sameHash : later.routeHash = current.routeHash) : HashesActive later := by
  intro active
  rw [sameGeometry] at active ⊢
  rw [sameHash]
  exact hashes active

theorem commitCandidate_routeHash (route : CommittedAvoidanceRoute)
    (candidate : CommittedRouteCandidate) (nowS : Float) :
    (route.commitCandidate candidate nowS).current.routeHash =
      if route.geometryChanged candidate then hashGeometry candidate.geometry
      else route.current.routeHash := rfl

theorem commitCandidate_revision (route : CommittedAvoidanceRoute)
    (candidate : CommittedRouteCandidate) (nowS : Float) :
    (route.commitCandidate candidate nowS).current.revision =
      if route.geometryChanged candidate then route.current.revision + 1
      else route.current.revision := rfl

theorem hashesActive_commitCandidate (hashes : HashesActive route.current)
    (candidate : CommittedRouteCandidate) (nowS : Float) :
    HashesActive (route.commitCandidate candidate nowS).current := by
  intro active
  rw [commitCandidate_activeGeometry] at active ⊢
  rw [commitCandidate_routeHash]
  by_cases changed : route.geometryChanged candidate = true
  · rw [if_pos changed, if_pos changed]
  · rw [if_neg changed] at active
    rw [if_neg changed, if_neg changed]
    exact hashes active

/-- Waypoints and hash are written together or not at all. -/
theorem effect_hashesActive (effect : Effect route operation after)
    (hashes : HashesActive route.current) :
    HashesActive after.current := by
  cases effect with
  | accepted candidate nowS failures accepted =>
    exact hashesActive_commitCandidate (hashes.of_eq rfl rfl) candidate nowS
  | _ => exact hashes.of_eq rfl rfl

theorem Reachable.hashesActive (reachable : Reachable route) :
    HashesActive route.current :=
  reachable.invariant (fun route => HashesActive route.current)
    (fun _ _ _ _ active => absurd rfl active)
    fun route operation => effect_hashesActive (step_effect route operation)

/-! ### Collisions -/

/-- Two different routes with one hash. Waypoints are compared field by field, bit by bit. -/
def Collide (first second : List GeoWP) : Prop :=
  first ≠ second ∧ hashGeometry first = hashGeometry second

instance (first second : List GeoWP) : Decidable (Collide first second) :=
  inferInstanceAs (Decidable (_ ∧ _))

/-- Without a collision the hash tells whether a route is new. -/
theorem Reachable.geometryChanged_iff (reachable : Reachable route)
    (candidate : CommittedRouteCandidate) :
    route.geometryChanged candidate = true ↔
      route.current.activeGeometry = [] ∨
        hashGeometry candidate.geometry ≠ hashGeometry route.current.activeGeometry := by
  unfold geometryChanged
  rw [Bool.or_eq_true, List.isEmpty_iff, bne_iff_ne]
  refine or_congr_right' fun active => ?_
  rw [reachable.hashesActive active]

/-! ### Installing a candidate -/

/-- The record after an accepted revision carries the candidate's waypoints, and its revision
number has moved exactly if they are new. -/
structure Installs (before : CommittedAvoidanceRouteState) (geometry : List GeoWP)
    (after : CommittedAvoidanceRouteState) : Prop where
  waypoints : after.activeGeometry = geometry
  revision : after.revision =
    if before.activeGeometry = [] ∨ geometry ≠ before.activeGeometry then before.revision + 1
    else before.revision

/-- An accepted revision installs its candidate exactly when nothing was committed before or the
two routes do not collide. -/
theorem installs_iff {route : CommittedAvoidanceRoute} (reachable : Reachable route)
    (candidate : CommittedRouteCandidate) (nowS : Float) (failures : UInt32)
    (accepted : (route.tryRevise candidate nowS failures).2 = true) :
    Installs route.current candidate.geometry
        (route.tryRevise candidate nowS failures).1.current ↔
      route.current.activeGeometry = [] ∨
        ¬ Collide candidate.geometry route.current.activeGeometry := by
  rw [route.tryRevise_of_accepts candidate nowS failures
    ((route.tryRevise_snd_eq_true_iff candidate nowS failures).mp accepted)]
  have decided : (route.withSolverFailures failures).geometryChanged candidate = true ↔ _ :=
    reachable.geometryChanged_iff candidate
  constructor
  · rintro ⟨installed, -⟩
    by_contra collides
    rw [not_or, not_not] at collides
    obtain ⟨active, different, sameHash⟩ := collides
    have unchanged : ¬ (route.withSolverFailures failures).geometryChanged candidate = true := by
      rw [decided]
      exact not_or.mpr ⟨active, not_not.mpr sameHash⟩
    rw [commitCandidate_activeGeometry, if_neg unchanged] at installed
    exact different installed.symm
  · intro free
    have same : (route.withSolverFailures failures).geometryChanged candidate = true ↔
        route.current.activeGeometry = [] ∨ candidate.geometry ≠ route.current.activeGeometry := by
      rw [decided]
      refine or_congr_right' fun active => ?_
      refine ⟨fun differs same => differs (congrArg hashGeometry same), fun differs sameHash => ?_⟩
      exact free.resolve_left active ⟨differs, sameHash⟩
    refine ⟨?_, ?_⟩
    · rw [commitCandidate_activeGeometry]
      by_cases changed : (route.withSolverFailures failures).geometryChanged candidate = true
      · rw [if_pos changed]
      · rw [if_neg changed]
        have kept := (not_or.mp (mt same.mpr changed)).2
        exact (not_not.mp kept).symm
    · rw [commitCandidate_revision]
      exact if_congr same rfl rfl

/-- The second of two routes that differ in a latitude alone. -/
def farWaypointCandidate (latDeg : Float) : CommittedRouteCandidate :=
  { planId := "plan-2"
    geometry :=
      [{ latDeg := latDeg, lonDeg := 122.0, speedMps := 5.0, navMode := "MID_MPC_OPTIMIZED" }]
    validUntilS := 90.0 }

/-- A route with another hash takes the place of the committed one. -/
theorem installs_other_hash :
    Installs
      (run step (.construct 45.0 5 3 1852.0) [.tryRevise singleWaypointCandidate 10.0 0]).current
      (farWaypointCandidate 31.5).geometry
      ((run step (.construct 45.0 5 3 1852.0)
        [.tryRevise singleWaypointCandidate 10.0 0]).tryRevise (farWaypointCandidate 31.5) 20.0
          0).1.current :=
  (installs_iff ⟨45.0, 5, 3, 1852.0, _, rfl⟩ (farWaypointCandidate 31.5) 20.0 0
    (by decide)).mpr (.inr (by decide +kernel))

/-- Two waypoints about a kilometre apart have one hash. The second is accepted, and the ship is
still sent to the first. -/
theorem collision_keeps_old_route :
    ¬ ∀ (route : CommittedAvoidanceRoute) (candidate : CommittedRouteCandidate) (nowS : Float)
        (failures : UInt32), Reachable route →
        (route.tryRevise candidate nowS failures).2 = true →
        Installs route.current candidate.geometry
          (route.tryRevise candidate nowS failures).1.current := by
  intro installs
  have installed := (installs
    (run step (.construct 45.0 5 3 1852.0)
      [.tryRevise (farWaypointCandidate 31.204677) 10.0 0])
    (farWaypointCandidate 31.2136038) 20.0 0 ⟨45.0, 5, 3, 1852.0, _, rfl⟩
    (by decide +kernel)).waypoints
  revert installed
  decide +kernel

end MassL3.M5.CommittedRoute
