/-
This file asks when a route in state `Committed` can be flown: whether it has waypoints, all
of them finite with an accepted mode, and whether its frozen prefix is cut from its front.

The waypoints and the prefix are never a problem. They are written by an accepted revision
alone, behind the preflight check, so they are sound in every state of every run. Whether
there are waypoints at all is another matter: of the three operations that enter `Committed`
a revision and a heartbeat look, and the completion of a hand-over does not.
-/

import MassTdl.CommittedRoute.Lifecycle

namespace MassL3.M5.CommittedRoute

open Runs CommittedAvoidanceRoute

/-! ### Sound payloads -/

/-- A waypoint with finite position and speed and an accepted mode. -/
def FlyableWaypoint (waypoint : GeoWP) : Prop :=
  waypoint.latDeg.isFinite = true ∧ waypoint.lonDeg.isFinite = true ∧
    waypoint.speedMps.isFinite = true ∧ validNavMode waypoint.navMode = true

theorem preflightWaypoint_iff (waypoint : GeoWP) :
    preflightWaypoint waypoint = true ↔ FlyableWaypoint waypoint := by
  unfold preflightWaypoint FlyableWaypoint
  simp only [Bool.and_eq_true, and_assoc]

theorem preflightCandidate_iff (candidate : CommittedRouteCandidate) :
    preflightCandidate candidate = true ↔
      candidate.geometry ≠ [] ∧ candidate.validUntilS.isFinite = true ∧
        ∀ waypoint ∈ candidate.geometry, FlyableWaypoint waypoint := by
  unfold preflightCandidate
  simp only [Bool.and_eq_true, Bool.not_eq_true', List.isEmpty_eq_false_iff, ne_eq,
    List.all_eq_true, preflightWaypoint_iff, and_assoc]

/-- The active waypoints can be flown one by one, and the frozen prefix is cut from their
front. Both hold of a manager without waypoints. -/
structure Sound (current : CommittedAvoidanceRouteState) : Prop where
  waypoints : ∀ waypoint ∈ current.activeGeometry, FlyableWaypoint waypoint
  frozen : current.committedPrefix =
    current.activeGeometry.take current.committedPrefix.length

/-- A sound payload that is not empty. -/
structure Flyable (current : CommittedAvoidanceRouteState) : Prop extends Sound current where
  nonempty : current.activeGeometry ≠ []

/-- Soundness reads the waypoints and the prefix only. -/
theorem Sound.of_eq {current later : CommittedAvoidanceRouteState} (sound : Sound current)
    (sameGeometry : later.activeGeometry = current.activeGeometry)
    (samePrefix : later.committedPrefix = current.committedPrefix) : Sound later := by
  obtain ⟨waypoints, frozen⟩ := sound
  refine ⟨?_, ?_⟩
  · rw [sameGeometry]
    exact waypoints
  · rw [sameGeometry, samePrefix]
    exact frozen

theorem sound_construct (staleRouteMaxAgeS : Float)
    (bcFinalDegradeThreshold midUnrecoveredThreshold : UInt32) (cpaSafeM : Float) :
    Sound (construct staleRouteMaxAgeS bcFinalDegradeThreshold midUnrecoveredThreshold
      cpaSafeM).current :=
  ⟨fun _ member => absurd member List.not_mem_nil, rfl⟩

/-- A commit cuts its prefix from the waypoints it leaves active. -/
theorem commitCandidate_frozen (route : CommittedAvoidanceRoute)
    (candidate : CommittedRouteCandidate) (nowS : Float) :
    (route.commitCandidate candidate nowS).current.committedPrefix =
      (route.commitCandidate candidate nowS).current.activeGeometry.take
        (route.commitCandidate candidate nowS).current.committedPrefix.length := by
  rw [commitCandidate_committedPrefix, List.length_take, Nat.min_assoc, Nat.min_self]

/-- A commit behind the preflight check leaves waypoints to fly. -/
theorem commitCandidate_nonempty (route : CommittedAvoidanceRoute)
    (candidate : CommittedRouteCandidate) (nowS : Float)
    (preflight : preflightCandidate candidate = true) :
    (route.commitCandidate candidate nowS).current.activeGeometry ≠ [] := by
  obtain ⟨nonempty, _⟩ := (preflightCandidate_iff candidate).mp preflight
  rcases route.commitCandidate_activeGeometry_cases candidate nowS with new | ⟨active, kept⟩
  · rwa [new]
  · rwa [kept]

theorem sound_commitCandidate (route : CommittedAvoidanceRoute)
    (candidate : CommittedRouteCandidate) (nowS : Float) (sound : Sound route.current)
    (preflight : preflightCandidate candidate = true) :
    Sound (route.commitCandidate candidate nowS).current := by
  refine ⟨?_, commitCandidate_frozen route candidate nowS⟩
  obtain ⟨_, _, flyable⟩ := (preflightCandidate_iff candidate).mp preflight
  rcases route.commitCandidate_activeGeometry_cases candidate nowS with new | ⟨_, kept⟩
  · rw [new]
    exact flyable
  · rw [kept]
    exact sound.waypoints

/-- Every operation keeps a sound payload sound. -/
theorem effect_sound {route after : CommittedAvoidanceRoute} {operation : Operation}
    (effect : Effect route operation after) (sound : Sound route.current) :
    Sound after.current := by
  cases effect with
  | accepted candidate nowS failures accepted =>
    exact sound_commitCandidate _ candidate nowS (sound.of_eq rfl rfl) accepted.preflight
  | _ => exact sound.of_eq rfl rfl

/-- The payload of every reachable manager is sound. -/
theorem Reachable.sound {route : CommittedAvoidanceRoute} (reachable : Reachable route) :
    Sound route.current :=
  reachable.invariant (fun route => Sound route.current) sound_construct
    fun route operation => effect_sound (step_effect route operation)

/-! ### Committed and flyable -/

/-- The operation completes a hand-over: in `HandoverNeutral` both conditions are met. -/
def CompletesHandover (route : CommittedAvoidanceRoute) (operation : Operation) : Prop :=
  route.current.state = .handoverNeutral ∧
    ∃ midConverged bcPredictedCpaM,
      operation = .notifyHandoverInputs midConverged bcPredictedCpaM ∧
        route.dualConditionMet midConverged bcPredictedCpaM = true

/-- `Committed` is entered with waypoints, unless a hand-over is completed without any. -/
theorem effect_committed_nonempty {route after : CommittedAvoidanceRoute}
    {operation : Operation} (effect : Effect route operation after)
    (before : route.current.state = .committed → route.current.activeGeometry ≠ [])
    (completion : CompletesHandover route operation → route.current.activeGeometry ≠ [])
    (committed : after.current.state = .committed) : after.current.activeGeometry ≠ [] := by
  cases effect with
  | accepted candidate nowS failures accepted =>
    exact commitCandidate_nonempty _ candidate nowS accepted.preflight
  | refused candidate nowS failures state event nlpFailures notAccepted refused =>
    exact absurd committed refused.ne_committed
  | revived planId validUntilS nowS active => exact active
  | held nowS state event active => exact active
  | completed midConverged bcPredictedCpaM neutral met =>
    exact completion ⟨neutral, midConverged, bcPredictedCpaM, rfl, met⟩
  | broken | reached | finalDegrade => cases committed
  | silent | notHeld | takeover | solver | health | counted | uncounted | tracked =>
    exact before committed

/-- A hand-over completed without waypoints leaves a committed route without waypoints. -/
theorem step_completesHandover {route : CommittedAvoidanceRoute} {operation : Operation}
    (completes : CompletesHandover route operation) :
    (step route operation).current.state = .committed ∧
      (step route operation).current.activeGeometry = route.current.activeGeometry := by
  obtain ⟨neutral, midConverged, bcPredictedCpaM, rfl, met⟩ := completes
  rw [step, route.notifyHandoverInputs_of_completed midConverged bcPredictedCpaM neutral met]
  exact ⟨rfl, rfl⟩

/-- Along a run of a new manager every committed route is flyable exactly when no hand-over
is completed while nothing is committed. -/
theorem committed_flyable_iff (staleRouteMaxAgeS : Float)
    (bcFinalDegradeThreshold midUnrecoveredThreshold : UInt32) (cpaSafeM : Float)
    (operations : List Operation) :
    (∀ count,
        (stateAt step (.construct staleRouteMaxAgeS bcFinalDegradeThreshold
          midUnrecoveredThreshold cpaSafeM) operations count).current.state = .committed →
        Flyable (stateAt step (.construct staleRouteMaxAgeS bcFinalDegradeThreshold
          midUnrecoveredThreshold cpaSafeM) operations count).current) ↔
      ∀ count operation, operations[count]? = some operation →
        CompletesHandover (stateAt step (.construct staleRouteMaxAgeS bcFinalDegradeThreshold
          midUnrecoveredThreshold cpaSafeM) operations count) operation →
        (stateAt step (.construct staleRouteMaxAgeS bcFinalDegradeThreshold
          midUnrecoveredThreshold cpaSafeM) operations count).current.activeGeometry ≠ [] := by
  generalize startEq : construct staleRouteMaxAgeS bcFinalDegradeThreshold
    midUnrecoveredThreshold cpaSafeM = start
  constructor
  · intro flyable count operation present completes
    obtain ⟨committed, same⟩ := step_completesHandover completes
    rw [← stateAt_succ step start operations present] at committed same
    rw [← same]
    exact (flyable (count + 1) committed).nonempty
  · intro guarded count committed
    have sound : Sound (stateAt step start operations count).current := by
      refine Reachable.sound ⟨staleRouteMaxAgeS, bcFinalDegradeThreshold,
        midUnrecoveredThreshold, cpaSafeM, operations.take count, ?_⟩
      rw [startEq, stateAt_eq_run]
    have nonempty := stateAt_invariant
      (fun route : CommittedAvoidanceRoute => route.current.state = .committed →
        route.current.activeGeometry ≠ [])
      (fun committed => by rw [← startEq] at committed; cases committed)
      (fun count operation present before committed =>
        effect_committed_nonempty (step_effect _ operation) before
          (guarded count operation present) committed)
      count committed
    exact ⟨sound, nonempty⟩

/-- BC-MPC takes over before anything was committed, and three confirmations hand back a
route that is committed without a single waypoint. -/
theorem handover_commits_nothing :
    ¬ ∀ (operations : List Operation) (count : Nat),
        (stateAt step (.construct 45.0 5 3 1852.0) operations count).current.state =
          .committed →
        Flyable (stateAt step (.construct 45.0 5 3 1852.0) operations count).current := by
  intro flyable
  have empty := (flyable
    [.markBcMpcTakeover,
      .tryRevise { singleWaypointCandidate with nlpOk := false } 10.0 3,
      .notifyHandoverInputs true 2000.0, .notifyHandoverInputs true 2000.0,
      .notifyHandoverInputs true 2000.0] 5 (by decide)).nonempty
  exact empty (by rfl)

end MassL3.M5.CommittedRoute
