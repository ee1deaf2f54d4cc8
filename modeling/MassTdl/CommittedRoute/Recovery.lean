/-
This file is about what a degraded hold lets through. The recovery path of `tryRevise` takes
an unsolved candidate for a corridor candidate and passes it on to the last two gates, and
the prefix gate compares navigation modes along with positions. So an optimized route whose
tail gate failed can be committed from a degraded hold, and a corridor can be refused for
ever by the optimized waypoints that are still frozen. Both outcomes are characterised.
-/

import MassTdl.CommittedRoute.Flyable

namespace MassL3.M5.CommittedRoute

open Runs CommittedAvoidanceRoute

/-! ### Unsolved candidates -/

/-- The gates an unsolved candidate passes on its way out of a degraded hold. -/
def RecoversFromHold (route : CommittedAvoidanceRoute) (candidate : CommittedRouteCandidate) :
    Prop :=
  route.current.state = .degradedHold ∧ riskTriggerEvent candidate = "" ∧
    preflightCandidate candidate = true ∧
      preservesCommittedPrefix route.current.committedPrefix candidate.geometry = true

/-- An unsolved candidate is accepted exactly on the recovery path. -/
theorem accepts_unsolved_iff (route : CommittedAvoidanceRoute)
    (candidate : CommittedRouteCandidate) (unsolved : candidate.nlpOk = false) :
    route.Accepts candidate ↔ RecoversFromHold route candidate := by
  constructor
  · intro accepted
    have held : route.current.state = .degradedHold := by
      refine accepted.solvedOrHeld.resolve_left ?_
      rw [unsolved]
      exact Bool.false_ne_true
    exact ⟨held, accepted.noRisk, accepted.preflight, accepted.keepsPrefix⟩
  · rintro ⟨held, noRisk, preflight, kept⟩
    refine ⟨?_, noRisk, .inr held, preflight, kept⟩
    rw [held]
    rintro (neutral | final)
    · cases neutral
    · cases final

/-- An unsolved candidate, whatever its modes, is refused with the active geometry and a
pending take-over left as they are, unless it is offered to a degraded hold and passes the
risk, preflight and prefix gates there. -/
theorem unsolved_never_committed_iff (route : CommittedAvoidanceRoute)
    (candidate : CommittedRouteCandidate) (nowS : Float) (failures : UInt32)
    (unsolved : candidate.nlpOk = false) :
    ((route.tryRevise candidate nowS failures).2 = false ∧
        (route.tryRevise candidate nowS failures).1.current.activeGeometry =
          route.current.activeGeometry ∧
        (route.bcMpcTakeoverRequested = true →
          (route.tryRevise candidate nowS failures).1.bcMpcTakeoverRequested = true)) ↔
      ¬ RecoversFromHold route candidate := by
  rw [← accepts_unsolved_iff route candidate unsolved]
  constructor
  · rintro ⟨refused, _⟩ accepted
    rw [route.tryRevise_of_accepts candidate nowS failures accepted] at refused
    cases refused
  · intro notAccepted
    obtain ⟨state, event, nlpFailures, result, _⟩ :=
      route.tryRevise_of_not_accepts candidate nowS failures notAccepted
    rw [result]
    exact ⟨rfl, rfl, id⟩

/-- In a manager without a plan the first unsolved candidate is refused. -/
theorem unsolved_never_committed_new :
    ((construct 45.0 5 3 1852.0).tryRevise { singleWaypointCandidate with nlpOk := false } 10.0
        0).2 = false :=
  ((unsolved_never_committed_iff (.construct 45.0 5 3 1852.0)
    { singleWaypointCandidate with nlpOk := false } 10.0 0 rfl).mpr
      fun recovers => by cases recovers.1).1

/-- A plan goes stale, and the tail-gate-rejected optimized route offered next is committed
in its place. -/
theorem unsolved_optimized_committed :
    ¬ ∀ (route : CommittedAvoidanceRoute) (candidate : CommittedRouteCandidate) (nowS : Float)
        (failures : UInt32), Reachable route → candidate.nlpOk = false →
        (∀ waypoint ∈ candidate.geometry, ∃ kind, waypoint.navMode = "MID_MPC_" ++ kind) →
        (route.tryRevise candidate nowS failures).2 = false ∧
          (route.tryRevise candidate nowS failures).1.current.activeGeometry =
            route.current.activeGeometry ∧
          (route.bcMpcTakeoverRequested = true →
            (route.tryRevise candidate nowS failures).1.bcMpcTakeoverRequested = true) := by
  intro never
  have refused := (never
    (run step (.construct 45.0 5 3 1852.0)
      [.tryRevise singleWaypointCandidate 0.0 0, .shouldEnterDegradedHold 46.0])
    { singleWaypointCandidate with nlpOk := false } 47.0 0
    ⟨45.0, 5, 3, 1852.0, _, rfl⟩ rfl (by
      intro waypoint member
      rw [List.eq_of_mem_singleton member]
      exact ⟨"OPTIMIZED", by decide⟩)).1
  revert refused
  decide

/-! ### The frozen prefix, waypoint by waypoint -/

/-- The comparison of `same_waypoint` without the navigation mode. -/
def samePosition (lhs rhs : GeoWP) : Bool :=
  decide ((lhs.latDeg - rhs.latDeg).abs < kLatLonTolDeg) &&
    decide ((lhs.lonDeg - rhs.lonDeg).abs < kLatLonTolDeg) &&
    decide ((lhs.speedMps - rhs.speedMps).abs < kSpeedTolMps)

theorem sameWaypoint_iff (lhs rhs : GeoWP) :
    sameWaypoint lhs rhs = true ↔ samePosition lhs rhs = true ∧ lhs.navMode = rhs.navMode := by
  unfold sameWaypoint samePosition
  simp only [Bool.and_eq_true, beq_iff_eq]

theorem preservesCommittedPrefix_iff (committedPrefix geometry : List GeoWP) :
    preservesCommittedPrefix committedPrefix geometry = true ↔
      committedPrefix.length ≤ geometry.length ∧
        ∀ (index : Nat) (offered frozen : GeoWP), geometry[index]? = some offered →
          committedPrefix[index]? = some frozen → sameWaypoint offered frozen = true := by
  unfold preservesCommittedPrefix
  simp only [Bool.and_eq_true, decide_eq_true_eq, List.all_eq_true]
  refine and_congr_right fun _ => ⟨fun same index offered frozen isOffered isFrozen => ?_,
    fun same pair member => ?_⟩
  · refine same (offered, frozen) (List.mem_of_getElem? (i := index) ?_)
    exact List.getElem?_zip_eq_some.mpr ⟨isOffered, isFrozen⟩
  · obtain ⟨index, isPair⟩ := List.mem_iff_getElem?.mp member
    obtain ⟨isOffered, isFrozen⟩ := List.getElem?_zip_eq_some.mp isPair
    exact same index pair.1 pair.2 isOffered isFrozen

/-- The geometry keeps the frozen waypoints' positions and speeds, up to the freeze
tolerance. -/
def KeepsPositions (committedPrefix geometry : List GeoWP) : Prop :=
  committedPrefix.length ≤ geometry.length ∧
    ∀ (index : Nat) (offered frozen : GeoWP), geometry[index]? = some offered →
      committedPrefix[index]? = some frozen → samePosition offered frozen = true

/-! ### Corridor candidates -/

/-- A candidate as the degraded adapter makes them, laid over the frozen waypoints. -/
structure CorridorCandidate (committedPrefix : List GeoWP)
    (candidate : CommittedRouteCandidate) : Prop where
  solved : candidate.nlpOk = true
  nonempty : candidate.geometry ≠ []
  validUntil : candidate.validUntilS.isFinite = true
  waypoints : ∀ waypoint ∈ candidate.geometry,
    waypoint.latDeg.isFinite = true ∧ waypoint.lonDeg.isFinite = true ∧
      waypoint.speedMps.isFinite = true ∧ waypoint.navMode = "DEGRADED_CORRIDOR"
  keeps : KeepsPositions committedPrefix candidate.geometry
  noRisk : riskTriggerEvent candidate = ""

/-- A corridor passes the preflight check. -/
theorem CorridorCandidate.preflight {committedPrefix : List GeoWP}
    {candidate : CommittedRouteCandidate}
    (corridor : CorridorCandidate committedPrefix candidate) :
    preflightCandidate candidate = true := by
  refine (preflightCandidate_iff candidate).mpr ⟨corridor.nonempty, corridor.validUntil, ?_⟩
  intro waypoint member
  obtain ⟨latitude, longitude, speed, mode⟩ := corridor.waypoints waypoint member
  refine ⟨latitude, longitude, speed, ?_⟩
  rw [mode]
  decide

/-- A corridor passes the prefix gate exactly when the frozen waypoints are corridor
waypoints themselves. -/
theorem CorridorCandidate.keepsPrefix_iff {committedPrefix : List GeoWP}
    {candidate : CommittedRouteCandidate}
    (corridor : CorridorCandidate committedPrefix candidate) :
    preservesCommittedPrefix committedPrefix candidate.geometry = true ↔
      ∀ frozen ∈ committedPrefix, frozen.navMode = "DEGRADED_CORRIDOR" := by
  obtain ⟨longEnough, positions⟩ := corridor.keeps
  rw [preservesCommittedPrefix_iff]
  constructor
  · rintro ⟨_, same⟩ frozen member
    obtain ⟨index, isFrozen⟩ := List.mem_iff_getElem?.mp member
    obtain ⟨within, _⟩ := List.getElem?_eq_some_iff.mp isFrozen
    have isOffered := List.getElem?_eq_getElem (Nat.lt_of_lt_of_le within longEnough)
    have sameMode := ((sameWaypoint_iff _ _).mp (same index _ frozen isOffered isFrozen)).2
    obtain ⟨_, _, _, mode⟩ := corridor.waypoints _ (List.mem_of_getElem? isOffered)
    rw [← sameMode, mode]
  · intro modes
    refine ⟨longEnough, fun index offered frozen isOffered isFrozen => ?_⟩
    obtain ⟨_, _, _, mode⟩ := corridor.waypoints offered (List.mem_of_getElem? isOffered)
    refine (sameWaypoint_iff offered frozen).mpr
      ⟨positions index offered frozen isOffered isFrozen, ?_⟩
    rw [mode, modes frozen (List.mem_of_getElem? isFrozen)]

/-- Outside the hand-over states a corridor over the frozen waypoints is accepted and leaves
the route committed exactly when every frozen waypoint is a corridor waypoint. -/
theorem corridor_accepted_iff (route : CommittedAvoidanceRoute)
    (candidate : CommittedRouteCandidate) (nowS : Float) (failures : UInt32)
    (notNeutral : route.current.state ≠ .handoverNeutral)
    (notFinal : route.current.state ≠ .finalDegrade)
    (corridor : CorridorCandidate route.current.committedPrefix candidate) :
    ((route.tryRevise candidate nowS failures).2 = true ∧
        (route.tryRevise candidate nowS failures).1.current.state = .committed) ↔
      ∀ frozen ∈ route.current.committedPrefix, frozen.navMode = "DEGRADED_CORRIDOR" := by
  rw [← corridor.keepsPrefix_iff, tryRevise_snd_eq_true_iff]
  constructor
  · rintro ⟨accepted, _⟩
    exact accepted.keepsPrefix
  · intro kept
    have accepted : route.Accepts candidate :=
      ⟨fun managed => managed.elim notNeutral notFinal, corridor.noRisk, .inl corridor.solved,
        corridor.preflight, kept⟩
    refine ⟨accepted, ?_⟩
    rw [route.tryRevise_of_accepts candidate nowS failures accepted, commitCandidate_state]

/-- A corridor of one waypoint, frozen as a whole. -/
def singleCorridorCandidate : CommittedRouteCandidate :=
  { planId := "corridor-1"
    geometry :=
      [{ latDeg := 31.0, lonDeg := 122.0, speedMps := 5.0, navMode := "DEGRADED_CORRIDOR" }]
    frozenPrefixCount := 1
    validUntilS := 90.0 }

/-- The corridor can be laid over any one waypoint at its place. -/
theorem singleCorridorCandidate_corridor (navMode : String) :
    CorridorCandidate [{ latDeg := 31.0, lonDeg := 122.0, speedMps := 5.0, navMode := navMode }]
      singleCorridorCandidate where
  solved := rfl
  nonempty := List.cons_ne_nil _ _
  validUntil := by decide
  waypoints := by
    intro waypoint member
    rw [List.eq_of_mem_singleton member]
    decide
  keeps := by
    refine ⟨Nat.le_refl 1, fun index offered frozen isOffered isFrozen => ?_⟩
    cases index with
    | zero =>
      rw [← Option.some.inj isOffered, ← Option.some.inj isFrozen]
      -- the comparison reads no mode
      show samePosition { latDeg := 31.0, lonDeg := 122.0, speedMps := 5.0 }
        { latDeg := 31.0, lonDeg := 122.0, speedMps := 5.0 } = true
      decide
    | succ index => cases isFrozen
  noRisk := by decide

/-- A route whose frozen waypoint is the corridor's accepts the corridor again. -/
theorem corridor_accepted_again :
    ((step (.construct 45.0 5 3 1852.0) (.tryRevise singleCorridorCandidate 10.0 0)).tryRevise
      singleCorridorCandidate 20.0 0).2 = true := by
  refine ((corridor_accepted_iff
    (step (.construct 45.0 5 3 1852.0) (.tryRevise singleCorridorCandidate 10.0 0))
    singleCorridorCandidate 20.0 0 (by decide) (by decide)
    (singleCorridorCandidate_corridor "DEGRADED_CORRIDOR")).mpr ?_).1
  intro frozen member
  rw [List.eq_of_mem_singleton (a := frozen) member]

/-- An optimized waypoint is frozen, the plan goes stale, and the corridor laid over it is
refused by the degraded hold. -/
theorem corridor_refused_over_optimized_prefix :
    ¬ ∀ (route : CommittedAvoidanceRoute) (candidate : CommittedRouteCandidate) (nowS : Float)
        (failures : UInt32), Reachable route → route.current.state ≠ .handoverNeutral →
        route.current.state ≠ .finalDegrade →
        CorridorCandidate route.current.committedPrefix candidate →
        (route.tryRevise candidate nowS failures).2 = true ∧
          (route.tryRevise candidate nowS failures).1.current.state = .committed := by
  intro recovers
  have accepted := (recovers
    (run step (.construct 45.0 5 3 1852.0)
      [.tryRevise { singleWaypointCandidate with frozenPrefixCount := 1 } 0.0 0,
        .shouldEnterDegradedHold 46.0])
    singleCorridorCandidate 47.0 0 ⟨45.0, 5, 3, 1852.0, _, rfl⟩ (by decide)
    (by decide) (singleCorridorCandidate_corridor "MID_MPC_OPTIMIZED")).1
  revert accepted
  decide

end MassL3.M5.CommittedRoute
