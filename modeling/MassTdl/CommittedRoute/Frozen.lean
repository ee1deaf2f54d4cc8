/-
This file measures how far a frozen waypoint can move. One accepted revision may move it by
less than the freeze tolerance, because the prefix gate allows that much; and because the
prefix is then cut anew from the accepted geometry, the next revision is compared with the
moved waypoint. Over a run the waypoint stays within as many tolerances as there were
accepted revisions, and no better: two revisions already carry it further than one tolerance.
-/

import MassTdl.Binary64.Arithmetic
import MassTdl.CommittedRoute.Recovery
import Mathlib.Tactic.IntervalCases

namespace MassL3.M5.CommittedRoute

open Runs CommittedAvoidanceRoute Binary64

/-! ### Moved waypoints -/

/-- The waypoint moved by less than one freeze tolerance for each of the revisions; without a
revision it is the same one. -/
structure MovedWithin (revisions : Nat) (before after : GeoWP) : Prop where
  unmoved : revisions = 0 → after = before
  latitude : revisions ≠ 0 →
    |toReal after.latDeg - toReal before.latDeg| < revisions * toReal kLatLonTolDeg
  longitude : revisions ≠ 0 →
    |toReal after.lonDeg - toReal before.lonDeg| < revisions * toReal kLatLonTolDeg
  speed : revisions ≠ 0 →
    |toReal after.speedMps - toReal before.speedMps| < revisions * toReal kSpeedTolMps
  navMode : after.navMode = before.navMode

theorem MovedWithin.refl (waypoint : GeoWP) : MovedWithin 0 waypoint waypoint :=
  ⟨fun _ => rfl, fun moved => absurd rfl moved, fun moved => absurd rfl moved,
    fun moved => absurd rfl moved, rfl⟩

theorem abs_sub_lt_of_lt {revisions : Nat} {first second third tolerance : ℝ}
    (nearer : revisions = 0 → second = first)
    (near : revisions ≠ 0 → |second - first| < revisions * tolerance)
    (next : |third - second| < tolerance) :
    |third - first| < (revisions + 1 : ℕ) * tolerance := by
  have triangle := abs_sub_le third second first
  rcases Nat.eq_zero_or_pos revisions with rfl | positive
  · rw [nearer rfl] at next
    rwa [zero_add, Nat.cast_one, one_mul]
  · have earlier := near positive.ne'
    rw [Nat.cast_add_one, add_one_mul]
    linarith

theorem kLatLonTolDeg_finite : kLatLonTolDeg.isFinite = true := by decide

theorem kSpeedTolMps_finite : kSpeedTolMps.isFinite = true := by decide

/-- A waypoint the prefix gate lets pass for another moved by less than one tolerance. -/
theorem MovedWithin.next {revisions : Nat} {first second third : GeoWP}
    (moved : MovedWithin revisions first second) (secondFlyable : FlyableWaypoint second)
    (thirdFlyable : FlyableWaypoint third) (same : sameWaypoint third second = true) :
    MovedWithin (revisions + 1) first third := by
  obtain ⟨secondLatitude, secondLongitude, secondSpeed, _⟩ := secondFlyable
  obtain ⟨thirdLatitude, thirdLongitude, thirdSpeed, _⟩ := thirdFlyable
  unfold sameWaypoint at same
  simp only [Bool.and_eq_true, decide_eq_true_eq, beq_iff_eq] at same
  obtain ⟨⟨⟨latitude, longitude⟩, speed⟩, navMode⟩ := same
  refine ⟨fun impossible => absurd impossible (Nat.succ_ne_zero revisions), fun _ => ?_,
    fun _ => ?_, fun _ => ?_, navMode.trans moved.navMode⟩
  · exact abs_sub_lt_of_lt (fun zero => by rw [moved.unmoved zero]) moved.latitude
      (abs_sub_lt thirdLatitude secondLatitude kLatLonTolDeg_finite latitude)
  · exact abs_sub_lt_of_lt (fun zero => by rw [moved.unmoved zero]) moved.longitude
      (abs_sub_lt thirdLongitude secondLongitude kLatLonTolDeg_finite longitude)
  · exact abs_sub_lt_of_lt (fun zero => by rw [moved.unmoved zero]) moved.speed
      (abs_sub_lt thirdSpeed secondSpeed kSpeedTolMps_finite speed)

/-- A flyable waypoint passes for itself. -/
theorem sameWaypoint_self {waypoint : GeoWP} (flyable : FlyableWaypoint waypoint) :
    sameWaypoint waypoint waypoint = true := by
  obtain ⟨latitude, longitude, speed, _⟩ := flyable
  have latLonPositive : (0.0 : Float) < kLatLonTolDeg := by decide
  have speedPositive : (0.0 : Float) < kSpeedTolMps := by decide
  unfold sameWaypoint
  simp only [Bool.and_eq_true, decide_eq_true_eq, beq_iff_eq]
  exact ⟨⟨⟨abs_sub_self_lt latitude latLonPositive, abs_sub_self_lt longitude latLonPositive⟩,
    abs_sub_self_lt speed speedPositive⟩, trivial⟩

/-! ### One operation -/

/-- The frozen waypoints are among the active ones, at the same index. -/
theorem Sound.active_of_frozen {current : CommittedAvoidanceRouteState} (sound : Sound current)
    {index : Nat} {waypoint : GeoWP} (isFrozen : current.committedPrefix[index]? = some waypoint) :
    current.activeGeometry[index]? = some waypoint := by
  rw [sound.frozen, List.getElem?_take] at isFrozen
  split at isFrozen
  · exact isFrozen
  · cases isFrozen

/-- A waypoint that is frozen before and after an accepted revision passes the prefix gate
for what it was. -/
theorem sameWaypoint_of_accepts {route after : CommittedAvoidanceRoute}
    {candidate : CommittedRouteCandidate} {nowS : Float} {failures : UInt32}
    (accepted : route.Accepts candidate) (sound : Sound route.current)
    (afterSound : Sound after.current)
    (committed : after = (route.withSolverFailures failures).commitCandidate candidate nowS)
    {index : Nat} {before later : GeoWP}
    (wasFrozen : route.current.committedPrefix[index]? = some before)
    (isFrozen : after.current.committedPrefix[index]? = some later) :
    sameWaypoint later before = true := by
  have isActive := afterSound.active_of_frozen isFrozen
  have wasActive := sound.active_of_frozen wasFrozen
  rw [committed] at isActive
  rcases commitCandidate_activeGeometry_cases (route.withSolverFailures failures) candidate
    nowS with new | ⟨_, kept⟩
  · rw [new] at isActive
    obtain ⟨_, same⟩ := (preservesCommittedPrefix_iff _ _).mp accepted.keepsPrefix
    exact same index later before isActive wasFrozen
  · rw [kept, withSolverFailures_current, wasActive] at isActive
    rw [Option.some.inj isActive]
    exact sameWaypoint_self (sound.waypoints later (by
      rw [← Option.some.inj isActive]
      exact List.mem_of_getElem? wasActive))

/-- Every other operation leaves the frozen prefix as it is. -/
theorem effect_committedPrefix {route after : CommittedAvoidanceRoute} {operation : Operation}
    (effect : Effect route operation after)
    (notAccepted : ∀ candidate nowS failures,
      operation = .tryRevise candidate nowS failures → ¬ route.Accepts candidate) :
    after.current.committedPrefix = route.current.committedPrefix := by
  cases effect with
  | accepted candidate nowS failures accepted =>
    exact absurd accepted (notAccepted candidate nowS failures rfl)
  | _ => rfl

/-! ### Whole runs -/

/-- The operation at this place of the run is a revision, and it is accepted. -/
def revisionAccepted (start : CommittedAvoidanceRoute) (operations : List Operation)
    (count : Nat) : Bool :=
  match operations[count]? with
  | some (.tryRevise candidate nowS failures) =>
      ((stateAt step start operations count).tryRevise candidate nowS failures).2
  | _ => false

/-- The accepted revisions between two states of a run. -/
def acceptedRevisions (start : CommittedAvoidanceRoute) (operations : List Operation)
    (first last : Nat) : Nat :=
  (List.range' first (last - first)).countP (revisionAccepted start operations)

variable {start : CommittedAvoidanceRoute} {operations : List Operation}

theorem acceptedRevisions_self (count : Nat) :
    acceptedRevisions start operations count count = 0 := by
  unfold acceptedRevisions
  rw [Nat.sub_self]
  rfl

theorem acceptedRevisions_succ {first last : Nat} (later : first ≤ last) :
    acceptedRevisions start operations first (last + 1) =
      acceptedRevisions start operations first last +
        if revisionAccepted start operations last then 1 else 0 := by
  unfold acceptedRevisions
  rw [Nat.succ_sub later, List.range'_concat, List.countP_append, Nat.one_mul,
    Nat.add_sub_cancel' later, List.countP_singleton]

/-- One step of a run moves a waypoint that stays frozen by a tolerance if it is an accepted
revision, and not at all otherwise. -/
theorem movedWithin_succ {first last index : Nat} {before between after : GeoWP}
    (later : first ≤ last) (sound : Sound (stateAt step start operations last).current)
    (afterSound : Sound (stateAt step start operations (last + 1)).current)
    (wasFrozen :
      (stateAt step start operations last).current.committedPrefix[index]? = some between)
    (isFrozen :
      (stateAt step start operations (last + 1)).current.committedPrefix[index]? = some after)
    (moved : MovedWithin (acceptedRevisions start operations first last) before between) :
    MovedWithin (acceptedRevisions start operations first (last + 1)) before after := by
  have betweenFlyable := sound.waypoints between
    (List.mem_of_getElem? (sound.active_of_frozen wasFrozen))
  have afterFlyable := afterSound.waypoints after
    (List.mem_of_getElem? (afterSound.active_of_frozen isFrozen))
  rw [acceptedRevisions_succ later]
  cases present : operations[last]? with
  | none =>
    rw [stateAt_succ_of_none step start operations present, wasFrozen] at isFrozen
    rw [revisionAccepted, present, ← Option.some.inj isFrozen]
    exact moved
  | some operation =>
    have stepped := stateAt_succ step start operations present
    by_cases accepted : ∃ candidate nowS failures,
        operation = .tryRevise candidate nowS failures ∧
          (stateAt step start operations last).Accepts candidate
    · obtain ⟨candidate, nowS, failures, rfl, accepted⟩ := accepted
      rw [revisionAccepted, present]
      simp only [tryRevise_snd, decide_eq_true accepted, if_true]
      rw [step, tryRevise_of_accepts _ candidate nowS failures accepted] at stepped
      exact moved.next betweenFlyable afterFlyable
        (sameWaypoint_of_accepts accepted sound afterSound stepped wasFrozen isFrozen)
    · have notAccepted : ∀ candidate nowS failures,
          operation = .tryRevise candidate nowS failures →
            ¬ (stateAt step start operations last).Accepts candidate :=
        fun candidate nowS failures isRevision isAccepted =>
          accepted ⟨candidate, nowS, failures, isRevision, isAccepted⟩
      have refused : revisionAccepted start operations last = false := by
        rw [revisionAccepted, present]
        cases operation with
        | tryRevise candidate nowS failures =>
          show (tryRevise _ candidate nowS failures).2 = false
          rw [tryRevise_snd, decide_eq_false (notAccepted candidate nowS failures rfl)]
        | _ => rfl
      rw [stepped, effect_committedPrefix (step_effect _ operation) notAccepted,
        wasFrozen] at isFrozen
      rw [refused, ← Option.some.inj isFrozen]
      exact moved

/-- In every run of a new manager a waypoint that stays frozen from one state to another has
moved by less than one freeze tolerance for each revision accepted in between. -/
theorem frozen_movedWithin (staleRouteMaxAgeS : Float)
    (bcFinalDegradeThreshold midUnrecoveredThreshold : UInt32) (cpaSafeM : Float)
    (operations : List Operation) (first last index : Nat) (before after : GeoWP)
    (later : first ≤ last)
    (stays : ∀ count, first ≤ count → count ≤ last →
      index < (stateAt step (.construct staleRouteMaxAgeS bcFinalDegradeThreshold
        midUnrecoveredThreshold cpaSafeM) operations count).current.committedPrefix.length)
    (wasFrozen : (stateAt step (.construct staleRouteMaxAgeS bcFinalDegradeThreshold
        midUnrecoveredThreshold cpaSafeM) operations first).current.committedPrefix[index]? =
      some before)
    (isFrozen : (stateAt step (.construct staleRouteMaxAgeS bcFinalDegradeThreshold
        midUnrecoveredThreshold cpaSafeM) operations last).current.committedPrefix[index]? =
      some after) :
    MovedWithin (acceptedRevisions (.construct staleRouteMaxAgeS bcFinalDegradeThreshold
      midUnrecoveredThreshold cpaSafeM) operations first last) before after := by
  generalize startEq : construct staleRouteMaxAgeS bcFinalDegradeThreshold
    midUnrecoveredThreshold cpaSafeM = start at *
  have sound : ∀ count, Sound (stateAt step start operations count).current := by
    intro count
    refine Reachable.sound ⟨staleRouteMaxAgeS, bcFinalDegradeThreshold,
      midUnrecoveredThreshold, cpaSafeM, operations.take count, ?_⟩
    rw [startEq, stateAt_eq_run]
  induction last, later using Nat.le_induction generalizing after with
  | base =>
    rw [acceptedRevisions_self, Option.some.inj (wasFrozen.symm.trans isFrozen)]
    exact .refl after
  | succ last reached inductionHypothesis =>
    have within := stays last reached (Nat.le_succ last)
    have isBetween := List.getElem?_eq_getElem within
    have moved := inductionHypothesis _
      (fun count above below => stays count above (Nat.le_succ_of_le below)) isBetween
    exact movedWithin_succ reached (sound last) (sound (last + 1)) isBetween isFrozen moved

/-- A commitment of one frozen waypoint at the given latitude. -/
def freezeAt (latDeg : Float) : Operation :=
  .tryRevise
    { singleWaypointCandidate with
      geometry := [{ latDeg := latDeg, lonDeg := 122.0, navMode := "MID_MPC_OPTIMIZED" }]
      frozenPrefixCount := 1 } 0.0 0

/-- A revision carries a frozen waypoint six hundredths of a microdegree north. -/
theorem frozen_movedWithin_one :
    MovedWithin
      (acceptedRevisions (.construct 45.0 5 3 1852.0) [freezeAt 31.0, freezeAt 31.00000006] 1 2)
      { latDeg := 31.0, lonDeg := 122.0, navMode := "MID_MPC_OPTIMIZED" }
      { latDeg := 31.00000006, lonDeg := 122.0, navMode := "MID_MPC_OPTIMIZED" } := by
  refine frozen_movedWithin 45.0 5 3 1852.0 [freezeAt 31.0, freezeAt 31.00000006] 1 2 0 _ _
    (Nat.le_succ 1) (fun count above below => ?_) (by decide)
    (by decide +kernel)
  interval_cases count
  · decide
  · decide +kernel

/-- The next revision carries it as far again, out of the tolerance around where it was
frozen. -/
theorem frozen_drifts :
    ¬ ∀ (operations : List Operation) (first last index : Nat) (before after : GeoWP),
        first ≤ last →
        (∀ count, first ≤ count → count ≤ last →
          index < (stateAt step (.construct 45.0 5 3 1852.0) operations
            count).current.committedPrefix.length) →
        (stateAt step (.construct 45.0 5 3 1852.0) operations
          first).current.committedPrefix[index]? = some before →
        (stateAt step (.construct 45.0 5 3 1852.0) operations
          last).current.committedPrefix[index]? = some after →
        sameWaypoint after before = true := by
  intro frozen
  have same := frozen [freezeAt 31.0, freezeAt 31.00000006, freezeAt 31.00000012] 1 3 0
    { latDeg := 31.0, lonDeg := 122.0, navMode := "MID_MPC_OPTIMIZED" }
    { latDeg := 31.00000012, lonDeg := 122.0, navMode := "MID_MPC_OPTIMIZED" }
    (Nat.le_add_right 1 2) (fun count above below => by interval_cases count <;> decide +kernel)
    (by decide +kernel) (by decide +kernel)
  revert same
  decide

end MassL3.M5.CommittedRoute
