/-
This file compares what the mean time to failure averages with the times between the heartbeats.
The last sign of life is kept aside before the new one takes its place, so the time of a
heartbeat is taken from before the one before it. The two averages agree over the reals exactly if
that makes no difference: if every heartbeat but the last came at the very instant of the sign of
life before it.
-/

import MassTdl.Odd.Heartbeat
import MassTdl.Smoothing

namespace MassL3.M1

open Runs Smoothing

/-! ### The mean for any kind of number -/

section Model

variable {Scalar : Type} [Add Scalar] [Sub Scalar] [Mul Scalar] [Div Scalar]
  [OfScientific Scalar] (ofInt : Int → Scalar)

/-- A time, in nanoseconds, is smoothed into the mean, in seconds. -/
def smoothBy (meanS : Scalar) (span : Int) : Scalar :=
  0.2 * (ofInt span / 1.0e9) + (1.0 - 0.2) * meanS

def meanBy (measured : List Int) : Scalar := measured.foldl (smoothBy ofInt) 0.0

end Model

/-- On machine numbers this is the smoothing of the node. -/
theorem smoothBy_float : smoothBy Float.ofInt = smooth := rfl

/-- Over the reals a fifth of the time is taken. -/
theorem meanBy_real (measured : List Int) :
    meanBy (Int.cast : Int → ℝ) measured =
      smoothed (0.2 : ℝ) 0 (measured.map fun span : Int => (span : ℝ) / 1.0e9) := by
  have share : smoothBy (Int.cast : Int → ℝ) = fun meanS (span : Int) =>
      AffineMap.lineMap meanS ((span : ℝ) / 1.0e9) (0.2 : ℝ) := by
    funext meanS span
    rw [lineMap_eq_weighted]
    unfold smoothBy
    norm_num
  have zero : (0.0 : ℝ) = 0 := by norm_num
  unfold meanBy smoothed
  rw [List.foldl_map, share, zero]

/-! ### Heartbeats and the times between them -/

/-- The heartbeats, each with the sign of life before it. -/
def beats (heard : Int) : List Event → List (Int × Int)
  | [] => []
  | .m7Heartbeat now :: later => (heard, now) :: beats now later
  | .safetyAlert _ _ now :: later => beats now later
  | _ :: later => beats heard later

/-- The times from one beat to the next, taken from a reading of the earlier one. -/
def timed (reading : Int × Int → Int) : List (Int × Int) → List Int
  | first :: second :: later => (second.2 - reading first) :: timed reading (second :: later)
  | _ => []

/-- The consecutive differences of a list of instants. -/
def differences : List Int → List Int
  | first :: second :: later => (second - first) :: differences (second :: later)
  | _ => []

/-- The times between the heartbeats of a run. -/
def intervals (events : List Event) : List Int := differences (events.filterMap Event.heartbeat?)

/-- Every heartbeat but the last came at the very instant of the sign of life before it. -/
def Prompt (events : List Event) : Prop := ∀ beat ∈ (beats 0 events).dropLast, beat.1 = beat.2

theorem timed_cons (reading : Int × Int → Int) (first : Int × Int) (later : List (Int × Int)) :
    timed reading (first :: later) =
      (later.head?.map fun second => second.2 - reading first).toList ++ timed reading later := by
  cases later <;> rfl

/-- What the node measures runs from the sign of life before each beat. -/
theorem spans_eq_timed (heard : Int) (before : Option Int) (events : List Event) :
    spans heard before events =
      ((beats heard events).head?.bind fun first => before.map (first.2 - ·)).toList ++
        timed Prod.fst (beats heard events) := by
  induction events generalizing heard before with
  | nil => rfl
  | cons event later inductionHypothesis =>
    cases event with
    | m7Heartbeat now =>
      unfold spans beats
      rw [inductionHypothesis, timed_cons]
      cases beats now later <;> rfl
    | safetyAlert | operatorState | reflexActivation | overrideSignal | environmentState
    | ownShipState | worldState | diagnostics | missionGoal | mainLoopTick | oddStatePublishTick =>
      exact inductionHypothesis _ _

theorem timed_snd (instants : List (Int × Int)) :
    timed Prod.snd instants = differences (instants.map Prod.snd) := by
  induction instants with
  | nil => rfl
  | cons first later inductionHypothesis =>
    cases later with
    | nil => rfl
    | cons second rest =>
      unfold timed
      rw [inductionHypothesis]
      rfl

theorem map_snd_beats (heard : Int) (events : List Event) :
    (beats heard events).map Prod.snd = events.filterMap Event.heartbeat? := by
  induction events generalizing heard with
  | nil => rfl
  | cons event later inductionHypothesis =>
    cases event with
    | m7Heartbeat now => exact congrArg (now :: ·) (inductionHypothesis now)
    | safetyAlert | operatorState | reflexActivation | overrideSignal | environmentState
    | ownShipState | worldState | diagnostics | missionGoal | mainLoopTick | oddStatePublishTick =>
      exact inductionHypothesis _

/-- The times between the heartbeats run from each beat itself. -/
theorem intervals_eq_timed (events : List Event) :
    intervals events = timed Prod.snd (beats 0 events) := by
  rw [timed_snd, map_snd_beats]
  rfl

/-- On a clock that does not run backwards no sign of life is later than the beat after it. -/
theorem fst_le_snd_of_mem_beats {heard : Int} {events : List Event}
    (clock : (heard :: events.filterMap Event.alive?).Pairwise (· ≤ ·)) :
    ∀ beat ∈ beats heard events, beat.1 ≤ beat.2 := by
  induction events generalizing heard with
  | nil => exact fun _ absent => nomatch absent
  | cons event later inductionHypothesis =>
    cases event with
    | m7Heartbeat now =>
      obtain ⟨fromHeard, fromNow⟩ := List.pairwise_cons.mp clock
      intro beat member
      rcases List.mem_cons.mp member with rfl | rest
      · exact fromHeard now List.mem_cons_self
      · exact inductionHypothesis fromNow beat rest
    | safetyAlert alert nowRos now =>
      exact inductionHypothesis (List.pairwise_cons.mp clock).2
    | operatorState | reflexActivation | overrideSignal | environmentState
    | ownShipState | worldState | diagnostics | missionGoal | mainLoopTick | oddStatePublishTick =>
      exact inductionHypothesis clock

/-- Times taken from earlier readings are longer. -/
theorem timed_le {instants : List (Int × Int)}
    (order : ∀ instant ∈ instants, instant.1 ≤ instant.2) :
    List.Forall₂ (· ≤ ·) (timed Prod.snd instants) (timed Prod.fst instants) := by
  induction instants with
  | nil => exact .nil
  | cons first later inductionHypothesis =>
    have rest := inductionHypothesis fun instant member =>
      order instant (List.mem_cons_of_mem _ member)
    cases later with
    | nil => exact .nil
    | cons second others =>
      have earlier := order first List.mem_cons_self
      exact .cons (by omega) rest

/-- They are the same exactly if the readings are, but for the last. -/
theorem timed_eq_iff (instants : List (Int × Int)) :
    timed Prod.snd instants = timed Prod.fst instants ↔
      ∀ instant ∈ instants.dropLast, instant.1 = instant.2 := by
  induction instants with
  | nil => simp [timed]
  | cons first later inductionHypothesis =>
    cases later with
    | nil => simp [timed]
    | cons second others =>
      have same : second.2 - first.2 = second.2 - first.1 ↔ first.1 = first.2 := by omega
      unfold timed
      rw [List.cons.injEq, inductionHypothesis, same, List.dropLast_cons_cons, List.forall_mem_cons]

/-! ### The average of the intervals -/

/-- A run measures from before the beats. -/
theorem spans_eq_timed_fst (events : List Event) :
    spans 0 none events = timed Prod.fst (beats 0 events) := by
  rw [spans_eq_timed]
  cases (beats 0 events).head? <;> rfl

/-- It measures the times between the beats exactly if these are prompt. -/
theorem intervals_eq_spans_iff (events : List Event) :
    intervals events = spans 0 none events ↔ Prompt events := by
  rw [intervals_eq_timed, spans_eq_timed_fst]
  exact timed_eq_iff _

theorem intervals_le_spans {events : List Event}
    (clock : (0 :: events.filterMap Event.alive?).Pairwise (· ≤ ·)) :
    List.Forall₂ (· ≤ ·) (intervals events) (spans 0 none events) := by
  rw [intervals_eq_timed, spans_eq_timed_fst]
  exact timed_le (fst_le_snd_of_mem_beats clock)

/-- Over the reals longer times have the same mean only if they are the same. -/
theorem meanBy_real_eq_iff {measured longer : List Int}
    (pointwise : List.Forall₂ (· ≤ ·) measured longer) :
    meanBy (Int.cast : Int → ℝ) measured = meanBy Int.cast longer ↔ measured = longer := by
  have seconds : List.Forall₂ (· ≤ ·) (measured.map fun span : Int => (span : ℝ) / 1.0e9)
      (longer.map fun span : Int => (span : ℝ) / 1.0e9) := by
    rw [List.forall₂_map_left_iff, List.forall₂_map_right_iff]
    refine pointwise.imp fun span other order => ?_
    have cast : (span : ℝ) ≤ other := Int.cast_le.mpr order
    exact div_le_div_of_nonneg_right cast (by norm_num)
  have injective : Function.Injective fun span : Int => (span : ℝ) / 1.0e9 := by
    intro span other same
    have nonzero : (1.0e9 : ℝ) ≠ 0 := by norm_num
    exact Int.cast_injective ((div_left_inj' nonzero).mp same)
  rw [meanBy_real, meanBy_real, smoothed_eq_iff (by norm_num) (by norm_num) le_rfl seconds,
    and_iff_right rfl, injective.list_map.eq_iff]

/-- The mean of the node is that of the times it measures, and of the times between the heartbeats
where these are prompt; over the reals it is only then. -/
theorem mean_folds_intervals_iff {config : Config} {startedAt : Int}
    {start : OddEnvelopeManagerNode}
    (constructed : OddEnvelopeManagerNode.construct config startedAt = .ok start)
    {events : List Event} (clock : (0 :: events.filterMap Event.alive?).Pairwise (· ≤ ·)) :
    let node := run (OddEnvelopeManagerNode.next config) start events
    node.mttfRollingAvgS = meanBy Float.ofInt (spans 0 none events) ∧
      (Prompt events → node.mttfRollingAvgS = meanBy Float.ofInt (intervals events)) ∧
      (meanBy (Int.cast : Int → ℝ) (spans 0 none events) = meanBy Int.cast (intervals events) ↔
        Prompt events) := by
  intro node
  have mean : node.mttfRollingAvgS = meanBy Float.ofInt (spans 0 none events) := by
    obtain ⟨_, rfl⟩ := OddEnvelopeManagerNode.construct_fresh constructed
    exact run_mttfRollingAvgS config _ events
  refine ⟨mean, fun prompt => ?_, ?_⟩
  · rw [mean, (intervals_eq_spans_iff events).mpr prompt]
  · rw [eq_comm, meanBy_real_eq_iff (intervals_le_spans clock), intervals_eq_spans_iff]

theorem mean_folds_intervals_iff_twoHeartbeats :
    let node := run (OddEnvelopeManagerNode.next shippedConfig) freshNode twoHeartbeats
    node.mttfRollingAvgS = meanBy Float.ofInt (spans 0 none twoHeartbeats) ∧
      (Prompt twoHeartbeats →
        node.mttfRollingAvgS = meanBy Float.ofInt (intervals twoHeartbeats)) ∧
      (meanBy (Int.cast : Int → ℝ) (spans 0 none twoHeartbeats) =
          meanBy Int.cast (intervals twoHeartbeats) ↔ Prompt twoHeartbeats) :=
  mean_folds_intervals_iff construct_shipped twoHeartbeats_healthy.clock

/-- Heartbeats one second apart. -/
def secondByLast : List Event :=
  [.m7Heartbeat 1000000000, .m7Heartbeat 2000000000, .m7Heartbeat 3000000000]

/-- Their mean is that of spacings twice as long. -/
theorem mean_doubles_spacing :
    (run (OddEnvelopeManagerNode.next shippedConfig) freshNode secondByLast).mttfRollingAvgS ≠
      meanBy Float.ofInt (intervals secondByLast) := by
  decide +kernel

end MassL3.M1
