/-
This file is about the watchdog over the mission manager. It does not look at the age of the last
goal: it counts the cycles in a row that find the mission manager active without a valid task,
and a valid goal, or a cycle that finds otherwise, starts the count afresh. The time counted
passes the threshold in streaks, and one concern is published in each, at its first cycle.
-/

import MassTdl.Odd.Takeover

namespace MassL3.M1

open Binary64 Runs OddEnvelopeManagerNode

/-! ### What the callbacks tell -/

def Event.goal? : Event → Option MissionGoal
  | .missionGoal goal => some goal
  | _ => none

/-- By its last goal, the mission manager is active without a valid task. Here and below the most
recent callback comes first. -/
def lacksTask (recent : List Event) : Bool :=
  (recent.findSome? Event.goal?).any fun goal =>
    goal.fsmState = fsmActive && goal.taskValidity ≠ taskValidityValid

/-- The cycles in a row that found it so, since the last valid goal. -/
def cyclesWithoutTask : List Event → ℕ
  | [] => 0
  | .mainLoopTick _ _ :: earlier =>
      if lacksTask earlier then cyclesWithoutTask earlier + 1 else 0
  | .missionGoal goal :: earlier =>
      if goal.taskValidity = taskValidityValid then 0 else cyclesWithoutTask earlier
  | _ :: earlier => cyclesWithoutTask earlier

/-- The time counted for as many cycles. -/
def timeWithoutTask : ℕ → Float
  | 0 => 0.0
  | cycles + 1 => timeWithoutTask cycles + kMainLoopPeriodS

/-- The time counted has passed the threshold. -/
def Overdue (config : Config) (recent : List Event) : Prop :=
  0 < cyclesWithoutTask recent ∧
    timeWithoutTask (cyclesWithoutTask recent) > config.params.m3RouteStaleThresholdS

/-! ### The time counted -/

theorem timeWithoutTask_number (cycles : ℕ) : (timeWithoutTask cycles).isNaN = false := by
  induction cycles with
  | zero => decide
  | succ cycles inductionHypothesis => exact add_number inductionHypothesis (by decide)

theorem timeWithoutTask_le_succ (cycles : ℕ) :
    timeWithoutTask cycles ≤ timeWithoutTask (cycles + 1) :=
  le_add_of_not_neg (timeWithoutTask_number (cycles + 1)) (by decide)

/-- The time is positive as soon as a cycle has been counted. -/
theorem timeWithoutTask_pos_iff (cycles : ℕ) : timeWithoutTask cycles > 0.0 ↔ 0 < cycles := by
  induction cycles with
  | zero => exact iff_of_false (lt_irrefl 0.0) (Nat.lt_irrefl 0)
  | succ cycles inductionHypothesis =>
    refine iff_of_true ?_ cycles.succ_pos
    cases cycles with
    | zero => decide
    | succ cycles =>
      exact chain_lt_le (inductionHypothesis.mpr cycles.succ_pos) (timeWithoutTask_le_succ _)

/-- What has passed the threshold stays past it with another cycle. -/
theorem timeWithoutTask_succ_gt {threshold : Float} {cycles : ℕ}
    (passed : timeWithoutTask cycles > threshold) : timeWithoutTask (cycles + 1) > threshold :=
  chain_lt_le passed (timeWithoutTask_le_succ cycles)

/-! ### What a callback adds to it -/

section Callbacks

variable {config : Config} {recent : List Event}

theorem not_overdue_of_none (none : cyclesWithoutTask recent = 0) : ¬ Overdue config recent :=
  fun overdue => absurd overdue.1 (Nat.not_lt.mpr none.le)

theorem overdue_congr {other : List Event}
    (same : cyclesWithoutTask other = cyclesWithoutTask recent) :
    Overdue config other ↔ Overdue config recent := by
  unfold Overdue
  rw [same]

variable {nowRos nowSteady : Int}

theorem cyclesWithoutTask_tick :
    cyclesWithoutTask (.mainLoopTick nowRos nowSteady :: recent) =
      if lacksTask recent then cyclesWithoutTask recent + 1 else 0 := rfl

/-- A cycle that finds no task adds its period. -/
theorem timeWithoutTask_tick (lacking : lacksTask recent = true) :
    timeWithoutTask (cyclesWithoutTask (.mainLoopTick nowRos nowSteady :: recent)) =
      timeWithoutTask (cyclesWithoutTask recent) + kMainLoopPeriodS := by
  rw [cyclesWithoutTask_tick, if_pos lacking]
  rfl

theorem overdue_tick_iff (lacking : lacksTask recent = true) :
    Overdue config (.mainLoopTick nowRos nowSteady :: recent) ↔
      timeWithoutTask (cyclesWithoutTask recent) + kMainLoopPeriodS >
        config.params.m3RouteStaleThresholdS := by
  unfold Overdue
  rw [cyclesWithoutTask_tick, if_pos lacking]
  exact and_iff_right (Nat.succ_pos _)

theorem Overdue.tick (before : Overdue config recent) (lacking : lacksTask recent = true) :
    Overdue config (.mainLoopTick nowRos nowSteady :: recent) :=
  (overdue_tick_iff lacking).mpr (timeWithoutTask_succ_gt before.2)

end Callbacks

/-! ### The watchdog within a cycle -/

/-- What the watchdog reads and writes. -/
structure WatchdogState where
  lastMissionGoal : Option MissionGoal
  m3ActiveDurationS : Float
  watchdogConcernEmitted : Bool

def OddEnvelopeManagerNode.watchdogState (node : OddEnvelopeManagerNode) : WatchdogState where
  lastMissionGoal := node.lastMissionGoal
  m3ActiveDurationS := node.m3ActiveDurationS
  watchdogConcernEmitted := node.watchdogConcernEmitted

def Published.isSafetyConcern : Published → Bool
  | .safetyConcern _ => true
  | _ => false

/-- The concerns among the publications. -/
def safetyConcerns (published : List Published) : List Published :=
  published.filter Published.isSafetyConcern

/-- The concern of the watchdog. -/
def m3RouteStale : Published :=
  .safetyConcern { concernType := 2, suggestedAction := "M3_route_stale_watchdog" }

section Cycle

variable (config : Config) (node : OddEnvelopeManagerNode)

theorem stepMachine_watchdogState (inputs : StepInputs) :
    (node.stepMachine config inputs).1.watchdogState = node.watchdogState := by
  rw [stepMachine_fst]
  rfl

theorem safetyConcerns_stepMachine (inputs : StepInputs) :
    safetyConcerns (node.stepMachine config inputs).2 = [] := by
  unfold stepMachine
  simp only
  split_ifs <;> rfl

theorem safetyConcerns_append (first second : List Published) :
    safetyConcerns (first ++ second) = safetyConcerns first ++ safetyConcerns second :=
  List.filter_append _ _

/-- The takeover trigger raises no concern, and leaves what the watchdog keeps. -/
theorem triggerToR_watchdog (inputs : StepInputs) :
    (node.triggerToR config inputs).1.watchdogState = node.watchdogState ∧
      safetyConcerns (node.triggerToR config inputs).2 = [] := by
  unfold triggerToR
  simp only
  rw [stepMachine_watchdogState, safetyConcerns_append, safetyConcerns_stepMachine]
  exact ⟨rfl, rfl⟩

/-- What the watchdog does depends on nothing else, and it publishes nothing but concerns. -/
theorem m3RouteStaleWatchdog_congr {other : OddEnvelopeManagerNode}
    (same : other.watchdogState = node.watchdogState) :
    (other.m3RouteStaleWatchdog config).1.watchdogState =
        (node.m3RouteStaleWatchdog config).1.watchdogState ∧
      safetyConcerns (other.m3RouteStaleWatchdog config).2 =
        (node.m3RouteStaleWatchdog config).2 := by
  obtain ⟨goal, duration, emitted⟩ :
      other.lastMissionGoal = node.lastMissionGoal ∧
        other.m3ActiveDurationS = node.m3ActiveDurationS ∧
        other.watchdogConcernEmitted = node.watchdogConcernEmitted := by
    simpa [watchdogState] using same
  unfold m3RouteStaleWatchdog m3ActiveAndNotValid watchdogState
  simp only [goal, duration, emitted]
  split_ifs <;> exact ⟨by simp [goal, duration, emitted], rfl⟩

/-- A cycle does to this what the watchdog does, and publishes no other concerns. -/
theorem onMainLoopTick_watchdog (nowRos nowSteady : Int) :
    (node.onMainLoopTick config nowRos nowSteady).1.watchdogState =
        (node.m3RouteStaleWatchdog config).1.watchdogState ∧
      safetyConcerns (node.onMainLoopTick config nowRos nowSteady).2 =
        (node.m3RouteStaleWatchdog config).2 := by
  have scored : OddEnvelopeManagerNode.watchdogState { node with
      lastScore := (node.cycleScores config).1
      conformanceEma := (node.cycleScores config).2
      lastTmrTdl := node.cycleTmrTdl config nowSteady } = node.watchdogState := rfl
  obtain ⟨state, published⟩ := m3RouteStaleWatchdog_congr config node scored
  unfold onMainLoopTick
  simp only
  split_ifs
  · obtain ⟨kept, silent⟩ := triggerToR_watchdog config
      ((OddEnvelopeManagerNode.m3RouteStaleWatchdog config _).1.stepMachine config _).1 _
    rw [kept, stepMachine_watchdogState, state, safetyConcerns_append, safetyConcerns_append,
      safetyConcerns_stepMachine, silent, published, List.append_nil, List.append_nil]
    exact ⟨rfl, rfl⟩
  · rw [stepMachine_watchdogState, state, safetyConcerns_append, safetyConcerns_stepMachine,
      published, List.append_nil]
    exact ⟨rfl, rfl⟩

end Cycle

/-! ### What the watchdog has counted -/

/-- The node has counted what the callbacks tell, and has spoken up when the time passed. -/
structure Counted (config : Config) (recent : List Event) (state : WatchdogState) : Prop where
  goal : state.lastMissionGoal = recent.findSome? Event.goal?
  duration : state.m3ActiveDurationS = timeWithoutTask (cyclesWithoutTask recent)
  emitted : state.watchdogConcernEmitted = true ↔ Overdue config recent

/-- A callback takes the time counted past the threshold. -/
def Passes (config : Config) (recent : List Event) (event : Event) : Prop :=
  ¬ Overdue config recent ∧ Overdue config (event :: recent)

/-- The concern is published when the time passes the threshold, and at no other time. -/
structure Speaks (config : Config) (recent : List Event) (event : Event)
    (concerns : List Published) : Prop where
  once : Passes config recent event → concerns = [m3RouteStale]
  silent : ¬ Passes config recent event → concerns = []

variable {config : Config} {recent : List Event} {node : OddEnvelopeManagerNode}

section

variable (counted : Counted config recent node.watchdogState)
include counted

theorem m3ActiveAndNotValid_eq :
    node.m3ActiveAndNotValid = lacksTask recent := by
  have goal : node.lastMissionGoal = recent.findSome? Event.goal? := counted.goal
  unfold m3ActiveAndNotValid lacksTask
  rw [goal]

/-- The watchdog counts a cycle, and speaks up when it takes the time past the threshold. -/
theorem m3RouteStaleWatchdog_counted (nowRos nowSteady : Int) :
    Counted config (.mainLoopTick nowRos nowSteady :: recent)
        (node.m3RouteStaleWatchdog config).1.watchdogState ∧
      Speaks config recent (.mainLoopTick nowRos nowSteady)
        (node.m3RouteStaleWatchdog config).2 := by
  have goal : node.lastMissionGoal = recent.findSome? Event.goal? := counted.goal
  have duration : node.m3ActiveDurationS = timeWithoutTask (cyclesWithoutTask recent) :=
    counted.duration
  have emitted : node.watchdogConcernEmitted = true ↔ Overdue config recent := counted.emitted
  unfold m3RouteStaleWatchdog
  rw [m3ActiveAndNotValid_eq counted]
  cases lacking : lacksTask recent with
  | true =>
    have now : Overdue config (.mainLoopTick nowRos nowSteady :: recent) ↔
        node.m3ActiveDurationS + kMainLoopPeriodS > config.params.m3RouteStaleThresholdS := by
      rw [duration]
      exact overdue_tick_iff lacking
    have lengthened : node.m3ActiveDurationS + kMainLoopPeriodS =
        timeWithoutTask (cyclesWithoutTask (.mainLoopTick nowRos nowSteady :: recent)) := by
      rw [duration, timeWithoutTask_tick lacking]
    simp only [if_true]
    split_ifs with speaks
    · obtain ⟨passed, unspoken⟩ := speaks
      refine ⟨⟨goal, lengthened, iff_of_true rfl (now.mpr passed)⟩, fun _ => rfl, fun kept => ?_⟩
      exact absurd ⟨fun before => unspoken (emitted.mpr before), now.mpr passed⟩ kept
    · have spoken (after : Overdue config (.mainLoopTick nowRos nowSteady :: recent)) :
          node.watchdogConcernEmitted = true := by
        by_contra unspoken
        exact speaks ⟨now.mp after, unspoken⟩
      refine ⟨⟨goal, lengthened, ?_⟩, fun passes => ?_, fun _ => rfl⟩
      · exact ⟨fun before => (emitted.mp before).tick lacking, spoken⟩
      · exact absurd (emitted.mp (spoken passes.2)) passes.1
  | false =>
    have cycles : cyclesWithoutTask (.mainLoopTick nowRos nowSteady :: recent) = 0 :=
      if_neg (Bool.eq_false_iff.mp lacking)
    have notOverdue : ¬ Overdue config (.mainLoopTick nowRos nowSteady :: recent) :=
      not_overdue_of_none cycles
    have kept : ¬ Passes config recent (.mainLoopTick nowRos nowSteady) := fun passes =>
      notOverdue passes.2
    simp only [Bool.false_eq_true, if_false]
    split_ifs with running
    · refine ⟨⟨goal, ?_, iff_of_false Bool.false_ne_true notOverdue⟩,
        fun passes => absurd passes kept, fun _ => rfl⟩
      rw [cycles]
      rfl
    · rw [duration, timeWithoutTask_pos_iff, Nat.not_lt, Nat.le_zero] at running
      refine ⟨⟨goal, ?_, ?_⟩, fun passes => absurd passes kept, fun _ => rfl⟩
      · rw [cycles, ← running]
        exact duration
      · refine iff_of_false (fun spoken => ?_) notOverdue
        exact absurd (emitted.mp spoken).1 (Nat.not_lt.mpr running.le)

/-- So does every callback. -/
theorem handle_counted (event : Event) :
    Counted config (event :: recent) (node.handle config event).1.watchdogState ∧
      Speaks config recent event (safetyConcerns (node.handle config event).2) := by
  cases event with
  | mainLoopTick nowRos nowSteady =>
    unfold handle
    simp only
    obtain ⟨state, published⟩ := onMainLoopTick_watchdog config node nowRos nowSteady
    rw [state, published]
    exact m3RouteStaleWatchdog_counted counted nowRos nowSteady
  | missionGoal goal =>
    unfold handle onMissionGoal
    simp only
    by_cases valid : goal.taskValidity = taskValidityValid
    · have cycles : cyclesWithoutTask (.missionGoal goal :: recent) = 0 := if_pos valid
      have notOverdue : ¬ Overdue config (.missionGoal goal :: recent) :=
        not_overdue_of_none cycles
      rw [if_pos valid]
      refine ⟨⟨rfl, ?_, iff_of_false Bool.false_ne_true notOverdue⟩,
        fun passes => absurd passes.2 notOverdue, fun _ => rfl⟩
      rw [cycles]
      rfl
    · have cycles : cyclesWithoutTask (.missionGoal goal :: recent) = cyclesWithoutTask recent :=
        if_neg valid
      have same : Overdue config (.missionGoal goal :: recent) ↔ Overdue config recent :=
        overdue_congr cycles
      rw [if_neg valid]
      refine ⟨⟨rfl, ?_, counted.emitted.trans same.symm⟩,
        fun passes => absurd (same.mp passes.2) passes.1, fun _ => rfl⟩
      rw [cycles]
      exact counted.duration
  | safetyAlert | m7Heartbeat | operatorState | reflexActivation | overrideSignal
  | environmentState | ownShipState | worldState | diagnostics | oddStatePublishTick =>
    exact ⟨⟨counted.goal, counted.duration, counted.emitted⟩,
      fun passes => absurd passes.2 passes.1, fun _ => rfl⟩

end

/-! ### Along a run -/

theorem construct_counted {startedAt : Int} {start : OddEnvelopeManagerNode}
    (constructed : construct config startedAt = .ok start) :
    Counted config [] start.watchdogState := by
  obtain ⟨_, rfl⟩ := construct_fresh constructed
  exact ⟨rfl, rfl, iff_of_false Bool.false_ne_true fun overdue => Nat.lt_irrefl 0 overdue.1⟩

variable {start : OddEnvelopeManagerNode}

theorem run_counted (initially : Counted config [] start.watchdogState) (events : List Event) :
    Counted config events.reverse (run (next config) start events).watchdogState := by
  induction events using List.reverseRecOn with
  | nil => exact initially
  | append_singleton earlier event inductionHypothesis =>
    rw [run_append, List.reverse_append]
    exact (handle_counted inductionHypothesis event).1

/-- After the first callbacks of a run the time counted has passed the threshold. -/
def OverdueAfter (config : Config) (events : List Event) (count : ℕ) : Prop :=
  Overdue config (events.take count).reverse

/-- The concerns published by one callback of a run. -/
def concernsAt (config : Config) (start : OddEnvelopeManagerNode) (events : List Event)
    (index : ℕ) : List Published :=
  events[index]?.elim [] fun event =>
    safetyConcerns ((stateAt (next config) start events index).handle config event).2

theorem begins_iff_passes {events : List Event} {index : ℕ} {event : Event}
    (present : events[index]? = some event) :
    Begins (OverdueAfter config events) index ↔
      Passes config (events.take index).reverse event := by
  unfold Begins Passes OverdueAfter
  rw [List.take_add_one, present, Option.toList_some, List.reverse_append]
  rfl

/-- Past the end of a run no streak begins. -/
theorem exists_event_of_begins {events : List Event} {index : ℕ}
    (begins : Begins (OverdueAfter config events) index) :
    ∃ event, events[index]? = some event := by
  cases present : events[index]? with
  | some event => exact ⟨event, rfl⟩
  | none =>
    obtain ⟨before, after⟩ := begins
    unfold OverdueAfter at before after
    rw [List.take_add_one, present, Option.toList_none, List.append_nil] at after
    exact absurd after before

/-- Only a cycle takes the time past the threshold. -/
theorem Passes.isTick {event : Event} (passes : Passes config recent event) :
    ∃ nowRos nowSteady, event = .mainLoopTick nowRos nowSteady := by
  obtain ⟨before, after⟩ := passes
  cases event with
  | mainLoopTick nowRos nowSteady => exact ⟨nowRos, nowSteady, rfl⟩
  | missionGoal goal =>
    unfold Overdue cyclesWithoutTask at after
    split_ifs at after
    · exact absurd after.1 (Nat.lt_irrefl 0)
    · exact absurd after before
  | safetyAlert | m7Heartbeat | operatorState | reflexActivation | overrideSignal
  | environmentState | ownShipState | worldState | diagnostics | oddStatePublishTick =>
    exact absurd after before

theorem concernsAt_eq (initially : Counted config [] start.watchdogState) (events : List Event)
    (index : ℕ) :
    (Begins (OverdueAfter config events) index →
        concernsAt config start events index = [m3RouteStale]) ∧
      (¬ Begins (OverdueAfter config events) index →
        concernsAt config start events index = []) := by
  cases present : events[index]? with
  | none =>
    refine ⟨fun begins => ?_, fun _ => ?_⟩
    · obtain ⟨event, missing⟩ := exists_event_of_begins begins
      rw [present] at missing
      cases missing
    · unfold concernsAt
      rw [present]
      rfl
  | some event =>
    obtain ⟨-, speaks⟩ := handle_counted (run_counted initially (events.take index)) event
    unfold concernsAt
    rw [begins_iff_passes present, present]
    exact ⟨speaks.once, speaks.silent⟩

/-- In each maximal streak of callbacks after which the time counted is past the threshold, one
concern is published, by the first of them, which is a cycle; and no other callback publishes
one. -/
theorem one_concern_per_streak {startedAt : Int}
    (constructed : construct config startedAt = .ok start) (events : List Event) :
    (∀ first last, MaximalStreak (OverdueAfter config events) events.length first last →
        (∃ nowRos nowSteady, events[first]? = some (.mainLoopTick nowRos nowSteady)) ∧
          concernsAt config start events first = [m3RouteStale] ∧
          ∀ index, first < index → index ≤ last → concernsAt config start events index = []) ∧
      ∀ index, ¬ OverdueAfter config events (index + 1) →
        concernsAt config start events index = [] := by
  have initially : Counted config [] start.watchdogState := construct_counted constructed
  refine ⟨fun first last streak => ⟨?_, ?_, ?_⟩, fun index outside => ?_⟩
  · obtain ⟨event, present⟩ := exists_event_of_begins streak.begins
    obtain ⟨nowRos, nowSteady, rfl⟩ := ((begins_iff_passes present).mp streak.begins).isTick
    exact ⟨nowRos, nowSteady, present⟩
  · exact (concernsAt_eq initially events first).1 streak.begins
  · intro index later upTo
    exact (concernsAt_eq initially events index).2 (streak.not_begins later upTo)
  · exact (concernsAt_eq initially events index).2 fun begins => outside begins.2

/-- A goal leaves the mission manager active without a task, for sixty-two cycles. -/
def activeWithoutTask : List Event :=
  .missionGoal { fsmState := fsmActive, taskValidity := 0 } ::
    List.replicate 62 (.mainLoopTick 0 0)

theorem one_concern_per_streak_activeWithoutTask :
    (∀ first last, MaximalStreak (OverdueAfter shippedConfig activeWithoutTask)
          activeWithoutTask.length first last →
        (∃ nowRos nowSteady, activeWithoutTask[first]? = some (.mainLoopTick nowRos nowSteady)) ∧
          concernsAt shippedConfig freshNode activeWithoutTask first = [m3RouteStale] ∧
          ∀ index, first < index → index ≤ last →
            concernsAt shippedConfig freshNode activeWithoutTask index = []) ∧
      ∀ index, ¬ OverdueAfter shippedConfig activeWithoutTask (index + 1) →
        concernsAt shippedConfig freshNode activeWithoutTask index = [] :=
  one_concern_per_streak construct_shipped activeWithoutTask

/-- The threshold shipped is passed with the sixty-first of them. -/
example : ¬ timeWithoutTask 60 > shippedParameters.m3RouteStaleThresholdS ∧
    timeWithoutTask 61 > shippedParameters.m3RouteStaleThresholdS := by decide +kernel

/-! ### The age of the last goal -/

/-- When the last goal arrived, in callbacks with the clock read at each. -/
def lastGoalAt (timed : List (Int × Event)) : Option Int :=
  timed.reverse.findSome? fun (now, event) => event.goal?.map fun _ => now

/-- A callback is a cycle. -/
def TickAt (timed : List (Int × Event)) (index : ℕ) (now : Int) : Prop :=
  ∃ nowRos nowSteady, timed[index]? = some (now, .mainLoopTick nowRos nowSteady)

/-- It is a cycle that comes longer after the last goal than the threshold. -/
def GoalStale (config : Config) (timed : List (Int × Event)) (index : ℕ) : Prop :=
  ∃ now, TickAt timed index now ∧ ∃ arrival ∈ lastGoalAt (timed.take index),
    seconds (now - arrival) > config.params.m3RouteStaleThresholdS

/-- And the cycle before it, if there was one, did not. -/
def FirstGoalStale (config : Config) (timed : List (Int × Event)) (index : ℕ) : Prop :=
  GoalStale config timed index ∧ ∀ earlier < index, (∃ now, TickAt timed earlier now) →
    (∀ between now, earlier < between → between < index → ¬ TickAt timed between now) →
    ¬ GoalStale config timed earlier

/-- A valid goal, and the first cycle sixteen seconds after it. -/
def goalThenSilence : List (Int × Event) :=
  [(0, .missionGoal { fsmState := fsmActive, taskValidity := taskValidityValid }),
    (16000000000, .mainLoopTick 16000000000 16000000000)]

theorem goalThenSilence_stale : FirstGoalStale shippedConfig goalThenSilence 1 := by
  refine ⟨⟨16000000000, ⟨_, _, rfl⟩, 0, rfl, by decide⟩, fun earlier before tick => ?_⟩
  obtain rfl : earlier = 0 := Nat.lt_one_iff.mp before
  obtain ⟨now, nowRos, nowSteady, isTick⟩ := tick
  cases isTick

/-- The silence passes without a concern. -/
theorem silence_raises_no_concern :
    ¬ ∀ (config : Config) (startedAt : Int) (start : OddEnvelopeManagerNode),
        construct config startedAt = .ok start →
        ∀ timed : List (Int × Event), (timed.map Prod.fst).Pairwise (· ≤ ·) →
          ∀ index, concernsAt config start (timed.map Prod.snd) index ≠ [] ↔
            FirstGoalStale config timed index := by
  intro noticed
  have concern := (noticed shippedConfig 0 freshNode construct_shipped goalThenSilence
    (by decide) 1).mpr goalThenSilence_stale
  refine concern ((concernsAt_eq (construct_counted construct_shipped) _ 1).2 fun begins => ?_)
  exact Nat.lt_irrefl 0 begins.2.1

end MassL3.M1
