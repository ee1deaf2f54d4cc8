/-
This file follows the supervisor's heartbeats to the time the automation can still cope. The
estimator caps that time by a mean time to failure, but what it is given is a smoothed mean of
the times between heartbeats, of a second at most. So heartbeats in good order take the time down
to its floor, unless there are fewer than two of them or their mean is long.
-/

import MassTdl.Binary64.Truncation
import MassTdl.Odd.Takeover

namespace MassL3.M1

open Clamps
open Binary64 Runs

/-! ### The least of the caps -/

section Caps

variable {bound first second : Float}

theorem lt_stdMin (belowFirst : bound < first) (belowSecond : bound < second) :
    bound < stdMin first second := by
  unfold stdMin
  split_ifs
  · exact belowSecond
  · exact belowFirst

theorem stdMin_number (firstNumber : first.isNaN = false) (secondNumber : second.isNaN = false) :
    (stdMin first second).isNaN = false := by
  unfold stdMin
  split_ifs
  · exact secondNumber
  · exact firstNumber

/-- A cap decides about a bound that the others leave. -/
theorem lt_stdMin_iff (belowFirst : bound < first) (number : second.isNaN = false) :
    bound < stdMin first second ↔ bound < second := by
  unfold stdMin
  split_ifs with less
  · rfl
  · have order : first ≤ second := le_of_not_lt (number_of_lt belowFirst).2 number less
    exact iff_of_true belowFirst (chain_lt_le belowFirst order)

variable {value low high : Float}

theorem lt_stdClamp_iff (number : value.isNaN = false) (belowHigh : bound < high) :
    bound < stdClamp value low high ↔ bound < value ∨ bound < low := by
  unfold stdClamp
  split_ifs with less more
  · exact (or_iff_right_of_imp fun below => chain_lt below less).symm
  · exact iff_of_true belowHigh (Or.inl (chain_lt belowHigh more))
  · refine (or_iff_left_of_imp fun below => ?_).symm
    exact chain_lt_le below (le_of_not_lt (number_of_lt below).2 number less)

/-- What is clamped is no less a number. -/
theorem stdClamp_number (number : value.isNaN = false) :
    (stdClamp value low high).isNaN = false := by
  unfold stdClamp
  split_ifs with less more
  · exact (number_of_lt less).2
  · exact (number_of_lt more).1
  · exact number

end Caps

/-- The time the operator needs is below every cap but the one under consideration. -/
structure OtherCapsFar (params : ParameterSet) (inputs : TmrTdlInputs) (tmrS : Float) : Prop where
  encounter : tmrS < inputs.tcpaMinS * params.tcpaCoefficient
  communication : tmrS < estimateTCommOk inputs.currentRttS
  health : tmrS < estimateTSysHealth inputs.systemHealth
  ceiling : tmrS < params.tdlMaxS

/-- The least of the caps, before it is clamped. -/
def leastCap (params : ParameterSet) (inputs : TmrTdlInputs) : Float :=
  let tdl := stdMin (stdMin (inputs.tcpaMinS * params.tcpaCoefficient)
    (estimateTCommOk inputs.currentRttS)) (estimateTSysHealth inputs.systemHealth)
  let mttf := inputs.systemHealth.mttfEstimateS
  if mttf > 0.0 ∧ ¬ mttf.isNaN then stdMin tdl mttf else tdl

section Estimate

variable {params : ParameterSet} {inputs : TmrTdlInputs} {tmrS : Float}

theorem lt_leastCap_iff (far : OtherCapsFar params inputs tmrS) :
    (leastCap params inputs).isNaN = false ∧
      (tmrS < leastCap params inputs ↔ ¬ inputs.systemHealth.mttfEstimateS > 0.0 ∨
        tmrS < inputs.systemHealth.mttfEstimateS) := by
  have others : tmrS < stdMin (stdMin (inputs.tcpaMinS * params.tcpaCoefficient)
      (estimateTCommOk inputs.currentRttS)) (estimateTSysHealth inputs.systemHealth) :=
    lt_stdMin (lt_stdMin far.encounter far.communication) far.health
  have othersNumber := (number_of_lt others).2
  unfold leastCap
  simp only
  split_ifs with caps
  · have number : inputs.systemHealth.mttfEstimateS.isNaN = false := Bool.eq_false_iff.mpr caps.2
    refine ⟨stdMin_number othersNumber number, (lt_stdMin_iff others number).trans ?_⟩
    exact (or_iff_right (not_not.mpr caps.1)).symm
  · have uncapped : ¬ inputs.systemHealth.mttfEstimateS > 0.0 := fun positive =>
      caps ⟨positive, Bool.eq_false_iff.mp (number_of_lt positive).2⟩
    exact ⟨othersNumber, iff_of_true others (Or.inl uncapped)⟩

/-- The time left is longer than the time needed exactly when the mean time to failure caps
nothing, is longer itself, or the floor is. -/
theorem not_tdl_le_tmr_iff {operatorState : UInt8} {estimate : TmrTdlPair}
    (estimated : estimate = computeTmrTdl params inputs operatorState)
    (far : OtherCapsFar params inputs estimate.tmrS) :
    ¬ estimate.tdlS ≤ estimate.tmrS ↔ ¬ inputs.systemHealth.mttfEstimateS > 0.0 ∨
      estimate.tmrS < inputs.systemHealth.mttfEstimateS ∨ estimate.tmrS < params.tdlMinS := by
  obtain ⟨number, least⟩ := lt_leastCap_iff far
  have left : estimate.tdlS = stdClamp (leastCap params inputs) params.tdlMinS params.tdlMaxS := by
    rw [estimated]
    rfl
  have tdlNumber : estimate.tdlS.isNaN = false := left ▸ stdClamp_number number
  have tmrNumber : estimate.tmrS.isNaN = false := (number_of_lt far.ceiling).1
  calc ¬ estimate.tdlS ≤ estimate.tmrS
      ↔ estimate.tmrS < estimate.tdlS :=
        ⟨lt_of_number_of_not_le tmrNumber tdlNumber, not_le_of_lt⟩
    _ ↔ estimate.tmrS < leastCap params inputs ∨ estimate.tmrS < params.tdlMinS := by
        rw [left]
        exact lt_stdClamp_iff number far.ceiling
    _ ↔ _ := by rw [least, or_assoc]

end Estimate

/-! ### What the heartbeats measure -/

/-- When a callback tells that the supervisor is alive. -/
def Event.alive? : Event → Option Int
  | .safetyAlert _ _ nowSteady => some nowSteady
  | .m7Heartbeat nowSteady => some nowSteady
  | _ => none

def Event.heartbeat? : Event → Option Int
  | .m7Heartbeat nowSteady => some nowSteady
  | _ => none

/-- The times measured: each heartbeat but the first is timed from the last sign of life before
the heartbeat before it. The state is when the supervisor was heard last, and when it had been
heard before the last heartbeat, if there was one. -/
def spans (heard : Int) (before : Option Int) : List Event → List Int
  | [] => []
  | .m7Heartbeat now :: later => (before.map (now - ·)).toList ++ spans now (some heard) later
  | .safetyAlert _ _ now :: later => spans now before later
  | _ :: later => spans heard before later

/-- A time is smoothed into the mean. -/
def smooth (meanS : Float) (span : Int) : Float := 0.2 * seconds span + (1.0 - 0.2) * meanS

/-- The mean of the times a run of callbacks measures, from the start of the node. -/
def meanSpacingS (events : List Event) : Float := (spans 0 none events).foldl smooth 0.0

open OddEnvelopeManagerNode

/-- What was heard before the last heartbeat. -/
def OddEnvelopeManagerNode.heardBefore (node : OddEnvelopeManagerNode) : Option Int :=
  if node.hasPrevM7Heartbeat then some node.prevM7Heartbeat else none

theorem run_mttfRollingAvgS (config : Config) (node : OddEnvelopeManagerNode)
    (events : List Event) :
    (run (next config) node events).mttfRollingAvgS =
      (spans node.lastM7Heartbeat node.heardBefore events).foldl smooth node.mttfRollingAvgS := by
  induction events generalizing node with
  | nil => rfl
  | cons event events inductionHypothesis =>
    show (run (next config) (node.next config event) events).mttfRollingAvgS = _
    rw [inductionHypothesis]
    cases event with
    | mainLoopTick nowRos nowSteady =>
      obtain ⟨_, _, _, same⟩ := node.onMainLoopTick_frame config nowRos nowSteady
      have cycle : node.next config (.mainLoopTick nowRos nowSteady) =
        (node.onMainLoopTick config nowRos nowSteady).1 := rfl
      rw [cycle, same]
      rfl
    | m7Heartbeat nowSteady =>
      unfold next handle onM7Heartbeat heardBefore
      cases known : node.hasPrevM7Heartbeat <;> rfl
    | missionGoal goal =>
      unfold next handle onMissionGoal
      simp only
      split_ifs <;> rfl
    | safetyAlert | operatorState | reflexActivation | overrideSignal | environmentState
    | ownShipState | worldState | diagnostics | oddStatePublishTick => rfl

/-! ### Heartbeats in good order -/

/-- One heartbeat follows another within the timeout. -/
def Spaced (earlier later : Int) : Prop := 0 < later - earlier ∧ later - earlier ≤ 500000000

/-- The steady clock is read in nanoseconds of 64 bits and does not run backwards, and each
heartbeat comes after the one before it and within the timeout. -/
structure HealthyHeartbeats (events : List Event) : Prop where
  clock : (0 :: events.filterMap Event.alive?).Pairwise (· ≤ ·)
  bounded : ∀ now ∈ events.filterMap Event.alive?, now < 2 ^ 63
  spacing : (events.filterMap Event.heartbeat?).IsChain Spaced

/-- The same of the callbacks still to come, after the supervisor was heard and a heartbeat came
last, which the next one will be timed from before. -/
structure InStep (heard : Int) (before beat : Option Int) (events : List Event) : Prop where
  nonneg : 0 ≤ heard
  clock : (heard :: events.filterMap Event.alive?).Pairwise (· ≤ ·)
  bounded : ∀ now ∈ events.filterMap Event.alive?, now < 2 ^ 63
  spacing : (beat.toList ++ events.filterMap Event.heartbeat?).IsChain Spaced
  earlier : ∀ since ∈ before, 0 ≤ since ∧ ∃ last ∈ beat, since ≤ last

section InStep

variable {heard : Int} {before beat : Option Int} {now : Int} {later : List Event}

theorem InStep.alert {alert : SafetyAlert} {nowRos : Int}
    (inStep : InStep heard before beat (.safetyAlert alert nowRos now :: later)) :
    InStep now before beat later := by
  obtain ⟨nonneg, clock, bounded, spacing, earlier⟩ := inStep
  obtain ⟨fromHeard, fromNow⟩ := List.pairwise_cons.mp clock
  refine ⟨nonneg.trans (fromHeard now List.mem_cons_self), fromNow, fun reading member => ?_,
    spacing, earlier⟩
  exact bounded reading (List.mem_cons_of_mem _ member)

/-- A heartbeat is timed, and the next one will be timed from before it. -/
theorem InStep.heartbeat (inStep : InStep heard before beat (.m7Heartbeat now :: later)) :
    InStep now (some heard) (some now) later ∧
      ∀ since ∈ before, 0 < now - since ∧ now - since < 2 ^ 63 := by
  obtain ⟨nonneg, clock, bounded, spacing, earlier⟩ := inStep
  obtain ⟨fromHeard, fromNow⟩ := List.pairwise_cons.mp clock
  have order : heard ≤ now := fromHeard now List.mem_cons_self
  have chain : (beat.toList ++ now :: later.filterMap Event.heartbeat?).IsChain Spaced := spacing
  refine ⟨⟨nonneg.trans order, fromNow, fun reading member => ?_, ?_, ?_⟩, fun since known => ?_⟩
  · exact bounded reading (List.mem_cons_of_mem _ member)
  · exact chain.right_of_append
  · rintro since ⟨⟩
    exact ⟨nonneg, now, rfl, order⟩
  · obtain ⟨sinceNonneg, last, isLast, upTo⟩ := earlier since known
    rw [Option.mem_def.mp isLast] at chain
    have spaced : Spaced last now := (List.isChain_cons_cons.mp chain).1
    have below := bounded now List.mem_cons_self
    unfold Spaced at spaced
    omega

/-- The times measured are positive and fit the clock. -/
theorem InStep.spans_bounded {events : List Event} (inStep : InStep heard before beat events) :
    ∀ span ∈ spans heard before events, 0 < span ∧ span < 2 ^ 63 := by
  induction events generalizing heard before beat with
  | nil => exact fun _ member => nomatch member
  | cons event later inductionHypothesis =>
    cases event with
    | m7Heartbeat now =>
      obtain ⟨further, timed⟩ := inStep.heartbeat
      intro span member
      obtain first | rest := List.mem_append.mp member
      · cases before with
        | none => cases first
        | some since =>
          obtain rfl := List.mem_singleton.mp first
          exact timed since rfl
      · exact inductionHypothesis further span rest
    | safetyAlert alert nowRos now => exact inductionHypothesis inStep.alert
    | operatorState | reflexActivation | overrideSignal | environmentState | ownShipState
    | worldState | diagnostics | missionGoal | mainLoopTick | oddStatePublishTick =>
      exact inductionHypothesis
        ⟨inStep.nonneg, inStep.clock, inStep.bounded, inStep.spacing, inStep.earlier⟩

end InStep

theorem HealthyHeartbeats.inStep {events : List Event} (healthy : HealthyHeartbeats events) :
    InStep 0 none none events :=
  ⟨le_rfl, healthy.clock, healthy.bounded, healthy.spacing, fun _ absent => nomatch absent⟩

/-! ### The mean is positive -/

/-- A time between two readings of the clock, in seconds. -/
theorem seconds_bounds {span : Int} (positive : 0 < span) (bounded : span < 2 ^ 63) :
    1e-10 ≤ seconds span ∧ seconds span ≤ 1e11 := by
  obtain ⟨count, rfl⟩ : ∃ count : ℕ, span = count := ⟨span.toNat, by omega⟩
  have rounded : RoundedFrom count (Float.ofInt count) := ofNat_roundedFrom count
  have least : 1.0 ≤ Float.ofInt count := by
    refine rounded.ge (by decide) ?_
    rw [toReal_one]
    exact_mod_cast Int.natCast_pos.mp positive
  have most : Float.ofInt count ≤ powerOfTwo 64 := by
    refine rounded.le (by decide) ?_
    rw [toReal_powerOfTwo_64]
    have whole : count ≤ 2 ^ 64 := by omega
    exact_mod_cast whole
  have finite : (Float.ofInt count).isFinite = true :=
    finite_of_between (by decide) (by decide) least most
  unfold seconds
  exact ⟨le_div_of_le finite (by decide) (by decide) (by decide) least
      (by decide) (by decide),
    div_le_of_le finite (by decide) (by decide) (by decide) most
      (by decide) (by decide)⟩

/-- A mean within the range of the clock. -/
structure InRange (meanS : Float) : Prop where
  nonneg : 0.0 ≤ meanS
  bounded : meanS ≤ 1e12

theorem InRange.finite {meanS : Float} (inRange : InRange meanS) : meanS.isFinite = true :=
  finite_of_between (by decide) (by decide) inRange.nonneg inRange.bounded

/-- Another time keeps the mean in range and makes it positive. -/
theorem smooth_inRange {meanS : Float} (inRange : InRange meanS) {span : Int}
    (positive : 0 < span) (bounded : span < 2 ^ 63) :
    InRange (smooth meanS span) ∧ 0.0 < smooth meanS span := by
  obtain ⟨least, most⟩ := seconds_bounds positive bounded
  have spanFinite : (seconds span).isFinite = true :=
    finite_of_between (by decide) (by decide) least most
  have shareLeast : 1e-11 ≤ 0.2 * seconds span :=
    le_mul_of_le spanFinite (by decide) (by decide) (by decide) least
      (by decide) (by decide)
  have shareMost : 0.2 * seconds span ≤ 5e10 :=
    mul_le_of_le spanFinite (by decide) (by decide) (by decide) most
      (by decide) (by decide)
  have restNonneg : 0.0 ≤ (1.0 - 0.2) * meanS :=
    zero_le_mul (by decide) inRange.finite (by decide) inRange.nonneg
  have restMost : (1.0 - 0.2) * meanS ≤ 9e11 :=
    mul_le_of_le inRange.finite (by decide) (by decide) (by decide)
      inRange.bounded (by decide) (by decide)
  have shareFinite : (0.2 * seconds span).isFinite = true :=
    finite_of_between (by decide) (by decide) shareLeast shareMost
  have restFinite : ((1.0 - 0.2) * meanS).isFinite = true :=
    finite_of_between (by decide) (by decide) restNonneg restMost
  have most : smooth meanS span ≤ 1e12 :=
    add_le_of_le shareFinite (by decide) (by decide) restFinite
      (by decide) shareMost restMost (by decide)
  have above : 1e-11 ≤ smooth meanS span :=
    chain_le shareLeast (le_add_of_not_neg (number_of_le most).1 (not_lt_of_le restNonneg))
  have small : (0.0 : Float) < 1e-11 := by decide
  have positiveMean : 0.0 < smooth meanS span := chain_lt_le small above
  exact ⟨⟨le_of_lt positiveMean, most⟩, positiveMean⟩

theorem foldl_smooth_inRange {measured : List Int}
    (within : ∀ span ∈ measured, 0 < span ∧ span < 2 ^ 63) {meanS : Float}
    (inRange : InRange meanS) : InRange (measured.foldl smooth meanS) := by
  induction measured generalizing meanS with
  | nil => exact inRange
  | cons span later inductionHypothesis =>
    obtain ⟨positive, bounded⟩ := within span List.mem_cons_self
    exact inductionHypothesis (fun other member => within other (List.mem_cons_of_mem _ member))
      (smooth_inRange inRange positive bounded).1

/-- The mean is positive as soon as a time has been measured. -/
theorem foldl_smooth_pos_iff {measured : List Int}
    (within : ∀ span ∈ measured, 0 < span ∧ span < 2 ^ 63) :
    measured.foldl smooth 0.0 > 0.0 ↔ measured ≠ [] := by
  cases measured using List.reverseRecOn with
  | nil => exact iff_of_false (lt_irrefl 0.0) (not_not.mpr rfl)
  | append_singleton earlier last =>
    obtain ⟨positive, bounded⟩ := within last (List.mem_append_right _ List.mem_cons_self)
    have inRange : InRange (earlier.foldl smooth 0.0) :=
      foldl_smooth_inRange (fun span member => within span (List.mem_append_left _ member))
        ⟨by decide, by decide⟩
    rw [List.foldl_append]
    exact iff_of_true (smooth_inRange inRange positive bounded).2
      (List.append_ne_nil_of_right_ne_nil _ (List.cons_ne_nil _ _))

/-- The heartbeats of a run. -/
def heartbeats (events : List Event) : ℕ := (events.filterMap Event.heartbeat?).length

/-- Every heartbeat is timed, but for the first. -/
theorem length_spans (heard : Int) (before : Option Int) (events : List Event) :
    (spans heard before events).length = heartbeats events - if before.isNone then 1 else 0 := by
  induction events generalizing heard before with
  | nil => cases before <;> rfl
  | cons event later inductionHypothesis =>
    unfold heartbeats at inductionHypothesis ⊢
    cases event with
    | m7Heartbeat now =>
      have counted : (Event.m7Heartbeat now :: later).filterMap Event.heartbeat? =
        now :: later.filterMap Event.heartbeat? := rfl
      rw [counted]
      unfold spans
      rw [List.length_append, inductionHypothesis]
      cases before <;> simp; omega
    | safetyAlert | operatorState | reflexActivation | overrideSignal | environmentState
    | ownShipState | worldState | diagnostics | missionGoal | mainLoopTick | oddStatePublishTick =>
      exact inductionHypothesis _ _

/-! ### The time left -/

/-- What a cycle gives the estimator. -/
def OddEnvelopeManagerNode.tmrTdlInputs (node : OddEnvelopeManagerNode) (config : Config)
    (nowSteady : Int) : TmrTdlInputs where
  tcpaMinS := node.computeMinTcpa
  currentRttS := 0.0
  systemHealth := node.buildSystemHealth config nowSteady
  hScoreTmrAvailable := (node.cycleScoringInputs config).tmrAvailable

/-- With heartbeats in good order, and every other cap far, a cycle finds the time left longer
than the time needed exactly when there were fewer than two heartbeats, or the mean spacing is
longer than the time needed, or the floor is. -/
theorem healthy_heartbeats_leave_time_iff {config : Config} {startedAt : Int}
    {start : OddEnvelopeManagerNode} (constructed : construct config startedAt = .ok start)
    {events : List Event} (healthy : HealthyHeartbeats events) {node : OddEnvelopeManagerNode}
    (reached : node = run (next config) start events) {nowSteady : Int} {estimate : TmrTdlPair}
    (estimated : estimate = node.cycleTmrTdl config nowSteady)
    (far : OtherCapsFar config.params (node.tmrTdlInputs config nowSteady) estimate.tmrS) :
    ¬ estimate.tdlS ≤ estimate.tmrS ↔ heartbeats events < 2 ∨
      estimate.tmrS < meanSpacingS events ∨ estimate.tmrS < config.params.tdlMinS := by
  obtain ⟨_, rfl⟩ := construct_fresh constructed
  have mean : (node.tmrTdlInputs config nowSteady).systemHealth.mttfEstimateS =
      meanSpacingS events := by
    rw [reached]
    exact run_mttfRollingAvgS config _ events
  have measured : (spans 0 none events).length = heartbeats events - 1 := length_spans 0 none events
  have computed : estimate = computeTmrTdl config.params (node.tmrTdlInputs config nowSteady)
    node.currentOperatorState := estimated
  rw [not_tdl_le_tmr_iff computed far, mean]
  refine or_congr_left ?_
  unfold meanSpacingS
  rw [foldl_smooth_pos_iff healthy.inStep.spans_bounded, not_not, ← List.length_eq_zero_iff,
    measured]
  omega

/-- Two heartbeats a tenth of a second apart, with an operator who needs a minute. -/
def twoHeartbeats : List Event :=
  [.operatorState 1, .m7Heartbeat 100000000, .m7Heartbeat 200000000]

theorem twoHeartbeats_healthy : HealthyHeartbeats twoHeartbeats where
  clock := by decide
  bounded := by decide
  spacing := by
    show [100000000, 200000000].IsChain Spaced
    unfold Spaced
    decide

/-- The node after them. -/
def afterHeartbeats : OddEnvelopeManagerNode := run (next shippedConfig) freshNode twoHeartbeats

theorem afterHeartbeats_far : OtherCapsFar shippedConfig.params
    (afterHeartbeats.tmrTdlInputs shippedConfig 200000000)
    (afterHeartbeats.cycleTmrTdl shippedConfig 200000000).tmrS where
  encounter := by decide
  communication := by decide
  health := by decide +kernel
  ceiling := by decide

theorem healthy_heartbeats_leave_time_iff_twoHeartbeats :
    ¬ (afterHeartbeats.cycleTmrTdl shippedConfig 200000000).tdlS ≤
        (afterHeartbeats.cycleTmrTdl shippedConfig 200000000).tmrS ↔
      heartbeats twoHeartbeats < 2 ∨
        (afterHeartbeats.cycleTmrTdl shippedConfig 200000000).tmrS < meanSpacingS twoHeartbeats ∨
        (afterHeartbeats.cycleTmrTdl shippedConfig 200000000).tmrS <
          shippedConfig.params.tdlMinS :=
  healthy_heartbeats_leave_time_iff construct_shipped twoHeartbeats_healthy rfl rfl
    afterHeartbeats_far

/-- They leave less time than the operator needs, and the next cycle prepares the minimum-risk
condition. -/
theorem healthy_heartbeats_prepare_mrc :
    (¬ ∀ (config : Config) (startedAt : Int) (start : OddEnvelopeManagerNode),
        construct config startedAt = .ok start →
        ∀ events, HealthyHeartbeats events →
          ∀ (node : OddEnvelopeManagerNode), node = run (next config) start events →
            ∀ nowSteady, OtherCapsFar config.params (node.tmrTdlInputs config nowSteady)
                (node.cycleTmrTdl config nowSteady).tmrS →
              ¬ (node.cycleTmrTdl config nowSteady).tdlS ≤
                (node.cycleTmrTdl config nowSteady).tmrS) ∧
      (afterHeartbeats.onMainLoopTick shippedConfig 200000000 200000000).1.stateMachine.current =
        .mrcPrep := by
  refine ⟨fun leave => ?_, by decide +kernel⟩
  refine leave shippedConfig 0 freshNode construct_shipped twoHeartbeats twoHeartbeats_healthy
    afterHeartbeats rfl 200000000 afterHeartbeats_far ?_
  decide +kernel

end MassL3.M1
