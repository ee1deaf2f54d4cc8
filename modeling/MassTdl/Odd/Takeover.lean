/-
This file follows the node's takeover trigger. A cycle in which the automation can cope for no
longer than the operator needs always leaves the node in the preparation, in the active state or
relieved. But the state machine may move into the preparation by a rule of its own, and then the
trigger finds nothing left to force and asks for nothing.

The score is what carries this along a run: it stays a number, so that the forced step is never
caught by the guard against an undefined one.

It also says which alerts of the supervisor a cycle acts on. Between two cycles any number of
alerts may arrive, and each replaces the one before it: the cycle sees the last one delivered,
whatever its severity, and an alert that a milder one follows is never acted on.
-/

import MassTdl.Odd.Node

namespace MassL3.M1

open Binary64

/-! ### The score of every cycle is a number -/

/-- The filter holds a score. -/
def OddEnvelopeManagerNode.Filtered (node : OddEnvelopeManagerNode) : Prop :=
  InUnit node.conformanceEma.filteredValue

namespace OddEnvelopeManagerNode

variable (config : Config) {node : OddEnvelopeManagerNode}

theorem construct_filtered {nowSteady : Int} (constructed : construct config nowSteady = .ok node) :
    node.Filtered := by
  obtain ⟨_, rfl⟩ := construct_fresh constructed
  exact inUnit_one

theorem cycleScores_filtered (filtered : node.Filtered) :
    (node.cycleScores config).2.filteredValue = (node.cycleScores config).1.conformanceScore ∧
      InUnit (node.cycleScores config).1.conformanceScore :=
  computeWithEma_inUnit config.params _ filtered (by decide)

/-- The score a cycle steps with is finite. -/
theorem cycleInputs_score_finite (filtered : node.Filtered) (nowRos nowSteady : Int) :
    (node.cycleInputs config nowRos nowSteady).score.isFinite = true :=
  (cycleScores_filtered config filtered).2.finite

/-! ### The parts of a cycle -/

@[simp] theorem m3RouteStaleWatchdog_stateMachine :
    (node.m3RouteStaleWatchdog config).1.stateMachine = node.stateMachine := by
  unfold m3RouteStaleWatchdog
  simp only
  split_ifs <;> rfl

@[simp] theorem stepMachine_stateMachine (inputs : StepInputs) :
    (node.stepMachine config inputs).1.stateMachine = node.stateMachine.step inputs := by
  rw [stepMachine_fst]

/-- Takeover requests among the publications. -/
def torRequests (published : List Published) : Nat := published.countP (·.isTorRequest)

theorem torRequests_append (first second : List Published) :
    torRequests (first ++ second) = torRequests first + torRequests second :=
  List.countP_append

/-- The watchdog asks for no takeover. -/
theorem torRequests_watchdog : torRequests (node.m3RouteStaleWatchdog config).2 = 0 := by
  unfold m3RouteStaleWatchdog
  simp only
  split_ifs <;> rfl

/-- Reporting a new state asks for no takeover. -/
theorem torRequests_stepMachine (inputs : StepInputs) :
    torRequests (node.stepMachine config inputs).2 = 0 := by
  unfold stepMachine
  simp only
  split_ifs <;> rfl

/-- The trigger asks for exactly one. -/
theorem torRequests_triggerToR (inputs : StepInputs) :
    torRequests (node.triggerToR config inputs).2 = 1 := by
  unfold triggerToR
  rw [torRequests_append, torRequests_stepMachine]
  rfl

/-! ### A whole cycle -/

/-- The state machine after the step of a cycle. -/
def cycleStep (node : OddEnvelopeManagerNode) (nowRos nowSteady : Int) : OddStateMachine :=
  node.stateMachine.step (node.cycleInputs config nowRos nowSteady)

/-- The node has handed over, told from its state machine. -/
def HandedOver (machine : OddStateMachine) : Prop :=
  machine.current = .mrcPrep ∨ machine.current = .mrcActive ∨ machine.current = .overridden

theorem handedOver_iff : node.handedOver = true ↔ HandedOver node.stateMachine := by
  unfold handedOver HandedOver
  simp only [Bool.or_eq_true, decide_eq_true_eq, or_assoc]

section Cycle

variable (node) {nowRos nowSteady : Int}

/-- Where the machine has handed over by itself, or there is time, nothing is forced and no
takeover is requested. -/
theorem onMainLoopTick_of_not_triggered
    (untriggered : ¬ ((node.cycleInputs config nowRos nowSteady).tdlS ≤
        (node.cycleInputs config nowRos nowSteady).tmrS ∧
      ¬ HandedOver (node.cycleStep config nowRos nowSteady))) :
    (node.onMainLoopTick config nowRos nowSteady).1.stateMachine =
        node.cycleStep config nowRos nowSteady ∧
      torRequests (node.onMainLoopTick config nowRos nowSteady).2 = 0 := by
  unfold onMainLoopTick
  simp only
  rw [if_neg]
  · refine ⟨?_, ?_⟩
    · rw [stepMachine_stateMachine, m3RouteStaleWatchdog_stateMachine]
      rfl
    · rw [torRequests_append, torRequests_watchdog, torRequests_stepMachine]
  · rw [handedOver_iff, stepMachine_stateMachine, m3RouteStaleWatchdog_stateMachine]
    exact untriggered

/-- Where it has not and there is no time, the step is forced and one takeover requested. -/
theorem onMainLoopTick_of_triggered
    (late : (node.cycleInputs config nowRos nowSteady).tdlS ≤
      (node.cycleInputs config nowRos nowSteady).tmrS)
    (kept : ¬ HandedOver (node.cycleStep config nowRos nowSteady)) :
    (node.onMainLoopTick config nowRos nowSteady).1.stateMachine =
        (node.cycleStep config nowRos nowSteady).step
          { node.cycleInputs config nowRos nowSteady with
            events := { m7SafetyMrcRequired := true } } ∧
      torRequests (node.onMainLoopTick config nowRos nowSteady).2 = 1 := by
  unfold onMainLoopTick
  simp only
  rw [if_pos]
  · refine ⟨?_, ?_⟩
    · unfold triggerToR
      simp only
      rw [stepMachine_stateMachine, stepMachine_stateMachine, m3RouteStaleWatchdog_stateMachine]
      rfl
    · rw [torRequests_append, torRequests_append, torRequests_watchdog, torRequests_stepMachine,
        torRequests_triggerToR]
  · rw [handedOver_iff, stepMachine_stateMachine, m3RouteStaleWatchdog_stateMachine]
    exact ⟨late, kept⟩

/-- A cycle stores the filter it computed. -/
theorem onMainLoopTick_conformanceEma :
    (node.onMainLoopTick config nowRos nowSteady).1.conformanceEma =
      (node.cycleScores config).2 := by
  obtain ⟨_, _, _, same⟩ := node.onMainLoopTick_frame config nowRos nowSteady
  rw [same]

end Cycle

/-! ### Along a run -/

theorem next_filtered (filtered : node.Filtered) (event : Event) :
    (node.next config event).Filtered := by
  cases event with
  | mainLoopTick nowRos nowSteady =>
    obtain ⟨stored, inUnit⟩ := cycleScores_filtered config filtered
    unfold next handle Filtered
    simp only
    rw [onMainLoopTick_conformanceEma, stored]
    exact inUnit
  | missionGoal goal =>
    unfold next handle onMissionGoal Filtered
    simp only
    split_ifs <;> exact filtered
  | safetyAlert | m7Heartbeat | operatorState | reflexActivation | overrideSignal
  | environmentState | ownShipState | worldState | diagnostics | oddStatePublishTick =>
    exact filtered

/-- Every state of a run has a score in its filter. -/
theorem run_filtered {nowSteady : Int} {start : OddEnvelopeManagerNode}
    (constructed : construct config nowSteady = .ok start) (events : List Event) :
    (Runs.run (next config) start events).Filtered :=
  Runs.run_invariant Filtered (construct_filtered config constructed)
    fun _ event filtered => next_filtered config filtered event

end OddEnvelopeManagerNode

/-! ### Rules that enter the preparation -/

/-- The state machine enters the preparation by a rule of its own: the supervisor alerts, the
score is critical, or the machine is at the edge with no time left. -/
structure EntersSilently (machine : OddStateMachine) (inputs : StepInputs) : Prop where
  outside : machine.current ≠ .mrcPrep
  noOverride : inputs.events.overrideActive = false
  noReflex : inputs.events.reflexActivation = false
  rule : inputs.events.m7SafetyCritical = true ∨ inputs.events.m7SafetyMrcRequired = true ∨
    inputs.zoneHealth.health = .critical ∨
    (machine.current = .edge ∧
      ¬ machine.effectiveScore inputs ≥ machine.thresholds.inToEdge ∧
      ¬ machine.effectiveScore inputs < machine.edgeToOut inputs.zoneHealth)

/-- When time is short, only the edge leads to the preparation. -/
theorem OddStateMachine.computeNext_eq_mrcPrep_iff {machine : OddStateMachine}
    (outside : machine.current ≠ .mrcPrep) {tdlS tmrS : Float} (late : tdlS ≤ tmrS)
    (effScore : Float) (events : EventFlags) (zoneHealth : OddZoneHealthPair) :
    machine.computeNext effScore tdlS tmrS events zoneHealth = .mrcPrep ↔
      machine.current = .edge ∧ ¬ effScore ≥ machine.thresholds.inToEdge ∧
        ¬ effScore < machine.edgeToOut zoneHealth := by
  unfold computeNext
  cases state : machine.current with
  | inEnvelope =>
    simp only [handleInState]
    split_ifs <;> simp
  | edge =>
    simp only [handleEdgeState, if_pos late]
    split_ifs <;> simp_all
  | out | overridden =>
    simp only [handleOutState]
    split_ifs <;> simp
  | mrcPrep => exact absurd state outside
  | mrcActive =>
    simp only [handleMrcActiveState]
    split_ifs <;> simp

/-- From outside, a step with no time left reaches the preparation exactly by one of its own
rules. -/
theorem OddStateMachine.step_eq_mrcPrep_iff {machine : OddStateMachine}
    (outside : machine.current ≠ .mrcPrep) {inputs : StepInputs}
    (defined : inputs.score.isNaN = false) (late : inputs.tdlS ≤ inputs.tmrS) :
    (machine.step inputs).current = .mrcPrep ↔ EntersSilently machine inputs := by
  rw [step_current, if_neg (Bool.eq_false_iff.mp defined)]
  constructor
  · intro reached
    split_ifs at reached with taken demanded critical
    · have noOverride := Bool.eq_false_iff.mpr fun active => taken (.inl active)
      have noReflex := Bool.eq_false_iff.mpr fun active => taken (.inr active)
      exact ⟨outside, noOverride, noReflex, demanded.imp_right .inl⟩
    · have noOverride := Bool.eq_false_iff.mpr fun active => taken (.inl active)
      have noReflex := Bool.eq_false_iff.mpr fun active => taken (.inr active)
      exact ⟨outside, noOverride, noReflex, .inr (.inr (.inl critical))⟩
    · have noOverride := Bool.eq_false_iff.mpr fun active => taken (.inl active)
      have noReflex := Bool.eq_false_iff.mpr fun active => taken (.inr active)
      exact ⟨outside, noOverride, noReflex, .inr (.inr (.inr
        ((computeNext_eq_mrcPrep_iff outside late _ _ _).mp reached)))⟩
  · rintro ⟨-, noOverride, noReflex, rule⟩
    rw [if_neg (by simp [noOverride, noReflex])]
    split_ifs with demanded critical
    · rfl
    · rfl
    · refine (computeNext_eq_mrcPrep_iff outside late _ _ _).mpr ?_
      obtain alert | alert | health | edge := rule
      · exact absurd (.inl alert) demanded
      · exact absurd (.inr alert) demanded
      · exact absurd health critical
      · exact edge

/-! ### Takeovers -/

/-- The cycle leaves the node handed over, and if it took it into the preparation, it asked for
exactly one takeover. -/
def AsksForTakeover (config : Config) (node : OddEnvelopeManagerNode) (nowRos nowSteady : Int) :
    Prop :=
  let cycle := node.onMainLoopTick config nowRos nowSteady
  OddEnvelopeManagerNode.HandedOver cycle.1.stateMachine ∧
    (node.stateMachine.current ≠ .mrcPrep → cycle.1.stateMachine.current = .mrcPrep →
      OddEnvelopeManagerNode.torRequests cycle.2 = 1)

open OddEnvelopeManagerNode in
theorem asksForTakeover_iff {config : Config} {startedAt : Int} {start : OddEnvelopeManagerNode}
    (constructed : construct config startedAt = .ok start) (events : List Event)
    {node : OddEnvelopeManagerNode} (reached : node = Runs.run (next config) start events)
    {nowRos nowSteady : Int} {inputs : StepInputs}
    (sees : inputs = node.cycleInputs config nowRos nowSteady)
    (late : inputs.tdlS ≤ inputs.tmrS) :
    AsksForTakeover config node nowRos nowSteady ↔
      ¬ EntersSilently node.stateMachine inputs := by
  have filtered : node.Filtered := reached ▸ run_filtered config constructed events
  have finite := cycleInputs_score_finite config filtered nowRos nowSteady
  rw [← sees] at finite
  have defined := number_of_finite finite
  subst sees
  unfold AsksForTakeover
  by_cases kept : HandedOver (node.cycleStep config nowRos nowSteady)
  · obtain ⟨machine, requests⟩ := onMainLoopTick_of_not_triggered config node
      fun triggered => triggered.2 kept
    simp only [machine, requests]
    constructor
    · rintro ⟨-, asked⟩ silent
      have entered := (OddStateMachine.step_eq_mrcPrep_iff silent.outside defined late).mpr silent
      exact absurd (asked silent.outside entered) Nat.zero_ne_one
    · intro loud
      refine ⟨kept, fun outside entered => absurd ?_ loud⟩
      exact (OddStateMachine.step_eq_mrcPrep_iff outside defined late).mp entered
  · obtain ⟨machine, requests⟩ := onMainLoopTick_of_triggered config node late kept
    have demanded : DemandsMrc { node.cycleInputs config nowRos nowSteady with
        events := { m7SafetyMrcRequired := true } } := ⟨rfl, finite, rfl, rfl⟩
    have forced := OddStateMachine.step_of_demand (node.cycleStep config nowRos nowSteady) demanded
    simp only [machine, requests]
    refine iff_of_true ⟨.inl forced, fun _ _ => trivial⟩ fun silent => kept (.inl ?_)
    exact (OddStateMachine.step_eq_mrcPrep_iff silent.outside defined late).mpr silent

/-! ### An alert that leaves the operator unasked -/

/-- The parameters shipped with the module. -/
def shippedParameters : ParameterSet where
  torMatrix := [⟨0, 30.0⟩, ⟨1, 60.0⟩, ⟨2, 60.0⟩, ⟨3, 90.0⟩, ⟨4, 120.0⟩]
  rotMaxCurve := [⟨0.0, 5.0⟩, ⟨10.0, 15.0⟩, ⟨18.0, 12.0⟩, ⟨22.0, 8.0⟩]
  tdlMinS := 35.0
  redundancyEnabled := true

def shippedConfig : Config where
  params := shippedParameters
  strtod := fun _ => 0.0

/-- The node as it is started with them. -/
def freshNode : OddEnvelopeManagerNode where
  stateMachine := freshMachine

theorem construct_shipped : OddEnvelopeManagerNode.construct shippedConfig 0 = .ok freshNode := by
  have created : OddStateMachine.create
      { inToEdge := shippedConfig.params.inToEdge
        edgeToOut := shippedConfig.params.edgeToOut
        staleDegradationFactor := shippedConfig.params.staleDegradationFactor } 0 =
      .ok freshMachine := by
    unfold OddStateMachine.create
    rw [if_neg (by decide), if_neg (by decide), if_neg (by decide)]
    rfl
  have accepted : weightsAccepted shippedConfig.params := by decide
  have estimator : createTmrTdl shippedConfig.params = .ok () := by
    unfold createTmrTdl
    rw [if_neg (by decide), if_neg (by decide), if_neg (by decide),
      if_neg (by decide)]
  unfold OddEnvelopeManagerNode.construct
  simp only [created, if_pos accepted, estimator]
  rfl

/-- The operator is near the bridge and the supervisor reports a critical condition. -/
def alerted : OddEnvelopeManagerNode :=
  Runs.run (OddEnvelopeManagerNode.next shippedConfig) freshNode
    [.operatorState 1, .safetyAlert ⟨severityCritical⟩ 0 0]

theorem asksForTakeover_iff_alerted :
    (AsksForTakeover shippedConfig alerted 0 0 ↔
      ¬ EntersSilently alerted.stateMachine (alerted.cycleInputs shippedConfig 0 0)) :=
  asksForTakeover_iff construct_shipped [.operatorState 1, .safetyAlert ⟨severityCritical⟩ 0 0]
    rfl rfl (by decide +kernel)

/-- The automation copes for a minute and the operator needs one, yet the cycle that prepares
the minimum-risk condition requests no takeover. -/
theorem alerted_asks_nobody :
    OddEnvelopeManagerNode.construct shippedConfig 0 = .ok freshNode ∧
      (alerted.cycleInputs shippedConfig 0 0).tdlS ≤ (alerted.cycleInputs shippedConfig 0 0).tmrS ∧
      alerted.stateMachine.current ≠ .mrcPrep ∧
      (alerted.onMainLoopTick shippedConfig 0 0).1.stateMachine.current = .mrcPrep ∧
      ¬ AsksForTakeover shippedConfig alerted 0 0 := by
  refine ⟨construct_shipped, by decide +kernel, by decide +kernel, by decide +kernel, ?_⟩
  rintro ⟨-, asked⟩
  have once := asked (by decide +kernel) (by decide +kernel)
  revert once
  decide +kernel

open OddEnvelopeManagerNode

/-! ### Alerts and their flags -/

/-- The flags a cycle derives from the severity of an alert. -/
structure SeverityFlags where
  m7Critical : Bool
  m7MrcRequired : Bool
  deriving DecidableEq

def flagsOf (severity : UInt8) : SeverityFlags where
  m7Critical := severity = severityCritical
  m7MrcRequired := severity = severityMrcRequired

/-- Before the first alert no flag is set. -/
def flagsOfAlert : Option SafetyAlert → SeverityFlags
  | none => ⟨false, false⟩
  | some alert => flagsOf alert.severity

/-- The flags the state machine is stepped with. -/
def actedOn (config : Config) (node : OddEnvelopeManagerNode) (nowRos nowSteady : Int) :
    SeverityFlags where
  m7Critical := (node.cycleInputs config nowRos nowSteady).events.m7SafetyCritical
  m7MrcRequired := (node.cycleInputs config nowRos nowSteady).events.m7SafetyMrcRequired

theorem actedOn_eq (config : Config) (node : OddEnvelopeManagerNode) (nowRos nowSteady : Int) :
    actedOn config node nowRos nowSteady = flagsOfAlert node.lastSafetyAlert := by
  cases known : node.lastSafetyAlert with
  | none => simp [actedOn, flagsOfAlert, cycleInputs, cycleEvents, m7Critical, m7MrcRequired, known]
  | some alert =>
    simp [actedOn, flagsOfAlert, flagsOf, cycleInputs, cycleEvents, m7Critical, m7MrcRequired,
      known]

/-! ### Deliveries -/

def Event.alert : Event → Option SafetyAlert
  | .safetyAlert alert _ _ => some alert
  | _ => none

/-- The alerts among the callbacks, in the order of their delivery. -/
def delivered (events : List Event) : List SafetyAlert := events.filterMap Event.alert

/-- A cycle leaves the alert in its slot. -/
theorem onMainLoopTick_lastSafetyAlert (config : Config) (node : OddEnvelopeManagerNode)
    (nowRos nowSteady : Int) :
    (node.onMainLoopTick config nowRos nowSteady).1.lastSafetyAlert = node.lastSafetyAlert := by
  obtain ⟨_, _, _, same⟩ := node.onMainLoopTick_frame config nowRos nowSteady
  rw [same]

/-- The alert a delivery leaves in the slot. -/
theorem next_lastSafetyAlert (config : Config) (node : OddEnvelopeManagerNode) (event : Event) :
    (node.next config event).lastSafetyAlert = event.alert.or node.lastSafetyAlert := by
  cases event with
  | mainLoopTick nowRos nowSteady => exact onMainLoopTick_lastSafetyAlert _ _ _ _
  | missionGoal goal =>
    unfold next handle onMissionGoal
    simp only
    split_ifs <;> rfl
  | safetyAlert | m7Heartbeat | operatorState | reflexActivation | overrideSignal
  | environmentState | ownShipState | worldState | diagnostics | oddStatePublishTick => rfl

/-- After any callbacks the slot holds the last alert delivered, or the one from before. -/
theorem run_lastSafetyAlert (config : Config) (node : OddEnvelopeManagerNode)
    (events : List Event) :
    (Runs.run (next config) node events).lastSafetyAlert =
      (delivered events).getLast?.or node.lastSafetyAlert := by
  induction events generalizing node with
  | nil => rfl
  | cons event events inductionHypothesis =>
    show (Runs.run (next config) (node.next config event) events).lastSafetyAlert = _
    rw [inductionHypothesis, next_lastSafetyAlert]
    unfold delivered
    cases arrived : event.alert with
    | none => rw [List.filterMap_cons_none arrived, Option.none_or]
    | some alert =>
      rw [List.filterMap_cons_some arrived, List.getLast?_cons]
      cases (events.filterMap Event.alert).getLast? <;> rfl

/-! ### What the next cycle acts on -/

/-- Between two cycles no cycle runs. -/
def BetweenCycles (events : List Event) : Prop :=
  ∀ event ∈ events, ∀ nowRos nowSteady, event ≠ .mainLoopTick nowRos nowSteady

/-- The severest of the alerts. -/
def maximumSeverity (alerts : List SafetyAlert) : UInt8 :=
  (alerts.map (·.severity)).foldl max 0

/-- The next cycle acts on the last alert delivered since the one before it, and on the alert
from before when none was. -/
theorem acts_on_last_alert (config : Config) (node : OddEnvelopeManagerNode)
    (events : List Event) (nowRos nowSteady : Int) :
    actedOn config (Runs.run (next config) node events) nowRos nowSteady =
      flagsOfAlert ((delivered events).getLast?.or node.lastSafetyAlert) := by
  rw [actedOn_eq, run_lastSafetyAlert]

/-- A demand for minimum risk, and a mere warning after it. -/
def demandThenWarning : List Event :=
  [.safetyAlert ⟨severityMrcRequired⟩ 0 0, .safetyAlert ⟨1⟩ 0 0]

/-- The cycle after both sets neither flag, although one of the alerts demanded minimum risk. -/
theorem milder_alert_hides_demand :
    BetweenCycles demandThenWarning ∧
      ∃ (config : Config) (node : OddEnvelopeManagerNode), construct config 0 = .ok node ∧
        actedOn config (Runs.run (next config) node demandThenWarning) 0 0 ≠
          flagsOf (maximumSeverity (delivered demandThenWarning)) := by
  refine ⟨?_, shippedConfig, freshNode, construct_shipped, ?_⟩
  · intro event member nowRos nowSteady same
    subst same
    simp [demandThenWarning] at member
  · rw [actedOn_eq, run_lastSafetyAlert]
    decide

end MassL3.M1
