/-
This file embeds the state machine of the operational envelope. One step tries its rules in
the order of the source: override and reflex, the guard against an undefined score, the
supervisor's demands, a critical health, and only then the rules of the state it is in, on a
score that stale inputs have scaled down.

The supervisor's demand for a minimum-risk condition is caught before the rules of the states are
reached, so every step under it ends in the preparation, and the rule that would go on from there
never gets its turn: no run ever reaches the active state.
-/

import MassTdl.Binary64.Products
import MassTdl.Runs

namespace MassL3.M1

/-! ### Enumerations and inputs -/

inductive OddZone where
  | a
  | b
  | c
  | d
  deriving DecidableEq, Repr

inductive SystemHealth where
  | full
  | degraded
  | critical
  deriving DecidableEq, Repr

/-- The states of the envelope; `In` of the source is `inEnvelope`. -/
inductive EnvelopeState where
  | inEnvelope
  | edge
  | out
  | mrcPrep
  | mrcActive
  | overridden
  deriving DecidableEq, Repr

inductive ErrorCode where
  | parameterOutOfRange
  | thresholdsNonMonotonic
  | weightsNotNormalized
  deriving DecidableEq, Repr

structure StateMachineThresholds where
  inToEdge : Float
  edgeToOut : Float
  staleDegradationFactor : Float
  deriving DecidableEq

structure EventFlags where
  overrideActive : Bool := false
  reflexActivation : Bool := false
  m7SafetyCritical : Bool := false
  m7SafetyMrcRequired : Bool := false
  m2InputStale : Bool := false
  m7InputStale : Bool := false
  deriving DecidableEq

structure OddZoneHealthPair where
  zone : OddZone := .a
  health : SystemHealth := .full
  deriving DecidableEq

/-- What one step is given. -/
structure StepInputs where
  score : Float
  tdlS : Float
  tmrS : Float
  events : EventFlags
  zoneHealth : OddZoneHealthPair
  now : Int

/-! ### The rules of each state -/

def handleInState (effScore inToEdge edgeToOut : Float) : EnvelopeState :=
  if effScore ≤ 0.0 ∨ effScore < edgeToOut then .out
  else if effScore < inToEdge then .edge
  else .inEnvelope

def handleEdgeState (effScore inToEdge edgeToOut tdlS tmrS : Float) : EnvelopeState :=
  if effScore ≥ inToEdge then .inEnvelope
  else if effScore < edgeToOut then .out
  else if tdlS ≤ tmrS then .mrcPrep
  else .edge

def handleMrcPrepState (m7SafetyMrcRequired m7SafetyCritical : Bool)
    (effScore inToEdge edgeToOut tdlS tmrS : Float) : EnvelopeState :=
  if m7SafetyMrcRequired then .mrcActive
  else if ¬ m7SafetyCritical ∧ tdlS > tmrS then
    if effScore ≥ inToEdge then .inEnvelope
    else if effScore ≥ edgeToOut then .edge
    else .mrcPrep
  else .mrcPrep

def handleMrcActiveState (m7SafetyCritical : Bool) (effScore inToEdge : Float) : EnvelopeState :=
  if ¬ m7SafetyCritical ∧ effScore ≥ inToEdge then .inEnvelope else .mrcActive

def handleOutState (effScore inToEdge edgeToOut : Float) : EnvelopeState :=
  if effScore ≥ inToEdge then .inEnvelope
  else if effScore ≥ edgeToOut then .edge
  else .out

def applyM2StaleDegradation (score : Float) (events : EventFlags) (factor : Float) : Float :=
  if events.m2InputStale then score * factor else score

def kM7HeartbeatLostFactor : Float := 0.7

/-! ### The machine -/

def rationaleForState : EnvelopeState → String
  | .inEnvelope => "Within operational envelope (IN)"
  | .edge => "Approaching envelope boundary (EDGE)"
  | .out => "Outside operational envelope (OUT)"
  | .mrcPrep => "Preparing minimal risk condition (MRC_PREP)"
  | .mrcActive => "Executing minimal risk condition (MRC_ACTIVE)"
  | .overridden => "Override or reflex arc active (OVERRIDDEN)"

structure OddStateMachine where
  thresholds : StateMachineThresholds
  current : EnvelopeState
  lastTransitionAt : Int
  currentRationale : String

def OddStateMachine.create (thresholds : StateMachineThresholds) (now : Int) :
    Except ErrorCode OddStateMachine :=
  if thresholds.inToEdge < 0.0 ∨ thresholds.edgeToOut < 0.0 then
    .error .parameterOutOfRange
  else if thresholds.staleDegradationFactor ≤ 0.0 ∨ thresholds.staleDegradationFactor > 1.0 then
    .error .parameterOutOfRange
  else if thresholds.inToEdge ≤ thresholds.edgeToOut then
    .error .thresholdsNonMonotonic
  else
    .ok { thresholds, current := .inEnvelope, lastTransitionAt := now,
          currentRationale := "Initial state: IN (within operational envelope)" }

/-- A transition is recorded only when it leaves the current state. -/
def OddStateMachine.transit (machine : OddStateMachine) (next : EnvelopeState) (now : Int)
    (rationale : String) : OddStateMachine :=
  if machine.current ≠ next then
    { machine with current := next, lastTransitionAt := now, currentRationale := rationale }
  else machine

/-- Zone C tightens the threshold of leaving the envelope. -/
def OddStateMachine.edgeToOut (machine : OddStateMachine) (zoneHealth : OddZoneHealthPair) :
    Float :=
  if zoneHealth.zone = .c ∧ machine.thresholds.edgeToOut < 0.6 then 0.6
  else machine.thresholds.edgeToOut

def OddStateMachine.computeNext (machine : OddStateMachine) (effScore tdlS tmrS : Float)
    (events : EventFlags) (zoneHealth : OddZoneHealthPair) : EnvelopeState :=
  let inToEdge := machine.thresholds.inToEdge
  let edgeToOut := machine.edgeToOut zoneHealth
  match machine.current with
  | .inEnvelope => handleInState effScore inToEdge edgeToOut
  | .edge => handleEdgeState effScore inToEdge edgeToOut tdlS tmrS
  | .mrcPrep => handleMrcPrepState events.m7SafetyMrcRequired events.m7SafetyCritical effScore
      inToEdge edgeToOut tdlS tmrS
  | .mrcActive => handleMrcActiveState events.m7SafetyCritical effScore inToEdge
  | .out | .overridden => handleOutState effScore inToEdge edgeToOut

/-- The score after degraded health, stale world data and a lost heartbeat. -/
def OddStateMachine.effectiveScore (machine : OddStateMachine) (inputs : StepInputs) : Float :=
  let factor := machine.thresholds.staleDegradationFactor
  let score := if inputs.zoneHealth.health = .degraded then inputs.score * factor
    else inputs.score
  let score := applyM2StaleDegradation score inputs.events factor
  if inputs.events.m7InputStale then score * kM7HeartbeatLostFactor else score

def OddStateMachine.step (machine : OddStateMachine) (inputs : StepInputs) : OddStateMachine :=
  if inputs.events.overrideActive ∨ inputs.events.reflexActivation then
    machine.transit .overridden inputs.now "Override or reflex arc activated (OVERRIDDEN)"
  else if inputs.score.isNaN then
    machine.transit .out inputs.now "NaN score detected — immediate OUT (IEC 61508 guard)"
  else if inputs.events.m7SafetyCritical ∨ inputs.events.m7SafetyMrcRequired then
    machine.transit .mrcPrep inputs.now "M7 safety alert — MrC_PREP (Checker VETO > Doer)"
  else if inputs.zoneHealth.health = .critical then
    machine.transit .mrcPrep inputs.now
      "System health critical — MrC_PREP (ODD zone degraded)"
  else
    let next := machine.computeNext (machine.effectiveScore inputs) inputs.tdlS inputs.tmrS
      inputs.events inputs.zoneHealth
    machine.transit next inputs.now (rationaleForState next)

/-! ### What a step leaves -/

@[simp] theorem OddStateMachine.transit_current (machine : OddStateMachine)
    (next : EnvelopeState) (now : Int) (rationale : String) :
    (machine.transit next now rationale).current = next := by
  unfold OddStateMachine.transit
  split
  · rfl
  · next same => exact not_not.mp same

/-- The state a step ends in, the rules in their order. -/
theorem OddStateMachine.step_current (machine : OddStateMachine) (inputs : StepInputs) :
    (machine.step inputs).current =
      if inputs.events.overrideActive ∨ inputs.events.reflexActivation then .overridden
      else if inputs.score.isNaN then .out
      else if inputs.events.m7SafetyCritical ∨ inputs.events.m7SafetyMrcRequired then .mrcPrep
      else if inputs.zoneHealth.health = .critical then .mrcPrep
      else machine.computeNext (machine.effectiveScore inputs) inputs.tdlS inputs.tmrS
        inputs.events inputs.zoneHealth := by
  unfold OddStateMachine.step
  split_ifs <;> exact transit_current _ _ _ _

/-! ### Steps under a demand -/

/-- The supervisor demands the minimum-risk condition, on a finite score, and neither the
operator nor the reflex arc has taken over. -/
structure DemandsMrc (inputs : StepInputs) : Prop where
  required : inputs.events.m7SafetyMrcRequired = true
  defined : inputs.score.isFinite = true
  noOverride : inputs.events.overrideActive = false
  noReflex : inputs.events.reflexActivation = false

/-- A demanded step ends in the preparation, whatever state it starts in. -/
theorem OddStateMachine.step_of_demand (machine : OddStateMachine) {inputs : StepInputs}
    (demands : DemandsMrc inputs) : (machine.step inputs).current = .mrcPrep := by
  have notTaken : ¬ (inputs.events.overrideActive = true ∨
      inputs.events.reflexActivation = true) := by
    rw [demands.noOverride, demands.noReflex]
    simp
  have defined : inputs.score.isNaN = false := Binary64.number_of_finite demands.defined
  rw [step_current, if_neg notTaken, if_neg (Bool.eq_false_iff.mp defined),
    if_pos (.inr demands.required)]

/-! ### The active state is never reached -/

/-! ### The demand is never honoured -/

/-- Two demanded steps: the first prepares the minimum-risk condition and the second
executes it. -/
def HonoursDemand (machine : OddStateMachine) (first second : StepInputs) : Prop :=
  ((machine.step first).current = .mrcPrep ∨ (machine.step first).current = .mrcActive) ∧
    ((machine.step first).step second).current = .mrcActive

/-- From every state both demanded steps end in the preparation, so that the demand is never
honoured. -/
theorem demand_never_honoured (machine : OddStateMachine) {first second : StepInputs}
    (firstDemands : DemandsMrc first) (secondDemands : DemandsMrc second) :
    (machine.step first).current = .mrcPrep ∧
      ((machine.step first).step second).current = .mrcPrep ∧
      ¬ HonoursDemand machine first second := by
  have prepared := machine.step_of_demand firstDemands
  have stays := (machine.step first).step_of_demand secondDemands
  refine ⟨prepared, stays, ?_⟩
  rintro ⟨-, executed⟩
  rw [stays] at executed
  cases executed

/-! ### A demand that lasts -/

/-- The thresholds shipped with the module. -/
def shippedThresholds : StateMachineThresholds where
  inToEdge := 0.8
  edgeToOut := 0.5
  staleDegradationFactor := 0.5

/-- A fresh machine in good conditions. -/
def freshMachine : OddStateMachine where
  thresholds := shippedThresholds
  current := .inEnvelope
  lastTransitionAt := 0
  currentRationale := "Initial state: IN (within operational envelope)"

/-- A good score and time in hand, and the supervisor demanding the minimum-risk
condition. -/
def demand : StepInputs where
  score := 0.9
  tdlS := 100.0
  tmrS := 60.0
  events := { m7SafetyMrcRequired := true }
  zoneHealth := {}
  now := 0

theorem demand_demands : DemandsMrc demand := ⟨rfl, by decide, rfl, rfl⟩

theorem demand_never_honoured_fresh :
    DemandsMrc demand ∧ ¬ HonoursDemand freshMachine demand demand :=
  ⟨demand_demands, (demand_never_honoured freshMachine demand_demands demand_demands).2.2⟩

/-- A machine just created is asked twice and prepares twice. -/
theorem repeated_demand_only_prepares :
    OddStateMachine.create shippedThresholds 0 = .ok freshMachine ∧ DemandsMrc demand ∧
      ¬ HonoursDemand freshMachine demand demand := by
  refine ⟨?_, demand_demands, ?_⟩
  · unfold OddStateMachine.create
    rw [if_neg (by decide), if_neg (by decide), if_neg (by decide)]
    rfl
  · rintro ⟨-, executed⟩
    rw [OddStateMachine.step_of_demand _ demand_demands] at executed
    cases executed

end MassL3.M1
