/-
This file embeds the conformance score: the scores of environment, task and human, their
weighted sum, and the exponential smoothing that carries the score from one cycle to the next.
Whatever the weights and the inputs are, the score is a number between zero and one, and it
stays one: the smoothing weighs two such numbers against each other.

It also embeds the two times that decide about a takeover: how long the automation can still
cope, from the nearest encounter, the communication and the health of the system, and how long
the operator needs, from the operator's state.
-/

import MassTdl.Colregs.Types
import MassTdl.Odd.StateMachine

namespace MassL3.M1

open Binary64
open Clamps

/-! ### Parameters -/

structure TorMatrixEntry where
  state : UInt8 := 0
  tmrS : Float := 60.0

structure RotMaxCurvePoint where
  speedKn : Float := 0.0
  rotMaxDegS : Float := 0.0

/-- The runtime parameters, with the loader's defaults. -/
structure ParameterSet where
  inToEdge : Float := 0.8
  edgeToOut : Float := 0.5
  staleDegradationFactor : Float := 0.5
  wE : Float := 0.4
  wT : Float := 0.3
  wH : Float := 0.3
  visibilityFullNm : Float := 2.0
  visibilityDegradedNm : Float := 1.0
  visibilityMarginalNm : Float := 0.5
  seaStateFullHs : Float := 2.5
  seaStateDegradedHs : Float := 3.0
  seaStateMarginalHs : Float := 4.0
  commDelayOkS : Float := 2.0
  tScoreCommOk : Float := 0.6
  tScoreCommBad : Float := 0.3
  hScoreAvailable : Float := 1.0
  hScoreUnavailable : Float := 0.5
  tmrBaselineS : Float := 60.0
  tcpaCoefficient : Float := 0.6
  tmrMinS : Float := 30.0
  tmrMaxS : Float := 600.0
  tdlMinS : Float := 0.0
  tdlMaxS : Float := 600.0
  torMatrix : List TorMatrixEntry := List.replicate 5 {}
  rotMaxCurve : List RotMaxCurvePoint := []
  emaTauS : Float := 5.0
  m3RouteStaleThresholdS : Float := 15.0
  redundancyEnabled : Bool := false

/-! ### Inputs and scores -/

structure ScoringInputs where
  visibilityNm : Float
  seaStateHs : Float
  gnssQualityGood : Bool
  radarHealthOk : Bool
  commOk : Bool
  commDelayS : Float
  anySensorCritical : Bool
  tmrAvailable : Bool

structure ScoreTriple where
  eScore : Float := 0.0
  tScore : Float := 0.0
  hScore : Float := 0.0
  conformanceScore : Float := 0.0

structure EmaState where
  filteredValue : Float := 1.0
  tauS : Float := 5.0

/-! ### The three axes -/

def evaluateEScore (params : ParameterSet) (visibilityNm seaStateHs : Float) : Float :=
  if visibilityNm ≥ params.visibilityFullNm ∧ seaStateHs ≤ params.seaStateFullHs then 1.0
  else if visibilityNm ≥ params.visibilityDegradedNm ∧ seaStateHs ≤ params.seaStateDegradedHs then
    0.7
  else if visibilityNm ≥ params.visibilityMarginalNm ∨ seaStateHs ≤ params.seaStateMarginalHs then
    0.4
  else 0.0

def evaluateTScore (params : ParameterSet) (inputs : ScoringInputs) : Float :=
  let commOkDelay : Bool := inputs.commDelayS < params.commDelayOkS
  if inputs.gnssQualityGood && inputs.radarHealthOk && inputs.commOk &&
      !inputs.anySensorCritical && commOkDelay then 1.0
  else if !inputs.anySensorCritical && commOkDelay then params.tScoreCommOk
  else params.tScoreCommBad

def evaluateHScore (params : ParameterSet) (inputs : ScoringInputs) : Float :=
  if inputs.tmrAvailable && inputs.commOk then params.hScoreAvailable
  else params.hScoreUnavailable

/-! ### The composite score -/

/-- `ConformanceScoreCalculator::create` refuses weights that do not add up to one. -/
def weightsAccepted (params : ParameterSet) : Prop :=
  ¬ (params.wE + params.wT + params.wH - 1.0).abs > 1e-6

instance (params : ParameterSet) : Decidable (weightsAccepted params) := by
  unfold weightsAccepted
  infer_instance

/-- An undefined score counts as zero. -/
def orZero (score : Float) : Float := if score.isNaN then 0.0 else score

/-- `ConformanceScoreCalculator::compute`. -/
def computeScore (params : ParameterSet) (inputs : ScoringInputs) : ScoreTriple :=
  let eScore := orZero (evaluateEScore params inputs.visibilityNm inputs.seaStateHs)
  let tScore := orZero (evaluateTScore params inputs)
  let hScore := orZero (evaluateHScore params inputs)
  let combined := params.wE * eScore + params.wT * tScore + params.wH * hScore
  { eScore, tScore, hScore, conformanceScore := stdClamp (orZero combined) 0.0 1.0 }

/-- `ConformanceScoreCalculator::compute_with_ema`. -/
def computeWithEma (params : ParameterSet) (inputs : ScoringInputs) (emaState : EmaState)
    (dtS : Float) : ScoreTriple × EmaState :=
  let raw := computeScore params inputs
  if raw.conformanceScore.isNaN then
    let kept := if emaState.filteredValue.isNaN then 1.0 else emaState.filteredValue
    ({ raw with conformanceScore := kept }, { emaState with filteredValue := kept })
  else if params.emaTauS ≤ 0.0 ∨ params.emaTauS.isNaN then
    (raw, { emaState with filteredValue := raw.conformanceScore })
  else
    let alpha := stdClamp (if dtS > 0.0 then dtS / params.emaTauS else 1.0) 0.0 1.0
    let filtered := stdClamp
      (alpha * raw.conformanceScore + (1.0 - alpha) * emaState.filteredValue) 0.0 1.0
    ({ raw with conformanceScore := filtered }, { emaState with filteredValue := filtered })

/-! ### The score stays between zero and one -/

/-- What is clamped to the unit interval lies in it, if it was a number. -/
theorem inUnit_clamp {value : Float} (number : value.isNaN = false) :
    InUnit (stdClamp value 0.0 1.0) := by
  unfold stdClamp
  split_ifs with below above
  · exact inUnit_zero
  · exact inUnit_one
  · exact ⟨le_of_not_lt (by decide) number below,
      le_of_not_lt number (by decide) above⟩

theorem orZero_number (score : Float) : (orZero score).isNaN = false := by
  unfold orZero
  split
  · decide
  · next defined => exact Bool.eq_false_iff.mpr defined

theorem computeScore_inUnit (params : ParameterSet) (inputs : ScoringInputs) :
    InUnit (computeScore params inputs).conformanceScore :=
  inUnit_clamp (orZero_number _)

/-- Two scores, weighed against each other, give a number. -/
theorem weighted_number {alpha first second : Float} (alphaUnit : InUnit alpha)
    (firstUnit : InUnit first) (secondUnit : InUnit second) :
    (alpha * first + (1.0 - alpha) * second).isNaN = false :=
  (add_roundedFrom (alphaUnit.mul firstUnit).finite
    (alphaUnit.one_sub.mul secondUnit).finite).number

/-! ### The filter -/

/-- A time constant that is not positive turns the filter off. -/
def FilterOff (params : ParameterSet) : Prop :=
  params.emaTauS ≤ 0.0 ∨ params.emaTauS.isNaN = true

/-- The share of the raw score in the smoothed one. -/
def smoothingShare (params : ParameterSet) (dtS : Float) : Float :=
  stdClamp (if dtS > 0.0 then dtS / params.emaTauS else 1.0) 0.0 1.0

section Filter

variable (params : ParameterSet) (inputs : ScoringInputs) (emaState : EmaState) (dtS : Float)

theorem computeWithEma_off (off : FilterOff params) :
    computeWithEma params inputs emaState dtS = (computeScore params inputs,
      { emaState with filteredValue := (computeScore params inputs).conformanceScore }) := by
  have rawNumber := number_of_finite (computeScore_inUnit params inputs).finite
  unfold computeWithEma
  simp only [rawNumber, Bool.false_eq_true, if_false]
  exact if_pos off

theorem computeWithEma_on (on : ¬ FilterOff params) :
    let filtered := stdClamp
      (smoothingShare params dtS * (computeScore params inputs).conformanceScore +
        (1.0 - smoothingShare params dtS) * emaState.filteredValue) 0.0 1.0
    computeWithEma params inputs emaState dtS =
      ({ computeScore params inputs with conformanceScore := filtered },
        { emaState with filteredValue := filtered }) := by
  have rawNumber := number_of_finite (computeScore_inUnit params inputs).finite
  unfold computeWithEma
  simp only [rawNumber, Bool.false_eq_true, if_false]
  exact if_neg on

variable {emaState dtS}

theorem smoothingShare_inUnit (on : ¬ FilterOff params) (dtFinite : dtS.isFinite = true) :
    InUnit (smoothingShare params dtS) := by
  refine inUnit_clamp ?_
  split
  · have tauPositive : 0.0 < params.emaTauS :=
      lt_of_number_of_not_le (by decide)
        (Bool.eq_false_iff.mpr fun undefined => on (.inr undefined))
        fun nonpositive => on (.inl nonpositive)
    exact div_number dtFinite tauPositive
  · decide

/-- The smoothing keeps the filtered value between zero and one, and publishes it. -/
theorem computeWithEma_inUnit (filtered : InUnit emaState.filteredValue)
    (dtFinite : dtS.isFinite = true) :
    (computeWithEma params inputs emaState dtS).2.filteredValue =
        (computeWithEma params inputs emaState dtS).1.conformanceScore ∧
      InUnit (computeWithEma params inputs emaState dtS).1.conformanceScore := by
  have rawUnit := computeScore_inUnit params inputs
  by_cases off : FilterOff params
  · rw [computeWithEma_off params inputs emaState dtS off]
    exact ⟨rfl, rawUnit⟩
  · rw [computeWithEma_on params inputs emaState dtS off]
    have share := smoothingShare_inUnit params off dtFinite
    exact ⟨rfl, inUnit_clamp (weighted_number share rawUnit filtered)⟩

end Filter

/-! ### What the takeover depends on -/

structure SystemHealthSnapshot where
  mttfEstimateS : Float
  heartbeatRecencyS : Float
  faultCount : UInt32
  hasRedundancy : Bool

structure TmrTdlInputs where
  tcpaMinS : Float
  currentRttS : Float
  systemHealth : SystemHealthSnapshot
  hScoreTmrAvailable : Bool

structure TmrTdlPair where
  tmrS : Float := 0.0
  tdlS : Float := 0.0

/-! ### The two times -/

variable (params : ParameterSet)

/-- `TmrTdlEstimator::create`. -/
def createTmrTdl : Except ErrorCode Unit :=
  if params.tmrBaselineS ≤ 0.0 then .error .parameterOutOfRange
  else if params.tcpaCoefficient ≤ 0.0 then .error .parameterOutOfRange
  else if params.tmrMinS < 0.0 ∨ params.tmrMinS ≥ params.tmrMaxS then .error .parameterOutOfRange
  else if params.tdlMinS < 0.0 ∨ params.tdlMinS ≥ params.tdlMaxS then .error .parameterOutOfRange
  else .ok ()

def estimateTCommOk (currentRttS : Float) : Float :=
  if currentRttS.isNaN then 30.0
  else if currentRttS ≤ 0.1 then 300.0
  else if currentRttS ≤ 0.5 then 120.0
  else if currentRttS ≤ 1.0 then 60.0
  else 30.0

def estimateTSysHealth (health : SystemHealthSnapshot) : Float :=
  if !health.hasRedundancy then 30.0
  else if health.faultCount > 0 then 60.0
  else if health.mttfEstimateS > 3600.0 then
    let estimate := health.mttfEstimateS * 0.1
    if estimate > 300.0 then 300.0 else estimate
  else 120.0

/-- An operator state without an entry, or with one that is not positive, gets the
baseline. -/
def lookupTorTmr (operatorState : UInt8) : Float :=
  match params.torMatrix[operatorState.toNat]? with
  | none => params.tmrBaselineS
  | some entry => if entry.tmrS > 0.0 then entry.tmrS else params.tmrBaselineS

def computeBase (inputs : TmrTdlInputs) : TmrTdlPair :=
  let health := inputs.systemHealth
  let tdl := stdMin (stdMin (inputs.tcpaMinS * params.tcpaCoefficient)
    (estimateTCommOk inputs.currentRttS)) (estimateTSysHealth health)
  let mttf := health.mttfEstimateS
  let tdl := if mttf > 0.0 ∧ ¬ mttf.isNaN then stdMin tdl mttf else tdl
  let tdl := stdClamp tdl params.tdlMinS params.tdlMaxS
  let hFactor := if inputs.hScoreTmrAvailable then 1.0 else 0.5
  let tmr := stdClamp (params.tmrBaselineS * hFactor) params.tmrMinS params.tmrMaxS
  { tmrS := tmr, tdlS := tdl }

/-- `TmrTdlEstimator::compute` for an operator state. -/
def computeTmrTdl (inputs : TmrTdlInputs) (operatorState : UInt8) : TmrTdlPair :=
  let base := computeBase params inputs
  let torTmr := lookupTorTmr params operatorState
  let tmr := if torTmr > 0.0 then torTmr else base.tmrS
  { base with tmrS := stdClamp tmr params.tmrMinS params.tmrMaxS }

end MassL3.M1
