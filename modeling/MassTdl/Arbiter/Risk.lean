/-
This file embeds the risk model: the warning and danger domains around the own ship, the risk a
target poses to them, and the choice of the primary threat, which changes only when another
target is clearly worse or has been the worst for several samples.
-/

import MassTdl.Colregs.Types

namespace MassL3.Risk

open Clamps
open MassL3.M6.Colregs (wrapDown wrapUp kPi)

/-! ### The mathematics library -/

/-- The library functions of the arbiter and its risk model, on top of those of the COLREGs
reasoner. -/
structure MathLibrary extends M6.Colregs.MathLibrary where
  asin : Float → Float
  pow : Float → Float → Float
  exp : Float → Float
  ceilToInt : Float → Int

/-! ### Inputs and results -/

inductive ColregsDuty where
  | free
  | standOnHold
  | giveWay
  | bothGiveWay
  | rule17Action
  deriving DecidableEq, Repr

def ColregsDuty.toNat : ColregsDuty → Nat
  | .free => 0
  | .standOnHold => 1
  | .giveWay => 2
  | .bothGiveWay => 3
  | .rule17Action => 4

inductive RiskPhase where
  | clear
  | monitor
  | warning
  | danger
  | critical
  deriving DecidableEq, Repr

/-- `phase_rank`. -/
def RiskPhase.rank : RiskPhase → Nat
  | .clear => 0
  | .monitor => 1
  | .warning => 2
  | .danger => 3
  | .critical => 4

/-- `to_string`. -/
def RiskPhase.text : RiskPhase → String
  | .clear => "Clear"
  | .monitor => "Monitor"
  | .warning => "Warning"
  | .danger => "Danger"
  | .critical => "Critical"

structure OwnShipInput where
  xM : Float := 0.0
  yM : Float := 0.0
  headingRad : Float := 0.0
  sogMps : Float := 0.0
  loaM : Float := 46.0

structure TargetInput where
  id : String
  xM : Float := 0.0
  yM : Float := 0.0
  cogRad : Float := 0.0
  sogMps : Float := 0.0
  cpaM : Float := 0.0
  tcpaS : Float := 0.0
  confidence : Float := 1.0

structure DomainAxes where
  forwardM : Float
  asternM : Float
  starboardM : Float
  portM : Float

structure DomainConfig where
  superellipsePower : Float := 2.5
  warningScale : Float := 1.8
  actionHorizonS : Float := 600.0
  emergencyHorizonS : Float := 180.0
  criticalHorizonS : Float := 60.0

structure RankingState where
  previousPrimaryId : String := ""
  candidatePrimaryId : String := ""
  candidateCount : Nat := 0
  hasPreviousPrimary : Bool := false
  hasCandidatePrimary : Bool := false
  deriving DecidableEq

structure RankingConfig where
  switchScoreGap : Float := 0.12
  switchConfirmSamples : Nat := 2

structure RiskVector where
  targetId : String := ""
  rangeM : Float := 0.0
  relativeBearingDeg : Float := 0.0
  closingSpeedMps : Float := 0.0
  dcpaM : Float := 0.0
  tcpaS : Float := 0.0
  warningMarginM : Float := 0.0
  dangerMarginM : Float := 0.0
  warningDdv : Float := 0.0
  dangerDdv : Float := 0.0
  tdvWarningS : Float := 0.0
  tdvDangerS : Float := 0.0
  tdeWarningS : Float := 0.0
  tdeDangerS : Float := 0.0
  colregsDuty : ColregsDuty := .free
  riskPhase : RiskPhase := .clear
  riskScore : Float := 0.0

/-! ### Domains -/

def kRadToDeg : Float := 180.0 / kPi

def kEpsilon : Float := 1.0e-6

def lowerBound (value minimum : Float) : Float := if value ≥ minimum then value else minimum

def nonNegative (value : Float) : Float := if value > 0.0 then value else 0.0

/-- `sanitize_config`. -/
def DomainConfig.sanitize (config : DomainConfig) : DomainConfig where
  superellipsePower := lowerBound config.superellipsePower 1.0
  warningScale := lowerBound config.warningScale 1.0
  actionHorizonS := nonNegative config.actionHorizonS
  emergencyHorizonS := nonNegative config.emergencyHorizonS
  criticalHorizonS := nonNegative config.criticalHorizonS

def dangerAxes (own : OwnShipInput) : DomainAxes :=
  let length := stdMax own.loaM 1.0
  let speed := nonNegative own.sogMps
  { forwardM := stdMax (stdMax (8.0 * length) (speed * 60.0 + 2.0 * length)) 300.0
    asternM := stdMax (3.0 * length) 150.0
    starboardM := stdMax (stdMax (5.0 * length) (speed * 30.0 + length)) 220.0
    portM := stdMax (stdMax (4.0 * length) (speed * 25.0 + length)) 185.0 }

def warningAxes (own : OwnShipInput) (config : DomainConfig) : DomainAxes :=
  let scale := config.sanitize.warningScale
  let danger := dangerAxes own
  { forwardM := danger.forwardM * scale
    asternM := danger.asternM * scale
    starboardM := danger.starboardM * scale
    portM := danger.portM * scale }

def selectedLongitudinalAxis (xBodyM : Float) (axes : DomainAxes) : Float :=
  if xBodyM ≥ 0.0 then axes.forwardM else axes.asternM

def selectedLateralAxis (yBodyM : Float) (axes : DomainAxes) : Float :=
  if yBodyM ≥ 0.0 then axes.starboardM else axes.portM

variable (lib : MathLibrary)

def superellipseNorm (xBodyM yBodyM : Float) (axes : DomainAxes) (power : Float) : Float :=
  let a := stdMax (selectedLongitudinalAxis xBodyM axes) kEpsilon
  let b := stdMax (selectedLateralAxis yBodyM axes) kEpsilon
  let p := lowerBound power 1.0
  lib.pow (lib.pow (xBodyM / a).abs p + lib.pow (yBodyM / b).abs p) (1.0 / p)

def boundaryMargin (rangeM norm xBodyM yBodyM : Float) (axes : DomainAxes) : Float :=
  if rangeM ≤ kEpsilon ∧ norm ≤ kEpsilon then
    -stdMin (stdMax (selectedLongitudinalAxis xBodyM axes) kEpsilon)
      (stdMax (selectedLateralAxis yBodyM axes) kEpsilon)
  else rangeM - rangeM / stdMax norm kEpsilon

/-! ### The risk of a target -/

/-- `normalize_degrees`. -/
def normalizeDegrees (degrees : Float) : Float :=
  wrapUp lib.turns (wrapDown lib.turns degrees)

def timeToViolation (marginM closingSpeedMps : Float) : Float :=
  if marginM ≤ 0.0 then 0.0
  else if closingSpeedMps > kEpsilon then marginM / closingSpeedMps
  else 0.0

def timeToExit (marginM closingSpeedMps : Float) : Float :=
  if marginM ≥ 0.0 ∨ closingSpeedMps ≥ -kEpsilon then 0.0
  else -marginM / -closingSpeedMps

def colregsScoreComponent : ColregsDuty → Float
  | .giveWay | .bothGiveWay => 1.0
  | .rule17Action => 0.6
  | .standOnHold => 0.3
  | .free => 0.0

/-- The phase of a risk whose domain measures are known. -/
def riskPhaseOf (config : DomainConfig) (warning : DomainAxes) (risk : RiskVector) : RiskPhase :=
  if risk.dangerDdv > 0.0 ∧ risk.tcpaS ≤ config.criticalHorizonS ∧ risk.tcpaS ≥ 0.0 then .critical
  else if risk.dangerDdv > 0.0 ∨ risk.dangerMarginM < 0.0 then .danger
  else if risk.warningDdv > 0.0 ∨ risk.warningMarginM < 0.0 then .warning
  else if risk.tcpaS ≥ 0.0 ∧ risk.tcpaS ≤ config.actionHorizonS ∧
      risk.dcpaM < warning.forwardM then .monitor
  else .clear

def evaluateTarget (own : OwnShipInput) (target : TargetInput) (duty : ColregsDuty)
    (config : DomainConfig) : RiskVector :=
  let safe := config.sanitize
  let dx := target.xM - own.xM
  let dy := target.yM - own.yM
  let cosHeading := lib.cos own.headingRad
  let sinHeading := lib.sin own.headingRad
  let xBody := cosHeading * dx + sinHeading * dy
  let yBody := -sinHeading * dx + cosHeading * dy
  let range := lib.hypot dx dy
  let ownSpeed := nonNegative own.sogMps
  let targetSpeed := nonNegative target.sogMps
  let relVx := targetSpeed * lib.cos target.cogRad - ownSpeed * lib.cos own.headingRad
  let relVy := targetSpeed * lib.sin target.cogRad - ownSpeed * lib.sin own.headingRad
  let closing := if range > kEpsilon then -((relVx * dx + relVy * dy) / range) else 0.0
  let danger := dangerAxes own
  let warning := warningAxes own config
  let dangerNorm := superellipseNorm lib xBody yBody danger safe.superellipsePower
  let warningNorm := superellipseNorm lib xBody yBody warning safe.superellipsePower
  let warningMargin := boundaryMargin range warningNorm xBody yBody warning
  let dangerMargin := boundaryMargin range dangerNorm xBody yBody danger
  let risk : RiskVector :=
    { targetId := target.id
      rangeM := range
      relativeBearingDeg := normalizeDegrees lib (lib.atan2 yBody xBody * kRadToDeg)
      closingSpeedMps := closing
      dcpaM := target.cpaM
      tcpaS := target.tcpaS
      warningMarginM := warningMargin
      dangerMarginM := dangerMargin
      warningDdv := stdMax 0.0 (1.0 - warningNorm)
      dangerDdv := stdMax 0.0 (1.0 - dangerNorm)
      tdvWarningS := timeToViolation warningMargin closing
      tdvDangerS := timeToViolation dangerMargin closing
      tdeWarningS := timeToExit warningMargin closing
      tdeDangerS := timeToExit dangerMargin closing
      colregsDuty := duty }
  let domainComponent := stdMax (risk.warningDdv * 0.7) risk.dangerDdv
  let urgencyComponent := if target.tcpaS ≥ 0.0 then lib.exp (-target.tcpaS / 180.0) else 0.0
  let closingComponent := clamp01 (closing / 8.0)
  let uncertaintyComponent := 1.0 - clamp01 target.confidence
  { risk with
    riskPhase := riskPhaseOf safe warning risk
    riskScore := clamp01 (0.40 * domainComponent + 0.25 * urgencyComponent +
      0.15 * closingComponent + 0.15 * colregsScoreComponent duty +
      0.05 * uncertaintyComponent) }

/-! ### The primary threat -/

/-- The outcome of comparing one measure of two risks. -/
def compareSmaller (candidate current : Float) : Ordering :=
  if (candidate - current).abs ≤ kEpsilon then .eq
  else if candidate < current then .gt else .lt

def compareLarger (candidate current : Float) : Ordering :=
  if (candidate - current).abs ≤ kEpsilon then .eq
  else if candidate > current then .gt else .lt

def compareShorterNonNegative (candidate current : Float) : Ordering :=
  let candidateValid : Bool := candidate ≥ 0.0
  let currentValid : Bool := current ≥ 0.0
  if candidateValid ≠ currentValid then if candidateValid then .gt else .lt
  else compareSmaller candidate current

def compareCenterlineBearing (candidate current : Float) : Ordering :=
  (compareSmaller candidate.abs current.abs).then (compareSmaller candidate current)

/-- The measures that decide between risks of one phase, score, time and range. -/
def compareRemaining (candidate current : RiskVector) : Ordering :=
  (compareSmaller candidate.dcpaM current.dcpaM).then <|
  (compareCenterlineBearing candidate.relativeBearingDeg current.relativeBearingDeg).then <|
  (compareSmaller candidate.warningMarginM current.warningMarginM).then <|
  (compareSmaller candidate.dangerMarginM current.dangerMarginM).then <|
  (compareLarger candidate.warningDdv current.warningDdv).then <|
  (compareLarger candidate.dangerDdv current.dangerDdv).then <|
  (compareShorterNonNegative candidate.tdvWarningS current.tdvWarningS).then <|
  (compareShorterNonNegative candidate.tdvDangerS current.tdvDangerS).then <|
  (compareLarger candidate.tdeWarningS current.tdeWarningS).then <|
  (compareLarger candidate.tdeDangerS current.tdeDangerS).then <|
  (compareLarger candidate.closingSpeedMps current.closingSpeedMps).then
    (compare candidate.colregsDuty.toNat current.colregsDuty.toNat)

def isBetterPrimaryCandidate (candidate current : RiskVector) : Bool :=
  if candidate.riskPhase.rank ≠ current.riskPhase.rank then
    candidate.riskPhase.rank > current.riskPhase.rank
  else if (candidate.riskScore - current.riskScore).abs > kEpsilon then
    candidate.riskScore > current.riskScore
  else
    let candidateValid : Bool := candidate.tcpaS ≥ 0.0
    let currentValid : Bool := current.tcpaS ≥ 0.0
    if candidateValid ≠ currentValid then candidateValid
    else if candidateValid ∧ (candidate.tcpaS - current.tcpaS).abs > kEpsilon then
      candidate.tcpaS < current.tcpaS
    else if (candidate.rangeM - current.rangeM).abs > kEpsilon then
      candidate.rangeM < current.rangeM
    else
      match compareRemaining candidate current with
      | .gt => true
      | .lt => false
      | .eq => candidate.targetId < current.targetId

/-- The best of a first risk and later ones, the earliest of equals. -/
def bestOf (first : RiskVector) (later : List RiskVector) : RiskVector :=
  later.foldl (fun best risk => if isBetterPrimaryCandidate risk best then risk else best) first

/-- `find_best_by_target_id`. -/
def findBestByTargetId (risks : List RiskVector) (targetId : String) : Option RiskVector :=
  match risks.filter (·.targetId = targetId) with
  | [] => none
  | first :: later => some (bestOf first later)

def RankingState.clearCandidate (state : RankingState) : RankingState :=
  { state with candidatePrimaryId := "", hasCandidatePrimary := false, candidateCount := 0 }

def RankingState.clearPrevious (state : RankingState) : RankingState :=
  { state with previousPrimaryId := "", hasPreviousPrimary := false }

def RankingState.promotePrimary (state : RankingState) (risk : RiskVector) : RankingState :=
  { state with previousPrimaryId := risk.targetId, hasPreviousPrimary := true }.clearCandidate

/-- The candidate that would replace the primary threat gets one more sample. -/
def RankingState.countCandidate (state : RankingState) (targetId : String) (required : Nat) :
    RankingState :=
  if state.hasCandidatePrimary ∧ state.candidatePrimaryId = targetId then
    { state with
      candidateCount := if state.candidateCount < required then state.candidateCount + 1
        else required }
  else
    { state with
      candidatePrimaryId := targetId
      hasCandidatePrimary := true
      candidateCount := 1 }

/-- `select_primary` with its ranking state; without risks the state is cleared. -/
def selectPrimary (risks : List RiskVector) (state : RankingState) (config : RankingConfig) :
    RiskVector × RankingState :=
  match risks with
  | [] => ({}, state.clearPrevious.clearCandidate)
  | first :: later =>
      let best := bestOf first later
      if ¬ state.hasPreviousPrimary then (best, state.promotePrimary best)
      else
        match findBestByTargetId risks state.previousPrimaryId with
        | none => (best, state.promotePrimary best)
        | some previous =>
            if best.targetId = state.previousPrimaryId then (best, state.promotePrimary best)
            else
              let gap := best.riskScore - previous.riskScore
              if best.riskPhase.rank ≠ previous.riskPhase.rank ∨
                  gap ≥ stdMax 0.0 config.switchScoreGap then
                (best, state.promotePrimary best)
              else
                let required := max 1 config.switchConfirmSamples
                let counted := state.countCandidate best.targetId required
                if counted.candidateCount ≥ required then (best, counted.promotePrimary best)
                else (previous, counted)

end MassL3.Risk
