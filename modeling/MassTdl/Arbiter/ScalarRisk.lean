/-
This file states the measures of the risk model once more for any kind of number, so that they can
be read over the reals, where a change of coordinates is exact. On machine numbers they are the
ones of the risk model, by definition.
-/

import MassTdl.Arbiter.Risk

namespace MassL3.Risk.Scalars

open Clamps

/-- The functions of the mathematics library, and the ratio of a half circle to its radius. -/
structure Functions (Scalar : Type) where
  pi : Scalar
  sin : Scalar → Scalar
  cos : Scalar → Scalar
  exp : Scalar → Scalar
  abs : Scalar → Scalar
  hypot : Scalar → Scalar → Scalar
  pow : Scalar → Scalar → Scalar

structure OwnShip (Scalar : Type) where
  xM : Scalar
  yM : Scalar
  headingRad : Scalar
  sogMps : Scalar
  loaM : Scalar

structure Target (Scalar : Type) where
  xM : Scalar
  yM : Scalar
  cogRad : Scalar
  sogMps : Scalar
  cpaM : Scalar
  tcpaS : Scalar
  confidence : Scalar

structure DomainAxes (Scalar : Type) where
  forwardM : Scalar
  asternM : Scalar
  starboardM : Scalar
  portM : Scalar

structure DomainConfig (Scalar : Type) where
  superellipsePower : Scalar
  warningScale : Scalar
  actionHorizonS : Scalar
  criticalHorizonS : Scalar

/-- A target in the frame of own ship: ahead, to the side, away, and closing. -/
structure Relative (Scalar : Type) where
  xBodyM : Scalar
  yBodyM : Scalar
  rangeM : Scalar
  closingSpeedMps : Scalar

/-- What the risk of a target is judged by. -/
structure Measures (Scalar : Type) where
  warningMarginM : Scalar
  dangerMarginM : Scalar
  riskPhase : RiskPhase
  riskScore : Scalar

section Model

variable {Scalar : Type} [Add Scalar] [Sub Scalar] [Mul Scalar] [Div Scalar] [Neg Scalar]
  [OfScientific Scalar] [LE Scalar] [LT Scalar] [DecidableLE Scalar] [DecidableLT Scalar]

/-! ### Domains -/

def lowerBound (value minimum : Scalar) : Scalar := if value ≥ minimum then value else minimum

def nonNegative (value : Scalar) : Scalar := if value > 0.0 then value else 0.0

def kEpsilon : Scalar := 1.0e-6

/-- `sanitize_config`. -/
def DomainConfig.sanitize (config : DomainConfig Scalar) : DomainConfig Scalar where
  superellipsePower := lowerBound config.superellipsePower 1.0
  warningScale := lowerBound config.warningScale 1.0
  actionHorizonS := nonNegative config.actionHorizonS
  criticalHorizonS := nonNegative config.criticalHorizonS

def dangerAxes (own : OwnShip Scalar) : DomainAxes Scalar :=
  let length := stdMax own.loaM 1.0
  let speed := nonNegative own.sogMps
  { forwardM := stdMax (stdMax (8.0 * length) (speed * 60.0 + 2.0 * length)) 300.0
    asternM := stdMax (3.0 * length) 150.0
    starboardM := stdMax (stdMax (5.0 * length) (speed * 30.0 + length)) 220.0
    portM := stdMax (stdMax (4.0 * length) (speed * 25.0 + length)) 185.0 }

def warningAxes (own : OwnShip Scalar) (config : DomainConfig Scalar) : DomainAxes Scalar :=
  let scale := config.sanitize.warningScale
  let danger := dangerAxes own
  { forwardM := danger.forwardM * scale
    asternM := danger.asternM * scale
    starboardM := danger.starboardM * scale
    portM := danger.portM * scale }

def selectedLongitudinalAxis (xBodyM : Scalar) (axes : DomainAxes Scalar) : Scalar :=
  if xBodyM ≥ 0.0 then axes.forwardM else axes.asternM

def selectedLateralAxis (yBodyM : Scalar) (axes : DomainAxes Scalar) : Scalar :=
  if yBodyM ≥ 0.0 then axes.starboardM else axes.portM

variable (functions : Functions Scalar)

def superellipseNorm (xBodyM yBodyM : Scalar) (axes : DomainAxes Scalar) (power : Scalar) :
    Scalar :=
  let a := stdMax (selectedLongitudinalAxis xBodyM axes) kEpsilon
  let b := stdMax (selectedLateralAxis yBodyM axes) kEpsilon
  let p := lowerBound power 1.0
  functions.pow
    (functions.pow (functions.abs (xBodyM / a)) p + functions.pow (functions.abs (yBodyM / b)) p)
    (1.0 / p)

def boundaryMargin (rangeM norm xBodyM yBodyM : Scalar) (axes : DomainAxes Scalar) : Scalar :=
  if rangeM ≤ kEpsilon ∧ norm ≤ kEpsilon then
    -stdMin (stdMax (selectedLongitudinalAxis xBodyM axes) kEpsilon)
      (stdMax (selectedLateralAxis yBodyM axes) kEpsilon)
  else rangeM - rangeM / stdMax norm kEpsilon

/-! ### The risk of a target -/

/-- The change of frame, and the closing speed. -/
def relativeTo (own : OwnShip Scalar) (target : Target Scalar) : Relative Scalar :=
  let dx := target.xM - own.xM
  let dy := target.yM - own.yM
  let cosHeading := functions.cos own.headingRad
  let sinHeading := functions.sin own.headingRad
  let range := functions.hypot dx dy
  let ownSpeed := nonNegative own.sogMps
  let targetSpeed := nonNegative target.sogMps
  let relVx :=
    targetSpeed * functions.cos target.cogRad - ownSpeed * functions.cos own.headingRad
  let relVy :=
    targetSpeed * functions.sin target.cogRad - ownSpeed * functions.sin own.headingRad
  { xBodyM := cosHeading * dx + sinHeading * dy
    yBodyM := -sinHeading * dx + cosHeading * dy
    rangeM := range
    closingSpeedMps :=
      if range > kEpsilon then -((relVx * dx + relVy * dy) / range) else 0.0 }

def colregsScoreComponent : ColregsDuty → Scalar
  | .giveWay | .bothGiveWay => 1.0
  | .rule17Action => 0.6
  | .standOnHold => 0.3
  | .free => 0.0

/-- The share of the domains in the score. -/
def domainComponent (warningDdv dangerDdv : Scalar) : Scalar := stdMax (warningDdv * 0.7) dangerDdv

/-- The measures of a target whose place in the frame of own ship is known. -/
def measuresAt (own : OwnShip Scalar) (relative : Relative Scalar) (target : Target Scalar)
    (duty : ColregsDuty) (config : DomainConfig Scalar) : Measures Scalar :=
  let safe := config.sanitize
  let danger := dangerAxes own
  let warning := warningAxes own config
  let norm (axes : DomainAxes Scalar) :=
    superellipseNorm functions relative.xBodyM relative.yBodyM axes safe.superellipsePower
  let margin (axes : DomainAxes Scalar) :=
    boundaryMargin relative.rangeM (norm axes) relative.xBodyM relative.yBodyM axes
  let warningDdv := stdMax 0.0 (1.0 - norm warning)
  let dangerDdv := stdMax 0.0 (1.0 - norm danger)
  let urgency := if target.tcpaS ≥ 0.0 then functions.exp (-target.tcpaS / 180.0) else 0.0
  { warningMarginM := margin warning
    dangerMarginM := margin danger
    riskPhase :=
      if dangerDdv > 0.0 ∧ target.tcpaS ≤ safe.criticalHorizonS ∧ target.tcpaS ≥ 0.0 then .critical
      else if dangerDdv > 0.0 ∨ margin danger < 0.0 then .danger
      else if warningDdv > 0.0 ∨ margin warning < 0.0 then .warning
      else if target.tcpaS ≥ 0.0 ∧ target.tcpaS ≤ safe.actionHorizonS ∧
          target.cpaM < warning.forwardM then .monitor
      else .clear
    riskScore :=
      clamp01 (0.40 * domainComponent warningDdv dangerDdv + 0.25 * urgency +
        0.15 * clamp01 (relative.closingSpeedMps / 8.0) + 0.15 * colregsScoreComponent duty +
        0.05 * (1.0 - clamp01 target.confidence)) }

/-- `evaluate_target`, as far as its measures go. -/
def measures (own : OwnShip Scalar) (target : Target Scalar) (duty : ColregsDuty)
    (config : DomainConfig Scalar) : Measures Scalar :=
  measuresAt functions own (relativeTo functions own target) target duty config

end Model

/-! ### Machine numbers -/

def ofLibrary (lib : MathLibrary) : Functions Float where
  pi := M6.Colregs.kPi
  sin := lib.sin
  cos := lib.cos
  exp := lib.exp
  abs := Float.abs
  hypot := lib.hypot
  pow := lib.pow

def ofOwnShip (own : OwnShipInput) : OwnShip Float where
  xM := own.xM
  yM := own.yM
  headingRad := own.headingRad
  sogMps := own.sogMps
  loaM := own.loaM

def ofTarget (target : TargetInput) : Target Float where
  xM := target.xM
  yM := target.yM
  cogRad := target.cogRad
  sogMps := target.sogMps
  cpaM := target.cpaM
  tcpaS := target.tcpaS
  confidence := target.confidence

def ofConfig (config : Risk.DomainConfig) : DomainConfig Float where
  superellipsePower := config.superellipsePower
  warningScale := config.warningScale
  actionHorizonS := config.actionHorizonS
  criticalHorizonS := config.criticalHorizonS

def ofRisk (risk : RiskVector) : Measures Float where
  warningMarginM := risk.warningMarginM
  dangerMarginM := risk.dangerMarginM
  riskPhase := risk.riskPhase
  riskScore := risk.riskScore

/-- On machine numbers these are the measures of the risk model. -/
theorem ofRisk_evaluateTarget (lib : MathLibrary) (own : OwnShipInput) (target : TargetInput)
    (duty : ColregsDuty) (config : Risk.DomainConfig) :
    ofRisk (evaluateTarget lib own target duty config) =
      measures (ofLibrary lib) (ofOwnShip own) (ofTarget target) duty (ofConfig config) := by
  rfl

end MassL3.Risk.Scalars
