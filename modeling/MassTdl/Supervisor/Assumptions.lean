/-
This file embeds the monitors of the supervisor that look for inconsistent inputs and for
violated assumptions: a conformance score out of range, a negative closest approach, rules
without targets; and confidences that stay low for half a minute, too many unclassified targets,
repeated failures of a solver, and a checker that vetoes too often.

The result type that cannot carry an error here is left out.
-/

import MassTdl.Supervisor.Types

namespace MassL3.M7

open Binary64

/-! ### Inconsistent inputs -/

structure DiagnosticResult where
  conformanceScoreValid : Bool
  cpaInternalConsistent : Bool
  colregsTargetIdMatch : Bool
  faultCount : UInt32

structure FaultMonitor where
  faultCount : UInt32 := 0

namespace FaultMonitor

def validateOddState (msg : ODDState) : Bool :=
  msg.conformanceScore ≥ 0.0 && msg.conformanceScore ≤ 1.0

def validateCpaConsistency (world : WorldState) : Bool :=
  world.targets.all fun target => !(target.cpaM < 0.0)

def validateColregsConsistency (world : WorldState) (colregs : COLREGsConstraint) : Bool :=
  !(!colregs.activeRules.isEmpty && world.targets.isEmpty)

variable (monitor : FaultMonitor)

def observeNlpStatus (solverStatus : UInt8) (tailGateFailed : Bool) : FaultMonitor :=
  if solverStatus = nlpConverged ∧ ¬ tailGateFailed then monitor
  else { monitor with faultCount := monitor.faultCount + 1 }

/-- A failed check is one more fault. -/
def note (ok : Bool) : FaultMonitor :=
  if ok then monitor else { monitor with faultCount := monitor.faultCount + 1 }

def run (odd : ODDState) (world : WorldState) (colregs : COLREGsConstraint) :
    FaultMonitor × DiagnosticResult :=
  let oddOk := validateOddState odd
  let cpaOk := validateCpaConsistency world
  let colregsOk := validateColregsConsistency world colregs
  let monitor := ((monitor.note oddOk).note cpaOk).note colregsOk
  (monitor,
    { conformanceScoreValid := oddOk
      cpaInternalConsistent := cpaOk
      colregsTargetIdMatch := colregsOk
      faultCount := monitor.faultCount })

end FaultMonitor

/-! ### Assumptions -/

/-- The link to the shore. -/
structure CommLinkState where
  rttS : Float := 0.0
  packetLossPct : Float := 0.0

inductive AssumptionId where
  | aisRadarConsistency
  | motionPredictability
  | perceptionCoverage
  | colregsSolvability
  | commLink
  | checkerVetoRate
  | nlpConvergence
  deriving DecidableEq, Repr

def AssumptionId.all : List AssumptionId :=
  [.aisRadarConsistency, .motionPredictability, .perceptionCoverage, .colregsSolvability,
    .commLink, .checkerVetoRate, .nlpConvergence]

structure AssumptionConfig where
  fusionConfidenceLow : Float := 0.5
  aisRadarDurationThresholdS : Int := 30
  motionWindowS : Int := 30
  maxBlindZoneFraction : Float := 0.20
  colregsConsecutiveFailureCount : UInt32 := 3
  rttThresholdS : Float := 2.0
  packetLossPctThreshold : Float := 20.0
  checkerVetoRateThreshold : Float := 0.20
  nlpConsecutiveFailureCount : UInt32 := 3

structure AssumptionStatus where
  violationActive : AssumptionId → Bool
  violationMetric : AssumptionId → Float32
  totalViolationCount : UInt32

/-- A low value that is being followed, and since when. -/
structure LowSince where
  since : Int := 0
  tracking : Bool := false
  deriving DecidableEq

/-- A low value starts being followed; a recovered one is forgotten. -/
def LowSince.observe (low : LowSince) (isLow : Bool) (now : Int) : LowSince :=
  if isLow then if low.tracking then low else { since := now, tracking := true } else {}

structure AssumptionMonitor where
  cfg : AssumptionConfig := {}
  aisRadarLow : LowSince := {}
  motionLow : LowSince := {}
  colregsFailureCount : UInt32 := 0
  nlpFailureCount : UInt32 := 0
  nlpViolationActive : Bool := false
  nlpLastMetric : Float32 := 0.0

namespace AssumptionMonitor

variable (monitor : AssumptionMonitor)

def kMotionProxyThreshold : Float32 := 0.4

def kClassificationConfidenceMin : Float := 0.3

def kColregsConfidenceFailThreshold : Float := 0.3

def checkAisRadar (world : WorldState) (now : Int) : AssumptionMonitor × Bool :=
  let isLow : Bool := widen world.confidence < monitor.cfg.fusionConfidenceLow
  let low := monitor.aisRadarLow.observe isLow now
  ({ monitor with aisRadarLow := low },
    isLow && elapsedSeconds low.since now ≥ monitor.cfg.aisRadarDurationThresholdS)

def checkMotionPredictability (world : WorldState) (now : Int) : AssumptionMonitor × Bool :=
  let isPoor : Bool := world.confidence < kMotionProxyThreshold
  let low := monitor.motionLow.observe isPoor now
  ({ monitor with motionLow := low },
    isPoor && elapsedSeconds low.since now ≥ monitor.cfg.motionWindowS)

def unknownClass (target : TrackedTarget) : Bool :=
  target.classification = "unknown" ||
    widen target.classificationConfidence < kClassificationConfidenceMin

def computeBlindZoneFraction (world : WorldState) : Float32 :=
  if world.targets.isEmpty then 0.0
  else Float32.ofNat (world.targets.countP unknownClass) / Float32.ofNat world.targets.length

def checkPerceptionCoverage (world : WorldState) : Bool :=
  computeBlindZoneFraction world > narrow monitor.cfg.maxBlindZoneFraction

def checkColregsSolvability (colregs : COLREGsConstraint) : AssumptionMonitor × Bool :=
  if widen colregs.confidence < kColregsConfidenceFailThreshold then
    let count := monitor.colregsFailureCount + 1
    ({ monitor with colregsFailureCount := count },
      count ≥ monitor.cfg.colregsConsecutiveFailureCount)
  else ({ monitor with colregsFailureCount := 0 }, false)

def checkCommLink (commLink : CommLinkState) : Bool :=
  commLink.rttS > monitor.cfg.rttThresholdS ||
    commLink.packetLossPct > monitor.cfg.packetLossPctThreshold

def checkCheckerVetoRate (currentRate : Float) : Bool :=
  currentRate ≥ monitor.cfg.checkerVetoRateThreshold

def checkNlpConvergence (solverStatus : UInt8) (kktResidual : Float32) (tailGateFailed : Bool) :
    AssumptionMonitor :=
  let monitor := { monitor with nlpLastMetric := kktResidual }
  if tailGateFailed then
    { monitor with
      nlpViolationActive := true
      nlpFailureCount := monitor.cfg.nlpConsecutiveFailureCount }
  else if solverStatus = nlpConverged then
    { monitor with nlpFailureCount := 0, nlpViolationActive := false }
  else
    let count := monitor.nlpFailureCount + 1
    { monitor with
      nlpFailureCount := count
      nlpViolationActive := count ≥ monitor.cfg.nlpConsecutiveFailureCount }

/-- `evaluate`: every assumption is checked, and the violated ones are counted. -/
def evaluate (world : WorldState) (colregs : COLREGsConstraint) (currentCheckerVetoRate : Float)
    (commLink : CommLinkState) (now : Int) : AssumptionMonitor × AssumptionStatus :=
  let (monitor, aisRadar) := monitor.checkAisRadar world now
  let (monitor, motion) := monitor.checkMotionPredictability world now
  let (monitor, solvability) := monitor.checkColregsSolvability colregs
  let active : AssumptionId → Bool
    | .aisRadarConsistency => aisRadar
    | .motionPredictability => motion
    | .perceptionCoverage => monitor.checkPerceptionCoverage world
    | .colregsSolvability => solvability
    | .commLink => monitor.checkCommLink commLink
    | .checkerVetoRate => monitor.checkCheckerVetoRate currentCheckerVetoRate
    | .nlpConvergence => monitor.nlpViolationActive
  let metric : AssumptionId → Float32
    | .aisRadarConsistency | .motionPredictability => world.confidence
    | .perceptionCoverage => computeBlindZoneFraction world
    | .colregsSolvability => colregs.confidence
    | .commLink => narrow commLink.rttS
    | .checkerVetoRate => narrow currentCheckerVetoRate
    | .nlpConvergence => monitor.nlpLastMetric
  (monitor,
    { violationActive := active
      violationMetric := metric
      totalViolationCount := UInt32.ofNat (AssumptionId.all.countP active) })

def reset : AssumptionMonitor :=
  { monitor with
    aisRadarLow := {}
    motionLow := {}
    colregsFailureCount := 0
    nlpFailureCount := 0
    nlpViolationActive := false
    nlpLastMetric := 0.0 }

end AssumptionMonitor

/-- `TriggeringConditionDetector::detect`: three violations at once are an extreme scenario. -/
def extremeScenario (assumption : AssumptionStatus) : Bool := assumption.totalViolationCount ≥ 3

end MassL3.M7
