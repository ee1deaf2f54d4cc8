/-
This file embeds the performance monitor: the trend of the nearest closest approach over the
last samples, the number of targets that come close, and the risk of the primary threat, with
the time spent in its domains and whether it calls for a veto.
-/

import MassTdl.Arbiter.Risk
import MassTdl.Supervisor.Types

namespace MassL3.M7

open Binary64
open Clamps
open MassL3.Risk (MathLibrary RiskVector RiskPhase)

/-! ### The risk model's inputs -/

def kDegToRad : Float := 3.14159265358979323846 / 180.0

def kKnotsToMps : Float := 0.5144444444444445

def ownshipRiskInput (world : WorldState) : Risk.OwnShipInput where
  headingRad := world.ownShip.headingDeg * kDegToRad
  sogMps := stdMax 0.0 (world.ownShip.sogKn * kKnotsToMps)
  loaM := 46.0

def targetRiskInput (lib : MathLibrary) (target : TrackedTarget) : Risk.TargetInput :=
  let bearingRad := target.brgDeg * kDegToRad
  let rangeM := stdMax 0.0 target.rngM
  { id := toString target.targetId.toNat
    xM := lib.cos bearingRad * rangeM
    yM := lib.sin bearingRad * rangeM
    cogRad := target.cogDeg * kDegToRad
    sogMps := stdMax 0.0 (target.sogKn * kKnotsToMps)
    cpaM := target.cpaM
    tcpaS := target.tcpaS
    confidence := widen target.confidence }

def phaseAtLeast (phase threshold : RiskPhase) : Bool := phase.rank ≥ threshold.rank

/-! ### The monitor -/

structure PerformanceConfig where
  cpaTrendSlopeThresholdNmS : Float := -0.01
  multipleTargetsCpaThresholdNm : Float := 1.0
  multipleTargetsCountThreshold : UInt32 := 2

structure PerformanceStatus where
  cpaTrendDegrading : Bool := false
  cpaTrendSlopeNmS : Float := 0.0
  maxCpaInWindowNm : Float := 0.0
  multipleTargetsNearby : Bool := false
  criticalTargetCount : UInt32 := 0
  primaryThreatId : String := ""
  maxRiskScore : Float := 0.0
  worstWarningMarginM : Float := 0.0
  worstDangerMarginM : Float := 0.0
  warningDomainExposureS : Float := 0.0
  dangerDomainExposureS : Float := 0.0
  dangerVetoActive : Bool := false

/-- The number of samples of the trend. -/
def kHistory : Nat := 30

structure PerformanceMonitor where
  cfg : PerformanceConfig := {}
  cpaHistory : Vector Float32 kHistory := .replicate kHistory 0.0
  historyIdx : UInt32 := 0
  historyCount : UInt32 := 0
  lastEvalTime : Option Int := none
  hasDomainRisk : Bool := false
  maxRiskScore : Float := 0.0
  worstWarningMarginM : Float := 0.0
  worstDangerMarginM : Float := 0.0
  warningDomainExposureS : Float := 0.0
  dangerDomainExposureS : Float := 0.0

/-- The least closest approach of the targets in nautical miles. -/
def computeMinCpa (world : WorldState) : Float32 :=
  match world.targets with
  | [] => 9999.0
  | first :: later =>
      later.foldl (fun least target =>
        if narrow target.cpaM < least then narrow target.cpaM else least) (narrow first.cpaM) /
        1852.0

namespace PerformanceMonitor

variable (monitor : PerformanceMonitor)

/-- `PerformanceMonitor::reset`. -/
def reset : PerformanceMonitor := { cfg := monitor.cfg }

/-- A sample, at an index of the ring. -/
def sample (index : UInt32) : Float32 :=
  monitor.cpaHistory.get ⟨index.toNat % kHistory, Nat.mod_lt _ (by decide)⟩

/-- The sample of this evaluation enters the ring. -/
def record (minCpaNm : Float32) : PerformanceMonitor :=
  { monitor with
    cpaHistory := monitor.cpaHistory.set (monitor.historyIdx.toNat % kHistory) minCpaNm
      (Nat.mod_lt _ (by decide))
    historyIdx := monitor.historyIdx + 1
    historyCount :=
      if monitor.historyCount < 30 then monitor.historyCount + 1 else monitor.historyCount }

def computeSlope : Float :=
  if monitor.historyCount < 2 then 0.0
  else
    let newest := monitor.sample (monitor.historyIdx - 1)
    let oldest := monitor.sample (if monitor.historyCount < 30 then 0 else monitor.historyIdx)
    widen (newest - oldest) / Float.ofNat (monitor.historyCount - 1).toNat

def computeMaxCpaInWindow : Float :=
  (monitor.cpaHistory.toList.take monitor.historyCount.toNat).foldl
    (fun largest sample => stdMax largest (widen sample)) 0.0

/-- The risks of the targets with a finite range. -/
def risksOf (lib : MathLibrary) (world : WorldState) : List RiskVector :=
  (world.targets.filter fun target => target.rngM > 0.0 && target.rngM.isFinite).map fun target =>
    Risk.evaluateTarget lib (ownshipRiskInput world) (targetRiskInput lib target) .free {}

/-- The primary threat, chosen without a memory of the one before. -/
def primaryOf (lib : MathLibrary) (world : WorldState) : Option RiskVector :=
  match risksOf lib world with
  | [] => none
  | first :: later => some (Risk.bestOf first later)

/-- What the primary threat leaves in the monitor. -/
def observePrimary (primary : RiskVector) (dtS : Float) : PerformanceMonitor :=
  let warningMargin :=
    if monitor.hasDomainRisk then monitor.worstWarningMarginM else primary.warningMarginM
  let dangerMargin :=
    if monitor.hasDomainRisk then monitor.worstDangerMarginM else primary.dangerMarginM
  { monitor with
    hasDomainRisk := true
    maxRiskScore := stdMax monitor.maxRiskScore primary.riskScore
    worstWarningMarginM := stdMin warningMargin primary.warningMarginM
    worstDangerMarginM := stdMin dangerMargin primary.dangerMarginM
    warningDomainExposureS :=
      if phaseAtLeast primary.riskPhase .warning then monitor.warningDomainExposureS + dtS
      else monitor.warningDomainExposureS
    dangerDomainExposureS :=
      if phaseAtLeast primary.riskPhase .danger then monitor.dangerDomainExposureS + dtS
      else monitor.dangerDomainExposureS }

/-- The primary threat is in the danger domain and closing. -/
def callsForVeto (primary : RiskVector) : Bool :=
  phaseAtLeast primary.riskPhase .danger && primary.closingSpeedMps > 0.0

def evaluate (lib : MathLibrary) (world : WorldState) (now : Int) :
    PerformanceMonitor × PerformanceStatus :=
  let dtS := match monitor.lastEvalTime with
    | none => 0.0
    | some last => if durationS (now - last) < 0.0 then 0.0 else durationS (now - last)
  let monitor := { monitor with lastEvalTime := some now }.record (computeMinCpa world)
  let slope := monitor.computeSlope
  let thresholdM := monitor.cfg.multipleTargetsCpaThresholdNm * 1852.0
  let closeCount := UInt32.ofNat (world.targets.countP fun target => target.cpaM < thresholdM)
  let primary := primaryOf lib world
  let monitor := primary.elim monitor (monitor.observePrimary · dtS)
  (monitor,
    { cpaTrendDegrading := slope < monitor.cfg.cpaTrendSlopeThresholdNmS
      cpaTrendSlopeNmS := slope
      maxCpaInWindowNm := monitor.computeMaxCpaInWindow
      multipleTargetsNearby := closeCount ≥ monitor.cfg.multipleTargetsCountThreshold
      criticalTargetCount := closeCount
      primaryThreatId := primary.elim "" (·.targetId)
      maxRiskScore := monitor.maxRiskScore
      worstWarningMarginM := monitor.worstWarningMarginM
      worstDangerMarginM := monitor.worstDangerMarginM
      warningDomainExposureS := monitor.warningDomainExposureS
      dangerDomainExposureS := monitor.dangerDomainExposureS
      dangerVetoActive := primary.any callsForVeto })

end PerformanceMonitor

/-! ### A target straight ahead -/

/-- The functions of the library at the angles, powers and times of a target that comes from
straight ahead. -/
def aheadLibrary : MathLibrary where
  sin angle := if angle.abs < 0.1 then angle else 1.2246467991473532e-16
  cos angle := if angle.abs < 0.1 then 1.0 else -1.0
  atan2 _ x := if x > 0.0 then 0.0 else M6.Colregs.kPi
  hypot x y := (x * x + y * y).sqrt
  fmod value _ := value
  turns := 2
  asin value := value
  pow base exponent :=
    if exponent > 1.0 then base * base * base.sqrt
    else if base > 0.02 then 0.25 else 0.1388888888888889
  exp value := if value < 0.0 then 0.9048374180359595 else 1.0
  ceilToInt _ := 0

/-- The ship lies still, and a vessel 92 m ahead, a quarter of the danger domain, comes at ten
knots. -/
def closingAhead : WorldState where
  targets :=
    [{ targetId := 7
       sogKn := 10.0
       cogDeg := 180.0
       classification := "vessel"
       classificationConfidence := 1.0
       cpaM := 0.0
       tcpaS := 18.0
       confidence := 1.0
       brgDeg := 0.0
       rngM := 92.0 }]
  confidence := 1.0

example : (PerformanceMonitor.primaryOf aheadLibrary closingAhead).any
    PerformanceMonitor.callsForVeto = true := by decide +kernel

end MassL3.M7
