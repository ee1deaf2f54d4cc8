/-
This file embeds the hard constraints that are checked when an avoidance plan arrives: the
closest approach of the plan against that of the world, the rule against the geometry of the
plan, speed and rate of turn, the watchdog, and the diagnostic coverage. The first violated one
in the order of the source becomes the alert.
-/

import MassTdl.Supervisor.Performance

namespace MassL3.M7.Core

open Binary64
open Clamps
open MassL3.M6.Colregs (kPi)
open MassL3.Risk (MathLibrary)

/-! ### Single precision -/

/-- The text of a float that is cast to an `int`. A value out of range, whose cast C++ leaves
undefined, becomes the nearest `int`. -/
def wholeText (value : Float32) : String :=
  toString (value.toModel.unpack.toInt (-2147483648) 2147483647)

/-! ### Closest approach -/

structure CpaConsistencyResult where
  consistent : Bool := false
  deviationPct : Float32 := 0.0
  violationSource : UInt8 := 0

def kEpsilon : Float32 := 0.001

def checkCpaConsistency (cpaM2 dcpaM5 cpaM7 threshold : Float32) : CpaConsistencyResult :=
  let denom := stdMax cpaM7 kEpsilon
  let devM2 := (cpaM2 - cpaM7).abs / denom
  let devM5 := (dcpaM5 - cpaM7).abs / denom
  let source : UInt8 :=
    (if devM2 > threshold then 1 else 0) ||| (if devM5 > threshold then 2 else 0)
  { consistent := source = 0
    deviationPct := stdMax devM2 devM5 * 100.0
    violationSource := source }

/-! ### Rules and geometry -/

inductive ColregsRule where
  | unknown
  | rule13Overtaking
  | rule14HeadOn
  | rule15GiveWay
  | rule15StandOn
  | rule16GiveWay
  | rule17StandOn
  | mrmTriggered
  deriving DecidableEq, Repr

structure ColregsGeometryResult where
  consistent : Bool := false
  minExpectedAlterationDeg : Float32 := 0.0
  violationReason : UInt8 := 0

def kSmallTurnDeg : Float32 := 5.0

def kLargeTurnDeg : Float32 := 15.0

/-- A verdict, with the reason that is given when it is negative. -/
def geometryVerdict (minExpectedAlterationDeg : Float32) (consistent : Bool) (reason : UInt8) :
    ColregsGeometryResult where
  consistent
  minExpectedAlterationDeg
  violationReason := if consistent then 0 else reason

def checkColregsGeometry (rule : ColregsRule) (headingChangeDeg : Float32) :
    ColregsGeometryResult :=
  let absHdg := headingChangeDeg.abs
  match rule with
  | .rule13Overtaking => geometryVerdict 0.0 (absHdg < kSmallTurnDeg) 1
  | .rule14HeadOn => geometryVerdict kLargeTurnDeg (headingChangeDeg > kSmallTurnDeg) 1
  | .rule15GiveWay => geometryVerdict kLargeTurnDeg (headingChangeDeg > kSmallTurnDeg) 1
  | .rule15StandOn => geometryVerdict 0.0 (absHdg < kSmallTurnDeg) 2
  | .rule16GiveWay => geometryVerdict kLargeTurnDeg (absHdg > kLargeTurnDeg) 2
  | .rule17StandOn => geometryVerdict 0.0 (absHdg < kSmallTurnDeg) 2
  | .mrmTriggered => geometryVerdict 0.0 (absHdg < 0.1) 1
  | .unknown => geometryVerdict 0.0 true 0

/-! ### Speed and rate of turn -/

/-- `SpeedLimitResult` and `RotLimitResult`. -/
structure LimitResult where
  compliant : Bool := false
  violation : Bool := false
  excessPct : Float32 := 0.0

def kLimitTolerance : Float32 := 1.05

/-- A value against a limit that is widened by the tolerance. -/
def checkLimit (value limit : Float32) : LimitResult :=
  let effectiveLimit := limit * kLimitTolerance
  let compliant : Bool := value ≤ effectiveLimit
  { compliant
    violation := !compliant
    excessPct := if compliant then 0.0 else (value - effectiveLimit) / limit * 100.0 }

/-- What is reported of a limit that makes no sense. -/
def invalidLimit : LimitResult where
  compliant := false
  violation := true
  excessPct := 100.0

def checkSpeedLimit (speed speedLimit : Float32) : LimitResult :=
  if speed < 0.0 ∨ speedLimit ≤ 0.0 then invalidLimit else checkLimit speed speedLimit

def checkRotLimit (rot rotLimit : Float32) : LimitResult :=
  if rotLimit ≤ 0.0 then invalidLimit else checkLimit rot.abs rotLimit

/-! ### Watchdog and diagnostic coverage -/

structure WatchdogConstraintResult where
  anyCritical : Bool := false
  multiCritical : Bool := false
  criticalCount : UInt32 := 0
  criticalModulesBitmask : UInt32 := 0

/-- The bit of a module in the mask. -/
def moduleBit : MonitoredModule → UInt32
  | .m1 => 0x01
  | .m2 => 0x02
  | .m3 => 0x04
  | .m4 => 0x08
  | .m5 => 0x10
  | .m6 => 0x20
  | .m8 => 0x40

/-- The constraint on what an evaluation of the watchdog returned. -/
def watchdogConstraint (result : WatchdogResult) : WatchdogConstraintResult where
  anyCritical := result.anyCritical
  multiCritical := result.criticalCount ≥ 2
  criticalCount := result.criticalCount
  criticalModulesBitmask := MonitoredModule.all.foldl (fun mask module =>
    if result.heartbeatOk module then mask else mask ||| moduleBit module) 0

/-- The watchdog is evaluated, and so it counts the beats lost as the main loop does. -/
def evaluateWatchdogConstraint (watchdog : WatchdogMonitor) (now : Int) :
    WatchdogMonitor × WatchdogConstraintResult :=
  (watchdog.afterEvaluate now, watchdogConstraint (watchdog.evaluate now))

structure DcSelfCheckState where
  ramIntegrityOk : Bool := false
  aluTestPassed : Bool := false
  controlFlowOk : Bool := false
  inputIntegrityOk : Bool := false
  outputIntegrityOk : Bool := false
  watchdogOk : Bool := false

structure DcConstraintResult where
  dcMet : Bool := false
  violation : Bool := false
  effectiveDcPct : Float32 := 0.0

def kDcWeight : Float32 := 1.0 / 6.0

def kDcTarget : Float32 := 0.90

def evaluateDcConstraint (state : DcSelfCheckState) : DcConstraintResult :=
  let apply (sum : Float32) (check : Bool × Float32) : Float32 :=
    if check.1 then sum + check.2 * kDcWeight else sum
  let weightedSum : Float32 := List.foldl apply 0.0
    [(state.ramIntegrityOk, 0.99), (state.aluTestPassed, 0.90), (state.controlFlowOk, 0.90),
      (state.inputIntegrityOk, 0.99), (state.outputIntegrityOk, 0.99), (state.watchdogOk, 0.95)]
  let effectiveDcPct := weightedSum * 100.0
  let dcMet : Bool := effectiveDcPct ≥ kDcTarget * 100.0
  { dcMet, violation := !dcMet, effectiveDcPct }

/-! ### The alert -/

def buildSafetyAlertFromHardConstraints (cpa : CpaConsistencyResult)
    (colregs : ColregsGeometryResult) (speed rot : LimitResult) (wd : WatchdogConstraintResult)
    (dc : DcConstraintResult) : SafetyAlert :=
  if wd.multiCritical then
    { alertType := alertIec61508Fault
      severity := severityMrcRequired
      recommendedMrm := "MRM-02"
      confidence := 1.0
      description := "HC-3: multi-module critical (" ++ toString wd.criticalCount ++ " modules)" }
  else if dc.violation then
    { alertType := alertIec61508Fault
      severity := severityMrcRequired
      recommendedMrm := "MRM-01"
      confidence := dc.effectiveDcPct / 90.0
      description := "HC-4: DC=" ++ wholeText dc.effectiveDcPct ++ "% < 90%" }
  else if !cpa.consistent then
    { alertType := alertPerformanceDegraded
      severity := severityCritical
      recommendedMrm := "MRM-03"
      confidence := 1.0 - cpa.deviationPct / 10.0
      description := "HC-1: CPA inconsistency (dev=" ++ wholeText cpa.deviationPct ++ "%)" }
  else if !colregs.consistent then
    { alertType := alertSotifAssumption
      severity := severityCritical
      recommendedMrm := "MRM-01"
      confidence := 0.95
      description := "HC-2: COLREGs rule-geometry mismatch" }
  else if !speed.compliant then
    { alertType := alertPerformanceDegraded
      severity := severityMrcRequired
      recommendedMrm := "MRM-01"
      confidence := 1.0 - speed.excessPct / 100.0
      description := "HC-5: speed limit exceeded (" ++ wholeText speed.excessPct ++ "%)" }
  else if !rot.compliant then
    { alertType := alertPerformanceDegraded
      severity := severityMrcRequired
      recommendedMrm := "MRM-03"
      confidence := 1.0 - rot.excessPct / 100.0
      description := "HC-6: ROT limit exceeded (" ++ wholeText rot.excessPct ++ "%)" }
  else if wd.anyCritical && !wd.multiCritical then
    { alertType := alertIec61508Fault
      severity := severityMrcRequired
      recommendedMrm := "MRM-01"
      confidence := 1.0
      description :=
        "HC-3: single module critical (" ++ toString wd.criticalCount ++ " module)" }
  else { severity := severityInfo }

/-! ### What the node derives from a plan -/

def kKnotsToMps : Float32 := 0.514444

def kEarthMetresPerDeg : Float32 := 111320.0

def kCpaHardFloorM : Float32 := 500.0

def kCpaConsistencyThreshold : Float32 := 0.10

def kSpeedLimitMps : Float32 := 12.0

def kRotLimitDegS : Float32 := 5.0

def kTinyDistanceM : Float := 1.0

def float32Max : Float32 := 3.4028234663852886e38

def wrapDown180 : Nat → Float32 → Float32
  | 0, deg => deg
  | turns + 1, deg => if deg > 180.0 then wrapDown180 turns (deg - 360.0) else deg

def wrapUp180 : Nat → Float32 → Float32
  | 0, deg => deg
  | turns + 1, deg => if deg < -180.0 then wrapUp180 turns (deg + 360.0) else deg

variable (lib : MathLibrary)

/-- `wrap_deg_180`. -/
def wrapDeg180 (deg : Float32) : Float32 := wrapUp180 lib.turns (wrapDown180 lib.turns deg)

/-- The way east of a leg in metres. -/
def routeDx (lat0 lon0 lat1 lon1 : Float) : Float :=
  (lon1 - lon0) * widen kEarthMetresPerDeg * lib.cos ((lat0 + lat1) * 0.5 * kPi / 180.0)

/-- The way north of a leg in metres. -/
def routeDy (lat0 lat1 : Float) : Float := (lat1 - lat0) * widen kEarthMetresPerDeg

def routeBearingDeg (lat0 lon0 lat1 lon1 : Float) : Float32 :=
  narrow (lib.atan2 (routeDx lib lat0 lon0 lat1 lon1) (routeDy lat0 lat1) * 180.0 / kPi)

def routeDistanceM (lat0 lon0 lat1 lon1 : Float) : Float32 :=
  narrow (lib.hypot (routeDx lib lat0 lon0 lat1 lon1) (routeDy lat0 lat1))

/-- The change of heading onto a leg, unless it is tiny. -/
def legHeadingChangeDeg (world : WorldState) (lat0 lon0 lat1 lon1 : Float) : Option Float32 :=
  if lib.hypot (routeDx lib lat0 lon0 lat1 lon1) (routeDy lat0 lat1) > kTinyDistanceM then
    some (wrapDeg180 lib
      (routeBearingDeg lib lat0 lon0 lat1 lon1 - narrow world.ownShip.headingDeg))
  else none

/-- `route_heading_change_deg`: from the first leg of the arrays, else of the waypoints. -/
def routeHeadingChangeDeg (plan : AvoidancePlan) (world : WorldState) : Float32 :=
  let ofArrays := match plan.latitude, plan.longitude with
    | lat0 :: lat1 :: _, lon0 :: lon1 :: _ => legHeadingChangeDeg lib world lat0 lon0 lat1 lon1
    | _, _ => none
  let ofWaypoints := match plan.waypoints with
    | first :: second :: _ =>
        legHeadingChangeDeg lib world first.position.latitude first.position.longitude
          second.position.latitude second.position.longitude
    | _ => none
  (ofArrays.or ofWaypoints).getD 0.0

/-- The least closest approach of the targets that have one. -/
def minWorldCpaM (world : WorldState) : Float32 :=
  match world.targets.filter fun target => target.cpaM ≥ 0.0 with
  | [] => kCpaHardFloorM
  | valid => valid.foldl (fun least target => stdMin least (narrow target.cpaM)) float32Max

def deriveRouteDcpaM (plan : AvoidancePlan) (world : WorldState) : Float32 :=
  if plan.hasReturnToRoutePoint ∧ plan.latitude.length ≥ 2 ∧ plan.longitude.length ≥ 2 then
    stdMax (minWorldCpaM world) kCpaHardFloorM
  else minWorldCpaM world

def avoidanceSpeedMps (plan : AvoidancePlan) : Float32 :=
  match plan.commandSpeedMps, plan.waypoints with
  | front :: _, _ => narrow front
  | [], front :: _ => narrow front.targetSpeedKn * kKnotsToMps
  | [], [] => 0.0

def avoidanceCommandedRotDegS (plan : AvoidancePlan) : Float32 :=
  match plan.latitude, plan.longitude with
  | lat0 :: lat1 :: lat2 :: _, lon0 :: lon1 :: lon2 :: _ =>
      let heading0 := routeBearingDeg lib lat0 lon0 lat1 lon1
      let heading1 := routeBearingDeg lib lat1 lon1 lat2 lon2
      let segmentM := routeDistanceM lib lat0 lon0 lat1 lon1
      let segmentTimeS := stdMax (segmentM / stdMax (avoidanceSpeedMps plan) 0.1) 1.0
      wrapDeg180 lib (heading1 - heading0) / segmentTimeS
  | _, _ => 0.0

end MassL3.M7.Core
