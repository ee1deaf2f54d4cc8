/-
This file holds the messages the safety supervisor reads and the alert it publishes, as they
travel: zones, rules and severities are the numbers of the messages. Fields that no check reads
are left out. The times the supervisor computes with are readings of its steady clock in
nanoseconds.

It also embeds the watchdog over the modules the supervisor monitors. A module that has sent a
message and then stays silent for longer than its timeout loses one beat each time the watchdog
is evaluated, and is critical once it has lost more beats than are tolerated.
-/

import MassTdl.Binary64.Order
import Mathlib.Tactic.Common

namespace MassL3.M7

/-! ### What the supervisor reads -/

structure ODDState where
  currentZone : UInt8 := 0
  conformanceScore : Float32 := 0.0

def oddZoneC : UInt8 := 2

structure OwnShipState where
  sogKn : Float := 0.0
  headingDeg : Float := 0.0

structure TrackedTarget where
  targetId : UInt64
  sogKn : Float
  cogDeg : Float
  classification : String
  classificationConfidence : Float32
  cpaM : Float
  tcpaS : Float
  confidence : Float32
  brgDeg : Float
  rngM : Float

structure WorldState where
  targets : List TrackedTarget := []
  ownShip : OwnShipState := {}
  zoneMinWaterDepthM : Float32 := 0.0
  confidence : Float32 := 0.0

structure RuleActive where
  ruleId : UInt8

structure COLREGsConstraint where
  activeRules : List RuleActive := []
  phase : String := ""
  confidence : Float32 := 0.0

structure GeoPoint where
  latitude : Float
  longitude : Float

structure AvoidanceWaypoint where
  position : GeoPoint
  targetSpeedKn : Float

structure AvoidancePlan where
  waypoints : List AvoidanceWaypoint := []
  latitude : List Float := []
  longitude : List Float := []
  commandSpeedMps : List Float := []
  hasReturnToRoutePoint : Bool := false
  nlpSolverStatus : UInt8 := 0
  nlpKktResidual : Float32 := 0.0
  nlpTailGateFailed : Bool := false

def nlpConverged : UInt8 := 0

structure CheckerVetoNotification where
  checkerLayer : String
  vetoReasonClass : UInt8

/-! ### What it publishes -/

structure SafetyAlert where
  alertType : UInt8 := 0
  severity : UInt8 := 0
  description : String := ""
  recommendedMrm : String := ""
  confidence : Float32 := 0.0
  rationale : String := ""

def alertIec61508Fault : UInt8 := 0

def alertSotifAssumption : UInt8 := 1

def alertPerformanceDegraded : UInt8 := 2

def severityInfo : UInt8 := 0

def severityWarning : UInt8 := 1

def severityCritical : UInt8 := 2

def severityMrcRequired : UInt8 := 3

/-! ### Durations -/

/-- `std::chrono::milliseconds`, in nanoseconds. -/
def milliseconds (count : Int) : Int := count * 1000000

/-- `std::chrono::seconds`, in nanoseconds. -/
def wholeSeconds (count : Int) : Int := count * 1000000000

/-- `elapsed_seconds`: whole seconds, none when the clock has not moved on. -/
def elapsedSeconds (since now : Int) : Int :=
  if now ≤ since then 0 else (now - since) / 1000000000

/-- A duration in nanoseconds, in seconds. -/
def durationS (nanoseconds : Int) : Float := Float.ofInt nanoseconds / 1.0e9

/-! ### Modules and their limits -/

inductive MonitoredModule where
  | m1
  | m2
  | m3
  | m4
  | m5
  | m6
  | m8
  deriving DecidableEq, Repr

/-- The modules, in the order of the loop in `evaluate`. -/
def MonitoredModule.all : List MonitoredModule := [.m1, .m2, .m3, .m4, .m5, .m6, .m8]

structure WatchdogConfig where
  timeoutMs : MonitoredModule → Int
  toleranceCount : MonitoredModule → UInt32

def WatchdogConfig.makeDefault : WatchdogConfig where
  timeoutMs
    | .m1 => 1500
    | .m2 => 300
    | .m3 => 7500
    | .m4 => 750
    | .m5 => 1000
    | .m6 => 750
    | .m8 => 150
  toleranceCount
    | .m3 => 2
    | _ => 3

/-! ### The monitor -/

/-- What is kept of one module. -/
structure ModuleWatch where
  lastReceived : Int := 0
  lossCount : UInt32 := 0
  initialized : Bool := false
  deriving DecidableEq

structure WatchdogMonitor where
  cfg : WatchdogConfig
  watches : MonitoredModule → ModuleWatch

structure WatchdogResult where
  heartbeatOk : MonitoredModule → Bool := fun _ => false
  lossCount : MonitoredModule → UInt32 := fun _ => 0
  anyCritical : Bool := false
  criticalCount : UInt32 := 0

namespace WatchdogMonitor

def create (cfg : WatchdogConfig) : WatchdogMonitor where
  cfg
  watches := fun _ => {}

variable (monitor : WatchdogMonitor)

def onMessageReceived (module : MonitoredModule) (now : Int) : WatchdogMonitor :=
  { monitor with
    watches := fun other =>
      if other = module then { lastReceived := now, lossCount := 0, initialized := true }
      else monitor.watches other }

/-- The module has been heard from, but not for longer than its timeout. -/
def overdue (now : Int) (module : MonitoredModule) : Bool :=
  (monitor.watches module).initialized &&
    now - (monitor.watches module).lastReceived > milliseconds (monitor.cfg.timeoutMs module)

/-- One module in the loop of `evaluate`: before its first message it is left alone. -/
def evaluateModule (now : Int) (module : MonitoredModule) : ModuleWatch :=
  let watch := monitor.watches module
  if !watch.initialized then watch
  else if monitor.overdue now module then { watch with lossCount := watch.lossCount + 1 }
  else { watch with lossCount := 0 }

/-- The module has lost more beats than tolerated. -/
def criticalAt (now : Int) (module : MonitoredModule) : Bool :=
  let watch := monitor.evaluateModule now module
  watch.initialized && watch.lossCount > monitor.cfg.toleranceCount module

/-- The monitor after `evaluate`, whose loss counts are mutable. -/
def afterEvaluate (now : Int) : WatchdogMonitor :=
  { monitor with watches := monitor.evaluateModule now }

/-- What `evaluate` returns. -/
def evaluate (now : Int) : WatchdogResult where
  heartbeatOk := fun module => !monitor.overdue now module
  lossCount := fun module =>
    if monitor.overdue now module then (monitor.evaluateModule now module).lossCount else 0
  anyCritical := MonitoredModule.all.any (monitor.criticalAt now)
  criticalCount := UInt32.ofNat (MonitoredModule.all.countP (monitor.criticalAt now))

def reset (module : MonitoredModule) : WatchdogMonitor :=
  { monitor with
    watches := fun other => if other = module then {} else monitor.watches other }

def resetAll : WatchdogMonitor := { monitor with watches := fun _ => {} }

/-! ### What an evaluation reports -/

/-- A critical module is among those counted. -/
theorem one_le_criticalCount {now : Int} (critical : (monitor.evaluate now).anyCritical = true) :
    1 ≤ (monitor.evaluate now).criticalCount := by
  have found : 0 < MonitoredModule.all.countP (monitor.criticalAt now) := by
    rw [List.countP_pos_iff]
    exact List.any_eq_true.mp critical
  have few : MonitoredModule.all.countP (monitor.criticalAt now) ≤ 7 := List.countP_le_length
  show 1 ≤ UInt32.ofNat (MonitoredModule.all.countP (monitor.criticalAt now))
  rw [UInt32.le_iff_toNat_le, UInt32.toNat_ofNat']
  show 1 ≤ _
  omega

/-- Evaluating touches neither what was received nor when. -/
@[simp] theorem evaluateModule_initialized (now : Int) (module : MonitoredModule) :
    (monitor.evaluateModule now module).initialized = (monitor.watches module).initialized := by
  unfold evaluateModule
  simp only
  split_ifs <;> rfl

@[simp] theorem evaluateModule_lastReceived (now : Int) (module : MonitoredModule) :
    (monitor.evaluateModule now module).lastReceived = (monitor.watches module).lastReceived := by
  unfold evaluateModule
  simp only
  split_ifs <;> rfl

end WatchdogMonitor

end MassL3.M7
