/-
This file embeds the node of the safety supervisor: the callbacks that feed the monitors, the
hard constraints that are checked when an avoidance plan arrives, the main loop that evaluates
the monitors and arbitrates between their findings, and the alerts both of them publish. In front
of it stands the handler that takes the supervisor back after an override: once the override is
inactive it counts stable cycles, is ready after five of them, and has resumed when the planner
sends its first output. Polls of the timeout abort it when a step takes too long.

The ticks that publish the transparency data, the audit record and the heartbeat, the metrics
and the coverage computed only for them, and the stamps of the alerts are left out. Each
callback reads the clock once.
-/

import MassTdl.Supervisor.Arbitrator
import MassTdl.Supervisor.HardConstraints
import MassTdl.Supervisor.Veto

namespace MassL3.M7.Core

inductive ResumeState where
  | idle
  | overrideActive
  | preResumeCheck
  | ready
  | resumed
  | resumeTimeout
  deriving DecidableEq, Repr

def kStableCyclesRequired : UInt32 := 5

/-- 100 ms. -/
def kM7ReadyTimeout : Int := milliseconds 100

/-- 150 ms. -/
def kM5OutputTimeout : Int := milliseconds 150

structure ResumeHandler where
  state : ResumeState := .idle
  t0 : Int := 0
  stableCycleCount : UInt32 := 0
  deriving DecidableEq

namespace ResumeHandler

variable (handler : ResumeHandler)

def onOverrideInactive (t0 : Int) : ResumeHandler :=
  if handler.state = .overrideActive ∨ handler.state = .idle then
    { state := .preResumeCheck, t0, stableCycleCount := 0 }
  else handler

/-- The time of a stable cycle is not looked at. -/
def onM7Stable : ResumeHandler :=
  if handler.state ≠ .preResumeCheck then handler
  else
    let count := handler.stableCycleCount + 1
    { handler with
      stableCycleCount := count
      state := if count ≥ kStableCyclesRequired then .ready else .preResumeCheck }

/-- The time of an output is not looked at either. -/
def onM5FirstOutput : ResumeHandler :=
  if handler.state = .ready then { handler with state := .resumed } else handler

def onResumeTimeout : ResumeHandler := { handler with state := .resumeTimeout }

def setOverrideActive (active : Bool) : ResumeHandler :=
  if active then { handler with state := .overrideActive } else handler

/-- The step under way takes longer than it may. -/
def timedOut (now : Int) : Bool :=
  match handler.state with
  | .preResumeCheck => now - handler.t0 > kM7ReadyTimeout
  | .ready => now - handler.t0 > kM5OutputTimeout
  | _ => false

def checkTimeout (now : Int) : ResumeHandler :=
  if handler.timedOut now then { handler with state := .resumeTimeout } else handler

end ResumeHandler

end MassL3.M7.Core

namespace MassL3.M7

open Binary64
open Clamps
open MassL3.M7.Core
open MassL3.Risk (MathLibrary)

/-! ### The node -/

structure SafetySupervisorNode where
  watchdog : WatchdogMonitor := .create .makeDefault
  faultMonitor : FaultMonitor := {}
  assumptionMonitor : AssumptionMonitor := {}
  performanceMonitor : PerformanceMonitor := {}
  vetoHandler : VetoHandler := {}
  checkerVetoCounter : CheckerVetoCounter := {}
  mrmSelector : MrmSelector := {}
  resumeHandler : ResumeHandler := {}
  lastAvoidanceSpeed : Float32 := 0.0
  lastAvoidanceRot : Float32 := 0.0
  lastAvoidanceHeadingChange : Float32 := 0.0
  lastAvoidanceDcpa : Float32 := 0.0
  lastColregsRule : ColregsRule := .unknown
  lastNlpSolverStatus : UInt8 := nlpConverged
  lastNlpKktResidual : Float32 := 0.0
  lastNlpTailGateFailed : Bool := false
  lastOdd : ODDState := {}
  lastWorld : WorldState := {}
  lastColregs : COLREGsConstraint := {}
  lastAvoidance : AvoidancePlan := {}
  overrideActive : Bool := false
  reflexFreezeRequired : Bool := false

/-- What an evaluation of the monitors found. -/
structure MonitorEvaluation where
  ctx : ScenarioContext
  decision : MrmDecision
  diag : DiagnosticResult
  extreme : Bool

/-- The alert of an evaluation. -/
def MonitorEvaluation.alert (evaluation : MonitorEvaluation) : SafetyAlert :=
  arbitrate evaluation.ctx evaluation.decision evaluation.diag evaluation.extreme

/-- The results of the hard constraints. -/
structure HardConstraintResults where
  cpa : CpaConsistencyResult
  colregs : ColregsGeometryResult
  speed : LimitResult
  rot : LimitResult
  watchdog : WatchdogConstraintResult
  dc : DcConstraintResult

def HardConstraintResults.alert (results : HardConstraintResults) : SafetyAlert :=
  buildSafetyAlertFromHardConstraints results.cpa results.colregs results.speed results.rot
    results.watchdog results.dc

/-- Only what is more than informational is published. -/
def publish (alert : SafetyAlert) : List SafetyAlert :=
  if alert.severity > severityInfo then [alert] else []

/-- The rule of the first active rule that is known. -/
def colregsRuleOf (msg : COLREGsConstraint) : ColregsRule :=
  match msg.activeRules with
  | [] => .unknown
  | first :: _ =>
      match first.ruleId.toNat with
      | 13 => .rule13Overtaking
      | 14 => .rule14HeadOn
      | 15 => if msg.phase = "T_standOn" then .rule15StandOn else .rule15GiveWay
      | 16 => .rule16GiveWay
      | 17 => .rule17StandOn
      | _ => .unknown

namespace SafetySupervisorNode

variable (lib : MathLibrary) (node : SafetySupervisorNode)

/-! ### Hard constraints -/

/-- A closest approach below the floor is inconsistent whatever the deviation. -/
def checkCpa : CpaConsistencyResult :=
  let cpa := checkCpaConsistency (minWorldCpaM node.lastWorld) node.lastAvoidanceDcpa
    (minWorldCpaM node.lastWorld) kCpaConsistencyThreshold
  if minWorldCpaM node.lastWorld < kCpaHardFloorM ∨ node.lastAvoidanceDcpa < kCpaHardFloorM then
    { consistent := false
      violationSource := cpa.violationSource ||| 4
      deviationPct := stdMax cpa.deviationPct 100.0 }
  else cpa

def runHardConstraintChecks (now : Int) : SafetySupervisorNode × HardConstraintResults :=
  let (watchdog, constraint) := evaluateWatchdogConstraint node.watchdog now
  ({ node with watchdog },
    { cpa := node.checkCpa
      colregs := checkColregsGeometry node.lastColregsRule node.lastAvoidanceHeadingChange
      speed := checkSpeedLimit node.lastAvoidanceSpeed kSpeedLimitMps
      rot := checkRotLimit node.lastAvoidanceRot kRotLimitDegS
      watchdog := constraint
      dc := evaluateDcConstraint
        { ramIntegrityOk := true
          aluTestPassed := true
          controlFlowOk := true
          inputIntegrityOk := true
          outputIntegrityOk := true
          watchdogOk := true } })

/-! ### Callbacks -/

def heard (module : MonitoredModule) (now : Int) : SafetySupervisorNode :=
  { node with watchdog := node.watchdog.onMessageReceived module now }

def onOddState (msg : ODDState) (now : Int) : SafetySupervisorNode :=
  { node.heard .m1 now with lastOdd := msg }

def onWorldState (msg : WorldState) (now : Int) : SafetySupervisorNode :=
  { node.heard .m2 now with lastWorld := msg }

def onBehaviorPlan (now : Int) : SafetySupervisorNode := node.heard .m4 now

/-- The first part of `on_avoidance_plan`: the plan is kept and the monitors of the solver are
told. -/
def keepAvoidancePlan (msg : AvoidancePlan) (now : Int) : SafetySupervisorNode :=
  { node.heard .m5 now with
    lastAvoidance := msg
    lastAvoidanceSpeed := avoidanceSpeedMps msg
    lastAvoidanceRot := avoidanceCommandedRotDegS lib msg
    lastAvoidanceHeadingChange := routeHeadingChangeDeg lib msg node.lastWorld
    lastAvoidanceDcpa := deriveRouteDcpaM msg node.lastWorld
    lastNlpSolverStatus := msg.nlpSolverStatus
    lastNlpKktResidual := msg.nlpKktResidual
    lastNlpTailGateFailed := msg.nlpTailGateFailed
    faultMonitor := node.faultMonitor.observeNlpStatus msg.nlpSolverStatus msg.nlpTailGateFailed
    assumptionMonitor := node.assumptionMonitor.checkNlpConvergence msg.nlpSolverStatus
      msg.nlpKktResidual msg.nlpTailGateFailed }

def onAvoidancePlan (msg : AvoidancePlan) (now : Int) :
    SafetySupervisorNode × Option HardConstraintResults :=
  let kept := node.keepAvoidancePlan lib msg now
  if !node.overrideActive && !node.reflexFreezeRequired then
    let (checked, results) := kept.runHardConstraintChecks now
    (checked, some results)
  else (kept, none)

def onColregsConstraint (msg : COLREGsConstraint) (now : Int) : SafetySupervisorNode :=
  { node.heard .m6 now with
    lastColregs := msg
    lastColregsRule := colregsRuleOf msg }

def onOverrideCmd (now : Int) : SafetySupervisorNode := node.heard .m3 now

def onCheckerVeto (msg : CheckerVetoNotification) : SafetySupervisorNode :=
  { node with
    vetoHandler := node.vetoHandler.onVetoReceived msg
    checkerVetoCounter := node.checkerVetoCounter.onVeto msg }

def onReflexActivation (l3FreezeRequired : Bool) : SafetySupervisorNode :=
  { node with reflexFreezeRequired := l3FreezeRequired }

def revertFromOverride : SafetySupervisorNode :=
  { node with mrmSelector := node.mrmSelector.reset, reflexFreezeRequired := false }

def onOverrideSignal (active : Bool) (now : Int) : SafetySupervisorNode :=
  if active then
    { node with
      overrideActive := true
      resumeHandler := node.resumeHandler.setOverrideActive true }
  else
    { node with
      overrideActive := false
      resumeHandler := node.resumeHandler.onOverrideInactive now }.revertFromOverride

/-! ### The main loop -/

def runMonitorEvaluation (now : Int) : SafetySupervisorNode × MonitorEvaluation :=
  let watchdogResult := node.watchdog.evaluate now
  let (faultMonitor, diag) := node.faultMonitor.run node.lastOdd node.lastWorld node.lastColregs
  let vetoRate := widen node.checkerVetoCounter.currentRate
  let (assumptionMonitor, assumption) :=
    node.assumptionMonitor.evaluate node.lastWorld node.lastColregs vetoRate {} now
  let (performanceMonitor, performance) := node.performanceMonitor.evaluate lib node.lastWorld now
  let ctx : ScenarioContext := { assumption, watchdog := watchdogResult, performance }
  let (mrmSelector, decision) := node.mrmSelector.select ctx node.lastOdd node.lastWorld now
  ({ node with
      watchdog := node.watchdog.afterEvaluate now
      faultMonitor
      assumptionMonitor
      performanceMonitor
      mrmSelector },
    { ctx, decision, diag, extreme := extremeScenario assumption })

/-- The windows of both veto ledgers move on; the handler is told of no veto. -/
def tickVetoWindows : SafetySupervisorNode :=
  { node with
    checkerVetoCounter := node.checkerVetoCounter.onCycleTick
    vetoHandler := node.vetoHandler.onCycleTick false }

def onMainLoopTick (now : Int) : SafetySupervisorNode × Option MonitorEvaluation :=
  let ticked := node.tickVetoWindows
  if node.reflexFreezeRequired then (ticked, none)
  else
    let (evaluated, evaluation) := ticked.runMonitorEvaluation lib now
    (evaluated, some evaluation)

end SafetySupervisorNode

/-! ### Events -/

/-- What a callback is called for, with the clock where it reads it. -/
inductive Event where
  | oddState (msg : ODDState) (now : Int)
  | worldState (msg : WorldState) (now : Int)
  | behaviorPlan (now : Int)
  | avoidancePlan (msg : AvoidancePlan) (now : Int)
  | colregsConstraint (msg : COLREGsConstraint) (now : Int)
  | overrideCmd (now : Int)
  | checkerVeto (msg : CheckerVetoNotification)
  | reflexActivation (l3FreezeRequired : Bool)
  | overrideSignal (active : Bool) (now : Int)
  | mainLoopTick (now : Int)

/-- What a callback checked. -/
inductive Check where
  | evaluation (found : MonitorEvaluation)
  | hardConstraints (found : HardConstraintResults)

def Check.alert : Check → SafetyAlert
  | .evaluation found => found.alert
  | .hardConstraints found => found.alert

namespace SafetySupervisorNode

variable (lib : MathLibrary) (node : SafetySupervisorNode)

/-- The node after a callback, and the check it made. -/
def handle : Event → SafetySupervisorNode × Option Check
  | .oddState msg now => (node.onOddState msg now, none)
  | .worldState msg now => (node.onWorldState msg now, none)
  | .behaviorPlan now => (node.onBehaviorPlan now, none)
  | .avoidancePlan msg now =>
      let (next, results) := node.onAvoidancePlan lib msg now
      (next, results.map .hardConstraints)
  | .colregsConstraint msg now => (node.onColregsConstraint msg now, none)
  | .overrideCmd now => (node.onOverrideCmd now, none)
  | .checkerVeto msg => (node.onCheckerVeto msg, none)
  | .reflexActivation l3FreezeRequired => (node.onReflexActivation l3FreezeRequired, none)
  | .overrideSignal active now => (node.onOverrideSignal active now, none)
  | .mainLoopTick now =>
      let (next, evaluation) := node.onMainLoopTick lib now
      (next, evaluation.map .evaluation)

def next (event : Event) : SafetySupervisorNode := (node.handle lib event).1

/-- The check a callback makes. -/
def checkOf (event : Event) : Option Check := (node.handle lib event).2

/-- The alerts a callback publishes. -/
def published (event : Event) : List SafetyAlert :=
  (node.checkOf lib event).elim [] fun check => publish check.alert

/-! ### What a callback may change -/

/-- Past what it keeps of the plan, a check at once moves nothing but the watchdog. -/
theorem next_avoidancePlan (msg : AvoidancePlan) (now : Int) :
    ∃ watchdog, node.next lib (.avoidancePlan msg now) =
      { node.keepAvoidancePlan lib msg now with watchdog } := by
  unfold next handle onAvoidancePlan
  simp only
  split_ifs <;> exact ⟨_, rfl⟩

/-- A tick moves the windows of both ledgers, and an evaluation past it the four monitors and the
selector of the manoeuvre. -/
theorem next_mainLoopTick (now : Int) :
    ∃ watchdog faultMonitor assumptionMonitor performanceMonitor mrmSelector,
      node.next lib (.mainLoopTick now) =
        { node.tickVetoWindows with
          watchdog
          faultMonitor
          assumptionMonitor
          performanceMonitor
          mrmSelector } := by
  unfold next handle onMainLoopTick
  simp only
  split_ifs <;> exact ⟨_, _, _, _, _, rfl⟩

/-- What neither a check nor an evaluation touches: the flags of the two requesters of a freeze
and the two ledgers of the vetoes. -/
structure Frame where
  reflexFreezeRequired : Bool
  overrideActive : Bool
  vetoHandler : VetoHandler
  checkerVetoCounter : CheckerVetoCounter

def frame (node : SafetySupervisorNode) : Frame where
  reflexFreezeRequired := node.reflexFreezeRequired
  overrideActive := node.overrideActive
  vetoHandler := node.vetoHandler
  checkerVetoCounter := node.checkerVetoCounter

/-- A veto reaches both ledgers, a tick moves the windows of both, and nothing else does. -/
def Frame.next (frame : Frame) : Event → Frame
  | .reflexActivation l3FreezeRequired =>
      { frame with reflexFreezeRequired := l3FreezeRequired }
  | .overrideSignal active _ =>
      { frame with
        reflexFreezeRequired := active && frame.reflexFreezeRequired
        overrideActive := active }
  | .checkerVeto msg =>
      { frame with
        vetoHandler := frame.vetoHandler.onVetoReceived msg
        checkerVetoCounter := frame.checkerVetoCounter.onVeto msg }
  | .mainLoopTick _ =>
      { frame with
        vetoHandler := frame.vetoHandler.onCycleTick false
        checkerVetoCounter := frame.checkerVetoCounter.onCycleTick }
  | _ => frame

theorem next_frame (event : Event) : (node.next lib event).frame = node.frame.next event := by
  cases event with
  | overrideSignal active now => cases active <;> rfl
  | avoidancePlan msg now =>
    obtain ⟨_, kept⟩ := next_avoidancePlan lib node msg now
    rw [kept]
    rfl
  | mainLoopTick now =>
    obtain ⟨_, _, _, _, _, ticked⟩ := next_mainLoopTick lib node now
    rw [ticked]
    rfl
  | _ => rfl

theorem next_reflexFreezeRequired (event : Event) :
    (node.next lib event).reflexFreezeRequired =
      match event with
      | .reflexActivation l3FreezeRequired => l3FreezeRequired
      | .overrideSignal false _ => false
      | _ => node.reflexFreezeRequired := by
  refine (congrArg Frame.reflexFreezeRequired (next_frame lib node event)).trans ?_
  cases event with
  | overrideSignal active now => cases active <;> rfl
  | _ => rfl

theorem next_vetoHandler (event : Event) :
    (node.next lib event).vetoHandler =
      match event with
      | .checkerVeto msg => node.vetoHandler.onVetoReceived msg
      | .mainLoopTick _ => node.vetoHandler.onCycleTick false
      | _ => node.vetoHandler := by
  refine (congrArg Frame.vetoHandler (next_frame lib node event)).trans ?_
  cases event <;> rfl

theorem next_checkerVetoCounter (event : Event) :
    (node.next lib event).checkerVetoCounter =
      match event with
      | .checkerVeto msg => node.checkerVetoCounter.onVeto msg
      | .mainLoopTick _ => node.checkerVetoCounter.onCycleTick
      | _ => node.checkerVetoCounter := by
  refine (congrArg Frame.checkerVetoCounter (next_frame lib node event)).trans ?_
  cases event <;> rfl

/-- The main loop evaluates exactly when its flag is clear. -/
theorem checkOf_mainLoopTick_isSome (now : Int) :
    (node.checkOf lib (.mainLoopTick now)).isSome = !node.reflexFreezeRequired := by
  unfold checkOf handle onMainLoopTick
  simp only
  cases frozen : node.reflexFreezeRequired <;> rfl

end SafetySupervisorNode

end MassL3.M7
