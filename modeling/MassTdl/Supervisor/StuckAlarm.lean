/-
This file joins the supervisor with the envelope manager. The supervisor publishes only what is
more than informational, so a check that finds nothing wrong says nothing, and the envelope
manager keeps the last alert it was sent. Once every alert has been delivered, its next cycle acts
on the alert of the last check that raised one, however many checks have found nothing since.
-/

import MassTdl.Odd.Takeover
import MassTdl.Supervisor.Arbitration

namespace MassL3.M7

open Runs
open MassL3.M7.Core
open MassL3.Risk (MathLibrary)
open M1 (OddEnvelopeManagerNode)

/-! ### What a check found -/

namespace MonitorEvaluation

/-- Something is wrong that an alert is raised for. -/
def violation (evaluation : MonitorEvaluation) : Bool :=
  evaluation.diag.anyFault || evaluation.ctx.watchdog.anyCritical || evaluation.extreme ||
    decide (evaluation.ctx.assumption.totalViolationCount ≥ 1) ||
    evaluation.ctx.performance.cpaTrendDegrading ||
    evaluation.ctx.performance.multipleTargetsNearby

/-- A module is lost, or more than one assumption is violated. -/
def grave (evaluation : MonitorEvaluation) : Bool :=
  evaluation.ctx.watchdog.anyCritical || evaluation.extreme ||
    decide (evaluation.ctx.assumption.totalViolationCount ≥ 2)

variable {evaluation : MonitorEvaluation}

theorem info_lt_alert_iff :
    severityInfo < evaluation.alert.severity ↔ evaluation.violation = true := by
  unfold alert violation
  rw [severityInfo_lt_arbitrate_iff, exists_activeCondition_iff]
  simp only [Bool.or_eq_true, decide_eq_true_eq, or_assoc]

theorem alert_isGreatest : IsGreatest {severity | severity = severityInfo ∨
    ActiveCondition evaluation.ctx evaluation.diag evaluation.extreme severity}
    evaluation.alert.severity :=
  arbitrate_severity

theorem critical_le_alert_iff :
    severityCritical ≤ evaluation.alert.severity ↔ evaluation.grave = true := by
  obtain ⟨attained, greatest⟩ := @alert_isGreatest evaluation
  unfold grave
  simp only [Bool.or_eq_true, decide_eq_true_eq, or_assoc]
  constructor
  · intro critical
    rcases attained with info | active
    · exact absurd (info ▸ critical) (by decide)
    · generalize evaluation.alert.severity = severity at active critical
      cases active with
      | moduleCritical lost | modulesCritical lost => exact Or.inl lost
      | extremeScenario isExtreme => exact Or.inr (Or.inl isExtreme)
      | severalViolations _ several => exact Or.inr (Or.inr several)
      | diagnosticFault | singleViolation | performanceDegraded =>
        exact absurd critical (by decide)
  · have atLeast {severity : UInt8} (critical : severityCritical ≤ severity)
        (active : ActiveCondition evaluation.ctx evaluation.diag evaluation.extreme severity) :
        severityCritical ≤ evaluation.alert.severity :=
      UInt8.le_trans critical (greatest (Or.inr active))
    rintro (lost | isExtreme | several)
    · by_cases modules : evaluation.ctx.watchdog.criticalCount ≥ 2
      · exact atLeast (by decide) (.modulesCritical lost modules)
      · exact atLeast (by decide) (.moduleCritical lost modules)
    · exact atLeast (by decide) (.extremeScenario isExtreme)
    · cases isExtreme : evaluation.extreme with
      | true => exact atLeast (by decide) (.extremeScenario isExtreme)
      | false => exact atLeast (by decide) (.severalViolations isExtreme several)

theorem alert_le_mrcRequired : evaluation.alert.severity ≤ severityMrcRequired := by
  rcases alert_isGreatest.1 with info | active
  · rw [info]
    decide
  · generalize evaluation.alert.severity = severity at active
    cases active <;> decide

end MonitorEvaluation

namespace HardConstraintResults

/-- One of the hard constraints is broken. -/
def violation (results : HardConstraintResults) : Bool :=
  results.watchdog.multiCritical || results.dc.violation || !results.cpa.consistent ||
    !results.colregs.consistent || !results.speed.compliant || !results.rot.compliant ||
    results.watchdog.anyCritical

variable {results : HardConstraintResults}

/-- The alert of the hard constraints is informational, or critical at least. -/
theorem alert_graded :
    (results.violation = false ∧ results.alert.severity = severityInfo) ∨
      results.violation = true ∧ severityCritical ≤ results.alert.severity ∧
        results.alert.severity ≤ severityMrcRequired := by
  have critical : severityCritical ≤ severityCritical ∧ severityCritical ≤ severityMrcRequired := by
    decide
  have mrc : severityCritical ≤ severityMrcRequired ∧
    severityMrcRequired ≤ severityMrcRequired := by decide
  unfold violation alert buildSafetyAlertFromHardConstraints
  cases results.watchdog.multiCritical
  · cases results.dc.violation
    · cases results.cpa.consistent
      · exact Or.inr ⟨rfl, critical⟩
      · cases results.colregs.consistent
        · exact Or.inr ⟨rfl, critical⟩
        · cases results.speed.compliant
          · exact Or.inr ⟨rfl, mrc⟩
          · cases results.rot.compliant
            · exact Or.inr ⟨rfl, mrc⟩
            · cases results.watchdog.anyCritical
              · exact Or.inl ⟨rfl, rfl⟩
              · exact Or.inr ⟨rfl, mrc⟩
    · exact Or.inr ⟨rfl, mrc⟩
  · exact Or.inr ⟨rfl, mrc⟩

theorem info_lt_alert_iff :
    severityInfo < results.alert.severity ↔ results.violation = true := by
  obtain ⟨fine, info⟩ | ⟨broken, critical, -⟩ := @alert_graded results
  · rw [fine, info]
    exact iff_of_false (by decide) Bool.false_ne_true
  · exact iff_of_true (UInt8.lt_of_lt_of_le (by decide) critical) broken

theorem critical_le_alert_iff :
    severityCritical ≤ results.alert.severity ↔ results.violation = true := by
  obtain ⟨fine, info⟩ | ⟨broken, critical, -⟩ := @alert_graded results
  · rw [fine, info]
    exact iff_of_false (by decide) Bool.false_ne_true
  · exact iff_of_true critical broken

theorem alert_le_mrcRequired : results.alert.severity ≤ severityMrcRequired := by
  obtain ⟨-, info⟩ | ⟨-, -, mrc⟩ := @alert_graded results
  · rw [info]
    decide
  · exact mrc

end HardConstraintResults

namespace Check

/-- The check found a violation. -/
def violation : Check → Bool
  | .evaluation found => found.violation
  | .hardConstraints found => found.violation

/-- It found more than a warning is raised for. -/
def grave : Check → Bool
  | .evaluation found => found.grave
  | .hardConstraints found => found.violation

variable (check : Check)

/-- A check publishes its alert exactly when it found a violation. -/
theorem publish_alert :
    publish check.alert = if check.violation then [check.alert] else [] := by
  refine if_congr ?_ rfl rfl
  cases check with
  | evaluation found => exact MonitorEvaluation.info_lt_alert_iff
  | hardConstraints found => exact HardConstraintResults.info_lt_alert_iff

theorem critical_le_alert_iff : severityCritical ≤ check.alert.severity ↔ check.grave = true := by
  cases check with
  | evaluation found => exact MonitorEvaluation.critical_le_alert_iff
  | hardConstraints found => exact HardConstraintResults.critical_le_alert_iff

theorem alert_le_mrcRequired : check.alert.severity ≤ severityMrcRequired := by
  cases check with
  | evaluation found => exact MonitorEvaluation.alert_le_mrcRequired
  | hardConstraints found => exact HardConstraintResults.alert_le_mrcRequired

end Check

/-! ### The two nodes -/

/-- What the envelope manager reads of an alert. -/
def SafetyAlert.received (alert : SafetyAlert) : M1.SafetyAlert where
  severity := alert.severity

/-- The supervisor, the envelope manager, the alerts on their way from one to the other, and a
record of the checks that were made. -/
structure Pair where
  m7 : SafetySupervisorNode := {}
  m1 : OddEnvelopeManagerNode
  inFlight : List SafetyAlert := []
  made : List Check := []

/-- One of the nodes handles a callback, or the alert that has travelled longest arrives. The
envelope manager hears of alerts from the supervisor alone. -/
inductive PairEvent where
  | m7 (event : Event)
  | m1 (event : M1.Event) (noAlert : event.alert = none)
  | deliver (nowRos nowSteady : Int)

namespace Pair

variable (lib : MathLibrary) (config : M1.Config) (pair : Pair)

def deliver (nowRos nowSteady : Int) : Pair :=
  match pair.inFlight with
  | [] => pair
  | alert :: later =>
      { pair with
        m1 := pair.m1.next config (.safetyAlert alert.received nowRos nowSteady)
        inFlight := later }

def next : PairEvent → Pair
  | .m7 event =>
      { pair with
        m7 := pair.m7.next lib event
        inFlight := pair.inFlight ++ pair.m7.published lib event
        made := pair.made ++ (pair.m7.checkOf lib event).toList }
  | .m1 event _ => { pair with m1 := pair.m1.next config event }
  | .deliver nowRos nowSteady => pair.deliver config nowRos nowSteady

/-! ### What has been delivered -/

/-- The alerts of the checks that found a violation. -/
def raised (made : List Check) : List SafetyAlert := (made.filter Check.violation).map Check.alert

theorem raised_append_checkOf (made : List Check) (node : SafetySupervisorNode) (event : Event) :
    raised (made ++ (node.checkOf lib event).toList) = raised made ++ node.published lib event := by
  unfold raised SafetySupervisorNode.published
  rw [List.filter_append, List.map_append]
  congr 1
  cases node.checkOf lib event with
  | none => rfl
  | some check =>
    show (List.filter Check.violation [check]).map Check.alert = publish check.alert
    rw [check.publish_alert, List.filter_singleton]
    cases check.violation <;> rfl

/-- The alerts raised have been delivered or are on their way, in their order, and the envelope
manager holds the last one delivered. -/
def InOrder : Prop :=
  ∃ delivered, delivered ++ pair.inFlight = raised pair.made ∧
    pair.m1.lastSafetyAlert = delivered.getLast?.map SafetyAlert.received

variable {pair}

theorem next_inOrder (inOrder : pair.InOrder) (event : PairEvent) :
    (pair.next lib config event).InOrder := by
  obtain ⟨delivered, complete, held⟩ := inOrder
  cases event with
  | m7 event =>
    refine ⟨delivered, ?_, held⟩
    show delivered ++ (pair.inFlight ++ _) = raised (pair.made ++ _)
    rw [raised_append_checkOf, ← complete, List.append_assoc]
  | m1 event noAlert =>
    refine ⟨delivered, complete, ?_⟩
    show (pair.m1.next config event).lastSafetyAlert = _
    rw [M1.next_lastSafetyAlert, noAlert, Option.none_or]
    exact held
  | deliver nowRos nowSteady =>
    unfold next deliver
    cases waiting : pair.inFlight with
    | nil => exact ⟨delivered, complete, held⟩
    | cons alert later =>
      refine ⟨delivered ++ [alert], ?_, ?_⟩
      · rw [← complete, waiting, List.append_assoc, List.singleton_append]
      · rw [List.getLast?_concat]
        rfl

theorem run_inOrder {start : OddEnvelopeManagerNode} (unheard : start.lastSafetyAlert = none)
    (events : List PairEvent) : (run (next lib config) { m1 := start } events).InOrder :=
  run_invariant InOrder ⟨[], rfl, unheard⟩ fun _ event inOrder =>
    next_inOrder lib config inOrder event

end Pair

/-! ### The flags of the next cycle -/

/-- The last `count` checks were made and found no violation. -/
def LastClean (made : List Check) (count : Nat) : Prop :=
  1 ≤ count ∧ count ≤ made.length ∧
    ∀ check ∈ made.drop (made.length - count), check.violation = false

/-- The last of the checks that found a violation. -/
def lastViolation? (made : List Check) : Option Check := (made.filter Check.violation).getLast?

theorem flagsOf_eq_clear_iff {severity : UInt8} (known : severity ≤ severityMrcRequired) :
    M1.flagsOf severity = ⟨false, false⟩ ↔ ¬ severityCritical ≤ severity := by
  unfold M1.flagsOf M1.severityCritical M1.severityMrcRequired severityCritical
  unfold severityMrcRequired at known
  rw [M1.SeverityFlags.mk.injEq, decide_eq_false_iff_not, decide_eq_false_iff_not]
  grind

/-- Where nothing is on its way, the next cycle sees the flags of the last alert raised. -/
theorem flagsOfAlert_eq_clear_iff {pair : Pair} (inOrder : pair.InOrder)
    (arrived : pair.inFlight = []) :
    M1.flagsOfAlert pair.m1.lastSafetyAlert = ⟨false, false⟩ ↔
      ∀ check ∈ lastViolation? pair.made, check.grave = false := by
  obtain ⟨delivered, complete, held⟩ := inOrder
  rw [arrived, List.append_nil] at complete
  rw [held, complete]
  unfold Pair.raised lastViolation?
  rw [List.getLast?_map]
  cases (pair.made.filter Check.violation).getLast? with
  | none => exact iff_of_true rfl fun _ absent => nomatch absent
  | some check =>
    show M1.flagsOf check.alert.severity = _ ↔ _
    rw [flagsOf_eq_clear_iff check.alert_le_mrcRequired, check.critical_le_alert_iff]
    simp

/-- After any run of the two nodes the last checks, if they found nothing and all alerts have
arrived, leave both flags clear exactly when the last check that did find a violation, if there
was one, found no more than a warning is raised for. -/
theorem cleared_alarm_clears_iff (lib : MathLibrary) {config : M1.Config} {startedAt : Int}
    {start : OddEnvelopeManagerNode}
    (constructed : OddEnvelopeManagerNode.construct config startedAt = .ok start)
    (events : List PairEvent) {pair : Pair}
    (reached : pair = run (Pair.next lib config) { m1 := start } events)
    (count : Nat) (nowRos nowSteady : Int) :
    (LastClean pair.made count → pair.inFlight = [] →
        M1.actedOn config pair.m1 nowRos nowSteady = ⟨false, false⟩) ↔
      (LastClean pair.made count → pair.inFlight = [] →
        ∀ check ∈ lastViolation? pair.made, check.grave = false) := by
  obtain ⟨_, rfl⟩ := OddEnvelopeManagerNode.construct_fresh constructed
  have inOrder : pair.InOrder := reached ▸ Pair.run_inOrder lib config rfl events
  refine imp_congr_right fun _ => forall_congr' fun arrived => ?_
  rw [M1.actedOn_eq]
  exact flagsOfAlert_eq_clear_iff inOrder arrived

/-! ### Two modules that fell silent -/

/-- The world and the rules are reported. -/
def reported (now : Int) : List PairEvent :=
  [.m7 (.worldState { confidence := 1.0 } now),
    .m7 (.colregsConstraint { confidence := 1.0 } now)]

/-- Both are silent for four seconds and heard again half a second later, the check after that
finds nothing, and the alert arrives. -/
def silenceEnded : List PairEvent :=
  reported 0 ++
    [.m7 (.mainLoopTick (wholeSeconds 1)), .m7 (.mainLoopTick (wholeSeconds 2)),
      .m7 (.mainLoopTick (wholeSeconds 3)), .m7 (.mainLoopTick (wholeSeconds 4))] ++
    reported (milliseconds 4500) ++ [.m7 (.mainLoopTick (milliseconds 4600)), .deliver 0 0]

/-- The two nodes after it. -/
def afterSilence : Pair :=
  run (Pair.next aheadLibrary M1.shippedConfig) { m1 := M1.freshNode } silenceEnded

theorem cleared_alarm_clears_iff_afterSilence :
    (LastClean afterSilence.made 1 → afterSilence.inFlight = [] →
        M1.actedOn M1.shippedConfig afterSilence.m1 0 0 = ⟨false, false⟩) ↔
      (LastClean afterSilence.made 1 → afterSilence.inFlight = [] →
        ∀ check ∈ lastViolation? afterSilence.made, check.grave = false) :=
  cleared_alarm_clears_iff aheadLibrary M1.construct_shipped silenceEnded rfl 1 0 0

theorem afterSilence_lastClean : LastClean afterSilence.made 1 := by
  unfold LastClean
  decide +kernel

/-- The envelope manager still acts on the demand for minimum risk. -/
theorem cleared_alarm_remains :
    ¬ ∀ (lib : MathLibrary) (config : M1.Config) (startedAt : Int)
        (start : OddEnvelopeManagerNode),
        OddEnvelopeManagerNode.construct config startedAt = .ok start →
        ∀ (events : List PairEvent) (pair : Pair),
          pair = run (Pair.next lib config) { m1 := start } events →
          ∀ (count : Nat) (nowRos nowSteady : Int), LastClean pair.made count →
            pair.inFlight = [] → M1.actedOn config pair.m1 nowRos nowSteady = ⟨false, false⟩ := by
  intro cleared
  have arrived : afterSilence.inFlight = [] :=
    List.isEmpty_iff.mp (by decide +kernel)
  have clear := cleared aheadLibrary M1.shippedConfig 0 M1.freshNode M1.construct_shipped
    silenceEnded afterSilence rfl 1 0 0 afterSilence_lastClean arrived
  rw [M1.actedOn_eq] at clear
  revert clear
  decide +kernel

end MassL3.M7
