/-
This file is about what the arbitrator returns. The pool never fills up, the sort of the source is
an insertion sort, and so the alert has the greatest severity of the conditions that are active.
An alert that is critical at least names a manoeuvre, because the conditions that make it so are
among those for which the selector wants one, and the lockout replaces a manoeuvre by another but
never by none.

It also follows the danger veto from the performance monitor to the alert. The monitor reports
that the primary threat is in the danger domain and closing, but no candidate and no manoeuvre
depends on that report, so the alert rises above informational exactly when something else was
found.
-/

import MassTdl.Supervisor.Freeze
import Mathlib.Data.List.Sort
import Mathlib.Order.Bounds.Defs

namespace MassL3.M7

/-! ### Conditions -/

/-- A condition is active, and alerts of it have a severity. -/
inductive ActiveCondition (ctx : ScenarioContext) (diag : DiagnosticResult) (extreme : Bool) :
    UInt8 → Prop where
  | diagnosticFault (fault : diag.anyFault = true) :
      ActiveCondition ctx diag extreme severityWarning
  | moduleCritical (critical : ctx.watchdog.anyCritical = true)
      (single : ¬ ctx.watchdog.criticalCount ≥ 2) :
      ActiveCondition ctx diag extreme severityCritical
  | modulesCritical (critical : ctx.watchdog.anyCritical = true)
      (several : ctx.watchdog.criticalCount ≥ 2) :
      ActiveCondition ctx diag extreme severityMrcRequired
  | extremeScenario (isExtreme : extreme = true) :
      ActiveCondition ctx diag extreme severityMrcRequired
  | severalViolations (notExtreme : extreme = false)
      (several : ctx.assumption.totalViolationCount ≥ 2) :
      ActiveCondition ctx diag extreme severityCritical
  | singleViolation (notExtreme : extreme = false)
      (single : ¬ ctx.assumption.totalViolationCount ≥ 2)
      (violated : ctx.assumption.totalViolationCount ≥ 1) :
      ActiveCondition ctx diag extreme severityWarning
  | performanceDegraded
      (degraded : (ctx.performance.cpaTrendDegrading || ctx.performance.multipleTargetsNearby) =
        true) :
      ActiveCondition ctx diag extreme severityWarning

/-! ### The pool -/

variable {ctx : ScenarioContext} {diag : DiagnosticResult} {extreme : Bool}
  {pool : List AlertCandidate}

theorem pushCandidate_room (room : pool.length < kMaxAlertCandidates)
    (candidate : AlertCandidate) : pushCandidate pool candidate = pool ++ [candidate] := if_pos room

/-- What the monitors of IEC 61508 contribute. -/
def iec61508Candidates (ctx : ScenarioContext) (diag : DiagnosticResult) : List AlertCandidate :=
  (if diag.anyFault then [diagnosticFault] else []) ++
    if ctx.watchdog.anyCritical then [watchdogCritical ctx.watchdog.criticalCount] else []

/-- What the assumptions contribute. -/
def sotifCandidates (ctx : ScenarioContext) (extreme : Bool) : List AlertCandidate :=
  if extreme then [extremeViolations]
  else if ctx.assumption.totalViolationCount ≥ 2 then [severalViolations]
  else if ctx.assumption.totalViolationCount ≥ 1 then [singleViolation]
  else []

/-- What the performance contributes. -/
def perfCandidates (ctx : ScenarioContext) : List AlertCandidate :=
  if ctx.performance.cpaTrendDegrading || ctx.performance.multipleTargetsNearby then
    [performanceDegraded]
  else []

theorem collectIec61508Candidates_nil :
    collectIec61508Candidates ctx diag [] = iec61508Candidates ctx diag := by
  unfold collectIec61508Candidates iec61508Candidates pushCandidate
  split_ifs <;> first | rfl | contradiction

theorem collectSotifCandidates_room (room : pool.length < kMaxAlertCandidates) :
    collectSotifCandidates ctx extreme pool = pool ++ sotifCandidates ctx extreme := by
  unfold collectSotifCandidates sotifCandidates
  split_ifs
  · exact pushCandidate_room room _
  · exact pushCandidate_room room _
  · exact pushCandidate_room room _
  · exact (List.append_nil pool).symm

theorem collectPerfCandidates_room (room : pool.length < kMaxAlertCandidates) :
    collectPerfCandidates ctx pool = pool ++ perfCandidates ctx := by
  unfold collectPerfCandidates perfCandidates
  split_ifs
  · exact pushCandidate_room room _
  · exact (List.append_nil pool).symm

theorem length_iec61508Candidates : (iec61508Candidates ctx diag).length ≤ 2 := by
  unfold iec61508Candidates
  split_ifs <;> simp only [List.length_append, List.length_singleton, List.length_nil] <;> omega

theorem length_sotifCandidates : (sotifCandidates ctx extreme).length ≤ 1 := by
  unfold sotifCandidates
  split_ifs <;> decide

/-- Every condition finds room in the pool. -/
theorem collectCandidates_eq :
    collectCandidates ctx diag extreme =
      iec61508Candidates ctx diag ++ sotifCandidates ctx extreme ++ perfCandidates ctx := by
  have first : (iec61508Candidates ctx diag).length ≤ 2 := length_iec61508Candidates
  have second : (sotifCandidates ctx extreme).length ≤ 1 := length_sotifCandidates
  unfold collectCandidates
  rw [collectIec61508Candidates_nil,
    collectSotifCandidates_room (by unfold kMaxAlertCandidates; omega),
    collectPerfCandidates_room (by rw [List.length_append]; unfold kMaxAlertCandidates; omega)]

variable {candidate : AlertCandidate}

theorem mem_iec61508Candidates :
    candidate ∈ iec61508Candidates ctx diag ↔
      diag.anyFault = true ∧ candidate = diagnosticFault ∨
        ctx.watchdog.anyCritical = true ∧
          candidate = watchdogCritical ctx.watchdog.criticalCount := by
  unfold iec61508Candidates
  split_ifs with fault critical critical <;> simp [fault, critical]

theorem mem_sotifCandidates :
    candidate ∈ sotifCandidates ctx extreme ↔
      extreme = true ∧ candidate = extremeViolations ∨
        extreme = false ∧ ctx.assumption.totalViolationCount ≥ 2 ∧
          candidate = severalViolations ∨
        extreme = false ∧ ¬ ctx.assumption.totalViolationCount ≥ 2 ∧
          ctx.assumption.totalViolationCount ≥ 1 ∧ candidate = singleViolation := by
  unfold sotifCandidates
  split_ifs with isExtreme several violated
  · simp [isExtreme]
  · simp [isExtreme, several]
  · simp only [isExtreme, several, violated, not_false_eq_true, true_and, false_and, false_or,
      Bool.false_eq_true, List.mem_singleton]
  · simp only [isExtreme, several, violated, false_and, and_false, or_self, Bool.false_eq_true,
      List.not_mem_nil]

theorem mem_perfCandidates :
    candidate ∈ perfCandidates ctx ↔
      (ctx.performance.cpaTrendDegrading || ctx.performance.multipleTargetsNearby) = true ∧
        candidate = performanceDegraded := by
  unfold perfCandidates
  split_ifs with degraded <;> simp [degraded]

/-- The candidates are those of the active conditions. -/
theorem severity_mem_collectCandidates (severity : UInt8) :
    severity ∈ (collectCandidates ctx diag extreme).map (·.severity) ↔
      ActiveCondition ctx diag extreme severity := by
  rw [collectCandidates_eq]
  simp only [List.mem_map, List.mem_append, mem_iec61508Candidates, mem_sotifCandidates,
    mem_perfCandidates]
  constructor
  · rintro ⟨candidate, ((⟨fault, rfl⟩ | ⟨critical, rfl⟩) | ⟨isExtreme, rfl⟩ |
      ⟨notExtreme, several, rfl⟩ | ⟨notExtreme, single, violated, rfl⟩) | ⟨degraded, rfl⟩, rfl⟩
    · exact .diagnosticFault fault
    · unfold watchdogCritical
      split_ifs with several
      · exact .modulesCritical critical several
      · exact .moduleCritical critical several
    · exact .extremeScenario isExtreme
    · exact .severalViolations notExtreme several
    · exact .singleViolation notExtreme single violated
    · exact .performanceDegraded degraded
  · intro active
    cases active with
    | diagnosticFault fault => exact ⟨_, .inl (.inl (.inl ⟨fault, rfl⟩)), rfl⟩
    | moduleCritical critical single =>
      exact ⟨_, .inl (.inl (.inr ⟨critical, rfl⟩)), if_neg single⟩
    | modulesCritical critical several =>
      exact ⟨_, .inl (.inl (.inr ⟨critical, rfl⟩)), if_pos several⟩
    | extremeScenario isExtreme => exact ⟨_, .inl (.inr (.inl ⟨isExtreme, rfl⟩)), rfl⟩
    | severalViolations notExtreme several =>
      exact ⟨_, .inl (.inr (.inr (.inl ⟨notExtreme, several, rfl⟩))), rfl⟩
    | singleViolation notExtreme single violated =>
      exact ⟨_, .inl (.inr (.inr (.inr ⟨notExtreme, single, violated, rfl⟩))), rfl⟩
    | performanceDegraded degraded => exact ⟨_, .inr ⟨degraded, rfl⟩, rfl⟩

/-! ### The sort -/

/-- The order in which the sort keeps its sorted part, seen from the end. -/
def NoMoreSevere (first second : AlertCandidate) : Prop := first.severity ≤ second.severity

instance : DecidableRel NoMoreSevere :=
  fun first second => inferInstanceAs (Decidable (first.severity ≤ second.severity))

instance : Std.Total NoMoreSevere := ⟨fun _ _ => UInt8.le_total _ _⟩

instance : IsTrans AlertCandidate NoMoreSevere := ⟨fun _ _ _ => UInt8.le_trans⟩

theorem insertFromEnd_eq (key : AlertCandidate) (sorted : List AlertCandidate) :
    insertFromEnd key sorted = sorted.orderedInsert NoMoreSevere key := by
  induction sorted with
  | nil => rfl
  | cons last before inductionHypothesis =>
    unfold insertFromEnd
    rw [List.orderedInsert_cons, inductionHypothesis]
    by_cases lower : last.severity < key.severity
    · have after : ¬ NoMoreSevere key last := UInt8.not_le.mpr lower
      rw [if_pos lower, if_neg after]
    · have before : NoMoreSevere key last := UInt8.not_lt.mp lower
      rw [if_neg lower, if_pos before]

theorem sortCandidates_eq (pool : List AlertCandidate) :
    sortCandidates pool = (pool.reverse.insertionSort NoMoreSevere).reverse := by
  unfold sortCandidates List.insertionSort
  rw [List.foldr_reverse]
  congr 1
  exact congrArg (fun insert => pool.foldl insert []) (funext₂ fun sorted key =>
    insertFromEnd_eq key sorted)

/-- The first candidate is one of the pool, and none is more severe. -/
theorem sortCandidates_head {top : AlertCandidate} {rest : List AlertCandidate}
    (sorted : sortCandidates pool = top :: rest) :
    top ∈ pool ∧ ∀ candidate ∈ pool, candidate.severity ≤ top.severity := by
  have sameMembers : ∀ candidate, candidate ∈ top :: rest ↔ candidate ∈ pool := by
    intro candidate
    rw [← sorted, sortCandidates_eq, List.mem_reverse, List.mem_insertionSort, List.mem_reverse]
  have descending : (top :: rest).Pairwise fun first second => NoMoreSevere second first := by
    rw [← sorted, sortCandidates_eq, List.pairwise_reverse]
    exact List.pairwise_insertionSort NoMoreSevere _
  refine ⟨(sameMembers top).mp List.mem_cons_self, fun candidate member => ?_⟩
  rcases List.mem_cons.mp ((sameMembers candidate).mpr member) with rfl | later
  · exact UInt8.le_refl _
  · exact List.rel_of_pairwise_cons descending later

theorem sortCandidates_eq_nil (empty : sortCandidates pool = []) : pool = [] := by
  rw [sortCandidates_eq, List.reverse_eq_nil_iff] at empty
  have same := List.length_insertionSort NoMoreSevere pool.reverse
  rw [empty, List.length_reverse] at same
  exact List.length_eq_zero_iff.mp same.symm

/-! ### The alert -/

variable {decision : MrmDecision}

/-- The alert has the greatest severity of the active conditions, and without one it is
informational. -/
theorem arbitrate_severity :
    IsGreatest {severity | severity = severityInfo ∨ ActiveCondition ctx diag extreme severity}
      (arbitrate ctx decision diag extreme).severity := by
  have active : ∀ severity, severity ∈ (collectCandidates ctx diag extreme).map (·.severity) ↔
      ActiveCondition ctx diag extreme severity := severity_mem_collectCandidates
  unfold arbitrate
  cases sorted : sortCandidates (collectCandidates ctx diag extreme) with
  | nil =>
    refine ⟨Or.inl rfl, fun severity member => ?_⟩
    rcases member with rfl | isActive
    · exact UInt8.le_refl _
    · rw [← active, sortCandidates_eq_nil sorted] at isActive
      exact absurd isActive List.not_mem_nil
  | cons top rest =>
    obtain ⟨inPool, greatest⟩ := sortCandidates_head sorted
    refine ⟨Or.inr ((active _).mp (List.mem_map_of_mem inPool)), fun severity member => ?_⟩
    rcases member with rfl | isActive
    · exact UInt8.zero_le
    · obtain ⟨candidate, candidateInPool, rfl⟩ := List.mem_map.mp ((active _).mpr isActive)
      exact greatest candidate candidateInPool

theorem arbitrate_recommendedMrm :
    (arbitrate ctx decision diag extreme).recommendedMrm = decision.mrmId.text ∨
      (arbitrate ctx decision diag extreme).severity = severityInfo := by
  unfold arbitrate
  cases sortCandidates (collectCandidates ctx diag extreme) with
  | nil => exact Or.inr rfl
  | cons top rest => exact Or.inl rfl

/-! ### The manoeuvre -/

/-- A critical module, or two violations, make the selector want a manoeuvre. -/
theorem rawSelect_ne_none {odd : ODDState}
    (grave : 1 ≤ ctx.watchdog.criticalCount ∨ 2 ≤ ctx.assumption.totalViolationCount) :
    rawSelect ctx odd ≠ .none := by
  have byWatchdog (lost : 1 ≤ ctx.watchdog.criticalCount) : rawSelectWatchdog ctx ≠ .none := by
    unfold rawSelectWatchdog
    split_ifs with many few
    · decide
    · decide
    · refine absurd ⟨lost, ?_⟩ few
      rw [ge_iff_le, UInt32.le_iff_toNat_le] at many
      rw [UInt32.le_iff_toNat_le]
      exact Nat.le_of_lt_succ (not_le.mp many)
  unfold rawSelect
  split_ifs with mooring nearby extreme degrading watchdog several single
  · decide
  · decide
  · decide
  · decide
  · exact watchdog
  · decide
  · decide
  · rcases grave with lost | violated
    · exact absurd (byWatchdog lost) watchdog
    · exact absurd violated several

/-- The lockout never takes a manoeuvre away. -/
theorem select_ne_none {selector : MrmSelector} {odd : ODDState} {world : WorldState} {now : Int}
    (wanted : rawSelect ctx odd ≠ .none) : (selector.select ctx odd world now).2.mrmId ≠ .none := by
  show (if selector.lockedOut (rawSelect ctx odd) now then selector.lastId
    else rawSelect ctx odd) ≠ .none
  split_ifs with locked
  · unfold MrmSelector.lockedOut at locked
    exact of_decide_eq_true (Bool.and_eq_true_iff.mp locked).2
  · exact wanted

/-- Only a critical module or two violations make a condition critical. -/
theorem ActiveCondition.grave {severity : UInt8}
    (active : ActiveCondition ctx diag (MassL3.M7.extremeScenario ctx.assumption) severity)
    (critical : severityCritical ≤ severity) :
    ctx.watchdog.anyCritical = true ∨ 2 ≤ ctx.assumption.totalViolationCount := by
  cases active with
  | diagnosticFault => exact absurd critical (by decide)
  | moduleCritical anyCritical | modulesCritical anyCritical => exact Or.inl anyCritical
  | extremeScenario isExtreme =>
    exact Or.inr (UInt32.le_trans (by decide) (of_decide_eq_true isExtreme))
  | severalViolations _ several => exact Or.inr several
  | singleViolation => exact absurd critical (by decide)
  | performanceDegraded => exact absurd critical (by decide)

/-- The arbitrator returns the greatest severity of the active conditions, and an alert that is
critical at least names a manoeuvre, whatever the monitors found and the selector remembers. -/
theorem arbitrate_greatest_and_actionable (watchdog : WatchdogMonitor)
    (assumption : AssumptionStatus) (performance : PerformanceStatus) (selector : MrmSelector)
    (diag : DiagnosticResult) (odd : ODDState) (world : WorldState) (now : Int) :
    let ctx : ScenarioContext := { assumption, watchdog := watchdog.evaluate now, performance }
    let alert := arbitrate ctx (selector.select ctx odd world now).2 diag
      (extremeScenario assumption)
    IsGreatest {severity | severity = severityInfo ∨
        ActiveCondition ctx diag (extremeScenario assumption) severity} alert.severity ∧
      (severityCritical ≤ alert.severity → alert.recommendedMrm ≠ MrmId.none.text) := by
  intro ctx alert
  have greatest : IsGreatest {severity | severity = severityInfo ∨
      ActiveCondition ctx diag (extremeScenario assumption) severity} alert.severity :=
    arbitrate_severity
  refine ⟨greatest, fun critical => ?_⟩
  have grave : ctx.watchdog.anyCritical = true ∨ 2 ≤ ctx.assumption.totalViolationCount := by
    rcases greatest.1 with info | active
    · exact absurd (info ▸ critical) (by decide)
    · exact active.grave critical
  have wanted : rawSelect ctx odd ≠ .none :=
    rawSelect_ne_none (grave.imp_left watchdog.one_le_criticalCount)
  have named : alert.recommendedMrm = (selector.select ctx odd world now).2.mrmId.text := by
    have source : alert.recommendedMrm = (selector.select ctx odd world now).2.mrmId.text ∨
        alert.severity = severityInfo := arbitrate_recommendedMrm
    rcases source with same | info
    · exact same
    · exact absurd (info ▸ critical) (by decide)
  rw [named]
  exact fun none => select_ne_none wanted ((MrmId.text_eq_none_iff _).mp none)

end MassL3.M7

namespace MassL3.M7

open PerformanceMonitor

/-! ### What raises an alert -/

variable {ctx : ScenarioContext} {diag : DiagnosticResult} {extreme : Bool}

theorem ActiveCondition.above_info {severity : UInt8}
    (active : ActiveCondition ctx diag extreme severity) :
    severityInfo < severity := by
  cases active <;> decide

theorem severityInfo_lt_arbitrate_iff {decision : MrmDecision} :
    severityInfo < (arbitrate ctx decision diag extreme).severity ↔
      ∃ severity, ActiveCondition ctx diag extreme severity := by
  have isGreatest : IsGreatest {severity | severity = severityInfo ∨
      ActiveCondition ctx diag extreme severity} (arbitrate ctx decision diag extreme).severity :=
    arbitrate_severity
  obtain ⟨attained, greatest⟩ := isGreatest
  constructor
  · intro raised
    rcases attained with info | active
    · exact absurd (info ▸ raised) (by decide)
    · exact ⟨_, active⟩
  · rintro ⟨severity, active⟩
    exact UInt8.lt_of_lt_of_le active.above_info (greatest (Or.inr active))

/-- A condition is active exactly when one of the monitors found something. -/
theorem exists_activeCondition_iff :
    (∃ severity, ActiveCondition ctx diag extreme severity) ↔
      diag.anyFault = true ∨ ctx.watchdog.anyCritical = true ∨ extreme = true ∨
        ctx.assumption.totalViolationCount ≥ 1 ∨ ctx.performance.cpaTrendDegrading = true ∨
        ctx.performance.multipleTargetsNearby = true := by
  constructor
  · rintro ⟨severity, active⟩
    cases active with
    | diagnosticFault fault => exact Or.inl fault
    | moduleCritical critical | modulesCritical critical => exact Or.inr (Or.inl critical)
    | extremeScenario isExtreme => exact Or.inr (Or.inr (Or.inl isExtreme))
    | severalViolations _ several =>
      exact Or.inr (Or.inr (Or.inr (Or.inl (UInt32.le_trans (by decide) several))))
    | singleViolation _ _ violated => exact Or.inr (Or.inr (Or.inr (Or.inl violated)))
    | performanceDegraded degraded =>
      exact Or.inr (Or.inr (Or.inr (Or.inr (Bool.or_eq_true_iff.mp degraded))))
  · rintro (fault | critical | isExtreme | violated | degraded)
    · exact ⟨_, .diagnosticFault fault⟩
    · by_cases several : ctx.watchdog.criticalCount ≥ 2
      · exact ⟨_, .modulesCritical critical several⟩
      · exact ⟨_, .moduleCritical critical several⟩
    · exact ⟨_, .extremeScenario isExtreme⟩
    · cases isExtreme : extreme with
      | true => exact ⟨_, .extremeScenario rfl⟩
      | false =>
        by_cases several : ctx.assumption.totalViolationCount ≥ 2
        · exact ⟨_, .severalViolations rfl several⟩
        · exact ⟨_, .singleViolation rfl several violated⟩
    · exact ⟨_, .performanceDegraded (Bool.or_eq_true_iff.mpr degraded)⟩

namespace MonitorEvaluation

/-- Something is found other than a danger veto. -/
def OtherFinding (evaluation : MonitorEvaluation) : Prop :=
  evaluation.diag.anyFault = true ∨ evaluation.ctx.watchdog.anyCritical = true ∨
    evaluation.ctx.assumption.totalViolationCount ≥ 1 ∨
    evaluation.ctx.performance.cpaTrendDegrading = true ∨
    evaluation.ctx.performance.multipleTargetsNearby = true

variable {evaluation : MonitorEvaluation}

/-- The extreme scenario is itself a violated assumption. -/
theorem activeCondition_iff (isExtreme : evaluation.extreme =
      extremeScenario evaluation.ctx.assumption) :
    (∃ severity, ActiveCondition evaluation.ctx evaluation.diag evaluation.extreme severity) ↔
      evaluation.OtherFinding := by
  rw [exists_activeCondition_iff, isExtreme]
  refine or_congr_right (or_congr_right (or_iff_right_of_imp fun extreme => ?_))
  exact Or.inl (UInt32.le_trans (by decide) (of_decide_eq_true extreme))

end MonitorEvaluation

/-! ### The veto and the alert -/

variable (lib : Risk.MathLibrary) (node : SafetySupervisorNode) (now : Int)

/-- What the main loop finds in a cycle. -/
def SafetySupervisorNode.evaluation : MonitorEvaluation := (node.runMonitorEvaluation lib now).2

/-- The veto is called for by the world alone. -/
theorem evaluation_dangerVetoActive :
    (node.evaluation lib now).ctx.performance.dangerVetoActive =
      (primaryOf lib node.lastWorld).any callsForVeto := rfl

/-- A danger veto raises the alert above informational exactly when, if the primary threat
calls for one, something else was found in the same cycle. -/
theorem danger_veto_reaches_alert_iff :
    ((node.evaluation lib now).ctx.performance.dangerVetoActive = true →
        severityInfo < (node.evaluation lib now).alert.severity) ↔
      ((primaryOf lib node.lastWorld).any callsForVeto = true →
        (node.evaluation lib now).OtherFinding) := by
  rw [evaluation_dangerVetoActive]
  refine imp_congr_right fun _ => ?_
  exact severityInfo_lt_arbitrate_iff.trans (MonitorEvaluation.activeCondition_iff rfl)

/-- One vessel comes closer in the danger domain, everything else is in order, and the first
cycle calls for a veto and raises nothing. -/
def vesselInDangerDomain : List Event :=
  [.colregsConstraint { confidence := 1.0 } 0, .worldState closingAhead 0]

theorem danger_veto_raises_nothing :
    ¬ ∀ (lib : Risk.MathLibrary) (events : List Event) (now : Int),
        ((after lib events).evaluation lib now).ctx.performance.dangerVetoActive = true →
          severityInfo < ((after lib events).evaluation lib now).alert.severity := by
  intro raised
  have veto : ((after aheadLibrary vesselInDangerDomain).evaluation aheadLibrary
      (milliseconds 250)).ctx.performance.dangerVetoActive = true := by
    decide +kernel
  have silent : ((after aheadLibrary vesselInDangerDomain).evaluation aheadLibrary
      (milliseconds 250)).alert.severity = severityInfo := by
    decide
  have alerted := raised aheadLibrary vesselInDangerDomain (milliseconds 250) veto
  rw [silent] at alerted
  exact absurd alerted (by decide)

end MassL3.M7
