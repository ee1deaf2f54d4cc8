/-
This file proves how severe and how confident the alert of the hard constraints is. The alert is
about the first violated constraint in a fixed order of priority, and each constraint has a
severity of its own. The two that are only critical stand in the middle of the order. So the
severity is the worst of the violated constraints, unless one of those two outranks a violation
that is worse.

The confidence falls with the deviation of the violated constraint, and nothing bounds a
deviation. A closest approach below the floor always takes all of the confidence and more. So does
a speed from 24.6 m/s on, and so does a rate of turn above 10.25 degrees a second.
-/

import MassTdl.Binary64.Single
import MassTdl.Supervisor.Node

namespace MassL3.M7

open Binary64
open Clamps
open MassL3.M7.Core
open MassL3.Risk (MathLibrary)

/-! ### One constraint alone -/

/-- The constraints an alert is built from. -/
inductive HardConstraint where
  | cpa
  | colregs
  | speed
  | rot
  | watchdog
  | dc
  deriving DecidableEq, Repr

def HardConstraint.all : List HardConstraint := [.cpa, .colregs, .speed, .rot, .watchdog, .dc]

/-- What a violation of the constraint is graded as. -/
def HardConstraint.severity : HardConstraint → UInt8
  | .cpa | .colregs => severityCritical
  | .speed | .rot | .watchdog | .dc => severityMrcRequired

namespace HardConstraintResults

/-- Results in which every constraint is met. -/
def clear : HardConstraintResults where
  cpa := { consistent := true }
  colregs := { consistent := true }
  speed := { compliant := true }
  rot := { compliant := true }
  watchdog := {}
  dc := { dcMet := true }

variable (results : HardConstraintResults)

def violated : HardConstraint → Bool
  | .cpa => !results.cpa.consistent
  | .colregs => !results.colregs.consistent
  | .speed => !results.speed.compliant
  | .rot => !results.rot.compliant
  | .watchdog => results.watchdog.multiCritical || results.watchdog.anyCritical
  | .dc => results.dc.violation

/-- One constraint as it was found, with all the others met. -/
def only : HardConstraint → HardConstraintResults
  | .cpa => { clear with cpa := results.cpa }
  | .colregs => { clear with colregs := results.colregs }
  | .speed => { clear with speed := results.speed }
  | .rot => { clear with rot := results.rot }
  | .watchdog => { clear with watchdog := results.watchdog }
  | .dc => { clear with dc := results.dc }

/-- The severity a constraint yields alone. -/
def severityAlone (constraint : HardConstraint) : UInt8 := (results.only constraint).alert.severity

/-- The worst severity a violated constraint yields alone. -/
def worstSeverity : UInt8 :=
  ((HardConstraint.all.filter results.violated).map results.severityAlone).foldl max severityInfo

/-- A constraint on the encounter is violated, and it stands before a violation that is worse:
neither do several modules fail nor is the coverage too low, while the ship is too fast, turns
too fast, or a single module fails. -/
def Outranked : Prop :=
  (results.violated .cpa ∨ results.violated .colregs) ∧
    ¬ (results.watchdog.multiCritical ∨ results.violated .dc) ∧
    (results.violated .speed ∨ results.violated .rot ∨ results.violated .watchdog)

instance : Decidable results.Outranked := inferInstanceAs (Decidable (_ ∧ _ ∧ _))

/-! ### The alert against the worst -/

/-- However large a violation is, only its constraint decides what it yields alone. -/
theorem severityAlone_of_violated {constraint : HardConstraint}
    (found : results.violated constraint = true) :
    results.severityAlone constraint = constraint.severity := by
  cases constraint with
  | watchdog =>
    unfold violated at found
    unfold severityAlone alert buildSafetyAlertFromHardConstraints
    cases several : results.watchdog.multiCritical with
    | true => simp [only, several, HardConstraint.severity]
    | false =>
      rw [several, Bool.false_or] at found
      simp [only, several, found, clear, HardConstraint.severity]
  | _ =>
    simp only [violated, Bool.not_eq_true'] at found
    simp [severityAlone, alert, buildSafetyAlertFromHardConstraints, only, found, clear,
      HardConstraint.severity]

/-- The worst is that of a fault or of the ship's own motion, else that of the encounter. -/
theorem worstSeverity_eq : results.worstSeverity =
    if results.violated .speed ∨ results.violated .rot ∨ results.violated .watchdog ∨
        results.violated .dc then severityMrcRequired
    else if results.violated .cpa ∨ results.violated .colregs then severityCritical
    else severityInfo := by
  have graded : (HardConstraint.all.filter results.violated).map results.severityAlone =
      (HardConstraint.all.filter results.violated).map HardConstraint.severity :=
    List.map_congr_left fun constraint found =>
      results.severityAlone_of_violated (List.mem_filter.mp found).2
  unfold worstSeverity
  rw [graded]
  unfold HardConstraint.all
  simp only [List.filter_cons, List.filter_nil]
  generalize results.violated .cpa = cpa
  generalize results.violated .colregs = colregs
  generalize results.violated .speed = speed
  generalize results.violated .rot = rot
  generalize results.violated .watchdog = watchdog
  generalize results.violated .dc = dc
  revert cpa colregs speed rot watchdog dc
  decide

/-- The order in which the alert looks at the constraints, as far as the severity tells it. -/
theorem alert_severity : results.alert.severity =
    if results.watchdog.multiCritical ∨ results.violated .dc then severityMrcRequired
    else if results.violated .cpa ∨ results.violated .colregs then severityCritical
    else if results.violated .speed ∨ results.violated .rot ∨ results.violated .watchdog then
      severityMrcRequired
    else severityInfo := by
  unfold alert buildSafetyAlertFromHardConstraints violated
  simp only [apply_ite SafetyAlert.severity]
  generalize results.watchdog.multiCritical = several
  generalize results.watchdog.anyCritical = single
  generalize results.dc.violation = coverage
  generalize results.cpa.consistent = cpa
  generalize results.colregs.consistent = colregs
  generalize results.speed.compliant = speed
  generalize results.rot.compliant = rot
  revert several single coverage cpa colregs speed rot
  decide

/-- What makes the worst severity the highest there is. -/
theorem worstSeverity_of_worse
    (worse : results.violated .speed ∨ results.violated .rot ∨ results.violated .watchdog ∨
      results.violated .dc) :
    results.worstSeverity = severityMrcRequired := by
  rw [worstSeverity_eq, if_pos worse]

theorem alert_severity_of_outranked (outranked : results.Outranked) :
    results.alert.severity = severityCritical ∧ results.worstSeverity = severityMrcRequired := by
  obtain ⟨encounter, notGrave, worse⟩ := outranked
  refine ⟨by rw [alert_severity, if_neg notGrave, if_pos encounter], ?_⟩
  exact results.worstSeverity_of_worse (worse.imp_right fun rest => rest.imp_right .inl)

theorem alert_severity_of_not_outranked (free : ¬ results.Outranked) :
    results.alert.severity = results.worstSeverity := by
  rw [alert_severity]
  by_cases grave : results.watchdog.multiCritical ∨ results.violated .dc
  · have worse : results.violated .watchdog ∨ results.violated .dc :=
      grave.imp_left fun several => by rw [violated, several, Bool.true_or]
    rw [if_pos grave, results.worstSeverity_of_worse (.inr (.inr worse))]
  rw [if_neg grave]
  by_cases worse : results.violated .speed ∨ results.violated .rot ∨ results.violated .watchdog
  · have noEncounter : ¬ (results.violated .cpa ∨ results.violated .colregs) :=
      fun encounter => free ⟨encounter, grave, worse⟩
    rw [if_neg noEncounter, if_pos worse,
      results.worstSeverity_of_worse (worse.imp_right fun rest => rest.imp_right .inl)]
  · have none : ¬ (results.violated .speed ∨ results.violated .rot ∨
        results.violated .watchdog ∨ results.violated .dc) := fun found =>
      worse (found.imp_right fun rest => rest.imp_right fun fault =>
        fault.resolve_right fun coverage => grave (.inr coverage))
    rw [if_neg worse, worstSeverity_eq, if_neg none]

/-- The alert carries the worst severity exactly when no violation of the encounter outranks a
worse one, and then it is critical. -/
theorem alert_severity_eq_worst :
    (results.alert.severity = results.worstSeverity ↔ ¬ results.Outranked) ∧
      (results.Outranked → results.alert.severity = severityCritical ∧
        results.worstSeverity = severityMrcRequired) := by
  refine ⟨⟨fun same outranked => ?_, results.alert_severity_of_not_outranked⟩,
    results.alert_severity_of_outranked⟩
  obtain ⟨critical, required⟩ := results.alert_severity_of_outranked outranked
  rw [critical, required] at same
  exact absurd same (by decide)

/-- The ship keeps her heading in a head-on encounter, and she is too fast. -/
def headOnTooFast : HardConstraintResults :=
  { clear with
    colregs := checkColregsGeometry .rule14HeadOn 0.0
    speed := checkSpeedLimit 15.0 kSpeedLimitMps }

/-- Too fast alone she would be told to reach the minimum-risk condition; with the rule broken
as well the alert is less severe. -/
theorem headOnTooFast_severity :
    headOnTooFast.violated .colregs = true ∧ headOnTooFast.violated .speed = true ∧
      headOnTooFast.alert.severity ≠ headOnTooFast.worstSeverity := by
  decide

end HardConstraintResults

/-! ### An excess over a limit -/

def IsProbability (confidence : Float32) : Prop := 0.0 ≤ confidence ∧ confidence ≤ 1.0

instance (confidence : Float32) : Decidable (IsProbability confidence) :=
  inferInstanceAs (Decidable (_ ∧ _))

/-- A constraint's deviation is taken off full confidence, in parts of a scale. -/
def confidenceOf (deviation scale : Float32) : Float32 := 1.0 - deviation / scale

/-- A confidence that is not negative was computed from a number. -/
theorem number_of_confidence {deviation scale : Float32}
    (finite : (unpackedSingle scale).isFinite = true) (positive : 0.0 < scale)
    (nonneg : 0.0 ≤ confidenceOf deviation scale) : deviation.isNaN = false := by
  have number := ((single_le_iff _ _).mp nonneg).2.1
  exact (keepsOrder_div finite positive).number (single_number_of_sub number).2

theorem confidenceOf_le {deviation other scale : Float32}
    (finite : (unpackedSingle scale).isFinite = true) (positive : 0.0 < scale)
    (order : deviation ≤ other) : confidenceOf other scale ≤ confidenceOf deviation scale :=
  single_le_sub rfl ((keepsOrder_div finite positive).le order)

/-- What a value exceeds the tolerated limit by, in percent of the limit. -/
def excessOf (limit value : Float32) : Float32 :=
  (value - limit * kLimitTolerance) / limit * 100.0

/-- The last value whose excess over a limit leaves some confidence, and the next one. -/
structure Exhausts (limit last next : Float32) : Prop where
  limitFinite : (unpackedSingle limit).isFinite = true
  limitPositive : 0.0 < limit
  toleratedFinite : (unpackedSingle (limit * kLimitTolerance)).isFinite = true
  toleratedLe : limit * kLimitTolerance ≤ last
  atTolerated : confidenceOf (excessOf limit (limit * kLimitTolerance)) 100.0 ≤ 1.0
  atLast : 0.0 ≤ confidenceOf (excessOf limit last) 100.0
  atNext : confidenceOf (excessOf limit next) 100.0 < 0.0
  adjacent : ∀ {value : Float32}, last < value → next ≤ value

/-- The last float before 24.6 still leaves some confidence. -/
theorem exhausts_speed : Exhausts kSpeedLimitMps 24.599998 24.6 where
  limitFinite := rfl
  limitPositive := by decide
  toleratedFinite := by decide
  toleratedLe := by decide
  atTolerated := by decide
  atLast := by decide
  atNext := by decide
  adjacent above := by
    have here : unpackedSingle 24.599998 = .finite .positive 12897484 (-19) (Nat.succ_pos _) := rfl
    exact single_next_le (by decide) here rfl above

theorem exhausts_rot : Exhausts kRotLimitDegS 10.25 10.250001 where
  limitFinite := rfl
  limitPositive := by decide
  toleratedFinite := by decide
  toleratedLe := by decide
  atTolerated := by decide
  atLast := by decide
  atNext := by decide
  adjacent above := by
    have here : unpackedSingle 10.25 = .finite .positive 10747904 (-20) (Nat.succ_pos _) := rfl
    exact single_next_le (by decide) here rfl above

section Exhausts

variable {limit last next value : Float32} (exhausts : Exhausts limit last next)

include exhausts

theorem Exhausts.keepsOrder : KeepsOrder (excessOf limit) :=
  (keepsOrder_mul rfl (by decide)).comp
    ((keepsOrder_div exhausts.limitFinite exhausts.limitPositive).comp
      (keepsOrder_sub exhausts.toleratedFinite))

theorem Exhausts.confidence_le {other : Float32} (order : value ≤ other) :
    confidenceOf (excessOf limit other) 100.0 ≤ confidenceOf (excessOf limit value) 100.0 :=
  confidenceOf_le rfl (by decide) (exhausts.keepsOrder.le order)

theorem Exhausts.number_of_nonneg
    (nonneg : 0.0 ≤ confidenceOf (excessOf limit value) 100.0) : value.isNaN = false :=
  exhausts.keepsOrder.number (number_of_confidence rfl (by decide) nonneg)

/-- An excess leaves a probability up to the last value, and no further. -/
theorem Exhausts.isProbability_iff (exceeds : ¬ value ≤ limit * kLimitTolerance) :
    IsProbability (confidenceOf (excessOf limit value) 100.0) ↔ value ≤ last := by
  constructor
  · intro probability
    refine single_le_of_not_lt (exhausts.number_of_nonneg probability.1)
      (exhausts.number_of_nonneg exhausts.atLast) fun beyond => ?_
    have negative := exhausts.confidence_le (exhausts.adjacent beyond)
    exact single_not_lt_of_le (single_chain_le probability.1 negative) exhausts.atNext
  · intro within
    refine ⟨single_chain_le exhausts.atLast (exhausts.confidence_le within), ?_⟩
    have toleratedNumber : (limit * kLimitTolerance).isNaN = false :=
      isNaN_of_isFinite exhausts.toleratedFinite
    have above := single_lt_of_not_le toleratedNumber ((single_le_iff _ _).mp within).1 exceeds
    exact single_chain_le (exhausts.confidence_le (single_le_of_lt above)) exhausts.atTolerated

/-- A value within its limit is below the last one, and of any other the excess decides. -/
theorem Exhausts.checkLimit_iff :
    (checkLimit value limit).compliant = true ∨
        IsProbability (confidenceOf (checkLimit value limit).excessPct 100.0) ↔ value ≤ last := by
  by_cases within : value ≤ limit * kLimitTolerance
  · exact iff_of_true (.inl (decide_eq_true within)) (single_chain_le within exhausts.toleratedLe)
  · have exceeds : (checkLimit value limit).compliant = false := decide_eq_false within
    have excess : (checkLimit value limit).excessPct = excessOf limit value :=
      if_neg (ne_true_of_eq_false exceeds)
    rw [excess, ← exhausts.isProbability_iff within, exceeds]
    exact or_iff_right Bool.false_ne_true

end Exhausts

theorem checkSpeedLimit_iff (speed : Float32) :
    (checkSpeedLimit speed kSpeedLimitMps).compliant = true ∨
        IsProbability (confidenceOf (checkSpeedLimit speed kSpeedLimitMps).excessPct 100.0) ↔
      speed ≤ 24.599998 := by
  unfold checkSpeedLimit
  by_cases backwards : speed < 0.0
  · rw [if_pos (.inl backwards)]
    refine iff_of_true (.inr (by decide)) ?_
    exact single_chain_le (single_le_of_lt backwards) (by decide)
  · have sensible : ¬ (speed < 0.0 ∨ kSpeedLimitMps ≤ 0.0) :=
      not_or.mpr ⟨backwards, by decide⟩
    rw [if_neg sensible]
    exact exhausts_speed.checkLimit_iff

theorem checkRotLimit_iff (rot : Float32) :
    (checkRotLimit rot kRotLimitDegS).compliant = true ∨
        IsProbability (confidenceOf (checkRotLimit rot kRotLimitDegS).excessPct 100.0) ↔
      rot.abs ≤ 10.25 := by
  have sensible : ¬ kRotLimitDegS ≤ 0.0 := by decide
  unfold checkRotLimit
  rw [if_neg sensible]
  exact exhausts_rot.checkLimit_iff

/-! ### The closest approach -/

theorem stdMin_le {first second bound : Float32} (firstBelow : first ≤ bound) :
    stdMin first second ≤ bound := by
  unfold stdMin
  by_cases less : second < first
  · rw [if_pos less]
    exact single_chain_le (single_le_of_lt less) firstBelow
  · rwa [if_neg less]

/-- The closest approach of a world is a number, and not an infinite one. -/
theorem minWorldCpaM_le (world : WorldState) : minWorldCpaM world ≤ float32Max := by
  have folded (valid : List TrackedTarget) (least : Float32) (below : least ≤ float32Max) :
      valid.foldl (fun least target => stdMin least (narrow target.cpaM)) least ≤
        float32Max := by
    induction valid generalizing least with
    | nil => exact below
    | cons target rest inductionHypothesis => exact inductionHypothesis _ (stdMin_le below)
  unfold minWorldCpaM
  cases world.targets.filter fun target => target.cpaM ≥ 0.0 with
  | nil => exact (by decide +kernel : kCpaHardFloorM ≤ float32Max)
  | cons target rest =>
    exact folded (target :: rest) float32Max (by decide +kernel : float32Max ≤ float32Max)

theorem not_floor_le_iff (world : WorldState) :
    ¬ kCpaHardFloorM ≤ minWorldCpaM world ↔ minWorldCpaM world < kCpaHardFloorM := by
  have number := ((single_le_iff _ _).mp (minWorldCpaM_le world)).1
  exact ⟨single_lt_of_not_le number rfl, fun below above => single_not_lt_of_le above below⟩

/-- From the floor on the route keeps the closest approach of the world. -/
theorem deriveRouteDcpaM_of_floor_le (plan : AvoidancePlan) {world : WorldState}
    (above : kCpaHardFloorM ≤ minWorldCpaM world) :
    deriveRouteDcpaM plan world = minWorldCpaM world := by
  unfold deriveRouteDcpaM stdMax
  rw [if_neg (single_not_lt_of_le above), ite_self]

/-- A closest approach agrees with itself. -/
theorem checkCpaConsistency_self {cpa : Float32} (above : kCpaHardFloorM ≤ cpa)
    (below : cpa ≤ float32Max) :
    (checkCpaConsistency cpa cpa cpa kCpaConsistencyThreshold).consistent = true := by
  have finite := single_isFinite_of_between rfl (by decide +kernel) above below
  have epsilonBelow : kEpsilon ≤ cpa := single_chain_le (by decide) above
  have number := ((single_le_iff _ _).mp above).2.1
  have positive : 0.0 < cpa := single_lt_of_not_le rfl number fun small =>
    absurd (single_chain_le above small) (by decide)
  have denom : stdMax cpa kEpsilon = cpa := if_neg (single_not_lt_of_le epsilonBelow)
  have deviation : (cpa - cpa).abs / stdMax cpa kEpsilon = 0.0 := by
    rw [denom, single_abs_sub_self finite, single_zero_div finite positive]
  unfold checkCpaConsistency
  simp only [deviation]
  decide

/-- What is forced below the floor takes more than all of the confidence. -/
theorem not_isProbability_of_forced (deviation : Float32) :
    ¬ IsProbability (confidenceOf (stdMax deviation 100.0) 10.0) := by
  intro probability
  have number := number_of_confidence rfl (by decide) probability.1
  have notLess : ¬ stdMax deviation 100.0 < 100.0 := by
    unfold stdMax
    by_cases less : deviation < 100.0
    · rw [if_pos less]
      decide
    · rwa [if_neg less]
  have lower : confidenceOf (stdMax deviation 100.0) 10.0 ≤ confidenceOf 100.0 10.0 :=
    confidenceOf_le rfl (by decide) (single_le_of_not_lt rfl number notLess)
  exact absurd (single_chain_le probability.1 lower) (by decide)

/-! ### The confidence of the alert -/

/-- With the coverage met, the first violated constraint decides. -/
theorem HardConstraintResults.confidence_iff {results : HardConstraintResults}
    (covered : results.dc.violation = false) :
    IsProbability results.alert.confidence ↔
      results.watchdog.multiCritical = true ∨
        (results.cpa.consistent = true ∨
            IsProbability (confidenceOf results.cpa.deviationPct 10.0)) ∧
          (results.cpa.consistent = true →
            results.colregs.consistent = false ∨
              (results.speed.compliant = true ∨
                  IsProbability (confidenceOf results.speed.excessPct 100.0)) ∧
                (results.speed.compliant = true →
                  results.rot.compliant = true ∨
                    IsProbability (confidenceOf results.rot.excessPct 100.0))) := by
  have full : IsProbability 1.0 := by decide
  have geometry : IsProbability 0.95 := by decide
  have none : IsProbability 0.0 := by decide
  unfold alert buildSafetyAlertFromHardConstraints
  split_ifs <;> simp_all [confidenceOf]

namespace SafetySupervisorNode

variable (lib : MathLibrary) (node : SafetySupervisorNode) (msg : AvoidancePlan) (now : Int)

/-- Several modules fail, or else no target comes too close, and either the rule is broken or the
plan is neither fast nor turns hard enough to exhaust the confidence. -/
def WithinScale : Prop :=
  (watchdogConstraint ((node.heard .m5 now).watchdog.evaluate now)).multiCritical = true ∨
    kCpaHardFloorM ≤ minWorldCpaM node.lastWorld ∧
      ((checkColregsGeometry node.lastColregsRule
          (routeHeadingChangeDeg lib msg node.lastWorld)).consistent = false ∨
        avoidanceSpeedMps msg ≤ 24.599998 ∧
          ((checkSpeedLimit (avoidanceSpeedMps msg) kSpeedLimitMps).compliant = true →
            (avoidanceCommandedRotDegS lib msg).abs ≤ 10.25))

instance : Decidable (node.WithinScale lib msg now) := inferInstanceAs (Decidable (_ ∨ _))

theorem keepAvoidancePlan_checkCpa : (node.keepAvoidancePlan lib msg now).checkCpa =
    if minWorldCpaM node.lastWorld < kCpaHardFloorM ∨
        deriveRouteDcpaM msg node.lastWorld < kCpaHardFloorM then
      { consistent := false
        violationSource := (checkCpaConsistency (minWorldCpaM node.lastWorld)
          (deriveRouteDcpaM msg node.lastWorld) (minWorldCpaM node.lastWorld)
          kCpaConsistencyThreshold).violationSource ||| 4
        deviationPct := stdMax (checkCpaConsistency (minWorldCpaM node.lastWorld)
          (deriveRouteDcpaM msg node.lastWorld) (minWorldCpaM node.lastWorld)
          kCpaConsistencyThreshold).deviationPct 100.0 }
    else checkCpaConsistency (minWorldCpaM node.lastWorld) (deriveRouteDcpaM msg node.lastWorld)
      (minWorldCpaM node.lastWorld) kCpaConsistencyThreshold := rfl

/-- From the floor on the closest approach is consistent, and below it no confidence is left. -/
theorem keepAvoidancePlan_cpa :
    kCpaHardFloorM ≤ minWorldCpaM node.lastWorld ∧
        (node.keepAvoidancePlan lib msg now).checkCpa.consistent = true ∨
      ¬ kCpaHardFloorM ≤ minWorldCpaM node.lastWorld ∧
        (node.keepAvoidancePlan lib msg now).checkCpa.consistent = false ∧
        ¬ IsProbability
          (confidenceOf (node.keepAvoidancePlan lib msg now).checkCpa.deviationPct 10.0) := by
  rw [keepAvoidancePlan_checkCpa]
  by_cases above : kCpaHardFloorM ≤ minWorldCpaM node.lastWorld
  · have notBelow := single_not_lt_of_le above
    have consistent := checkCpaConsistency_self above (minWorldCpaM_le node.lastWorld)
    rw [deriveRouteDcpaM_of_floor_le msg above, if_neg (not_or.mpr ⟨notBelow, notBelow⟩)]
    exact .inl ⟨above, consistent⟩
  · rw [if_pos (.inl ((not_floor_le_iff node.lastWorld).mp above))]
    exact .inr ⟨above, rfl, not_isProbability_of_forced _⟩

theorem full_coverage : (evaluateDcConstraint
    { ramIntegrityOk := true
      aluTestPassed := true
      controlFlowOk := true
      inputIntegrityOk := true
      outputIntegrityOk := true
      watchdogOk := true }).violation = false := by
  decide +kernel

/-- The results of a check at once are those of the node that keeps the plan. -/
theorem results_of_checked {results : HardConstraintResults}
    (checked : node.checkOf lib (.avoidancePlan msg now) = some (.hardConstraints results)) :
    results = ((node.keepAvoidancePlan lib msg now).runHardConstraintChecks now).2 := by
  unfold checkOf handle onAvoidancePlan at checked
  simp only at checked
  split_ifs at checked
  · cases checked
    rfl
  · cases checked

/-- The confidence of the alert that a plan is checked for is a probability exactly when the
inputs stay within scale. -/
theorem confidence_isProbability_iff {results : HardConstraintResults}
    (checked : node.checkOf lib (.avoidancePlan msg now) = some (.hardConstraints results)) :
    IsProbability results.alert.confidence ↔ node.WithinScale lib msg now := by
  rw [node.results_of_checked lib msg now checked]
  refine (HardConstraintResults.confidence_iff ?_).trans ?_
  · exact full_coverage
  unfold WithinScale
  rw [← checkSpeedLimit_iff, ← checkRotLimit_iff]
  refine or_congr Iff.rfl ?_
  rcases node.keepAvoidancePlan_cpa lib msg now with
    ⟨above, consistent⟩ | ⟨below, inconsistent, improbable⟩
  · exact ⟨fun agrees => ⟨above, agrees.2 consistent⟩,
      fun within => ⟨.inl consistent, fun _ => within.2⟩⟩
  · refine iff_of_false (fun agrees => ?_) fun within => below within.1
    exact agrees.1.elim (ne_true_of_eq_false inconsistent) improbable

/-- No vessel is near, and the plan commands fifteen metres a second. -/
theorem confidence_isProbability_hasty : ∃ results,
    ({} : SafetySupervisorNode).checkOf aheadLibrary
        (.avoidancePlan { commandSpeedMps := [15.0] } 0) = some (.hardConstraints results) ∧
      IsProbability results.alert.confidence :=
  ⟨_, rfl, (confidence_isProbability_iff aheadLibrary {} { commandSpeedMps := [15.0] } 0 rfl).mpr
    (by decide)⟩

/-- The deviation that is forced for the vessel ahead takes the confidence down to minus nine. -/
theorem closingAhead_not_isProbability :
    ¬ ∀ (lib : MathLibrary) (events : List Event) (msg : AvoidancePlan) (now : Int)
        (results : HardConstraintResults),
      (Runs.run (next lib) {} events).checkOf lib (.avoidancePlan msg now) =
          some (.hardConstraints results) →
        IsProbability results.alert.confidence := by
  intro probable
  exact absurd (probable aheadLibrary [.worldState closingAhead 0] {} 0 _ rfl) (by decide +kernel)

end SafetySupervisorNode

end MassL3.M7
