/-
This file embeds the choice of a minimum-risk manoeuvre: a table from the findings of the
monitors to a manoeuvre, a lockout that keeps an adopted manoeuvre for half a minute, and the
conditions under which each manoeuvre applies, which only decide the confidence.

It also embeds the arbitrator: the conditions found in a cycle become candidates in a pool of
fixed size, the pool is sorted by severity with the insertion sort of the source, and the first
candidate becomes the alert, with the manoeuvre the selector decided on.

A manoeuvre that has been adopted is returned by every later call until the lockout is over,
whatever is found in the meantime. A call during the lockout changes nothing, so the manoeuvre and
the time of its adoption are an invariant of the calls in between.
-/

import MassTdl.Runs
import MassTdl.Supervisor.Assumptions
import MassTdl.Supervisor.Performance

namespace MassL3.M7

open Binary64

/-! ### Manoeuvres -/

inductive MrmId where
  | none
  | mrm01Drift
  | mrm02Anchor
  | mrm03HeaveTo
  | mrm04Mooring
  deriving DecidableEq, Repr

/-- `to_string`. -/
def MrmId.text : MrmId → String
  | .none => "NONE"
  | .mrm01Drift => "MRM-01-DRIFT"
  | .mrm02Anchor => "MRM-02-ANCHOR"
  | .mrm03HeaveTo => "MRM-03-HEAVE-TO"
  | .mrm04Mooring => "MRM-04-MOORING"

/-- Only the text of no manoeuvre says that there is none. -/
theorem MrmId.text_eq_none_iff (id : MrmId) : id.text = "NONE" ↔ id = .none := by
  cases id <;> decide

structure Mrm01Params where
  targetSpeedKn : Float := 4.0

structure Mrm02Params where
  maxWaterDepthM : Float := 30.0
  maxSpeedKn : Float := 4.0

structure Mrm04Params where
  requiresHarborZone : Bool := true
  maxSpeedKn : Float := 2.0

structure MrmCommandSet where
  mrm01 : Mrm01Params := {}
  mrm02 : Mrm02Params := {}
  mrm04 : Mrm04Params := {}

def Mrm01Params.isApplicable (params : Mrm01Params) (world : WorldState) : Bool :=
  world.ownShip.sogKn > params.targetSpeedKn

def Mrm02Params.isApplicable (params : Mrm02Params) (world : WorldState) : Bool :=
  world.ownShip.sogKn ≤ params.maxSpeedKn &&
    widen world.zoneMinWaterDepthM ≤ params.maxWaterDepthM

/-- `Mrm03HeaveTo::is_applicable`. -/
def heaveToApplicable (world : WorldState) : Bool :=
  UInt32.ofNat (world.targets.countP fun target => target.cpaM < 1852.0) ≥ 2

def Mrm04Params.isApplicable (params : Mrm04Params) (odd : ODDState) (world : WorldState) : Bool :=
  (!params.requiresHarborZone || odd.currentZone = oddZoneC) &&
    world.ownShip.sogKn ≤ params.maxSpeedKn

/-! ### The selector -/

structure ScenarioContext where
  assumption : AssumptionStatus
  watchdog : WatchdogResult
  performance : PerformanceStatus

structure MrmDecision where
  mrmId : MrmId
  confidence : Float32
  rationale : String

structure MrmSelectorConfig where
  changeLockoutS : Int := 30
  upgradeConfidenceThreshold : Float32 := 0.9

structure MrmSelector where
  cfg : MrmSelectorConfig := {}
  commands : MrmCommandSet := {}
  lastId : MrmId := .none
  lastChange : Int := 0

def rawSelectWatchdog (ctx : ScenarioContext) : MrmId :=
  if ctx.watchdog.criticalCount ≥ 3 then .mrm02Anchor
  else if ctx.watchdog.criticalCount ≥ 1 ∧ ctx.watchdog.criticalCount ≤ 2 then .mrm01Drift
  else .none

/-- The priority table. -/
def rawSelect (ctx : ScenarioContext) (odd : ODDState) : MrmId :=
  if odd.currentZone = oddZoneC ∧ ctx.assumption.totalViolationCount ≥ 2 then .mrm04Mooring
  else if ctx.performance.multipleTargetsNearby then .mrm03HeaveTo
  else if ctx.assumption.totalViolationCount ≥ 3 then .mrm02Anchor
  else if ctx.performance.cpaTrendDegrading then .mrm02Anchor
  else if rawSelectWatchdog ctx ≠ .none then rawSelectWatchdog ctx
  else if ctx.assumption.totalViolationCount ≥ 2 then .mrm02Anchor
  else if ctx.assumption.totalViolationCount ≥ 1 then .mrm01Drift
  else .none

def computeConfidence (lockoutActive applicable : Bool) (upgradeThreshold : Float32) : Float32 :=
  if lockoutActive then 0.5 else if applicable then upgradeThreshold else 0.5

namespace MrmSelector

variable (selector : MrmSelector)

/-- The lockout holds: another manoeuvre is wanted too soon after the last change. -/
def lockedOut (candidate : MrmId) (now : Int) : Bool :=
  candidate ≠ selector.lastId &&
    now - selector.lastChange < wholeSeconds selector.cfg.changeLockoutS &&
    selector.lastId ≠ .none

/-- The selector takes a candidate over unless it is locked out or has it already. -/
def adopt (candidate : MrmId) (now : Int) : MrmSelector :=
  if candidate = selector.lastId ∨ selector.lockedOut candidate now then selector
  else { selector with lastId := candidate, lastChange := now }

def applicable (chosen : MrmId) (odd : ODDState) (world : WorldState) : Bool :=
  match chosen with
  | .mrm01Drift => selector.commands.mrm01.isApplicable world
  | .mrm02Anchor => selector.commands.mrm02.isApplicable world
  | .mrm03HeaveTo => heaveToApplicable world
  | .mrm04Mooring => selector.commands.mrm04.isApplicable odd world
  | .none => true

def select (ctx : ScenarioContext) (odd : ODDState) (world : WorldState) (now : Int) :
    MrmSelector × MrmDecision :=
  let candidate := rawSelect ctx odd
  let locked := selector.lockedOut candidate now
  let chosen := if locked then selector.lastId else candidate
  (selector.adopt candidate now,
    { mrmId := chosen
      confidence := computeConfidence locked (selector.applicable chosen odd world)
        selector.cfg.upgradeConfidenceThreshold
      rationale := chosen.text })

def reset : MrmSelector := { selector with lastId := .none, lastChange := 0 }

end MrmSelector

/-! ### Candidates -/

structure AlertCandidate where
  alertType : UInt8
  severity : UInt8
  recommendedMrm : MrmId
  confidence : Float32
  rationale : String
  description : String

def kMaxAlertCandidates : Nat := 8

/-- `push_candidate`: nothing happens at capacity. -/
def pushCandidate (pool : List AlertCandidate) (candidate : AlertCandidate) :
    List AlertCandidate :=
  if pool.length < kMaxAlertCandidates then pool ++ [candidate] else pool

def diagnosticFault : AlertCandidate where
  alertType := alertIec61508Fault
  severity := severityWarning
  recommendedMrm := .mrm01Drift
  confidence := 0.80
  rationale := "IEC61508: diagnostic validity check failed"
  description := "Safety monitor: internal consistency check failed — verify system status"

def watchdogCritical (criticalCount : UInt32) : AlertCandidate where
  alertType := alertIec61508Fault
  severity := if criticalCount ≥ 2 then severityMrcRequired else severityCritical
  recommendedMrm := .mrm01Drift
  confidence := 0.95
  rationale := "IEC61508: watchdog heartbeat loss — module(s) critical"
  description := "CRITICAL: System module(s) unresponsive — manual intervention advised"

def extremeViolations : AlertCandidate where
  alertType := alertSotifAssumption
  severity := severityMrcRequired
  recommendedMrm := .mrm01Drift
  confidence := 0.95
  rationale := "SOTIF: extreme scenario — >= 3 assumptions violated simultaneously"
  description := "EMERGENCY: Multiple safety assumptions violated — MRC required"

def severalViolations : AlertCandidate where
  alertType := alertSotifAssumption
  severity := severityCritical
  recommendedMrm := .mrm01Drift
  confidence := 0.85
  rationale := "SOTIF: 2+ assumptions violated — critical degradation"
  description := "CRITICAL: Performance degraded — reduced operational capability"

def singleViolation : AlertCandidate where
  alertType := alertSotifAssumption
  severity := severityWarning
  recommendedMrm := .none
  confidence := 0.70
  rationale := "SOTIF: single assumption violated — monitoring"
  description := "WARNING: Safety assumption violated — monitor and prepare"

def performanceDegraded : AlertCandidate where
  alertType := alertPerformanceDegraded
  severity := severityWarning
  recommendedMrm := .mrm01Drift
  confidence := 0.75
  rationale := "SOTIF: performance degraded — CPA trend worsening or multiple targets"
  description := "WARNING: CPA degrading or multiple vessels nearby — heightened vigilance"

/-! ### The pool -/

/-- A validity check failed. -/
def DiagnosticResult.anyFault (diag : DiagnosticResult) : Bool :=
  !diag.conformanceScoreValid || !diag.cpaInternalConsistent || !diag.colregsTargetIdMatch

def collectIec61508Candidates (ctx : ScenarioContext) (diag : DiagnosticResult)
    (pool : List AlertCandidate) : List AlertCandidate :=
  let pool := if diag.anyFault then pushCandidate pool diagnosticFault else pool
  if ctx.watchdog.anyCritical then
    pushCandidate pool (watchdogCritical ctx.watchdog.criticalCount)
  else pool

def collectSotifCandidates (ctx : ScenarioContext) (extremeScenario : Bool)
    (pool : List AlertCandidate) : List AlertCandidate :=
  if extremeScenario then pushCandidate pool extremeViolations
  else if ctx.assumption.totalViolationCount ≥ 2 then pushCandidate pool severalViolations
  else if ctx.assumption.totalViolationCount ≥ 1 then pushCandidate pool singleViolation
  else pool

def collectPerfCandidates (ctx : ScenarioContext) (pool : List AlertCandidate) :
    List AlertCandidate :=
  if ctx.performance.cpaTrendDegrading || ctx.performance.multipleTargetsNearby then
    pushCandidate pool performanceDegraded
  else pool

def collectCandidates (ctx : ScenarioContext) (diag : DiagnosticResult) (extremeScenario : Bool) :
    List AlertCandidate :=
  collectPerfCandidates ctx
    (collectSotifCandidates ctx extremeScenario (collectIec61508Candidates ctx diag []))

/-- The inner loop of the sort: the key moves up past the candidates of lower severity at the
end of the sorted part, which is given in reverse. -/
def insertFromEnd (key : AlertCandidate) : List AlertCandidate → List AlertCandidate
  | [] => [key]
  | last :: before =>
      if last.severity < key.severity then last :: insertFromEnd key before
      else key :: last :: before

/-- `sort_candidates`. -/
def sortCandidates (pool : List AlertCandidate) : List AlertCandidate :=
  (pool.foldl (fun sorted key => insertFromEnd key sorted) []).reverse

/-! ### The alert -/

def arbitrate (ctx : ScenarioContext) (decision : MrmDecision) (diag : DiagnosticResult)
    (extremeScenario : Bool) : SafetyAlert :=
  match sortCandidates (collectCandidates ctx diag extremeScenario) with
  | [] =>
      { alertType := alertIec61508Fault
        severity := severityInfo
        recommendedMrm := MrmId.none.text
        confidence := decision.confidence
        rationale := "no active safety conditions"
        description := "M7: all monitors nominal" }
  | top :: _ =>
      { alertType := top.alertType
        severity := top.severity
        recommendedMrm := decision.mrmId.text
        confidence := top.confidence
        rationale := top.rationale
        description := top.description }

open Runs

/-! ### Calls -/

/-- The arguments of a call of `select`. -/
structure SelectCall where
  ctx : ScenarioContext
  odd : ODDState
  world : WorldState
  now : Int

namespace MrmSelector

/-- What a call decides. -/
def decision (selector : MrmSelector) (call : SelectCall) : MrmDecision :=
  (selector.select call.ctx call.odd call.world call.now).2

def afterCall (selector : MrmSelector) (call : SelectCall) : MrmSelector :=
  (selector.select call.ctx call.odd call.world call.now).1

/-- The selector holds a manoeuvre that it adopted at a time. -/
structure Holds (selector : MrmSelector) (lockoutS : Int) (held : MrmId) (since : Int) : Prop where
  lastId : selector.lastId = held
  lastChange : selector.lastChange = since
  changeLockoutS : selector.cfg.changeLockoutS = lockoutS

variable {selector : MrmSelector} {held : MrmId} {lockoutS since : Int}

@[simp]
theorem afterCall_cfg (call : SelectCall) :
    (selector.afterCall call).cfg = selector.cfg := by
  show (selector.adopt (rawSelect call.ctx call.odd) call.now).cfg = selector.cfg
  unfold adopt
  split_ifs <;> rfl

/-- During the lockout every other candidate is locked out. -/
theorem Holds.lockedOut (holds : selector.Holds lockoutS held since) (actual : held ≠ .none)
    {candidate : MrmId} (other : candidate ≠ held) {now : Int}
    (early : now < since + wholeSeconds lockoutS) : selector.lockedOut candidate now = true := by
  unfold MrmSelector.lockedOut
  rw [holds.lastId, holds.lastChange, holds.changeLockoutS, Bool.and_eq_true_iff,
    Bool.and_eq_true_iff]
  exact ⟨⟨decide_eq_true other, decide_eq_true (by omega)⟩, decide_eq_true actual⟩

/-- A call during the lockout returns the manoeuvre that is held. -/
theorem Holds.decides (holds : selector.Holds lockoutS held since) (actual : held ≠ .none)
    {call : SelectCall} (early : call.now < since + wholeSeconds lockoutS) :
    (selector.decision call).mrmId = held := by
  show (if selector.lockedOut (rawSelect call.ctx call.odd) call.now then selector.lastId
    else rawSelect call.ctx call.odd) = held
  by_cases same : rawSelect call.ctx call.odd = held
  · rw [same, holds.lastId]
    exact ite_self held
  · rw [if_pos (holds.lockedOut actual same early), holds.lastId]

/-- It leaves the selector as it is. -/
theorem Holds.afterCall (holds : selector.Holds lockoutS held since) (actual : held ≠ .none)
    {call : SelectCall} (early : call.now < since + wholeSeconds lockoutS) :
    (selector.afterCall call).Holds lockoutS held since := by
  have unchanged : selector.afterCall call = selector := by
    show selector.adopt (rawSelect call.ctx call.odd) call.now = selector
    unfold adopt
    by_cases same : rawSelect call.ctx call.odd = held
    · rw [if_pos (Or.inl (same.trans holds.lastId.symm))]
    · rw [if_pos (Or.inr (holds.lockedOut actual same early))]
  rw [unchanged]
  exact holds

/-- A call that brings a manoeuvre in adopts it at its own time. -/
theorem holds_of_adopted {call : SelectCall} (before : selector.lastId ≠ held)
    (adopted : (selector.afterCall call).lastId = held) :
    (selector.afterCall call).Holds selector.cfg.changeLockoutS held call.now := by
  have byAdoption : selector.afterCall call =
      if rawSelect call.ctx call.odd = selector.lastId ∨
          selector.lockedOut (rawSelect call.ctx call.odd) call.now then selector
      else { selector with lastId := rawSelect call.ctx call.odd, lastChange := call.now } := rfl
  split_ifs at byAdoption with kept
  · rw [byAdoption] at adopted
    exact absurd adopted before
  · rw [byAdoption] at adopted ⊢
    exact ⟨adopted, rfl, rfl⟩

end MrmSelector

/-! ### Runs of calls -/

/-- The selector after the first calls of a run. -/
def selectorAt (start : MrmSelector) (calls : List SelectCall) (count : Nat) : MrmSelector :=
  stateAt MrmSelector.afterCall start calls count

/-- The call at an index brings the manoeuvre in. -/
def AdoptedAt (start : MrmSelector) (calls : List SelectCall) (index : Nat) (mrm : MrmId) : Prop :=
  (selectorAt start calls index).lastId ≠ mrm ∧ (selectorAt start calls (index + 1)).lastId = mrm

variable {start : MrmSelector} {calls : List SelectCall}

theorem selectorAt_cfg (count : Nat) : (selectorAt start calls count).cfg = start.cfg :=
  stateAt_invariant (fun selector : MrmSelector => selector.cfg = start.cfg) rfl
    (fun _ _ _ same => (MrmSelector.afterCall_cfg _).trans same) count

/-- A manoeuvre that is adopted at a call is what every later call before the end of the
lockout of 30 s returns, whatever the scenarios. -/
theorem adopted_mrm_held (shipped : start.cfg = {})
    (nondecreasing : calls.Pairwise fun earlier later => earlier.now ≤ later.now)
    {first last : Nat} (later : first < last) {adopting returning : SelectCall}
    (atFirst : calls[first]? = some adopting) (atLast : calls[last]? = some returning)
    {mrm : MrmId} (actual : mrm ≠ .none) (adopted : AdoptedAt start calls first mrm)
    (early : returning.now < adopting.now + wholeSeconds 30) :
    ((selectorAt start calls last).decision returning).mrmId = mrm := by
  obtain ⟨before, after⟩ := adopted
  have adoption : (selectorAt start calls (first + 1)).Holds 30 mrm adopting.now := by
    unfold selectorAt at after ⊢
    rw [stateAt_succ _ _ _ atFirst] at after ⊢
    have holds := MrmSelector.holds_of_adopted before after
    rw [selectorAt_cfg, shipped] at holds
    exact holds
  have stillHeld : (selectorAt start calls last).Holds 30 mrm adopting.now := by
    refine stateAt_invariant_between (fun selector : MrmSelector => selector.Holds 30 mrm
      adopting.now) later adoption fun count call _ below present holds => holds.afterCall actual ?_
    have sooner : call.now ≤ returning.now := by
      obtain ⟨withinCount, isCall⟩ := List.getElem?_eq_some_iff.mp present
      obtain ⟨withinLast, isReturning⟩ := List.getElem?_eq_some_iff.mp atLast
      rw [← isCall, ← isReturning]
      exact List.pairwise_iff_getElem.mp nondecreasing count last withinCount withinLast below
    exact lt_of_le_of_lt sooner early
  exact stillHeld.decides actual early

/-! ### A scenario that clears up -/

/-- So many modules are critical, and nothing else is found. -/
def lostModules (count : UInt32) : ScenarioContext where
  assumption :=
    { violationActive := fun _ => false
      violationMetric := fun _ => 0.0
      totalViolationCount := 0 }
  watchdog := { criticalCount := count, anyCritical := count > 0 }
  performance := {}

/-- A module is lost 40 s after the start and found again before the lockout is over. -/
def briefLoss : List SelectCall :=
  [{ ctx := lostModules 1, odd := {}, world := {}, now := wholeSeconds 40 },
    { ctx := lostModules 0, odd := {}, world := {}, now := wholeSeconds 70 - 1 }]

theorem adopted_mrm_held_briefLoss :
    ((selectorAt {} briefLoss 1).decision
      { ctx := lostModules 0, odd := {}, world := {}, now := wholeSeconds 70 - 1 }).mrmId =
      .mrm01Drift :=
  adopted_mrm_held rfl (by decide) Nat.one_pos rfl rfl (by decide) ⟨by decide, by decide⟩
    (by decide)

/-- At 30 s the lockout is over. -/
example : ((selectorAt {} briefLoss 1).decision
    { ctx := lostModules 0, odd := {}, world := {}, now := wholeSeconds 70 }).mrmId = .none := by
  decide

end MassL3.M7
