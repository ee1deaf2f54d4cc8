/-
This file translates the first half of a reasoning cycle for one target: what the reasoner
remembers of it, the threat geometry that all later steps share, and the pass that takes the
encounter through its release before it is erased.
-/

import Mathlib.Logic.Function.Basic
import MassTdl.Colregs.Rules

namespace MassL3.M6.Colregs

/-! ### Memory -/

/-- One value for each primary rule. -/
structure PerPrimary (α : Type) where
  rule13 : α
  rule14 : α
  rule15 : α
  deriving DecidableEq

namespace PerPrimary

variable {α : Type}

def get (values : PerPrimary α) : PrimaryRule → α
  | .rule13 => values.rule13
  | .rule14 => values.rule14
  | .rule15 => values.rule15

def set (values : PerPrimary α) (rule : PrimaryRule) (value : α) : PerPrimary α :=
  match rule with
  | .rule13 => { values with rule13 := value }
  | .rule14 => { values with rule14 := value }
  | .rule15 => { values with rule15 := value }

@[simp]
theorem get_set_self (values : PerPrimary α) (rule : PrimaryRule) (value : α) :
    (values.set rule value).get rule = value := by
  cases rule <;> rfl

theorem get_set_of_ne (values : PerPrimary α) {rule other : PrimaryRule} (value : α)
    (different : other ≠ rule) : (values.set rule value).get other = values.get other := by
  cases rule <;> cases other <;> first | rfl | exact absurd rfl different

end PerPrimary

/-- What the node keeps of a target. The source keeps one map for each field. -/
structure TargetMemory where
  latches : PerPrimary (Option RuleLatch) := ⟨none, none, none⟩
  fsms : PerPrimary (Option EncounterStateMachine) := ⟨none, none, none⟩
  giveWayLatch : Option RuleLatch := none
  standonLatch : Option RuleLatch := none
  encounterReferenceHeading : Option Float := none
  resolved : Bool := false
  prevTargetRange : Option Float := none
  prevTargetBearing : Option Float := none
  deriving DecidableEq

/-- Every latch and every state machine is erased, and the target counts as resolved. -/
def TargetMemory.resolve (memory : TargetMemory) : TargetMemory :=
  { memory with
    latches := ⟨none, none, none⟩
    fsms := ⟨none, none, none⟩
    giveWayLatch := none
    standonLatch := none
    encounterReferenceHeading := none
    resolved := true }

/-- `encounter_reference_heading_.try_emplace`. -/
def TargetMemory.emplaceReference (memory : TargetMemory) (headingDeg : Float) : TargetMemory :=
  { memory with
    encounterReferenceHeading := memory.encounterReferenceHeading.or (some headingDeg) }

section EmplaceReference

variable (memory : TargetMemory) (headingDeg : Float)

end EmplaceReference

def isLatched (latch : Option RuleLatch) : Bool := latch.any fun latch => latch.latched

def isReleased (latch : Option RuleLatch) : Bool := latch.any fun latch => latch.released

theorem isLatched_map {latch : Option RuleLatch} {update : RuleLatch → RuleLatch}
    (kept : ∀ latch, (update latch).latched = true → latch.latched = true)
    (latched : isLatched (latch.map update) = true) : isLatched latch = true := by
  cases latch with
  | none => exact latched
  | some latch =>
    have updated : (update latch).latched = true := by simpa [isLatched] using latched
    simpa [isLatched] using kept latch updated

/-- A latch, or a new one in its place. -/
theorem isLatched_of_update {latch : Option RuleLatch} {cpaSafeM cpaM : Float}
    {ruleActive rangeClosing pastAndClear : Bool} {currentEval : Option RuleEvaluation}
    {projection allowProjection : Bool}
    (latched : ((latch.getD { cpaSafeM }).update ruleActive cpaM rangeClosing pastAndClear
      currentEval projection allowProjection).latched = true) :
    isLatched latch = true ∨ ruleActive = true ∧ rangeClosing = true := by
  refine (RuleLatch.latched_of_update latched).imp_left fun before => ?_
  cases latch with
  | none => cases before
  | some latch => simpa [isLatched] using before

/-- A latch that is latched or holds an onset. -/
def isEngaged (latch : Option RuleLatch) : Bool :=
  latch.any fun latch => latch.latched || latch.onset.isSome

/-- `projection_releasable_primary_latch`. -/
def projectionReleasable (latch : Option RuleLatch) : Bool :=
  latch.any fun latch => latch.latched && latch.onset.any fun onset => onset.role.isGiveWay

/-- `allow_primary_projection_release`. -/
def allowPrimaryProjectionRelease (latch : Option RuleLatch) : Bool :=
  latch.all fun latch => latch.onset.all fun onset => onset.role.isGiveWay

/-- Any latch of the target has been released. -/
def TargetMemory.anyLatchReleased (memory : TargetMemory) : Bool :=
  isReleased memory.latches.rule13 || isReleased memory.latches.rule14 ||
    isReleased memory.latches.rule15 || isReleased memory.giveWayLatch ||
    isReleased memory.standonLatch

/-! ### Threat geometry -/

/-- The part of the threat geometry that later steps read. -/
structure Threat where
  rangeClosing : Bool
  pastAndClear : Bool
  cpaProjectionPastAndSafe : Bool
  giveWayReferenceReleaseOk : Bool
  giveWayProjectionReleaseReferenceOk : Bool
  giveWayReferenceHeadingReleaseOk : Bool
  giveWayProjectionReleaseCurrentOk : Bool
  rule13ReleaseContext : Bool
  releasePastAndClear : Bool
  standonActionLatched : Bool
  anyLatchReleased : Bool
  releasePredicted : Bool

variable (lib : MathLibrary) (params : RuleParameters) (target : TargetGeometricState)

/-- The range closes if it is below the one of the cycle before. -/
def rangeClosing (memory : TargetMemory) (currentRng : Float) : Bool :=
  memory.prevTargetRange.any fun prevRange => currentRng ≥ 0.0 && currentRng < prevRange

def giveWayReleaseFloorM : Float :=
  if params.cpaReleaseM.isFinite ∧ params.cpaReleaseM > 0.0 then params.cpaReleaseM
  else params.cpaSafeM

/-- The threat geometry of one target. -/
def threat (memory : TargetMemory) (currentRng : Float) : Threat :=
  let closing := rangeClosing memory currentRng
  let hasReleaseReference := memory.encounterReferenceHeading.isSome
  let releaseReferenceHeading :=
    memory.encounterReferenceHeading.getD target.ownshipHeadingDeg
  let isOvertakingOnset := memory.latches.rule13.any fun latch =>
    latch.onset.any fun onset => onset.encounterType = .overtaking
  let abaftThresholdDeg := if isOvertakingOnset then 112.5 else 90.0
  let pastAndClear := hasReleaseReference &&
    pastAndClearFromHeading lib target.bearingDeg releaseReferenceHeading abaftThresholdDeg
  let releaseFloorM := giveWayReleaseFloorM params
  let cpaProjectionPastAndSafe :=
    target.tcpaS ≤ kTcpaClampedPastEpsilonS && target.cpaM ≥ releaseFloorM
  let currentRelativeBearingAbsDeg :=
    (signedRelativeBearingDeg lib target.bearingDeg target.ownshipHeadingDeg).abs
  let referenceRelativeBearingAbsDeg :=
    (signedRelativeBearingDeg lib target.bearingDeg releaseReferenceHeading).abs
  let projectionReleaseReferenceOk :=
    giveWayProjectionReleaseSafe cpaProjectionPastAndSafe target.rangeM releaseFloorM
      currentRelativeBearingAbsDeg referenceRelativeBearingAbsDeg .referenceClear
  let referenceHeadingReleaseOk := hasReleaseReference &&
    giveWayReferenceHeadingReleaseSafe lib target.rangeM target.bearingDeg
      target.targetHeadingDeg target.targetSpeedKn target.ownshipSpeedKn
      releaseReferenceHeading releaseFloorM
  let openingReferenceHeadingReleaseOk := hasReleaseReference &&
    giveWayOpeningReferenceHeadingReleaseSafe lib closing target.rangeM target.bearingDeg
      target.targetHeadingDeg target.targetSpeedKn target.ownshipSpeedKn
      releaseReferenceHeading releaseFloorM
  let targetTrackReleaseOk :=
    rule15TargetTrackReleaseSafe lib closing target.rangeM target.bearingDeg
      target.targetHeadingDeg target.cpaM target.tcpaS releaseFloorM
  let projectionReleaseCurrentOk :=
    giveWayProjectionReleaseSafe cpaProjectionPastAndSafe target.rangeM releaseFloorM
      currentRelativeBearingAbsDeg referenceRelativeBearingAbsDeg .currentAbaft
  let rule13Projection := projectionReleasable memory.latches.rule13
  let rule14Projection := projectionReleasable memory.latches.rule14
  let rule15Projection := projectionReleasable memory.latches.rule15
  let rule13FsmEngaged := memory.fsms.rule13.any fun fsm => fsm.state ≠ .clear
  let dutyLatched := isLatched memory.giveWayLatch
  let releaseContext := rule13ReleaseContextActive rule13Projection rule13FsmEngaged
    isOvertakingOnset rule14Projection rule15Projection dutyLatched
  let resolutionLatched :=
    rule13Projection || rule14Projection || rule15Projection || dutyLatched
  let finalReleaseCpaFloorM := giveWayFinalReleaseCpaFloorM params.cpaSafeM params.cpaReleaseM
    resolutionLatched releaseContext
  let alongAxisPastClear := !releaseContext ||
    rule13OvertakingAlongAxisPastClear lib target.rangeM target.bearingDeg
      target.targetHeadingDeg
  let releasePastAndClear :=
    rule13ReleasePastAndClear releaseContext pastAndClear alongAxisPastClear
  let finallyResolved := hasReleaseReference && releasePastAndClear && !closing &&
    target.cpaM ≥ finalReleaseCpaFloorM
  let standonActionLatched := isLatched memory.standonLatch
  let standonActionRelease := standOnLateActionReleaseSafe standonActionLatched closing
    target.rangeM target.cpaM target.tcpaS params.cpaSafeM currentRelativeBearingAbsDeg
  let referenceProjectionResolved :=
    rule15Projection && (!closing && projectionReleaseReferenceOk || referenceHeadingReleaseOk) ||
      rule15Projection && (openingReferenceHeadingReleaseOk || targetTrackReleaseOk)
  let currentProjectionResolved := !closing &&
    (rule14Projection || dutyLatched && !releaseContext) && projectionReleaseCurrentOk
  let projectionResolved :=
    hasReleaseReference && (referenceProjectionResolved || currentProjectionResolved)
  { rangeClosing := closing
    pastAndClear := pastAndClear
    cpaProjectionPastAndSafe := cpaProjectionPastAndSafe
    giveWayReferenceReleaseOk :=
      projectionReleaseReferenceOk || referenceHeadingReleaseOk ||
        openingReferenceHeadingReleaseOk || targetTrackReleaseOk
    giveWayProjectionReleaseReferenceOk := projectionReleaseReferenceOk
    giveWayReferenceHeadingReleaseOk := referenceHeadingReleaseOk
    giveWayProjectionReleaseCurrentOk := projectionReleaseCurrentOk
    rule13ReleaseContext := releaseContext
    releasePastAndClear := releasePastAndClear
    standonActionLatched := standonActionLatched
    anyLatchReleased := memory.anyLatchReleased
    releasePredicted := finallyResolved || projectionResolved || standonActionRelease }

/-- `rule_projection_release_ok`. -/
def Threat.ruleProjectionReleaseOk (threat : Threat) (rule : PrimaryRule) : Bool :=
  !threat.rule13ReleaseContext &&
    if rule = .rule14 then threat.giveWayProjectionReleaseCurrentOk
    else if givewayProjectionReferenceReleaseAppliesToRule rule &&
        !givewayOpeningReferenceReleaseAppliesToRule rule then
      threat.giveWayProjectionReleaseReferenceOk || threat.giveWayReferenceHeadingReleaseOk
    else if givewayProjectionReferenceReleaseAppliesToRule rule &&
        givewayOpeningReferenceReleaseAppliesToRule rule then
      threat.giveWayReferenceReleaseOk
    else false

/-- `duty_projection_release_ok`. -/
def Threat.dutyProjectionReleaseOk (threat : Threat) : Bool :=
  !threat.rule13ReleaseContext && threat.giveWayProjectionReleaseCurrentOk

/-! ### The release pass -/

/-- What the pass over the machines and latches of a target has found so far. -/
structure ReleasePass where
  memory : TargetMemory
  semanticState : Option EncounterState
  transitionedToRelease : Bool := false
  latchReleasedNow : Bool := false

def TargetGeometricState.snapshot (target : TargetGeometricState) : TargetSnapshot where
  tcpaS := target.tcpaS
  cpaM := target.cpaM

variable (nowS : Float)

/-- The step of one primary rule. A rule without machine and latch changes nothing. -/
def releasePrimary (threat : Threat) (pass : ReleasePass) (rule : PrimaryRule) : ReleasePass :=
  let memory := pass.memory
  let projection := threat.ruleProjectionReleaseOk rule
  let releaseCondition := threat.releasePastAndClear || projection
  let fsm := (memory.fsms.get rule).map fun fsm =>
    fsm.transition target.snapshot false threat.rangeClosing releaseCondition nowS none
  let latch := (memory.latches.get rule).map fun latch =>
    latch.update false target.cpaM threat.rangeClosing releaseCondition none projection
      (allowPrimaryProjectionRelease (some latch))
  { memory :=
      { memory with
        fsms := memory.fsms.set rule fsm
        latches := memory.latches.set rule latch }
    semanticState := (fsm.map fun fsm => fsm.state).or pass.semanticState
    transitionedToRelease :=
      pass.transitionedToRelease || fsm.any fun fsm => fsm.state = .release
    latchReleasedNow := pass.latchReleasedNow || isReleased latch }

/-- The latch of the give-way duty, in the release pass. -/
def releaseDutyLatch (threat : Threat) (latch : RuleLatch) : RuleLatch :=
  latch.update false target.cpaM threat.rangeClosing threat.releasePastAndClear none
    threat.dutyProjectionReleaseOk

/-- The latch of the stand-on action, in the release pass. -/
def releaseStandonLatch (threat : Threat) (latch : RuleLatch) : RuleLatch :=
  latch.update false target.cpaM threat.rangeClosing threat.pastAndClear none false false

/-- The whole pass. -/
def releasePass (threat : Threat) (memory : TargetMemory)
    (semanticState : Option EncounterState) : ReleasePass :=
  let pass := PrimaryRule.all.foldl (releasePrimary target nowS threat) { memory, semanticState }
  let duty := memory.giveWayLatch.map (releaseDutyLatch target threat)
  let standon := memory.standonLatch.map (releaseStandonLatch target threat)
  { pass with
    memory :=
      { pass.memory with
        giveWayLatch := duty
        standonLatch := standon }
    latchReleasedNow := pass.latchReleasedNow || isReleased duty || isReleased standon }

end MassL3.M6.Colregs
