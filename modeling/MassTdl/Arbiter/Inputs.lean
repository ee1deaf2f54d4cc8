/-
This file embeds the activation of behaviours from the freshness and the content of the inputs, and
the priority rules that choose one of the active ones.

It also embeds what an arbitration reads: the messages received so far, the decision state
carried from tick to tick with its construction defaults, the inputs of the activation built
from the messages, and the dwell that holds a directive through a short gap of low confidence.
Stamps and the clock are in nanoseconds.
-/

import MassTdl.Arbiter.Guidance
import MassTdl.Arbiter.Ivp

namespace MassL3.M4

open MassL3.Risk

/-! ### Behaviours -/

inductive BehaviorType where
  | transit
  | colregAvoid
  | dpHold
  | berth
  | mrcDrift
  | mrcAnchor
  | mrcHeaveTo
  | recovery
  deriving DecidableEq, Repr

inductive HealthState where
  | normal
  | degraded
  | critical
  deriving DecidableEq, Repr

structure ArbitrationInputs where
  oddZone : UInt8 := 0
  oddReceived : Bool := false
  modeMrcTriggered : Bool := false
  modeReceived : Bool := false
  worldReceived : Bool := false
  worldVisibilityNm : Float := 999.0
  worldInVtsZone : Bool := false
  ownSpeedKn : Float := 0.0
  missionReceived : Bool := false
  colregsReceived : Bool := false
  colregsConflictDetected : Bool := false
  colregsActionRequired : Bool := false
  ageOddMs : Int := 0
  ageWorldMs : Int := 0
  ageMissionMs : Int := 0
  ageColregsMs : Int := 0
  timeoutDegradedMs : Int := 2000
  timeoutCriticalMs : Int := 5000

/-! ### Activation -/

/-- The ages of the four inputs. -/
def ArbitrationInputs.ages (inputs : ArbitrationInputs) : List Int :=
  [inputs.ageOddMs, inputs.ageWorldMs, inputs.ageMissionMs, inputs.ageColregsMs]

def computeHealthState (inputs : ArbitrationInputs) : HealthState :=
  if 3 ≤ inputs.ages.countP (· > inputs.timeoutCriticalMs) then .critical
  else if inputs.ages.any (· > inputs.timeoutDegradedMs) then .degraded
  else .normal

def isTransitApplicable (inputs : ArbitrationInputs) : Bool :=
  if inputs.oddZone > 2 then false
  else if !inputs.missionReceived then false
  else true

def isColregAvoidApplicable (inputs : ArbitrationInputs) : Bool :=
  if inputs.oddZone = 2 then false
  else if !inputs.colregsReceived then false
  else if inputs.ageColregsMs > inputs.timeoutDegradedMs then false
  else if !inputs.colregsConflictDetected then false
  else if !inputs.colregsActionRequired then false
  else true

def isRestrictedVisApplicable (inputs : ArbitrationInputs) : Bool :=
  if inputs.oddZone ≠ 3 then false
  else if !inputs.worldReceived then false
  else if inputs.worldVisibilityNm ≥ 2.0 then false
  else if inputs.ownSpeedKn ≤ 0.0 then false
  else true

def isChannelFollowApplicable (inputs : ArbitrationInputs) : Bool :=
  if inputs.oddZone ≠ 1 then false
  else if !inputs.worldReceived then false
  else if !inputs.worldInVtsZone then false
  else true

def isMrcDriftApplicable (inputs : ArbitrationInputs) : Bool :=
  inputs.modeMrcTriggered || computeHealthState inputs = .critical

/-- The minimum-risk drift excludes every other behaviour. -/
def computeActiveSet (inputs : ArbitrationInputs) : List BehaviorType :=
  if isMrcDriftApplicable inputs then [.mrcDrift]
  else
    (if isTransitApplicable inputs then [.transit] else []) ++
    (if isColregAvoidApplicable inputs then [.colregAvoid] else []) ++
    (if isRestrictedVisApplicable inputs then [.dpHold] else []) ++
    (if isChannelFollowApplicable inputs then [.berth] else [])

/-! ### Priority -/

def isMrcType (behavior : BehaviorType) : Bool :=
  behavior = .mrcDrift || behavior = .mrcAnchor || behavior = .mrcHeaveTo

def hasMrc (activeSet : List BehaviorType) : Bool := activeSet.any isMrcType

def selectPrimary (activeSet : List BehaviorType) (inputs : ArbitrationInputs) : BehaviorType :=
  if computeHealthState inputs = .critical then .mrcDrift
  else
    match activeSet.find? isMrcType with
    | some mrc => mrc
    | none =>
        if activeSet.contains .colregAvoid then .colregAvoid
        else activeSet.headD .mrcDrift

/-! ### Facts about the active set -/

/-- A minimum-risk behaviour is active exactly in an emergency. -/
theorem hasMrc_computeActiveSet (inputs : ArbitrationInputs) :
    hasMrc (computeActiveSet inputs) = isMrcDriftApplicable inputs := by
  unfold computeActiveSet
  split_ifs <;> simp_all [hasMrc, isMrcType]

theorem computeActiveSet_of_mrc {inputs : ArbitrationInputs}
    (applicable : isMrcDriftApplicable inputs = true) : computeActiveSet inputs = [.mrcDrift] := by
  unfold computeActiveSet
  rw [if_pos applicable]

/-- Outside an emergency the health is not critical. -/
theorem not_critical_of_ordinary {inputs : ArbitrationInputs}
    (ordinary : isMrcDriftApplicable inputs = false) :
    computeHealthState inputs ≠ .critical := by
  intro critical
  unfold isMrcDriftApplicable at ordinary
  rw [critical, decide_eq_true rfl, Bool.or_true] at ordinary
  cases ordinary

/-- In zone two only the transit can be active outside an emergency. -/
theorem computeActiveSet_of_zone_two {inputs : ArbitrationInputs}
    (ordinary : isMrcDriftApplicable inputs = false) (two : inputs.oddZone = 2) :
    computeActiveSet inputs = if inputs.missionReceived then [.transit] else [] := by
  have noAvoidance : isColregAvoidApplicable inputs = false := by
    unfold isColregAvoidApplicable
    rw [if_pos two]
  have clearSight : isRestrictedVisApplicable inputs = false := by
    unfold isRestrictedVisApplicable
    rw [two, if_pos (by decide)]
  have noChannel : isChannelFollowApplicable inputs = false := by
    unfold isChannelFollowApplicable
    rw [two, if_pos (by decide)]
  have transit : isTransitApplicable inputs = inputs.missionReceived := by
    unfold isTransitApplicable
    rw [two, if_neg (by decide)]
    cases inputs.missionReceived <;> rfl
  unfold computeActiveSet
  rw [ordinary, noAvoidance, clearSight, noChannel, transit]
  cases inputs.missionReceived <;> rfl

/-- Outside an emergency, the avoidance is the primary behaviour exactly when it is applicable,
and a behaviour that is chosen among active ones is no minimum-risk behaviour. -/
theorem selectPrimary_of_ordinary {inputs : ArbitrationInputs}
    (ordinary : isMrcDriftApplicable inputs = false) :
    (selectPrimary (computeActiveSet inputs) inputs = .colregAvoid ↔
        isColregAvoidApplicable inputs = true) ∧
      (computeActiveSet inputs ≠ [] →
        isMrcType (selectPrimary (computeActiveSet inputs) inputs) = false) := by
  unfold selectPrimary computeActiveSet
  rw [if_neg (not_critical_of_ordinary ordinary)]
  cases isTransitApplicable inputs <;> cases isColregAvoidApplicable inputs <;>
    cases isRestrictedVisApplicable inputs <;> cases isChannelFollowApplicable inputs <;>
    simp [ordinary, isMrcType]

/-! ### The state of the node -/

/-- The latest message of each kind. -/
structure Inbox where
  odd : Option ODDState := none
  gncOdd : Option GncExecutionOdd := none
  world : Option WorldState := none
  mode : Option ModeCmd := none
  mission : Option MissionGoal := none
  colregs : Option COLREGsConstraint := none
  route : Option PlannedRoute := none

/-- What a tick hands to the next one. -/
structure Decision where
  lastActiveColregs : Option COLREGsConstraint := none
  prevPrimary : BehaviorType := .mrcDrift
  prevOddZone : UInt8 := 99
  prevHealth : HealthState := .normal
  m3ActiveLatch : Bool := false
  fallbackAnchorSet : Bool := false
  fallbackAnchorHdg : Float := 0.0
  colregsAnchorSet : Bool := false
  colregsAnchorHdg : Float := 0.0
  colregsQuarteringGate : Bool := false
  colregsRule15CommitActive : Bool := false
  colregsRule15CommitTargetKey : String := ""
  colregsCommittedRequiredDevDeg : Float := 0.0
  colregsInactiveCycles : Nat := 0
  riskRankingState : RankingState := {}
  recoveryActive : Bool := false
  recoveryDwellCycles : Nat := 0
  colregsRecoveryArmed : Bool := false
  colregsRiskRecoveryHold : Bool := false
  lastColregsTargetAbaftBeam : Bool := true
  activeColregsRuleId : Option UInt8 := none
  activeColregsTargetKey : String := ""
  releasedColregsRuleId : Option UInt8 := none
  releasedColregsTargetKey : String := ""
  releasedColregsRearmHold : Bool := false

/-! ### Building the inputs -/

/-- The age of a stamp in milliseconds, rounded towards zero. -/
def ageMs (now stamp : Int) : Int := (now - stamp).tdiv 1000000

def buildInputs (inbox : Inbox) (now : Int) : ArbitrationInputs where
  oddZone := inbox.odd.elim 0 (·.currentZone)
  oddReceived := inbox.odd.isSome
  modeMrcTriggered := inbox.mode.any (·.mode = modeEmergency)
  modeReceived := inbox.mode.isSome
  worldReceived := inbox.world.isSome
  ownSpeedKn := inbox.world.elim 0.0 (·.ownShip.sogKn)
  missionReceived := inbox.mission.isSome
  colregsReceived := inbox.colregs.isSome
  colregsConflictDetected := inbox.colregs.any (·.conflictDetected)
  colregsActionRequired := inbox.colregs.any colregsActionRequired
  ageOddMs := inbox.odd.elim 0 fun msg => ageMs now msg.stamp
  ageWorldMs := inbox.world.elim 0 fun msg => ageMs now msg.stamp
  ageMissionMs := inbox.mission.elim 0 fun msg => ageMs now msg.stamp
  ageColregsMs := inbox.colregs.elim 0 fun msg => ageMs now msg.stamp

/-- `m3_task_valid`. -/
def m3TaskValid (inbox : Inbox) : Bool :=
  inbox.mission.any fun msg => msg.fsmState = fsmActive && msg.taskValidity = taskValidityValid

def Decision.latchM3 (decision : Decision) (inbox : Inbox) : Decision :=
  if !decision.m3ActiveLatch && m3TaskValid inbox then { decision with m3ActiveLatch := true }
  else decision

/-! ### The release dwell -/

def kColregsReleaseDwellCycles : Nat := 4

def kLowConfidenceClearThreshold : Float32 := 0.5

/-- What a tick heard: its inputs, the message its directive comes from, and the state. -/
structure Heard where
  inputs : ArbitrationInputs
  forDirective : Option COLREGsConstraint
  decision : Decision

/-- The last conflict, where it bridges a gap of low confidence during a turn. -/
def heldDirective (latest : COLREGsConstraint) (decision : Decision) : Option COLREGsConstraint :=
  if latest.confidence < kLowConfidenceClearThreshold ∧ decision.colregsAnchorSet = true ∧
      decision.colregsInactiveCycles < kColregsReleaseDwellCycles then
    decision.lastActiveColregs
  else none

/-- A conflict is remembered. A message without one is bridged for a few cycles or forgets it. -/
def hear (inbox : Inbox) (inputs : ArbitrationInputs) (decision : Decision) : Heard :=
  match inbox.colregs with
  | none => ⟨inputs, none, decision⟩
  | some latest =>
      if latest.conflictDetected then
        { inputs := inputs
          forDirective := some latest
          decision :=
            { decision with
              lastActiveColregs := some latest
              activeColregsRuleId := primaryColregsRuleId latest
              activeColregsTargetKey := primaryColregsTargetKey latest
              colregsInactiveCycles := 0 } }
      else
        match heldDirective latest decision with
        | some held =>
            { inputs :=
                { inputs with
                  colregsConflictDetected := true
                  colregsActionRequired := colregsActionRequired held }
              forDirective := some held
              decision :=
                { decision with colregsInactiveCycles := decision.colregsInactiveCycles + 1 } }
        | none =>
            { inputs := inputs
              forDirective := some latest
              decision := { decision with lastActiveColregs := none, colregsInactiveCycles := 0 } }

end MassL3.M4
