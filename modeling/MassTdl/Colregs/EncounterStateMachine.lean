/-
This file translates the latch that holds a rule, a duty or an action from its onset until the
target is finally past and clear, and the encounter state machine of one target and one primary
rule: the transition of each state, the onset it captures and the hysteresis of its separation
trend. It says once what an update of the latch can do, and below the machine stand the facts on
one transition that the reasoner's results rest on.
-/

import MassTdl.Binary64.Arithmetic
import MassTdl.Colregs.Types

namespace MassL3.M6.Colregs

/-! ### The latch -/

/-- The classification a latch or an encounter holds from its onset. -/
structure Onset where
  role : Role := .free
  encounterType : EncounterType := .none
  phase : TimingPhase := .preserveCourse
  preferredDirection : Direction := .hold
  minAlterationDeg : Float := 0.0
  deriving DecidableEq

/-- What an evaluation says of the encounter. -/
def RuleEvaluation.onset (eval : RuleEvaluation) : Onset where
  role := eval.role
  encounterType := eval.encounterType
  phase := eval.phase
  preferredDirection := eval.preferredDirection
  minAlterationDeg := eval.minAlterationDeg

/-- An evaluation that has gone inactive is active again, as it was at the onset. -/
def RuleEvaluation.hold (eval : RuleEvaluation) (onset : Onset) : RuleEvaluation :=
  { eval with
    isActive := true
    role := onset.role
    encounterType := onset.encounterType
    phase := onset.phase
    preferredDirection := onset.preferredDirection
    minAlterationDeg := onset.minAlterationDeg }

/-- A latch without an onset has never been given an evaluation, or it is released. -/
structure RuleLatch where
  cpaSafeM : Float
  latched : Bool := false
  released : Bool := false
  onset : Option Onset := none
  deriving DecidableEq

namespace RuleLatch

/-- The condition under which an open latch latches. -/
def Latches (latch : RuleLatch) (ruleActive : Bool) (cpaM : Float)
    (rangeClosing pastAndClear projection : Bool) : Prop :=
  latch.released = false ∧ projection = false ∧ ruleActive = true ∧ cpaM < latch.cpaSafeM ∧
    rangeClosing = true ∧ pastAndClear = false

instance (latch : RuleLatch) (ruleActive : Bool) (cpaM : Float)
    (rangeClosing pastAndClear projection : Bool) :
    Decidable (latch.Latches ruleActive cpaM rangeClosing pastAndClear projection) :=
  inferInstanceAs (Decidable (_ ∧ _))

/-- The condition under which a latched one is released. -/
def Releases (latch : RuleLatch) (cpaM : Float)
    (rangeClosing pastAndClear projection allowProjection : Bool) : Prop :=
  rangeClosing = false ∧
    (allowProjection = true ∧ projection = true ∨
      pastAndClear = true ∧ cpaM ≥ latch.cpaSafeM)

instance (latch : RuleLatch) (cpaM : Float)
    (rangeClosing pastAndClear projection allowProjection : Bool) :
    Decidable (latch.Releases cpaM rangeClosing pastAndClear projection allowProjection) :=
  inferInstanceAs (Decidable (_ ∧ _))

/-- `RuleLatch::update`. -/
def update (latch : RuleLatch) (ruleActive : Bool) (cpaM : Float)
    (rangeClosing pastAndClear : Bool) (currentEval : Option RuleEvaluation := none)
    (projection : Bool := false) (allowProjection : Bool := true) : RuleLatch :=
  if latch.latched then
    if latch.Releases cpaM rangeClosing pastAndClear projection allowProjection then
      { latch with
        latched := false
        released := true
        onset := none }
    else latch
  else if latch.Latches ruleActive cpaM rangeClosing pastAndClear projection then
    { latch with
      latched := true
      onset := (currentEval.map RuleEvaluation.onset).or latch.onset }
  else latch

/-- An update latches only if the rule is active and the range closes. -/
theorem latched_of_update {latch : RuleLatch} {ruleActive rangeClosing pastAndClear : Bool}
    {cpaM : Float} {currentEval : Option RuleEvaluation} {projection allowProjection : Bool}
    (latched : (latch.update ruleActive cpaM rangeClosing pastAndClear currentEval projection
      allowProjection).latched = true) :
    latch.latched = true ∨ ruleActive = true ∧ rangeClosing = true := by
  by_cases before : latch.latched = true
  · exact .inl before
  · rw [update, if_neg before] at latched
    split_ifs at latched with latches
    · exact .inr ⟨latches.2.2.1, latches.2.2.2.2.1⟩
    · exact .inl latched

/-- `apply_onset`. -/
def applyOnset (latch : RuleLatch) (eval : RuleEvaluation) : RuleEvaluation :=
  match latch.onset with
  | some onset => eval.hold onset
  | none => eval

end RuleLatch

/-! ### The states of an encounter -/

inductive EncounterState where
  | clear
  | detected
  | candidate
  | preplan
  | active
  | monitor
  | release
  deriving DecidableEq, Repr

/-- `encounter_state_rank`. -/
def EncounterState.rank : EncounterState → Nat
  | .clear => 0
  | .detected => 1
  | .candidate => 2
  | .preplan => 3
  | .active => 4
  | .monitor => 4
  | .release => 5

/-- The parameters the transitions read. -/
structure EncounterParams where
  tPlanS : Float := 720.0
  tMonitorS : Float := 1500.0
  cpaHardM : Float := 1852.0
  cpaSoftM : Float := 2778.0
  cpaReleaseM : Float := 1000.0
  tDwellS : Float := 60.0
  deriving DecidableEq

/-- The gates of the current domain, for a new encounter. -/
def RuleParameters.encounter (params : RuleParameters) : EncounterParams where
  tPlanS := params.tPlanS
  tMonitorS := params.tMonitorS
  cpaHardM := params.cpaHardM
  cpaSoftM := params.cpaSoftM
  cpaReleaseM := params.cpaReleaseM
  tDwellS := params.tDwellS

structure TargetSnapshot where
  tcpaS : Float
  cpaM : Float

structure EncounterStateMachine where
  params : EncounterParams
  state : EncounterState := .clear
  onset : Option Onset := none
  releaseConditionMetSinceS : Float := -1.0
  lastCpaM : Float := -1.0
  cpaImproveCounter : Nat := 0
  cpaHardSeen : Bool := false
  deriving DecidableEq

def kCpaTrendHysteresisM : Float := 5.0

/-- An evaluation that says anything. -/
def RuleEvaluation.isClassified (eval : RuleEvaluation) : Bool :=
  eval.role ≠ .free || eval.encounterType ≠ .none || eval.preferredDirection ≠ .hold ||
    eval.minAlterationDeg > 0.0

namespace EncounterStateMachine

variable (fsm : EncounterStateMachine) (target : TargetSnapshot)

/-- ACTIVE or MONITOR. -/
def engaged : Bool := fsm.state = .active || fsm.state = .monitor

/-- `apply_onset`. -/
def applyOnset (eval : RuleEvaluation) : RuleEvaluation :=
  match fsm.onset with
  | some onset => eval.hold onset
  | none => eval

/-- `capture_onset_if_classified_`. -/
def captureOnset (rawEval : Option RuleEvaluation) : EncounterStateMachine :=
  { fsm with
    onset := fsm.onset.or ((rawEval.filter RuleEvaluation.isClassified).map RuleEvaluation.onset) }

def cpaImproved : Bool :=
  fsm.lastCpaM > 0.0 && target.cpaM > fsm.lastCpaM + kCpaTrendHysteresisM

def cpaDeteriorating : Bool :=
  fsm.lastCpaM > 0.0 && target.cpaM < fsm.lastCpaM - kCpaTrendHysteresisM

def cpaHardHit : Bool := target.cpaM < fsm.params.cpaHardM

/-- What every state before ACTIVE does with a geometric hit. -/
def classifyHit (ruleGeometricHit : Bool) (rawEval : Option RuleEvaluation) :
    EncounterStateMachine :=
  if ruleGeometricHit then
    { fsm with cpaHardSeen := fsm.cpaHardSeen || fsm.cpaHardHit target }.captureOnset rawEval
  else fsm

theorem classifyHit_state (ruleGeometricHit : Bool) (rawEval : Option RuleEvaluation) :
    (fsm.classifyHit target ruleGeometricHit rawEval).state = fsm.state := by
  unfold classifyHit
  split <;> rfl

theorem classifyHit_params (ruleGeometricHit : Bool) (rawEval : Option RuleEvaluation) :
    (fsm.classifyHit target ruleGeometricHit rawEval).params = fsm.params := by
  unfold classifyHit
  split <;> rfl

/-- Past and clear, opening, and the separation at the release threshold. -/
def releaseCondition (rangeClosing pastAndClear : Bool) : Bool :=
  pastAndClear && !rangeClosing && target.cpaM ≥ fsm.params.cpaReleaseM

def fromCandidate : EncounterStateMachine :=
  if target.tcpaS ≤ fsm.params.tMonitorS ∧ target.cpaM < fsm.params.cpaSoftM then
    { fsm with state := .preplan }
  else fsm

def fromPreplan (rangeClosing : Bool) (rawEval : Option RuleEvaluation) :
    EncounterStateMachine :=
  if target.tcpaS ≤ fsm.params.tPlanS ∧
      (fsm.cpaHardHit target ∨ fsm.cpaHardSeen ∧ target.cpaM < fsm.params.cpaSoftM) ∧
      rangeClosing then
    { fsm.captureOnset rawEval with
      state := .active
      cpaImproveCounter := 0 }
  else fsm

def fromActive : EncounterStateMachine :=
  if fsm.cpaImproved target then
    if fsm.cpaImproveCounter + 1 ≥ 2 then
      { fsm with
        state := .monitor
        cpaImproveCounter := 0 }
    else { fsm with cpaImproveCounter := fsm.cpaImproveCounter + 1 }
  else { fsm with cpaImproveCounter := 0 }

def fromMonitor (rangeClosing pastAndClear : Bool) (nowS : Float) : EncounterStateMachine :=
  if fsm.cpaDeteriorating target ∧ target.tcpaS ≤ fsm.params.tPlanS then
    { fsm with
      state := .active
      cpaImproveCounter := 0 }
  else if fsm.releaseCondition target rangeClosing pastAndClear then
    { fsm with
      state := .release
      releaseConditionMetSinceS := nowS }
  else fsm

def fromRelease (rangeClosing pastAndClear : Bool) (nowS : Float) : EncounterStateMachine :=
  if fsm.releaseCondition target rangeClosing pastAndClear then
    if fsm.releaseConditionMetSinceS ≥ 0.0 ∧
        nowS - fsm.releaseConditionMetSinceS ≥ fsm.params.tDwellS then
      { fsm with
        state := .clear
        onset := none
        releaseConditionMetSinceS := -1.0
        cpaHardSeen := false }
    else fsm
  else
    { fsm with
      state := .monitor
      releaseConditionMetSinceS := -1.0 }

/-- `EncounterStateMachine::transition`. -/
def transition (ruleGeometricHit rangeClosing pastAndClear : Bool) (nowS : Float)
    (rawEval : Option RuleEvaluation) : EncounterStateMachine :=
  let next :=
    match fsm.state with
    | .clear => { fsm with state := .detected }
    | .detected =>
        if ruleGeometricHit then
          { fsm.classifyHit target true rawEval with state := .candidate }
        else fsm
    | .candidate => (fsm.classifyHit target ruleGeometricHit rawEval).fromCandidate target
    | .preplan =>
        (fsm.classifyHit target ruleGeometricHit rawEval).fromPreplan target rangeClosing rawEval
    | .active => fsm.fromActive target
    | .monitor => fsm.fromMonitor target rangeClosing pastAndClear nowS
    | .release => fsm.fromRelease target rangeClosing pastAndClear nowS
  { next with lastCpaM := target.cpaM }

end EncounterStateMachine

end MassL3.M6.Colregs
