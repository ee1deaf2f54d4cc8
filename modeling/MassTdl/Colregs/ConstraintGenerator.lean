/-
This file translates the constraint generator: the evaluations of all targets are escalated one
by one, a stand-on directive of Rule 17 is dropped while a primary give-way rule is active, and
what is left active is published with the most urgent phase and role.
-/

import MassTdl.Colregs.Rules

namespace MassL3.M6.Colregs

/-! ### The message -/

structure RuleActive where
  ruleId : UInt8
  rulePhase : String
  targetId : UInt64
  ruleConfidence : Float32
  role : Role
  preferredDirection : Direction
  minAlterationDeg : Float32

inductive EncounterLifecycle where
  | clear
  | onset
  | active
  | release
  deriving DecidableEq, Repr

/-- `COLREGsConstraint`. A constraint stands for its numeric value. The stamp is in
nanoseconds. -/
structure COLREGsConstraint where
  stamp : Int := 0
  activeRules : List RuleActive := []
  phase : String := ""
  primaryRole : Role := .standOn
  primaryPreferredDirection : Option Direction := none
  constraints : List Float := []
  conflictDetected : Bool := false
  confidence : Float32 := 0.0
  colregsChainTargetId : Option UInt64 := none
  encounterState : EncounterLifecycle := .clear
  pastClear : Bool := false
  releasePredicted : Bool := false

/-! ### Escalation -/

def kGivewayActionTcpaThresholdS : Float := 180.0

def phaseToStr : TimingPhase → String
  | .criticalAction => "T_emergency"
  | .independentAction => "T_act"
  | .soundWarning => "T_warn"
  | .preserveCourse => "T_standOn"

/-- `requires_action`. -/
def requiresAction (eval : RuleEvaluation) : Bool :=
  eval.isActive && (eval.role.isGiveWay || eval.role = .standOn && eval.phase.isAction)

/-- `should_escalate_noncompliant_standon`. -/
def shouldEscalateNoncompliantStandon (eval : RuleEvaluation) : Bool :=
  eval.isActive && eval.role = .standOn && eval.phase = .soundWarning &&
    eval.targetCompliance < kNonCompliantTargetThreshold

/-- `should_promote_directional_giveway_action`. -/
def shouldPromoteDirectionalGivewayAction (eval : RuleEvaluation) : Bool :=
  eval.isActive && eval.role.isGiveWay && eval.phase = .preserveCourse &&
    eval.preferredDirection ≠ .hold

/-- `should_escalate_giveway_action`. -/
def shouldEscalateGivewayAction (eval : RuleEvaluation) : Bool :=
  eval.isActive && eval.role.isGiveWay && eval.phase = .soundWarning && eval.tcpaS > 0.0 &&
    eval.tcpaS ≤ kGivewayActionTcpaThresholdS

/-- `effective_evaluation`. -/
def effectiveEvaluation (params : RuleParameters) (raw : RuleEvaluation) : RuleEvaluation :=
  let effective :=
    if shouldPromoteDirectionalGivewayAction raw then { raw with phase := .soundWarning }
    else raw
  let effective :=
    if shouldEscalateGivewayAction effective then { effective with phase := .independentAction }
    else effective
  if shouldEscalateNoncompliantStandon raw then
    { effective with
      phase := .independentAction
      preferredDirection := .starboard
      minAlterationDeg :=
        if effective.minAlterationDeg ≤ 0.0 then params.minAlterationDeg
        else effective.minAlterationDeg }
  else effective

/-! ### Suppression -/

/-- An active give-way of Rules 13 to 16. -/
def isPrimaryGiveWay (eval : RuleEvaluation) : Bool :=
  eval.isActive && eval.role.isGiveWay &&
    (eval.ruleId = 13 || eval.ruleId = 14 || eval.ruleId = 15 || eval.ruleId = 16)

/-- An active stand-on of Rule 17. -/
def isRule17StandOn (eval : RuleEvaluation) : Bool :=
  eval.isActive && eval.ruleId = 17 && eval.role = .standOn

/-- The pass over the evaluations of all targets. -/
def suppressStandOn (evaluations : List RuleEvaluation) : List RuleEvaluation :=
  if evaluations.any isPrimaryGiveWay then
    evaluations.map fun eval =>
      if isRule17StandOn eval then { eval with isActive := false } else eval
  else evaluations

/-! ### The constraint -/

def RuleEvaluation.ruleActive (eval : RuleEvaluation) : RuleActive where
  ruleId := eval.ruleId.toUInt8
  rulePhase := phaseToStr eval.phase
  targetId := eval.targetId
  ruleConfidence := eval.confidence
  role := eval.role
  preferredDirection := eval.preferredDirection
  minAlterationDeg := eval.minAlterationDeg.toFloat32

/-- The evaluation that is kept as dominant before and after one more. -/
def dominantOf (dominant : Option RuleEvaluation) (eval : RuleEvaluation) :
    Option RuleEvaluation :=
  match dominant with
  | none => if requiresAction eval then some eval else none
  | some held =>
      if requiresAction eval ∧ held.phase.toNat < eval.phase.toNat then some eval else some held

/-- The most urgent phase. -/
def dominantPhase (evaluations : List RuleEvaluation) : String :=
  if evaluations.any fun eval => eval.phase = .criticalAction then "CRITICAL_ACTION"
  else if evaluations.any fun eval => eval.phase = .independentAction then "INDEPENDENT_ACTION"
  else if evaluations.any fun eval => eval.phase = .soundWarning then "SOUND_WARNING"
  else "PRESERVE_COURSE"

/-- The evaluations after both passes. -/
def effectiveEvaluations (params : RuleParameters) (evaluations : List RuleEvaluation) :
    List RuleEvaluation :=
  suppressStandOn (evaluations.map (effectiveEvaluation params))

/-- `ConstraintGenerator::generate`. -/
def generate (params : RuleParameters) (confidence : Float32) (evaluations : List RuleEvaluation) :
    COLREGsConstraint :=
  let effective := effectiveEvaluations params evaluations
  let active := effective.filter fun eval => eval.isActive
  let dominant := active.foldl dominantOf none
  { activeRules := active.map RuleEvaluation.ruleActive
    phase := dominantPhase active
    primaryRole := (dominant.map fun eval => eval.role).getD .free
    primaryPreferredDirection :=
      some ((dominant.map fun eval => eval.preferredDirection).getD .hold)
    constraints :=
      (active.filter fun eval => eval.preferredDirection ≠ .hold).map fun eval =>
        eval.minAlterationDeg
    conflictDetected := effective.any requiresAction
    confidence := if 1.0 < confidence then 1.0 else confidence }

end MassL3.M6.Colregs
