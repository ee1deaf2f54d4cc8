/-
This file translates the second half of a reasoning cycle for one target: the rules with their
latches and state machines, the give-way duty with its gates, and the hold of a stand-on action.
Together with the release it is the whole cycle of one target, which reads and writes nothing
but what is remembered of it.
-/

import MassTdl.Colregs.Release

namespace MassL3.M6.Colregs

variable (lib : MathLibrary) (odd : OddDomain) (params : RuleParameters)
  (target : TargetGeometricState) (nowS : Float)

/-! ### Primary rules -/

/-- An evaluation with the data of its target. -/
def RuleEvaluation.stamp (eval : RuleEvaluation) (target : TargetGeometricState) :
    RuleEvaluation :=
  { eval with
    targetId := target.targetId
    targetCompliance := target.targetCompliance
    tcpaS := target.tcpaS }

def RuleEvaluation.deactivate (eval : RuleEvaluation) : RuleEvaluation :=
  { eval with isActive := false }

/-- `latched_primary_rule_id`. -/
def TargetMemory.latchedPrimaryRule (memory : TargetMemory) : Option PrimaryRule :=
  PrimaryRule.all.find? fun rule => isEngaged (memory.latches.get rule)

/-- What one primary rule leaves behind. -/
structure PrimaryStep where
  fsm : EncounterStateMachine
  latch : RuleLatch
  latched : Bool
  eval : RuleEvaluation

section PrimaryRules

variable (threat : Threat) (memory : TargetMemory) (rule : PrimaryRule)

/-- The raw evaluation of a primary rule. -/
def primaryRaw : RuleEvaluation := (rule.evaluate lib target params).stamp target

/-- No other primary rule has the target. -/
def primaryOnsetAllowed : Bool := primaryRuleOnsetAllowed rule memory.latchedPrimaryRule

/-- The state machine after its transition. A missing one is created. -/
def primaryFsm : EncounterStateMachine :=
  ((memory.fsms.get rule).getD { params := params.encounter }).transition target.snapshot
    (primaryOnsetAllowed memory rule && (primaryRaw lib params target rule).isActive)
    threat.rangeClosing threat.releasePastAndClear nowS
    (some (primaryRaw lib params target rule))

/-- The raw evaluation, with the onset of an engaged state machine. -/
def fsmHeldEval : RuleEvaluation :=
  let fsm := primaryFsm lib params target nowS threat memory rule
  if fsm.engaged then fsm.applyOnset (primaryRaw lib params target rule)
  else primaryRaw lib params target rule

/-- `give_way_duty`. -/
def primaryGiveWayDuty : Bool :=
  giveWayDutyFromRawOrFsm (primaryRaw lib params target rule).role.isGiveWay
    (primaryFsm lib params target nowS threat memory rule).engaged
    (fsmHeldEval lib params target nowS threat memory rule)

/-- The evaluation the latch is given: a give-way waits for the state machine. -/
def gatedPrimary : RuleEvaluation :=
  let raw := primaryRaw lib params target rule
  if !(primaryFsm lib params target nowS threat memory rule).engaged &&
      primaryGiveWayDuty lib params target nowS threat memory rule ||
      !primaryOnsetAllowed memory rule then
    raw.deactivate
  else raw

/-- The latch of a rule. A missing one is created. -/
def latchOf : RuleLatch := (memory.latches.get rule).getD { cpaSafeM := params.cpaSafeM }

/-- The latch after its update. -/
def primaryLatch : RuleLatch :=
  let latch := latchOf params memory rule
  let gated := gatedPrimary lib params target nowS threat memory rule
  latch.update gated.isActive target.cpaM threat.rangeClosing threat.releasePastAndClear
    (some gated) (threat.ruleProjectionReleaseOk rule)
    (allowPrimaryProjectionRelease (some latch))

/-- The state machine holds what the latch does not. -/
def fsmHolds : Bool :=
  (primaryFsm lib params target nowS threat memory rule).engaged &&
    !(primaryLatch lib params target nowS threat memory rule).latched &&
    primaryGiveWayDuty lib params target nowS threat memory rule

/-- The evaluation that is published, before the gates of the duty. -/
def primaryEval : RuleEvaluation :=
  let gated := gatedPrimary lib params target nowS threat memory rule
  let latch := primaryLatch lib params target nowS threat memory rule
  let holds := fsmHolds lib params target nowS threat memory rule
  let eval :=
    if holds && !evaluationHasGiveWayDuty gated then
      fsmHeldEval lib params target nowS threat memory rule
    else gated
  let eval :=
    if latch.latched || holds then
      if eval.isActive then eval else latch.applyOnset eval
    else eval.deactivate
  if primaryOnsetAllowed memory rule then eval else eval.deactivate

/-- One primary rule. -/
def primaryStep : PrimaryStep where
  fsm := primaryFsm lib params target nowS threat memory rule
  latch := primaryLatch lib params target nowS threat memory rule
  latched :=
    (primaryLatch lib params target nowS threat memory rule).latched ||
      fsmHolds lib params target nowS threat memory rule
  eval := primaryEval lib params target nowS threat memory rule

/-- The memory after one primary rule. -/
def TargetMemory.afterPrimary : TargetMemory :=
  let step := primaryStep lib params target nowS threat memory rule
  let memory :=
    { memory with
      fsms := memory.fsms.set rule (some step.fsm)
      latches := memory.latches.set rule (some step.latch) }
  if step.latched then memory.emplaceReference target.ownshipHeadingDeg else memory

end PrimaryRules

/-- The higher of two states. The later one wins a tie. -/
def aggregate (prior : Option EncounterState) (state : EncounterState) : EncounterState :=
  match prior with
  | none => state
  | some held => if state.rank ≥ held.rank then state else held

/-! ### The other rules -/

/-- A rule that does not classify. Unless it asks to give way, it needs a risk. -/
def secondaryEval (memory : TargetMemory) (rule : SecondaryRule) : RuleEvaluation :=
  let eval := (rule.evaluate lib target odd params).stamp target
  let rawRisk := target.tcpaS ≥ 0.0 && target.cpaM < params.cpaSafeM
  let anyPrimaryLatched := isLatched memory.latches.rule13 || isLatched memory.latches.rule14 ||
    isLatched memory.latches.rule15
  if !eval.role.isGiveWay && !rawRisk && !rule5FollowsPrimaryLatch eval.ruleId anyPrimaryLatched
  then eval.deactivate
  else eval

/-- What the rules leave behind. -/
structure Evaluated where
  memory : TargetMemory
  semanticState : Option EncounterState
  evaluations : List RuleEvaluation := []

/-- One rule of the library. -/
def evaluateRule (threat : Threat) (evaluated : Evaluated) : ColregsRule → Evaluated
  | .primary rule =>
      let step := primaryStep lib params target nowS threat evaluated.memory rule
      { memory := evaluated.memory.afterPrimary lib params target nowS threat rule
        semanticState := some (aggregate evaluated.semanticState step.fsm.state)
        evaluations := evaluated.evaluations ++ [step.eval] }
  | .secondary rule =>
      { evaluated with
        evaluations :=
          evaluated.evaluations ++ [secondaryEval lib odd params target evaluated.memory rule] }

/-- Every rule in its order. -/
def evaluateRules (threat : Threat) (memory : TargetMemory)
    (semanticState : Option EncounterState) : Evaluated :=
  ruleLibrary.foldl (evaluateRule lib odd params target nowS threat) { memory, semanticState }

/-! ### The give-way duty -/

/-- Rules 13, 14 and 15. -/
def RuleEvaluation.isPrimary (eval : RuleEvaluation) : Bool :=
  eval.ruleId = 13 || eval.ruleId = 14 || eval.ruleId = 15

def isSecondaryGiveWay (eval : RuleEvaluation) : Bool :=
  eval.isActive && eval.role.isGiveWay && !eval.isPrimary

def isStandOn (eval : RuleEvaluation) : Bool := eval.isActive && eval.role = .standOn

/-- `rule17_inextremis_raw`. -/
def rule17InextremisRaw (evaluations : List RuleEvaluation) : Bool :=
  evaluations.any fun eval => isStandOn eval && eval.phase.isAction

/-- `duty_onset_signal`. -/
def dutyOnsetSignal (threat : Threat) (evaluations : List RuleEvaluation) : Bool :=
  giveWayDutyOnsetSignal (evaluations.any evaluationHasGiveWayDuty)
    (evaluations.any fun eval => isStandOn eval && eval.isPrimary) threat.releasePastAndClear
    threat.cpaProjectionPastAndSafe target.tcpaS target.cpaM params.tPlanS params.cpaHardM
    threat.rangeClosing
    (evaluations.any fun eval => evaluationHasGiveWayDuty eval && eval.isPrimary)

/-- The latch of the duty after its update. A missing one is created. -/
def dutyLatch (threat : Threat) (memory : TargetMemory) (evaluations : List RuleEvaluation) :
    RuleLatch :=
  (memory.giveWayLatch.getD { cpaSafeM := params.cpaSafeM }).update
    (dutyOnsetSignal params target threat evaluations) target.cpaM threat.rangeClosing
    threat.releasePastAndClear none threat.dutyProjectionReleaseOk

/-- The gates of the duty: a secondary give-way needs the duty and no stand-on action, and a
stand-on needs one of the two. -/
def gateDuty (dutyLatched standonActionLatched : Bool) (eval : RuleEvaluation) :
    RuleEvaluation :=
  if !dutyLatched || standonActionLatched then
    if isSecondaryGiveWay eval then eval.deactivate else eval
  else if isStandOn eval then eval.deactivate
  else eval

/-! ### The stand-on action -/

/-- The latch of the action after its update. A missing one is created. -/
def standonLatch (threat : Threat) (memory : TargetMemory) (dutyLatched inextremis : Bool) :
    RuleLatch :=
  (memory.standonLatch.getD { cpaSafeM := params.cpaSafeM }).update
    (!dutyLatched && inextremis && !threat.cpaProjectionPastAndSafe) target.cpaM
    threat.rangeClosing threat.pastAndClear none threat.cpaProjectionPastAndSafe false

/-- Rule 17 acts while the latch holds, and only then. -/
def gateStandon (standonLatched inextremis : Bool) (eval : RuleEvaluation) : RuleEvaluation :=
  if !standonLatched then
    if isStandOn eval && eval.ruleId = 17 && eval.phase.isAction then eval.deactivate else eval
  else if !inextremis && eval.ruleId = 17 then
    { eval with
      isActive := true
      role := .standOn
      phase := .independentAction
      preferredDirection := .starboard
      minAlterationDeg :=
        if eval.minAlterationDeg ≤ 0.0 then params.minAlterationDeg else eval.minAlterationDeg }
  else eval

/-! ### The cycle of one target -/

/-- What the cycle of one target leaves behind. -/
structure TargetOutcome where
  memory : TargetMemory
  semanticState : Option EncounterState
  latchReleased : Bool
  releasePredicted : Bool
  evaluations : List RuleEvaluation := []

/-- The rules, the duty and the action of a target whose encounter goes on. -/
def assess (threat : Threat) (memory : TargetMemory) (semanticState : Option EncounterState)
    (latchReleased : Bool) : TargetOutcome :=
  let evaluated := evaluateRules lib odd params target nowS threat memory semanticState
  let inextremis := rule17InextremisRaw evaluated.evaluations
  let duty := dutyLatch params target threat evaluated.memory evaluated.evaluations
  let standon := standonLatch params target threat evaluated.memory duty.latched inextremis
  let memory :=
    { evaluated.memory with
      giveWayLatch := some duty
      standonLatch := some standon }
  { memory :=
      if duty.latched || standon.latched then memory.emplaceReference target.ownshipHeadingDeg
      else memory
    semanticState := evaluated.semanticState
    latchReleased := latchReleased
    releasePredicted := threat.releasePredicted
    evaluations := evaluated.evaluations.map fun eval =>
      gateStandon params standon.latched inextremis
        (gateDuty duty.latched threat.standonActionLatched eval) }

section Assess

variable {lib odd params target nowS} {threat : Threat} {memory : TargetMemory}
  {semanticState : Option EncounterState} {latchReleased : Bool}

theorem afterPrimary_fsms (rule : PrimaryRule) :
    (memory.afterPrimary lib params target nowS threat rule).fsms =
      memory.fsms.set rule (some (primaryFsm lib params target nowS threat memory rule)) := by
  unfold TargetMemory.afterPrimary
  dsimp only
  split_ifs <;> rfl

theorem afterPrimary_latches (rule : PrimaryRule) :
    (memory.afterPrimary lib params target nowS threat rule).latches =
      memory.latches.set rule
        (some (primaryLatch lib params target nowS threat memory rule)) := by
  unfold TargetMemory.afterPrimary
  dsimp only
  split_ifs <;> rfl

theorem afterPrimary_resolved (rule : PrimaryRule) :
    (memory.afterPrimary lib params target nowS threat rule).resolved = memory.resolved := by
  unfold TargetMemory.afterPrimary
  dsimp only
  split_ifs <;> rfl

theorem afterPrimary_giveWayLatch (rule : PrimaryRule) :
    (memory.afterPrimary lib params target nowS threat rule).giveWayLatch =
      memory.giveWayLatch := by
  unfold TargetMemory.afterPrimary
  dsimp only
  split_ifs <;> rfl

theorem afterPrimary_standonLatch (rule : PrimaryRule) :
    (memory.afterPrimary lib params target nowS threat rule).standonLatch =
      memory.standonLatch := by
  unfold TargetMemory.afterPrimary
  dsimp only
  split_ifs <;> rfl

/-- Only the primary rules write. -/
theorem evaluateRules_memory :
    (evaluateRules lib odd params target nowS threat memory semanticState).memory =
      ((memory.afterPrimary lib params target nowS threat .rule13).afterPrimary lib params target
        nowS threat .rule14).afterPrimary lib params target nowS threat .rule15 := by
  unfold evaluateRules ruleLibrary
  rfl

theorem assess_latches :
    (assess lib odd params target nowS threat memory semanticState latchReleased).memory.latches =
      (evaluateRules lib odd params target nowS threat memory semanticState).memory.latches := by
  unfold assess
  dsimp only
  split_ifs <;> rfl

theorem assess_fsms :
    (assess lib odd params target nowS threat memory semanticState latchReleased).memory.fsms =
      (evaluateRules lib odd params target nowS threat memory semanticState).memory.fsms := by
  unfold assess
  dsimp only
  split_ifs <;> rfl

/-- An assessment resolves nothing. -/
theorem assess_resolved :
    (assess lib odd params target nowS threat memory semanticState
      latchReleased).memory.resolved = memory.resolved := by
  have rules : (evaluateRules lib odd params target nowS threat memory
      semanticState).memory.resolved = memory.resolved := by
    rw [evaluateRules_memory, afterPrimary_resolved, afterPrimary_resolved, afterPrimary_resolved]
  unfold assess
  dsimp only
  split_ifs
  · exact rules
  · exact rules

theorem assess_giveWayLatch :
    let evaluated := evaluateRules lib odd params target nowS threat memory semanticState
    (assess lib odd params target nowS threat memory semanticState
      latchReleased).memory.giveWayLatch =
        some (dutyLatch params target threat evaluated.memory evaluated.evaluations) := by
  unfold assess
  dsimp only
  split_ifs <;> rfl

theorem assess_standonLatch :
    let evaluated := evaluateRules lib odd params target nowS threat memory semanticState
    (assess lib odd params target nowS threat memory semanticState
      latchReleased).memory.standonLatch =
        some (standonLatch params target threat evaluated.memory
          (dutyLatch params target threat evaluated.memory evaluated.evaluations).latched
          (rule17InextremisRaw evaluated.evaluations)) := by
  unfold assess
  dsimp only
  split_ifs <;> rfl

end Assess

/-- The state that stands for a target without a release pass: that of its first machine. -/
def TargetMemory.firstState (memory : TargetMemory) : Option EncounterState :=
  PrimaryRule.all.findSome? fun rule => (memory.fsms.get rule).map fun fsm => fsm.state

/-- The cycle of one target, after its release pass. -/
def afterRelease (threat : Threat) (pass : ReleasePass) : TargetOutcome :=
  let latchReleased := threat.anyLatchReleased || pass.latchReleasedNow
  if pass.transitionedToRelease && pass.latchReleasedNow then
    { memory := pass.memory.resolve
      semanticState := pass.semanticState
      latchReleased := latchReleased
      releasePredicted := threat.releasePredicted }
  else if threat.anyLatchReleased || pass.memory.resolved then
    { memory := pass.memory.resolve
      semanticState := pass.semanticState.or pass.memory.firstState
      latchReleased := latchReleased
      releasePredicted := threat.releasePredicted }
  else
    assess lib odd params target nowS threat pass.memory pass.semanticState latchReleased

/-- The release pass, if a release is predicted. -/
def releasedPass (threat : Threat) (memory : TargetMemory)
    (semanticState : Option EncounterState) : ReleasePass :=
  if threat.releasePredicted then releasePass target nowS threat memory semanticState
  else { memory, semanticState }

/-- The body of the loop of `run_reasoning` over the targets. -/
def reasonTarget (currentRng : Float) (memory : TargetMemory)
    (semanticState : Option EncounterState) : TargetOutcome :=
  let threat := threat lib params target memory currentRng
  afterRelease lib odd params target nowS threat
    (releasedPass target nowS threat memory semanticState)

end MassL3.M6.Colregs
