/-
This file follows a target whose closest approach the world model could not compute through a
reasoning cycle: the release pass, the step of each rule, the give-way duty and the stand-on
action. Each step is quiet, as if the target were absent, exactly if its machine and its latch do
not misread the mark; and a cycle is quiet exactly if all its steps are.
-/

import MassTdl.Colregs.UnknownApproach
import MassTdl.WorldModel.Aggregator

namespace MassL3.M6.Colregs

/-! ### What a target is remembered by -/

/-- The machine of a rule. A missing one is created. -/
def fsmOf (params : RuleParameters) (memory : TargetMemory) (rule : PrimaryRule) :
    EncounterStateMachine :=
  (memory.fsms.get rule).getD { params := params.encounter }

/-- No machine moves toward ACTIVE or holds something new, and no latch latches. -/
structure TargetMemory.Quiet (params : RuleParameters) (before after : TargetMemory) : Prop where
  fsms : ∀ rule, (fsmOf params before rule).Quiet (fsmOf params after rule)
  latches : ∀ rule, isLatched (after.latches.get rule) = true →
    isLatched (before.latches.get rule) = true
  giveWay : isLatched after.giveWayLatch = true → isLatched before.giveWayLatch = true
  standon : isLatched after.standonLatch = true → isLatched before.standonLatch = true

section Stages

variable {lib : MathLibrary} {odd : OddDomain} {params : RuleParameters}
  {target : TargetGeometricState} {nowS : Float} {threat : Threat} {memory : TargetMemory}
  {rule : PrimaryRule}

theorem latchOf_latched : (latchOf params memory rule).latched =
    isLatched (memory.latches.get rule) := by
  unfold latchOf isLatched
  cases memory.latches.get rule <;> rfl

/-- One rule gets a new machine and a new latch. -/
theorem quiet_set_iff {after : TargetMemory} {fsm : EncounterStateMachine} {latch : RuleLatch}
    (fsms : after.fsms = memory.fsms.set rule (some fsm))
    (latches : after.latches = memory.latches.set rule (some latch))
    (giveWay : after.giveWayLatch = memory.giveWayLatch)
    (standon : after.standonLatch = memory.standonLatch) :
    memory.Quiet params after ↔ (fsmOf params memory rule).Quiet fsm ∧
      (latch.latched = true → (latchOf params memory rule).latched = true) := by
  rw [latchOf_latched]
  constructor
  · intro quiet
    have machine := quiet.fsms rule
    have latched := quiet.latches rule
    rw [latches, PerPrimary.get_set_self] at latched
    unfold fsmOf at machine ⊢
    rw [fsms, PerPrimary.get_set_self] at machine
    exact ⟨machine, latched⟩
  · rintro ⟨machine, latched⟩
    refine ⟨fun other => ?_, fun other => ?_, fun held => giveWay ▸ held,
      fun held => standon ▸ held⟩
    · by_cases own : other = rule
      · subst own
        unfold fsmOf at machine ⊢
        rw [fsms, PerPrimary.get_set_self]
        exact machine
      · unfold fsmOf
        rw [fsms, PerPrimary.get_set_of_ne _ _ own]
        exact EncounterStateMachine.quiet_self
    · by_cases own : other = rule
      · subst own
        rw [latches, PerPrimary.get_set_self]
        exact latched
      · rw [latches, PerPrimary.get_set_of_ne _ _ own]
        exact id

/-! ### The step of one rule -/

/-- The rule applies, and no other has the target. -/
def ruleHit (lib : MathLibrary) (params : RuleParameters) (target : TargetGeometricState)
    (memory : TargetMemory) (rule : PrimaryRule) : Bool :=
  primaryOnsetAllowed memory rule && (primaryRaw lib params target rule).isActive

/-- A give-way waits for the machine to be engaged before its rule is latched. -/
theorem gatedPrimary_isActive_iff :
    (gatedPrimary lib params target nowS threat memory rule).isActive = true ↔
      ruleHit lib params target memory rule = true ∧
        ((primaryFsm lib params target nowS threat memory rule).engaged = true ∨
          (primaryRaw lib params target rule).role.isGiveWay = false) := by
  unfold gatedPrimary primaryGiveWayDuty giveWayDutyFromRawOrFsm ruleHit
  cases (primaryFsm lib params target nowS threat memory rule).engaged <;>
    cases (primaryRaw lib params target rule).role.isGiveWay <;>
    cases primaryOnsetAllowed memory rule <;>
    simp [RuleEvaluation.deactivate]

/-- An unknown approach makes an open latch of a rule latch. -/
structure OnsetMisread (lib : MathLibrary) (params : RuleParameters)
    (target : TargetGeometricState) (threat : Threat) (memory : TargetMemory)
    (rule : PrimaryRule) : Prop where
  isOpen : (latchOf params memory rule).latched = false
  unreleased : (latchOf params memory rule).released = false
  projection : threat.ruleProjectionReleaseOk rule = false
  hit : ruleHit lib params target memory rule = true
  ready : (fsmOf params memory rule).engaged = true ∨
    (primaryRaw lib params target rule).role.isGiveWay = false
  below : -1.0 < (latchOf params memory rule).cpaSafeM
  closing : threat.rangeClosing = true
  notClear : threat.releasePastAndClear = false

/-- A rule misreads an unknown approach, with its machine or with its latch. -/
def RuleMisreads (lib : MathLibrary) (params : RuleParameters) (target : TargetGeometricState)
    (threat : Threat) (memory : TargetMemory) (rule : PrimaryRule) : Prop :=
  (fsmOf params memory rule).Misreads (ruleHit lib params target memory rule) threat.rangeClosing
      threat.releasePastAndClear (some (primaryRaw lib params target rule)) ∨
    OnsetMisread lib params target threat memory rule

theorem primaryFsm_unknown (unknown : target.snapshot = unknownSnapshot) :
    primaryFsm lib params target nowS threat memory rule =
      (fsmOf params memory rule).transition unknownSnapshot
        (ruleHit lib params target memory rule) threat.rangeClosing threat.releasePastAndClear
        nowS (some (primaryRaw lib params target rule)) := by
  rw [← unknown]
  rfl

/-- Where the machine is quiet, the latch is quiet unless the onset is misread. -/
theorem quiet_primaryLatch_iff (unknown : target.snapshot = unknownSnapshot)
    (machine : (fsmOf params memory rule).Quiet
      (primaryFsm lib params target nowS threat memory rule)) :
    ((primaryLatch lib params target nowS threat memory rule).latched = true →
        (latchOf params memory rule).latched = true) ↔
      ¬ OnsetMisread lib params target threat memory rule := by
  have cpa : target.cpaM = -1.0 := congrArg TargetSnapshot.cpaM unknown
  have engaged : threat.releasePastAndClear = false →
      (primaryFsm lib params target nowS threat memory rule).engaged =
        (fsmOf params memory rule).engaged := by
    intro notClear
    rw [primaryFsm_unknown unknown, notClear] at machine ⊢
    exact EncounterStateMachine.engaged_of_quiet machine
  refine RuleLatch.quiet_update_iff.trans (not_congr ?_)
  unfold RuleLatch.Latches
  rw [gatedPrimary_isActive_iff, cpa]
  constructor
  · rintro ⟨isOpen, unreleased, projection, ⟨hit, ready⟩, below, closing, notClear⟩
    rw [engaged notClear] at ready
    exact ⟨isOpen, unreleased, projection, hit, ready, below, closing, notClear⟩
  · rintro ⟨isOpen, unreleased, projection, hit, ready, below, closing, notClear⟩
    rw [← engaged notClear] at ready
    exact ⟨isOpen, unreleased, projection, ⟨hit, ready⟩, below, closing, notClear⟩

/-- The step of a rule is quiet unless the rule misreads the approach. -/
theorem quiet_afterPrimary_iff (unknown : target.snapshot = unknownSnapshot) :
    memory.Quiet params (memory.afterPrimary lib params target nowS threat rule) ↔
      ¬ RuleMisreads lib params target threat memory rule := by
  rw [quiet_set_iff (afterPrimary_fsms rule) (afterPrimary_latches rule)
    (afterPrimary_giveWayLatch rule) (afterPrimary_standonLatch rule), RuleMisreads, not_or]
  constructor
  · rintro ⟨machine, latch⟩
    refine ⟨?_, (quiet_primaryLatch_iff unknown machine).mp latch⟩
    rw [primaryFsm_unknown unknown] at machine
    exact EncounterStateMachine.quiet_transition_iff.mp machine
  · rintro ⟨machine, latch⟩
    have machine : (fsmOf params memory rule).Quiet
        (primaryFsm lib params target nowS threat memory rule) := by
      rw [primaryFsm_unknown unknown]
      exact EncounterStateMachine.quiet_transition_iff.mpr machine
    exact ⟨machine, (quiet_primaryLatch_iff unknown machine).mpr latch⟩

/-! ### The release pass -/

theorem releasePass_fsms (semanticState : Option EncounterState) (rule : PrimaryRule) :
    (releasePass target nowS threat memory semanticState).memory.fsms.get rule =
      (memory.fsms.get rule).map fun fsm =>
        fsm.transition target.snapshot false threat.rangeClosing
          (threat.releasePastAndClear || threat.ruleProjectionReleaseOk rule) nowS none := by
  cases rule <;> rfl

theorem releasePass_latches (semanticState : Option EncounterState) (rule : PrimaryRule) :
    (releasePass target nowS threat memory semanticState).memory.latches.get rule =
      (memory.latches.get rule).map fun latch =>
        latch.update false target.cpaM threat.rangeClosing
          (threat.releasePastAndClear || threat.ruleProjectionReleaseOk rule) none
          (threat.ruleProjectionReleaseOk rule) (allowPrimaryProjectionRelease (some latch)) := by
  cases rule <;> rfl

/-- The pass latches nothing, so it is quiet unless it moves a machine closer. -/
theorem quiet_releasePass_iff (unknown : target.snapshot = unknownSnapshot)
    (semanticState : Option EncounterState) :
    memory.Quiet params (releasePass target nowS threat memory semanticState).memory ↔
      ∀ rule, ∀ fsm ∈ memory.fsms.get rule, ¬ fsm.Misreads false threat.rangeClosing
        (threat.releasePastAndClear || threat.ruleProjectionReleaseOk rule) none := by
  have machine : ∀ rule, (fsmOf params memory rule).Quiet
        (fsmOf params (releasePass target nowS threat memory semanticState).memory rule) ↔
      ∀ fsm ∈ memory.fsms.get rule, ¬ fsm.Misreads false threat.rangeClosing
        (threat.releasePastAndClear || threat.ruleProjectionReleaseOk rule) none := by
    intro rule
    unfold fsmOf
    rw [releasePass_fsms, unknown]
    cases memory.fsms.get rule with
    | none => exact iff_of_true EncounterStateMachine.quiet_self fun fsm absent => by cases absent
    | some fsm =>
      rw [Option.map_some, Option.getD_some, Option.getD_some,
        EncounterStateMachine.quiet_transition_iff]
      exact ⟨fun read other same => Option.mem_some_iff.mp same ▸ read, fun read => read fsm rfl⟩
  constructor
  · exact fun quiet rule => (machine rule).mp (quiet.fsms rule)
  · intro read
    refine ⟨fun rule => (machine rule).mpr (read rule), fun rule latched => ?_,
      isLatched_map fun latch => RuleLatch.latched_of_update_inactive,
      isLatched_map fun latch => RuleLatch.latched_of_update_inactive⟩
    rw [releasePass_latches] at latched
    exact isLatched_map (fun latch => RuleLatch.latched_of_update_inactive) latched

/-- What is erased is quiet. -/
theorem TargetMemory.quiet_resolve : memory.Quiet params memory.resolve where
  fsms rule := by
    unfold fsmOf
    rw [memory.resolve_erased.fsms rule]
    exact ⟨Nat.zero_le _, nofun, nofun⟩
  latches rule latched := by
    rw [memory.resolve_erased.latches rule] at latched
    cases latched
  giveWay := nofun
  standon := nofun

/-! ### The assessment -/

/-- The latch of the duty, or a new one. -/
def dutyLatchOf (params : RuleParameters) (memory : TargetMemory) : RuleLatch :=
  memory.giveWayLatch.getD { cpaSafeM := params.cpaSafeM }

/-- The latch of the stand-on action, or a new one. -/
def standonLatchOf (params : RuleParameters) (memory : TargetMemory) : RuleLatch :=
  memory.standonLatch.getD { cpaSafeM := params.cpaSafeM }

/-- An open latch takes an unknown approach for one that is too close. -/
def RuleLatch.Misreads (latch : RuleLatch) (signal rangeClosing pastAndClear projection : Bool) :
    Prop :=
  latch.latched = false ∧ latch.Latches signal (-1.0) rangeClosing pastAndClear projection

/-- The duty latches on an unknown approach. -/
def DutyMisread (params : RuleParameters) (target : TargetGeometricState) (threat : Threat)
    (evaluated : Evaluated) : Prop :=
  (dutyLatchOf params evaluated.memory).Misreads
    (dutyOnsetSignal params target threat evaluated.evaluations) threat.rangeClosing
    threat.releasePastAndClear threat.dutyProjectionReleaseOk

/-- The stand-on action latches on one, given whether the duty holds. -/
def StandonMisread (params : RuleParameters) (threat : Threat) (evaluated : Evaluated)
    (dutyLatched : Bool) : Prop :=
  (standonLatchOf params evaluated.memory).Misreads
    (!dutyLatched && rule17InextremisRaw evaluated.evaluations && !threat.cpaProjectionPastAndSafe)
    threat.rangeClosing threat.pastAndClear threat.cpaProjectionPastAndSafe

/-- The memory that a rule finds. -/
def found (lib : MathLibrary) (params : RuleParameters) (target : TargetGeometricState)
    (nowS : Float) (threat : Threat) (memory : TargetMemory) : PrimaryRule → TargetMemory
  | .rule13 => memory
  | .rule14 => memory.afterPrimary lib params target nowS threat .rule13
  | .rule15 =>
      (memory.afterPrimary lib params target nowS threat .rule13).afterPrimary lib params target
        nowS threat .rule14

/-- The memory after the step of the duty. -/
def afterDuty (params : RuleParameters) (target : TargetGeometricState) (threat : Threat)
    (evaluated : Evaluated) : TargetMemory :=
  { evaluated.memory with
    giveWayLatch := some (dutyLatch params target threat evaluated.memory evaluated.evaluations) }

/-- The memory after each step of an assessment: the three rules, the duty and the action. -/
def assessStages (lib : MathLibrary) (odd : OddDomain) (params : RuleParameters)
    (target : TargetGeometricState) (nowS : Float) (threat : Threat) (memory : TargetMemory)
    (semanticState : Option EncounterState) (latchReleased : Bool) : List TargetMemory :=
  let evaluated := evaluateRules lib odd params target nowS threat memory semanticState
  [found lib params target nowS threat memory .rule14,
    found lib params target nowS threat memory .rule15,
    evaluated.memory,
    afterDuty params target threat evaluated,
    (assess lib odd params target nowS threat memory semanticState latchReleased).memory]

/-- No step of an assessment misreads an unknown approach. -/
structure AssessedAsUnknown (lib : MathLibrary) (odd : OddDomain) (params : RuleParameters)
    (target : TargetGeometricState) (nowS : Float) (threat : Threat) (memory : TargetMemory)
    (semanticState : Option EncounterState) : Prop where
  rules : ∀ rule, ¬ RuleMisreads lib params target threat
    (found lib params target nowS threat memory rule) rule
  duty : ¬ DutyMisread params target threat
    (evaluateRules lib odd params target nowS threat memory semanticState)
  standon :
    let evaluated := evaluateRules lib odd params target nowS threat memory semanticState
    ¬ StandonMisread params threat evaluated
      (dutyLatch params target threat evaluated.memory evaluated.evaluations).latched

theorem isLatched_getD {latch : Option RuleLatch} {cpaSafeM : Float} :
    (latch.getD { cpaSafeM }).latched = isLatched latch := by
  cases latch <;> rfl

/-- The duty and the action are latches of their own. -/
theorem quiet_latches_iff {after : TargetMemory} (fsms : after.fsms = memory.fsms)
    (latches : after.latches = memory.latches) :
    memory.Quiet params after ↔
      (isLatched after.giveWayLatch = true → isLatched memory.giveWayLatch = true) ∧
        (isLatched after.standonLatch = true → isLatched memory.standonLatch = true) := by
  refine ⟨fun quiet => ⟨quiet.giveWay, quiet.standon⟩, fun quiet => ⟨fun rule => ?_, fun rule => ?_,
    quiet.1, quiet.2⟩⟩
  · unfold fsmOf
    rw [fsms]
    exact EncounterStateMachine.quiet_self
  · rw [latches]
    exact id

@[simp]
theorem afterDuty_fsms (evaluated : Evaluated) :
    (afterDuty params target threat evaluated).fsms = evaluated.memory.fsms := rfl

@[simp]
theorem afterDuty_latches (evaluated : Evaluated) :
    (afterDuty params target threat evaluated).latches = evaluated.memory.latches := rfl

/-- The step of the duty is quiet unless it misreads the approach. -/
theorem quiet_duty_iff (unknown : target.snapshot = unknownSnapshot) (evaluated : Evaluated) :
    evaluated.memory.Quiet params (afterDuty params target threat evaluated) ↔
      ¬ DutyMisread params target threat evaluated := by
  have cpa : target.cpaM = -1.0 := congrArg TargetSnapshot.cpaM unknown
  have before : isLatched evaluated.memory.giveWayLatch =
      (dutyLatchOf params evaluated.memory).latched := isLatched_getD.symm
  have after : isLatched (afterDuty params target threat evaluated).giveWayLatch =
      (dutyLatch params target threat evaluated.memory evaluated.evaluations).latched := rfl
  rw [quiet_latches_iff (afterDuty_fsms _) (afterDuty_latches _), after, before, dutyLatch, cpa]
  exact (and_iff_left id).trans RuleLatch.quiet_update_iff

/-- The step of the action is quiet unless it misreads the approach. -/
theorem quiet_standon_iff (unknown : target.snapshot = unknownSnapshot)
    {semanticState : Option EncounterState} {latchReleased : Bool} {evaluated : Evaluated}
    (rules : evaluateRules lib odd params target nowS threat memory semanticState = evaluated) :
    (afterDuty params target threat evaluated).Quiet params
        (assess lib odd params target nowS threat memory semanticState latchReleased).memory ↔
      ¬ StandonMisread params threat evaluated
        (dutyLatch params target threat evaluated.memory evaluated.evaluations).latched := by
  have cpa : target.cpaM = -1.0 := congrArg TargetSnapshot.cpaM unknown
  have before : isLatched (afterDuty params target threat evaluated).standonLatch =
      (standonLatchOf params evaluated.memory).latched := isLatched_getD.symm
  have fsms := @assess_fsms lib odd params target nowS threat memory semanticState latchReleased
  have latches :=
    @assess_latches lib odd params target nowS threat memory semanticState latchReleased
  rw [rules] at fsms latches
  rw [quiet_latches_iff (fsms.trans (afterDuty_fsms _).symm)
    (latches.trans (afterDuty_latches _).symm), assess_giveWayLatch, assess_standonLatch, rules,
    before, standonLatch, cpa]
  exact (and_iff_right id).trans RuleLatch.quiet_update_iff

/-- An assessment is quiet exactly if no step of it misreads the approach. -/
theorem quiet_assessStages_iff (unknown : target.snapshot = unknownSnapshot)
    (semanticState : Option EncounterState) (latchReleased : Bool) :
    List.IsChain (TargetMemory.Quiet params)
        (memory :: assessStages lib odd params target nowS threat memory semanticState
          latchReleased) ↔
      AssessedAsUnknown lib odd params target nowS threat memory semanticState := by
  have last : (evaluateRules lib odd params target nowS threat memory semanticState).memory =
      (found lib params target nowS threat memory .rule15).afterPrimary lib params target nowS
        threat .rule15 := evaluateRules_memory
  unfold assessStages
  simp only [List.isChain_cons_cons, List.isChain_singleton, and_true]
  rw [quiet_duty_iff unknown, quiet_standon_iff unknown rfl, last, quiet_afterPrimary_iff unknown]
  constructor
  · rintro ⟨rule13, rule14, rule15, duty, standon⟩
    refine ⟨fun rule => ?_, duty, standon⟩
    cases rule with
    | rule13 => exact (quiet_afterPrimary_iff unknown).mp rule13
    | rule14 => exact (quiet_afterPrimary_iff unknown).mp rule14
    | rule15 => exact rule15
  · rintro ⟨rules, duty, standon⟩
    exact ⟨(quiet_afterPrimary_iff unknown).mpr (rules .rule13),
      (quiet_afterPrimary_iff unknown).mpr (rules .rule14), rules .rule15, duty, standon⟩

/-! ### The cycle of a target -/

/-- The encounter is over after the release pass. -/
def Threat.endsAt (threat : Threat) (pass : ReleasePass) : Bool :=
  pass.transitionedToRelease && pass.latchReleasedNow ||
    (threat.anyLatchReleased || pass.memory.resolved)

/-- The memory at each step of the cycle of a target, from what it finds on. -/
def cycleStages (lib : MathLibrary) (odd : OddDomain) (params : RuleParameters)
    (target : TargetGeometricState) (nowS : Float) (threat : Threat) (memory : TargetMemory)
    (semanticState : Option EncounterState) : List TargetMemory :=
  let pass := releasedPass target nowS threat memory semanticState
  memory :: pass.memory ::
    if threat.endsAt pass then [pass.memory.resolve]
    else
      assessStages lib odd params target nowS threat pass.memory pass.semanticState
        (threat.anyLatchReleased || pass.latchReleasedNow)

/-- The last of them is what the cycle leaves behind. -/
theorem cycleStages_getLast? (lib : MathLibrary) (odd : OddDomain) (params : RuleParameters)
    (target : TargetGeometricState) (nowS currentRng : Float) (memory : TargetMemory)
    (semanticState : Option EncounterState) :
    (cycleStages lib odd params target nowS (Colregs.threat lib params target memory currentRng)
        memory semanticState).getLast? =
      some (reasonTarget lib odd params target nowS currentRng memory semanticState).memory := by
  unfold cycleStages reasonTarget afterRelease Threat.endsAt
  dsimp only
  cases (releasedPass target nowS (Colregs.threat lib params target memory currentRng) memory
      semanticState).transitionedToRelease &&
    (releasedPass target nowS (Colregs.threat lib params target memory currentRng) memory
      semanticState).latchReleasedNow
  · simp only [Bool.false_or, Bool.false_eq_true, if_false]
    split_ifs <;> rfl
  · rfl

/-- No step of a cycle misreads an unknown approach: not the release pass, and no step of the
assessment if the encounter goes on. -/
structure ReadAsUnknown (lib : MathLibrary) (odd : OddDomain) (params : RuleParameters)
    (target : TargetGeometricState) (nowS : Float) (threat : Threat) (memory : TargetMemory)
    (semanticState : Option EncounterState) : Prop where
  release : threat.releasePredicted = true → ∀ rule, ∀ fsm ∈ memory.fsms.get rule,
    ¬ fsm.Misreads false threat.rangeClosing
      (threat.releasePastAndClear || threat.ruleProjectionReleaseOk rule) none
  assessment :
    let pass := releasedPass target nowS threat memory semanticState
    threat.endsAt pass = false →
      AssessedAsUnknown lib odd params target nowS threat pass.memory pass.semanticState

theorem quiet_releasedPass_iff (unknown : target.snapshot = unknownSnapshot)
    (semanticState : Option EncounterState) :
    memory.Quiet params (releasedPass target nowS threat memory semanticState).memory ↔
      (threat.releasePredicted = true → ∀ rule, ∀ fsm ∈ memory.fsms.get rule,
        ¬ fsm.Misreads false threat.rangeClosing
          (threat.releasePastAndClear || threat.ruleProjectionReleaseOk rule) none) := by
  unfold releasedPass
  split_ifs with predicted
  · exact (quiet_releasePass_iff unknown semanticState).trans (imp_iff_right predicted).symm
  · refine iff_of_true ?_ fun released => absurd released predicted
    exact (quiet_latches_iff rfl rfl).mpr ⟨id, id⟩

/-- A cycle is quiet at every step exactly if no step misreads the approach. -/
theorem quiet_cycleStages_iff (unknown : target.snapshot = unknownSnapshot)
    (semanticState : Option EncounterState) :
    (cycleStages lib odd params target nowS threat memory semanticState).IsChain
        (TargetMemory.Quiet params) ↔
      ReadAsUnknown lib odd params target nowS threat memory semanticState := by
  unfold cycleStages
  dsimp only
  rw [List.isChain_cons_cons, quiet_releasedPass_iff unknown]
  cases ends : threat.endsAt (releasedPass target nowS threat memory semanticState) with
  | true =>
    have resolved : List.IsChain (TargetMemory.Quiet params)
        [(releasedPass target nowS threat memory semanticState).memory,
          (releasedPass target nowS threat memory semanticState).memory.resolve] :=
      List.isChain_pair.mpr TargetMemory.quiet_resolve
    rw [if_pos rfl]
    refine (and_iff_left resolved).trans ⟨fun release => ⟨release, fun goesOn => ?_⟩,
      fun read => read.release⟩
    rw [ends] at goesOn
    cases goesOn
  | false =>
    rw [if_neg Bool.false_ne_true, quiet_assessStages_iff unknown]
    exact ⟨fun read => ⟨read.1, fun _ => read.2⟩, fun read => ⟨read.release, read.assessment ends⟩⟩

end Stages

/-! ### A world state -/

/-- A target of a world state, behind some others, whose closest approach is marked invalid. -/
structure WorldState.UnknownAt (world : WorldState) (earlier : List TrackedTarget)
    (target : TrackedTarget) : Prop where
  listed : ∃ later, world.targets = earlier ++ target :: later
  cpa : target.cpaM = -1.0
  tcpa : target.tcpaS = -1.0

section Node

variable (config : Config) (node : ColregsReasonerNode) (world : WorldState)
  (earlier : List TrackedTarget) (target : TrackedTarget)

/-- The loop when it reaches a target. -/
def ColregsReasonerNode.cycleBefore : Cycle :=
  Cycle.after config node.domain world { memory := (node.observe world).memory }
    (earlier.map (convertTarget config.lib world.ownShip))

/-- What is remembered of a target when the loop reaches it, and as long as the target is
absent. -/
def ColregsReasonerNode.foundMemory : TargetMemory :=
  (node.cycleBefore config world earlier).memory target.mmsi

/-- The threat geometry of its cycle. -/
def ColregsReasonerNode.foundThreat : Threat :=
  threat config.lib (currentRuleParams config node.domain)
    (convertTarget config.lib world.ownShip target)
    (node.foundMemory config world earlier target) (currentRange world.targets target.mmsi)

/-- The steps of its cycle. -/
def ColregsReasonerNode.stagesOf : List TargetMemory :=
  cycleStages config.lib node.domain (currentRuleParams config node.domain)
    (convertTarget config.lib world.ownShip target) (seconds world.stamp)
    (node.foundThreat config world earlier target) (node.foundMemory config world earlier target)
    ((node.cycleBefore config world earlier).semanticState target.mmsi)

/-- The last of them is what the loop goes on with. -/
theorem ColregsReasonerNode.stagesOf_getLast? :
    (node.stagesOf config world earlier target).getLast? =
      some ((node.cycleBefore config world (earlier ++ [target])).memory target.mmsi) := by
  have reached : node.cycleBefore config world (earlier ++ [target]) =
      (node.cycleBefore config world earlier).add config node.domain world
        (convertTarget config.lib world.ownShip target) := by
    unfold ColregsReasonerNode.cycleBefore
    rw [List.map_append]
    exact Cycle.after_append _ _ _
  rw [reached]
  refine (cycleStages_getLast? ..).trans (congrArg some ?_)
  exact (Cycle.add_memory_self _ (convertTarget config.lib world.ownShip target)).symm

/-- No step of the cycle of a target with an unknown approach moves a machine toward ACTIVE or
latches anything. -/
def ColregsReasonerNode.IgnoresUnknown : Prop :=
  ∀ earlier target, world.UnknownAt earlier target →
    (node.stagesOf config world earlier target).IsChain
      (TargetMemory.Quiet (currentRuleParams config node.domain))

/-- For every node and every world state: no unknown approach is taken for a collision exactly
if no step finds a machine or a latch that misreads it. -/
theorem ignoresUnknown_iff :
    node.IgnoresUnknown config world ↔
      ∀ earlier target, world.UnknownAt earlier target →
        ReadAsUnknown config.lib node.domain (currentRuleParams config node.domain)
          (convertTarget config.lib world.ownShip target) (seconds world.stamp)
          (node.foundThreat config world earlier target)
          (node.foundMemory config world earlier target)
          ((node.cycleBefore config world earlier).semanticState target.mmsi) := by
  refine forall_congr' fun earlier => forall_congr' fun target => forall_congr' fun unknown => ?_
  refine quiet_cycleStages_iff ?_ _
  unfold TargetGeometricState.snapshot convertTarget
  rw [unknown.cpa, unknown.tcpa]
  rfl

end Node

/-! ### Where the mark comes from -/

section Published

variable {config : M2.Config} {node : M2.WorldModelNode} {own : M2.OwnShipSnapshot} {now : Int}
  {target : M2.TargetSnapshot}

end Published

/-! ### A ship whose closest approach is never known -/

/-- A ship comes head-on, and no cycle knows its closest approach. -/
def unknownShip (rngM : Float) : TrackedTarget := onMeridian 7 0.07 180.0 rngM (-1.0) (-1.0)

def unknownMeeting : List WorldState :=
  [scene 1 0.0 [unknownShip 8000.0], scene 2 0.0 [unknownShip 7900.0],
    scene 3 0.0 [unknownShip 7800.0]]

/-- The fourth cycle takes the encounter to ACTIVE, and Rule 14 and the duty latch. -/
theorem ignoresUnknown_false :
    let node := ColregsReasonerNode.after meridianConfig {} (cyclesOf unknownMeeting)
    let world := scene 4 0.0 [unknownShip 7700.0]
    let next := node.after meridianConfig (cyclesOf [world])
    (((node.memory 7).fsms.rule14.map fun fsm => fsm.state) = some .preplan ∧
        isLatched (node.memory 7).latches.rule14 = false ∧
        isLatched (node.memory 7).giveWayLatch = false) ∧
      (((next.memory 7).fsms.rule14.map fun fsm => fsm.state) = some .active ∧
        isLatched (next.memory 7).latches.rule14 = true ∧
        isLatched (next.memory 7).giveWayLatch = true) ∧
      ¬ node.IgnoresUnknown meridianConfig world := by
  intro node world next
  refine ⟨by decide +kernel, by decide +kernel, fun ignores => ?_⟩
  have quiet := ignores [] (unknownShip 7700.0) ⟨⟨[], rfl⟩, rfl, rfl⟩
  have latches : ((node.stagesOf meridianConfig world [] (unknownShip 7700.0)).map fun memory =>
      isLatched memory.latches.rule14).IsChain fun before after => after = true → before = true :=
    List.isChain_map_of_isChain _ (fun before after step => step.latches .rule14) quiet
  exact absurd latches (by decide +kernel)

end MassL3.M6.Colregs
