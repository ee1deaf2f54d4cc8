/-
This file is about a machine in ACTIVE while the closest approach of its target rises in two
cycles one after the other. Two improvements in a row take a machine to MONITOR. A cycle in which
a release is predicted takes it through two transitions, though, and the second one sees the
closest approach that the first has just seen, so it takes the improvement for over.
-/

import MassTdl.Colregs.Announce
import MassTdl.Colregs.UnknownCpa

namespace MassL3.M6.Colregs

/-! ### One machine -/

/-- MONITOR or further. -/
def EncounterState.IsPastActive (state : EncounterState) : Prop :=
  state = .monitor ∨ state = .release ∨ state = .clear

instance (state : EncounterState) : Decidable state.IsPastActive :=
  inferInstanceAs (Decidable (_ ∨ _))

namespace EncounterStateMachine

variable {fsm : EncounterStateMachine} {target : TargetSnapshot}
  {ruleGeometricHit rangeClosing pastAndClear : Bool} {nowS : Float}
  {rawEval : Option RuleEvaluation}

section Active

variable (active : fsm.state = .active)

include active

theorem transition_active :
    fsm.transition target ruleGeometricHit rangeClosing pastAndClear nowS rawEval =
      { fsm.fromActive target with lastCpaM := target.cpaM } := by
  unfold transition
  rw [active]

theorem transition_not_improved (still : fsm.cpaImproved target = false) :
    fsm.transition target ruleGeometricHit rangeClosing pastAndClear nowS rawEval =
      { fsm with
        cpaImproveCounter := 0
        lastCpaM := target.cpaM } := by
  rw [transition_active active, fromActive, still, if_neg Bool.false_ne_true]

theorem transition_first_improvement (improved : fsm.cpaImproved target = true)
    (first : fsm.cpaImproveCounter = 0) :
    fsm.transition target ruleGeometricHit rangeClosing pastAndClear nowS rawEval =
      { fsm with
        cpaImproveCounter := 1
        lastCpaM := target.cpaM } := by
  rw [transition_active active, fromActive, improved, if_pos rfl, first, if_neg (by decide)]

theorem transition_second_improvement (improved : fsm.cpaImproved target = true)
    (second : 1 ≤ fsm.cpaImproveCounter) :
    fsm.transition target ruleGeometricHit rangeClosing pastAndClear nowS rawEval =
      { fsm with
        state := .monitor
        cpaImproveCounter := 0
        lastCpaM := target.cpaM } := by
  rw [transition_active active, fromActive, improved, if_pos rfl,
    if_pos (Nat.succ_le_succ second)]

end Active

/-- A machine in MONITOR whose closest approach does not deteriorate is released, or stays. -/
theorem transition_monitor (monitor : fsm.state = .monitor)
    (calm : fsm.cpaDeteriorating target = false) :
    fsm.transition target ruleGeometricHit rangeClosing pastAndClear nowS rawEval =
      if fsm.releaseCondition target rangeClosing pastAndClear then
        { fsm with
          state := .release
          releaseConditionMetSinceS := nowS
          lastCpaM := target.cpaM }
      else { fsm with lastCpaM := target.cpaM } := by
  have isMonitor : fsm.transition target ruleGeometricHit rangeClosing pastAndClear nowS rawEval =
      { fsm.fromMonitor target rangeClosing pastAndClear nowS with lastCpaM := target.cpaM } := by
    unfold transition
    rw [monitor]
  rw [isMonitor, fromMonitor, calm, if_neg (fun absurdly => Bool.false_ne_true absurdly.1)]
  split_ifs <;> rfl

theorem transition_clear_state (clear : fsm.state = .clear) :
    (fsm.transition target ruleGeometricHit rangeClosing pastAndClear nowS rawEval).state =
      .detected := by
  unfold transition
  rw [clear]

theorem transition_release_state (released : fsm.state = .release) :
    (fsm.transition target ruleGeometricHit rangeClosing pastAndClear nowS rawEval).state =
      if fsm.releaseCondition target rangeClosing pastAndClear then
        if fsm.releaseConditionMetSinceS ≥ 0.0 ∧
            nowS - fsm.releaseConditionMetSinceS ≥ fsm.params.tDwellS then .clear
        else .release
      else .monitor := by
  unfold transition
  rw [released]
  dsimp only
  unfold fromRelease
  split_ifs <;> first | rfl | exact released

/-- From MONITOR or RELEASE a machine goes to MONITOR, RELEASE or CLEAR, unless the closest
approach deteriorates. -/
theorem isPastActive_transition
    (behind : fsm.state = .monitor ∧ fsm.cpaDeteriorating target = false ∨
      fsm.state = .release) :
    (fsm.transition target ruleGeometricHit rangeClosing pastAndClear nowS
      rawEval).state.IsPastActive := by
  obtain ⟨monitor, calm⟩ | released := behind
  · rw [transition_monitor monitor calm]
    split_ifs
    · exact .inr (.inl rfl)
    · exact .inl monitor
  · rw [transition_release_state released]
    split_ifs
    · exact .inr (.inr rfl)
    · exact .inr (.inl rfl)
    · exact .inl rfl

/-- The closest approach rises by more than the hysteresis. -/
def Rises (before after : Float) : Prop := after > before + kCpaTrendHysteresisM

instance (before after : Float) : Decidable (Rises before after) :=
  inferInstanceAs (Decidable (after > before + kCpaTrendHysteresisM))

section Rises

variable {before after : Float} (rises : Rises before after)

include rises

theorem lt_of_rises : before < after := by
  have number := (Binary64.number_of_lt rises).1
  exact Binary64.chain_le_lt (Binary64.le_add_of_not_neg number hysteresis_not_neg) rises

theorem cpaImproved_of_rises (seen : fsm.lastCpaM = before) (cpa : target.cpaM = after)
    (positive : 0.0 < before) : fsm.cpaImproved target = true := by
  unfold cpaImproved
  rw [seen, cpa, Bool.and_eq_true, decide_eq_true_eq, decide_eq_true_eq]
  exact ⟨positive, rises⟩

theorem not_cpaDeteriorating_of_rises (seen : fsm.lastCpaM = before)
    (cpa : target.cpaM = after) : fsm.cpaDeteriorating target = false := by
  refine Bool.eq_false_iff.mpr fun deteriorating => ?_
  unfold cpaDeteriorating at deteriorating
  rw [seen, cpa, Bool.and_eq_true, decide_eq_true_eq, decide_eq_true_eq] at deteriorating
  exact Binary64.not_lt_sub_of_not_neg deteriorating.1 rfl hysteresis_not_neg
    (Binary64.chain_lt (lt_of_rises rises) deteriorating.2)

end Rises

end EncounterStateMachine

/-! ### One cycle of a machine -/

/-- What a cycle gives the machines of a target. -/
structure MachineCycle where
  target : TargetGeometricState
  nowS : Float
  threat : Threat

/-- The transition of the release pass. -/
def MachineCycle.released (cycle : MachineCycle) (rule : PrimaryRule)
    (fsm : EncounterStateMachine) : EncounterStateMachine :=
  releasedFsm cycle.target cycle.nowS cycle.threat rule fsm

/-- A cycle takes a machine through the release pass, if a release is predicted, and through the
rules. -/
def EncounterStateMachine.afterCycle (fsm : EncounterStateMachine) (cycle : MachineCycle)
    (rule : PrimaryRule) (ruleGeometricHit : Bool) (rawEval : Option RuleEvaluation) :
    EncounterStateMachine :=
  (if cycle.threat.releasePredicted then cycle.released rule fsm
    else fsm).transition cycle.target.snapshot ruleGeometricHit cycle.threat.rangeClosing
      cycle.threat.releasePastAndClear cycle.nowS rawEval

namespace EncounterStateMachine

variable {fsm : EncounterStateMachine} {cycle : MachineCycle} {rule : PrimaryRule}
  {ruleGeometricHit : Bool} {rawEval : Option RuleEvaluation}

theorem afterCycle_predicted (predicted : cycle.threat.releasePredicted = true) :
    fsm.afterCycle cycle rule ruleGeometricHit rawEval =
      (cycle.released rule fsm).transition cycle.target.snapshot ruleGeometricHit
        cycle.threat.rangeClosing cycle.threat.releasePastAndClear cycle.nowS rawEval := by
  unfold afterCycle
  rw [predicted, if_pos rfl]

theorem afterCycle_unpredicted (unpredicted : cycle.threat.releasePredicted = false) :
    fsm.afterCycle cycle rule ruleGeometricHit rawEval =
      fsm.transition cycle.target.snapshot ruleGeometricHit cycle.threat.rangeClosing
        cycle.threat.releasePastAndClear cycle.nowS rawEval := by
  unfold afterCycle
  rw [unpredicted, if_neg Bool.false_ne_true]

section Active

variable (active : fsm.state = .active)

include active

/-- A cycle without an improvement forgets the one before it. -/
theorem afterCycle_not_improved (still : fsm.cpaImproved cycle.target.snapshot = false) :
    fsm.afterCycle cycle rule ruleGeometricHit rawEval =
      { fsm with
        cpaImproveCounter := 0
        lastCpaM := cycle.target.cpaM } := by
  cases predicted : cycle.threat.releasePredicted with
  | false =>
    rw [afterCycle_unpredicted predicted]
    exact transition_not_improved active still
  | true =>
    rw [afterCycle_predicted predicted, MachineCycle.released, releasedFsm,
      transition_not_improved active still]
    exact transition_not_improved active (not_cpaImproved rfl)

/-- Without an improvement before, a cycle with two transitions forgets the one it has seen. -/
theorem afterCycle_forgets (uncounted : fsm.cpaImproveCounter = 0)
    (predicted : cycle.threat.releasePredicted = true) :
    fsm.afterCycle cycle rule ruleGeometricHit rawEval =
      { fsm with
        cpaImproveCounter := 0
        lastCpaM := cycle.target.cpaM } := by
  cases improved : fsm.cpaImproved cycle.target.snapshot with
  | false => exact afterCycle_not_improved active improved
  | true =>
    rw [afterCycle_predicted predicted, MachineCycle.released, releasedFsm,
      transition_first_improvement active improved uncounted]
    exact transition_not_improved active (not_cpaImproved rfl)

/-- A machine that has not counted an improvement stays in ACTIVE for another cycle. -/
theorem afterCycle_active (uncounted : fsm.cpaImproveCounter = 0) :
    (fsm.afterCycle cycle rule ruleGeometricHit rawEval).state = .active := by
  cases improved : fsm.cpaImproved cycle.target.snapshot with
  | false =>
    rw [afterCycle_not_improved active improved]
    exact active
  | true =>
    cases predicted : cycle.threat.releasePredicted with
    | true =>
      rw [afterCycle_forgets active uncounted predicted]
      exact active
    | false =>
      rw [afterCycle_unpredicted predicted, transition_first_improvement active improved uncounted]
      exact active

theorem not_isPastActive_afterCycle (uncounted : fsm.cpaImproveCounter = 0) :
    ¬ (fsm.afterCycle cycle rule ruleGeometricHit rawEval).state.IsPastActive := by
  rw [afterCycle_active active uncounted]
  decide

/-- With an improvement before, another one takes it to MONITOR. -/
theorem isPastActive_afterCycle_of_improved (counted : 1 ≤ fsm.cpaImproveCounter)
    (improved : fsm.cpaImproved cycle.target.snapshot = true) :
    (fsm.afterCycle cycle rule ruleGeometricHit rawEval).state.IsPastActive := by
  cases predicted : cycle.threat.releasePredicted with
  | false =>
    rw [afterCycle_unpredicted predicted, transition_second_improvement active improved counted]
    exact .inl rfl
  | true =>
    rw [afterCycle_predicted predicted, MachineCycle.released, releasedFsm,
      transition_second_improvement active improved counted]
    exact isPastActive_transition (.inl ⟨rfl, not_cpaDeteriorating rfl⟩)

end Active

theorem isPastActive_afterCycle_of_monitor (monitor : fsm.state = .monitor)
    (calm : fsm.cpaDeteriorating cycle.target.snapshot = false) :
    (fsm.afterCycle cycle rule ruleGeometricHit rawEval).state.IsPastActive := by
  cases predicted : cycle.threat.releasePredicted with
  | false =>
    rw [afterCycle_unpredicted predicted]
    exact isPastActive_transition (.inl ⟨monitor, calm⟩)
  | true =>
    rw [afterCycle_predicted predicted]
    refine isPastActive_transition ?_
    have again : (cycle.released rule fsm).cpaDeteriorating cycle.target.snapshot =
        false := not_cpaDeteriorating rfl
    rw [MachineCycle.released, releasedFsm, transition_monitor monitor calm] at again ⊢
    split_ifs at again ⊢
    · exact .inr rfl
    · exact .inl ⟨monitor, again⟩

/-- A machine in RELEASE is carried round to DETECTED by a cycle that clears it in its release
pass. -/
theorem isPastActive_afterCycle_of_release_iff (released : fsm.state = .release) :
    (fsm.afterCycle cycle rule ruleGeometricHit rawEval).state.IsPastActive ↔
      ¬ (cycle.threat.releasePredicted = true ∧
        fsm.releaseCondition cycle.target.snapshot cycle.threat.rangeClosing
          (cycle.threat.releasePastAndClear || cycle.threat.ruleProjectionReleaseOk rule) = true ∧
        fsm.releaseConditionMetSinceS ≥ 0.0 ∧
        cycle.nowS - fsm.releaseConditionMetSinceS ≥ fsm.params.tDwellS) := by
  cases predicted : cycle.threat.releasePredicted with
  | false =>
    rw [afterCycle_unpredicted predicted]
    exact iff_of_true (isPastActive_transition (.inr released)) fun cleared =>
      Bool.false_ne_true cleared.1
  | true =>
    rw [afterCycle_predicted predicted]
    have state : (cycle.released rule fsm).state = _ :=
      transition_release_state released
    split_ifs at state with condition dwelt
    · refine iff_of_false (fun past => ?_) (not_not.mpr ⟨rfl, condition, dwelt⟩)
      rw [transition_clear_state state] at past
      exact absurd past (by decide)
    · exact iff_of_true (isPastActive_transition (.inr state)) fun cleared =>
        dwelt cleared.2.2
    · exact iff_of_true (isPastActive_transition (.inl ⟨state, not_cpaDeteriorating rfl⟩))
        fun cleared => condition cleared.2.1

end EncounterStateMachine

/-! ### Two cycles of a machine -/

/-- A machine that the first cycle takes to MONITOR and to RELEASE is carried round by the second
one, to CLEAR and to DETECTED. -/
structure GoesRound (fsm : EncounterStateMachine) (rule : PrimaryRule)
    (first second : MachineCycle) : Prop where
  predicted : first.threat.releasePredicted = true
  condition : fsm.releaseCondition first.target.snapshot first.threat.rangeClosing
    first.threat.releasePastAndClear = true
  predictedAgain : second.threat.releasePredicted = true
  conditionAgain : fsm.releaseCondition second.target.snapshot second.threat.rangeClosing
    (second.threat.releasePastAndClear || second.threat.ruleProjectionReleaseOk rule) = true
  dated : first.nowS ≥ 0.0
  dwelt : second.nowS - first.nowS ≥ fsm.params.tDwellS

/-- The closest approach seen last is positive, and an improvement has been counted before or no
release is predicted in the first cycle. -/
structure Graduates (fsm : EncounterStateMachine) (rule : PrimaryRule)
    (first second : MachineCycle) : Prop where
  positive : 0.0 < fsm.lastCpaM
  counts : 1 ≤ fsm.cpaImproveCounter ∨ first.threat.releasePredicted = false
  stops : ¬ (1 ≤ fsm.cpaImproveCounter ∧ GoesRound fsm rule first second)

namespace EncounterStateMachine

variable {fsm : EncounterStateMachine} {rule : PrimaryRule} {first second : MachineCycle}

/-- With an improvement counted before, the first transition is the one to MONITOR, and only a
second cycle that carries the machine round takes it back. -/
theorem isPastActive_twice_of_counted_iff (active : fsm.state = .active)
    (improved : fsm.cpaImproved first.target.snapshot = true)
    (counted : 1 ≤ fsm.cpaImproveCounter)
    (risesAgain : Rises first.target.cpaM second.target.cpaM) (firstHit secondHit : Bool)
    (firstEval secondEval : Option RuleEvaluation) :
    ((fsm.afterCycle first rule firstHit firstEval).afterCycle second rule secondHit
        secondEval).state.IsPastActive ↔
      ¬ GoesRound fsm rule first second := by
  cases predicted : first.threat.releasePredicted with
  | false =>
    rw [afterCycle_unpredicted predicted, transition_second_improvement active improved counted]
    exact iff_of_true
      (isPastActive_afterCycle_of_monitor rfl (not_cpaDeteriorating_of_rises risesAgain rfl rfl))
      fun round => Bool.false_ne_true (predicted.symm.trans round.predicted)
  | true =>
    rw [afterCycle_predicted predicted, MachineCycle.released, releasedFsm,
      transition_second_improvement active improved counted,
      transition_monitor rfl (not_cpaDeteriorating rfl)]
    split_ifs with condition
    · rw [isPastActive_afterCycle_of_release_iff rfl]
      refine not_congr ⟨?_, fun round => ?_⟩
      · rintro ⟨predictedAgain, conditionAgain, dated, dwelt⟩
        exact ⟨predicted, condition, predictedAgain, conditionAgain, dated, dwelt⟩
      · exact ⟨round.predictedAgain, round.conditionAgain, round.dated, round.dwelt⟩
    · exact iff_of_true
        (isPastActive_afterCycle_of_monitor rfl
          (not_cpaDeteriorating_of_rises risesAgain rfl rfl))
        fun round => condition round.condition

/-- Without one, two rising cycles are enough unless the second transition of the first cycle
forgets the improvement. -/
theorem isPastActive_twice_of_uncounted_iff (active : fsm.state = .active)
    (improved : fsm.cpaImproved first.target.snapshot = true)
    (uncounted : fsm.cpaImproveCounter = 0) (positive : 0.0 < first.target.cpaM)
    (risesAgain : Rises first.target.cpaM second.target.cpaM) (firstHit secondHit : Bool)
    (firstEval secondEval : Option RuleEvaluation) :
    ((fsm.afterCycle first rule firstHit firstEval).afterCycle second rule secondHit
        secondEval).state.IsPastActive ↔
      first.threat.releasePredicted = false := by
  cases predicted : first.threat.releasePredicted with
  | true =>
    rw [afterCycle_forgets active uncounted predicted]
    refine iff_of_false ?_ Bool.true_eq_false.mp
    exact not_isPastActive_afterCycle active rfl
  | false =>
    refine iff_of_true ?_ rfl
    rw [afterCycle_unpredicted predicted, transition_first_improvement active improved uncounted]
    exact isPastActive_afterCycle_of_improved active le_rfl
      (cpaImproved_of_rises risesAgain rfl rfl positive)

/-- A machine in ACTIVE that sees its closest approach rise twice ends in MONITOR or further
exactly if it graduates. -/
theorem isPastActive_afterCycle_twice_iff (active : fsm.state = .active)
    (rises : Rises fsm.lastCpaM first.target.cpaM)
    (risesAgain : Rises first.target.cpaM second.target.cpaM) (firstHit secondHit : Bool)
    (firstEval secondEval : Option RuleEvaluation) :
    ((fsm.afterCycle first rule firstHit firstEval).afterCycle second rule secondHit
        secondEval).state.IsPastActive ↔
      Graduates fsm rule first second := by
  by_cases positive : 0.0 < fsm.lastCpaM
  · have improved : fsm.cpaImproved first.target.snapshot = true :=
      cpaImproved_of_rises rises rfl rfl positive
    by_cases counted : 1 ≤ fsm.cpaImproveCounter
    · rw [isPastActive_twice_of_counted_iff active improved counted risesAgain]
      exact ⟨fun stops => ⟨positive, .inl counted, fun round => stops round.2⟩,
        fun graduates round => graduates.stops ⟨counted, round⟩⟩
    · have uncounted : fsm.cpaImproveCounter = 0 := Nat.lt_one_iff.mp (Nat.not_le.mp counted)
      rw [isPastActive_twice_of_uncounted_iff active improved uncounted
        (Binary64.chain_lt positive (lt_of_rises rises)) risesAgain]
      exact ⟨fun unpredicted => ⟨positive, .inr unpredicted, fun round => counted round.1⟩,
        fun graduates => graduates.counts.resolve_left counted⟩
  · have unimproved : fsm.cpaImproved first.target.snapshot = false := by
      unfold cpaImproved
      rw [decide_eq_false positive, Bool.false_and]
    rw [afterCycle_not_improved active unimproved]
    exact iff_of_false (not_isPastActive_afterCycle active rfl) fun graduates =>
      positive graduates.positive

end EncounterStateMachine

/-! ### The machines of a node -/

/-- Each primary rule takes its machine through one transition. -/
theorem evaluateRules_machine (lib : MathLibrary) (odd : OddDomain) (params : RuleParameters)
    (target : TargetGeometricState) (nowS : Float) (threat : Threat) (memory : TargetMemory)
    (semanticState : Option EncounterState) (rule : PrimaryRule) :
    ∃ ruleGeometricHit rawEval,
      (evaluateRules lib odd params target nowS threat memory semanticState).memory.fsms.get rule =
        some (((memory.fsms.get rule).getD { params := params.encounter }).transition
          target.snapshot ruleGeometricHit threat.rangeClosing threat.releasePastAndClear nowS
          rawEval) := by
  have stepped : ∀ before : TargetMemory, before.fsms.get rule = memory.fsms.get rule →
      ∃ ruleGeometricHit rawEval, some (primaryFsm lib params target nowS threat before rule) =
        some (((memory.fsms.get rule).getD { params := params.encounter }).transition
          target.snapshot ruleGeometricHit threat.rangeClosing threat.releasePastAndClear nowS
          rawEval) := by
    intro before same
    rw [← same]
    exact ⟨_, _, rfl⟩
  rw [evaluateRules_memory]
  simp only [afterPrimary_fsms]
  cases rule with
  | rule13 => exact stepped memory rfl
  | rule14 => exact stepped _ (by rw [afterPrimary_fsms]; rfl)
  | rule15 => exact stepped _ (by rw [afterPrimary_fsms, afterPrimary_fsms]; rfl)

section Node

variable (config : Config) (node : ColregsReasonerNode) (world : WorldState)
  (target : TrackedTarget)

/-- What a cycle gives the machines of a target that alone has its key. -/
def ColregsReasonerNode.machineCycle : MachineCycle where
  target := convertTarget config.lib world.ownShip target
  nowS := seconds world.stamp
  threat := node.threatOf config world target

@[simp]
theorem machineCycle_cpaM : (node.machineCycle config world target).target.cpaM = target.cpaM :=
  rfl

variable {config node world target}

/-- The cycle of a target erases it, or takes each of its machines through the release pass and
the rules. -/
theorem outcomeAlone_cases (rule : PrimaryRule) :
    (node.outcomeAlone config world target).memory.Erased ∨
      (node.passOf config world target).memory.resolved = false ∧ ∃ ruleGeometricHit rawEval,
        (node.outcomeAlone config world target).memory.fsms.get rule =
          some ((((node.passOf config world target).memory.fsms.get rule).getD
              { params := (currentRuleParams config node.domain).encounter }).transition
            (node.machineCycle config world target).target.snapshot ruleGeometricHit
            (node.threatOf config world target).rangeClosing
            (node.threatOf config world target).releasePastAndClear (seconds world.stamp)
            rawEval) := by
  unfold ColregsReasonerNode.outcomeAlone
  obtain ⟨_, resolved⟩ | ⟨unresolved, _, assessed⟩ := reasonTarget_cases config.lib node.domain
    (currentRuleParams config node.domain) (convertTarget config.lib world.ownShip target)
    (seconds world.stamp) target.rngM ((node.observe world).memory target.mmsi) none
  · rw [resolved]
    exact .inl (TargetMemory.resolve_erased _)
  · rw [assessed, assess_fsms]
    exact .inr ⟨unresolved, evaluateRules_machine ..⟩

/-- A machine that a cycle leaves behind has been through that cycle. -/
theorem outcomeAlone_machine {rule : PrimaryRule} {fsm after : EncounterStateMachine}
    (known : ((node.observe world).memory target.mmsi).fsms.get rule = some fsm)
    (left : (node.outcomeAlone config world target).memory.fsms.get rule = some after) :
    ∃ ruleGeometricHit rawEval, after =
      fsm.afterCycle (node.machineCycle config world target) rule ruleGeometricHit rawEval := by
  obtain erased | ⟨-, ruleGeometricHit, rawEval, machine⟩ := outcomeAlone_cases rule
  · cases left.symm.trans (erased.fsms rule)
  · refine ⟨ruleGeometricHit, rawEval, ?_⟩
    have passed : (node.passOf config world target).memory.fsms.get rule =
        some (if (node.threatOf config world target).releasePredicted then
          (node.machineCycle config world target).released rule fsm else fsm) := by
      unfold ColregsReasonerNode.passOf releasedPass
      split_ifs
      · rw [releasePass_fsms, known]
        rfl
      · exact known
    rw [passed, Option.getD_some] at machine
    exact Option.some.inj (left.symm.trans machine)

/-- A cycle leaves a machine of every primary rule, or it erases the target. -/
theorem outcomeAlone_erased {rule : PrimaryRule}
    (left : (node.outcomeAlone config world target).memory.fsms.get rule = none) :
    (node.outcomeAlone config world target).memory.Erased := by
  obtain erased | ⟨-, _, _, machine⟩ := outcomeAlone_cases rule
  · exact erased
  · cases left.symm.trans machine

/-- A resolved target is left without machines. -/
theorem outcomeAlone_of_resolved
    (resolved : ((node.observe world).memory target.mmsi).resolved = true) (rule : PrimaryRule) :
    (node.outcomeAlone config world target).memory.fsms.get rule = none := by
  obtain erased | ⟨unresolved, -⟩ := outcomeAlone_cases rule
  · exact erased.fsms rule
  · unfold ColregsReasonerNode.passOf at unresolved
    rw [releasedPass_resolved, resolved] at unresolved
    cases unresolved

end Node

/-! ### Two cycles of a run -/

section Run

variable (config : Config) (events : List Event)

/-- The event is a tick on a fresh world state in which the target alone has its key. -/
structure ReasonsOn (count : Nat) (world : WorldState) (target : TrackedTarget) : Prop where
  tick : ∃ nowNs, events[count]? = some (.reasoningTick nowNs) ∧
    isStale config world nowNs = false
  cached : (nodeAt config events count).lastWorldState = some world
  alone : ∃ earlier later, world.AloneAt target earlier later

/-- No tick on a fresh world state comes between two events. -/
def NoneBetween (first second : Nat) : Prop :=
  ∀ count nowNs world, first < count → count < second →
    events[count]? = some (.reasoningTick nowNs) →
      (nodeAt config events count).lastWorldState = some world →
        isStale config world nowNs = true

/-- The machine of a target and a rule is in ACTIVE, and the closest approach of the target rises
by more than the hysteresis in two cycles one after the other. -/
structure RisesTwice (rule : PrimaryRule) (fsm : EncounterStateMachine) (first second : Nat)
    (firstWorld secondWorld : WorldState) (firstTarget secondTarget : TrackedTarget) :
    Prop where
  reasons : ReasonsOn config events first firstWorld firstTarget
  reasonsAgain : ReasonsOn config events second secondWorld secondTarget
  ordered : first < second
  next : NoneBetween config events first second
  same : SameEncounter config events first second
  key : secondTarget.mmsi = firstTarget.mmsi
  machine : ((((nodeAt config events first).observe firstWorld).memory
    firstTarget.mmsi).fsms.get rule) = some fsm
  active : fsm.state = .active
  rises : EncounterStateMachine.Rises fsm.lastCpaM firstTarget.cpaM
  risesAgain : EncounterStateMachine.Rises firstTarget.cpaM secondTarget.cpaM

variable {config events}

variable {node : ColregsReasonerNode} {world : WorldState}

theorem observe_memory_of_forward (forward : node.rewinds world = false) :
    (node.observe world).memory = node.memory := by
  unfold ColregsReasonerNode.observe
  dsimp only
  rw [forward, if_neg Bool.false_ne_true]

/-- A tick that is no reset sees a stamp that does not go back. -/
theorem rewinds_of_kept {nowNs : Int} (kept : node.forgets (.reasoningTick nowNs) = false)
    (cached : node.lastWorldState = some world) : node.rewinds world = false := by
  rwa [ColregsReasonerNode.forgets, cached] at kept

/-- Without a world state a tick does nothing. -/
theorem next_tick_of_none (nowNs : Int) (cached : node.lastWorldState = none) :
    node.next config (.reasoningTick nowNs) = node := by
  unfold ColregsReasonerNode.next ColregsReasonerNode.handle ColregsReasonerNode.runReasoning
  rw [cached]

/-- Between two cycles no memory changes. -/
theorem memory_between {first second : Nat} (ordered : first < second)
    (next : NoneBetween config events first second)
    (same : SameEncounter config events first second) :
    (nodeAt config events second).memory = (nodeAt config events (first + 1)).memory := by
  refine Runs.stateAt_invariant_between (fun node : ColregsReasonerNode =>
    node.memory = (nodeAt config events (first + 1)).memory) (Nat.succ_le_of_lt ordered) rfl
    fun count event above below present unchanged => ?_
  have kept := same count event above below.le present
  refine Eq.trans ?_ unchanged
  cases event with
  | oddState currentZone => rfl
  | worldState world => rfl
  | scenarioLoaded => cases kept
  | reasoningTick nowNs =>
    cases cached : (nodeAt config events count).lastWorldState with
    | none => exact congrArg ColregsReasonerNode.memory (next_tick_of_none nowNs cached)
    | some world =>
      refine (next_tick_memory_stale cached (next count nowNs world above below present
        cached)).trans ?_
      exact observe_memory_of_forward (rewinds_of_kept kept cached)

/-- After a tick, what is remembered of a target that alone has its key is what its cycle
leaves. -/
theorem ReasonsOn.memory_succ {count : Nat} {target : TrackedTarget}
    (reasons : ReasonsOn config events count world target) :
    (nodeAt config events (count + 1)).memory target.mmsi =
      ((nodeAt config events count).outcomeAlone config world target).memory.withHistory
        (some target.brgDeg) (some target.rngM) := by
  obtain ⟨nowNs, tick, fresh⟩ := reasons.tick
  obtain ⟨earlier, later, alone⟩ := reasons.alone
  rw [nodeAt_succ tick, alone.next_tick_memory reasons.cached fresh]

/-- In every run, a machine in ACTIVE whose target's closest approach rises in two cycles is in
MONITOR or further behind the second one, if there still is one, exactly if it graduates. -/
theorem isPastActive_iff_graduates {rule : PrimaryRule} {fsm after : EncounterStateMachine}
    {first second : Nat} {firstWorld secondWorld : WorldState}
    {firstTarget secondTarget : TrackedTarget}
    (rises : RisesTwice config events rule fsm first second firstWorld secondWorld firstTarget
      secondTarget)
    (left : ((nodeAt config events (second + 1)).memory secondTarget.mmsi).fsms.get rule =
      some after) :
    after.state.IsPastActive ↔
      Graduates fsm rule
        ((nodeAt config events first).machineCycle config firstWorld firstTarget)
        ((nodeAt config events second).machineCycle config secondWorld secondTarget) := by
  obtain ⟨nowNs, tick, -⟩ := rises.reasonsAgain.tick
  have seen : ((nodeAt config events second).observe secondWorld).memory secondTarget.mmsi =
      (nodeAt config events (first + 1)).memory firstTarget.mmsi := by
    rw [observe_memory_of_forward (rewinds_of_kept (rises.same second _ rises.ordered le_rfl tick)
      rises.reasonsAgain.cached), memory_between rises.ordered rises.next rises.same, rises.key]
  rw [rises.reasonsAgain.memory_succ] at left
  cases between : ((nodeAt config events first).outcomeAlone config firstWorld
      firstTarget).memory.fsms.get rule with
  | none =>
    -- the first cycle has erased the target, and the second one leaves it so
    rw [rises.reasons.memory_succ] at seen
    have resolved :=
      (congrArg TargetMemory.resolved seen).trans (outcomeAlone_erased between).resolved
    cases left.symm.trans (outcomeAlone_of_resolved resolved rule)
  | some fsmBetween =>
    obtain ⟨firstHit, firstEval, rfl⟩ := outcomeAlone_machine rises.machine between
    rw [rises.reasons.memory_succ] at seen
    have known := (congrArg (fun memory : TargetMemory => memory.fsms.get rule) seen).trans between
    obtain ⟨secondHit, secondEval, rfl⟩ := outcomeAlone_machine known left
    refine EncounterStateMachine.isPastActive_afterCycle_twice_iff rises.active ?_ ?_ firstHit
      secondHit firstEval secondEval
    · rw [machineCycle_cpaM]
      exact rises.rises
    · rw [machineCycle_cpaM, machineCycle_cpaM]
      exact rises.risesAgain

end Run

/-! ### A meeting that opens -/

/-- The ship abaft, while the closest approach rises past the floor of a release. -/
def abaft : TrackedTarget := onMeridian 7 (-0.07) 180.0 7800.0 1200.0 50.0

def furtherAbaft : TrackedTarget := onMeridian 7 (-0.07) 180.0 7900.0 1300.0 40.0

/-- A ship comes head-on, passes, and opens. Its latch is not released yet. -/
def openingMeeting : List WorldState :=
  headOnMeeting ++ [scene 1500 0.0 [abaft], scene 1501 0.0 [furtherAbaft]]

/-- The machine of Rule 14 in ACTIVE, with the closest approach it has seen last. -/
def openingMachine (lastCpaM : Float) : EncounterStateMachine where
  params := {}
  state := .active
  onset :=
    some
      { role := .bothGiveWay
        encounterType := .headOn
        preferredDirection := .starboard
        minAlterationDeg := 30.0 }
  lastCpaM := lastCpaM
  cpaHardSeen := true

/-- A world state that has just arrived is the cached one. -/
theorem cached_of_arrival {config : Config} {events : List Event} {count : Nat}
    {world : WorldState} (arrival : events[count]? = some (.worldState world)) :
    (nodeAt config events (count + 1)).lastWorldState = some world := by
  rw [nodeAt_succ arrival]
  rfl

theorem openingMeeting_rises :
    RisesTwice meridianConfig (cyclesOf openingMeeting) .rule14 (openingMachine 100.0) 9 11
      (scene 1500 0.0 [abaft]) (scene 1501 0.0 [furtherAbaft]) abaft furtherAbaft where
  reasons := ⟨⟨_, rfl, by decide⟩, cached_of_arrival rfl, [], [], aloneAt_one rfl⟩
  reasonsAgain := ⟨⟨_, rfl, by decide⟩, cached_of_arrival rfl, [], [], aloneAt_one rfl⟩
  ordered := by decide
  next := by
    intro count nowNs world above below present
    obtain rfl : count = 10 := by omega
    cases present
  same := by
    intro count event above below present
    obtain rfl | rfl : count = 10 ∨ count = 11 := by omega
    · cases present
      rfl
    · cases present
      decide +kernel
  key := by rw [furtherAbaft, abaft, onMeridian_mmsi, onMeridian_mmsi]
  machine := by decide +kernel
  active := rfl
  rises := by decide
  risesAgain := by decide

/-- What the meeting leaves of the machine. -/
theorem openingMeeting_left :
    ((nodeAt meridianConfig (cyclesOf openingMeeting) 12).memory 7).fsms.get .rule14 =
      some (openingMachine 1300.0) := by
  decide +kernel

theorem isPastActive_iff_graduates_openingMeeting :
    (openingMachine 1300.0).state.IsPastActive ↔
      Graduates (openingMachine 100.0) .rule14
        ((nodeAt meridianConfig (cyclesOf openingMeeting) 9).machineCycle meridianConfig
          (scene 1500 0.0 [abaft]) abaft)
        ((nodeAt meridianConfig (cyclesOf openingMeeting) 11).machineCycle meridianConfig
          (scene 1501 0.0 [furtherAbaft]) furtherAbaft) :=
  isPastActive_iff_graduates openingMeeting_rises openingMeeting_left

/-- The closest approach rises from 100 to 1200 and to 1300 metres. A release is predicted in both
cycles, and the machine is still in ACTIVE. -/
theorem opening_meeting_stays_active :
    ¬ ∀ (config : Config) (events : List Event) (rule : PrimaryRule)
      (fsm after : EncounterStateMachine) (first second : Nat)
      (firstWorld secondWorld : WorldState) (firstTarget secondTarget : TrackedTarget),
        RisesTwice config events rule fsm first second firstWorld secondWorld firstTarget
          secondTarget →
        ((nodeAt config events (second + 1)).memory secondTarget.mmsi).fsms.get rule = some after →
          after.state.IsPastActive := by
  intro past
  have isPast := past meridianConfig (cyclesOf openingMeeting) .rule14 (openingMachine 100.0)
    (openingMachine 1300.0) 9 11 (scene 1500 0.0 [abaft]) (scene 1501 0.0 [furtherAbaft]) abaft
    furtherAbaft openingMeeting_rises openingMeeting_left
  revert isPast
  decide

end MassL3.M6.Colregs
