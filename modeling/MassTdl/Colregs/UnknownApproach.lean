/-
This file says what an encounter state machine and a latch make of a closest approach that could
not be computed. It is marked with minus one, and so is its time; both compare that with their
thresholds like any other number, and it lies below each of them. So a machine moves no closer to
ACTIVE, and a latch stays open, only where another condition of the step stands in the way.
-/

import MassTdl.Colregs.Reread

namespace MassL3.M6.Colregs

/-- What the machines see of such a target. -/
def unknownSnapshot : TargetSnapshot where
  tcpaS := -1.0
  cpaM := -1.0

/-! ### One machine -/

/-- How close a state is to ACTIVE, on the way there and on the way back. -/
def EncounterState.closeness : EncounterState → Nat
  | .clear => 0
  | .detected => 1
  | .candidate => 2
  | .preplan => 3
  | .active => 4
  | .monitor => 3
  | .release => 2

namespace EncounterStateMachine

/-- A machine moves no closer to ACTIVE, and holds neither an onset nor a hard approach that it
did not hold. -/
structure Quiet (before after : EncounterStateMachine) : Prop where
  state : after.state.closeness ≤ before.state.closeness
  onset : after.onset.isSome = true → before.onset.isSome = true
  hard : after.cpaHardSeen = true → before.cpaHardSeen = true

variable (fsm : EncounterStateMachine)

/-- A hit gives the machine something to hold. -/
def HoldsHit (ruleGeometricHit : Bool) (rawEval : Option RuleEvaluation) : Prop :=
  ruleGeometricHit = true ∧
    (fsm.onset.isSome = false ∧ (rawEval.filter RuleEvaluation.isClassified).isSome = true ∨
      fsm.cpaHardSeen = false ∧ -1.0 < fsm.params.cpaHardM)

/-- What makes a machine misread an approach that is unknown, by its state. -/
def Misreads (ruleGeometricHit rangeClosing pastAndClear : Bool)
    (rawEval : Option RuleEvaluation) : Prop :=
  match fsm.state with
  | .clear => True
  | .detected => ruleGeometricHit = true
  | .candidate =>
      -1.0 ≤ fsm.params.tMonitorS ∧ -1.0 < fsm.params.cpaSoftM ∨
        fsm.HoldsHit ruleGeometricHit rawEval
  | .preplan =>
      -1.0 ≤ fsm.params.tPlanS ∧
          (-1.0 < fsm.params.cpaHardM ∨ fsm.cpaHardSeen = true ∧ -1.0 < fsm.params.cpaSoftM) ∧
          rangeClosing = true ∨
        fsm.HoldsHit ruleGeometricHit rawEval
  | .active => False
  | .monitor =>
      fsm.lastCpaM > 0.0 ∧ -1.0 < fsm.lastCpaM - kCpaTrendHysteresisM ∧
        -1.0 ≤ fsm.params.tPlanS
  | .release => ¬ (pastAndClear = true ∧ rangeClosing = false ∧ -1.0 ≥ fsm.params.cpaReleaseM)

variable {fsm} {next : EncounterStateMachine}
variable {ruleGeometricHit rangeClosing pastAndClear : Bool} {nowS : Float}
  {rawEval : Option RuleEvaluation}

theorem quiet_lastCpaM {cpaM : Float} :
    fsm.Quiet { next with lastCpaM := cpaM } ↔ fsm.Quiet next :=
  ⟨fun quiet => ⟨quiet.state, quiet.onset, quiet.hard⟩,
    fun quiet => ⟨quiet.state, quiet.onset, quiet.hard⟩⟩

theorem not_quiet_of_closer (closer : fsm.state.closeness < next.state.closeness) :
    ¬ fsm.Quiet next := fun quiet => absurd quiet.state (Nat.not_le.mpr closer)

/-- An unknown approach is no improvement. -/
theorem not_cpaImproved_unknown : fsm.cpaImproved unknownSnapshot = false := by
  refine Bool.eq_false_iff.mpr fun improved => ?_
  obtain ⟨positive, above⟩ := Bool.and_eq_true_iff.mp improved
  have positive := of_decide_eq_true positive
  have above : fsm.lastCpaM + kCpaTrendHysteresisM < -1.0 := of_decide_eq_true above
  have sum := Binary64.le_add_of_not_neg (Binary64.number_of_lt above).1 hysteresis_not_neg
  exact absurd (Binary64.chain_lt (Binary64.chain_lt_le positive sum) above) (by decide)

theorem quiet_classifyHit :
    fsm.Quiet (fsm.classifyHit unknownSnapshot ruleGeometricHit rawEval) ↔
      ¬ fsm.HoldsHit ruleGeometricHit rawEval := by
  unfold HoldsHit classifyHit
  cases ruleGeometricHit with
  | false => exact iff_of_true ⟨le_rfl, id, id⟩ (by simp)
  | true =>
    have hard : fsm.cpaHardHit unknownSnapshot = true ↔ -1.0 < fsm.params.cpaHardM :=
      decide_eq_true_iff
    rw [if_pos rfl]
    constructor
    · rintro quiet ⟨-, ⟨none, classified⟩ | ⟨unseen, below⟩⟩
      · have held := quiet.onset (by simp [captureOnset, classified])
        rw [none] at held
        cases held
      · have seen := quiet.hard (by simp [captureOnset, hard.mpr below])
        rw [unseen] at seen
        cases seen
    · intro nothing
      refine ⟨le_rfl, fun held => ?_, fun seen => ?_⟩
      · by_contra none
        refine nothing ⟨rfl, Or.inl ⟨Bool.eq_false_iff.mpr none, ?_⟩⟩
        simpa [captureOnset, Option.isSome_or, none] using held
      · by_contra unseen
        refine nothing ⟨rfl, Or.inr ⟨Bool.eq_false_iff.mpr unseen, hard.mp ?_⟩⟩
        simpa [captureOnset, unseen] using seen

/-- A step that moves closer under a condition is quiet only without it. -/
theorem quiet_ite_closer {condition : Prop} [Decidable condition] {stay : EncounterStateMachine}
    (closer : fsm.state.closeness < next.state.closeness) :
    fsm.Quiet (if condition then next else stay) ↔ ¬ condition ∧ fsm.Quiet stay := by
  split_ifs with met
  · exact iff_of_false (not_quiet_of_closer closer) fun quiet => quiet.1 met
  · exact (and_iff_right met).symm

theorem quiet_self : fsm.Quiet fsm := ⟨le_rfl, id, id⟩

/-- The hit of the same cycle makes no difference to a hard approach. -/
theorem ripe_classifyHit :
    ((fsm.classifyHit unknownSnapshot ruleGeometricHit rawEval).cpaHardHit
          unknownSnapshot = true ∨
        (fsm.classifyHit unknownSnapshot ruleGeometricHit rawEval).cpaHardSeen = true ∧
          -1.0 < (fsm.classifyHit unknownSnapshot ruleGeometricHit rawEval).params.cpaSoftM) ↔
      -1.0 < fsm.params.cpaHardM ∨ fsm.cpaHardSeen = true ∧ -1.0 < fsm.params.cpaSoftM := by
  have hard : fsm.cpaHardHit unknownSnapshot = true ↔ -1.0 < fsm.params.cpaHardM :=
    decide_eq_true_iff
  have same : (fsm.classifyHit unknownSnapshot ruleGeometricHit rawEval).cpaHardHit
      unknownSnapshot = fsm.cpaHardHit unknownSnapshot := by
    unfold cpaHardHit
    rw [classifyHit_params]
  have seen : (fsm.classifyHit unknownSnapshot ruleGeometricHit rawEval).cpaHardSeen = true ↔
      fsm.cpaHardSeen = true ∨ ruleGeometricHit = true ∧ fsm.cpaHardHit unknownSnapshot = true := by
    unfold classifyHit
    split_ifs with hit
    · simp [captureOnset, hit]
    · simp [hit]
  rw [same, seen, hard, classifyHit_params]
  constructor
  · rintro (below | ⟨before | now, soft⟩)
    · exact Or.inl below
    · exact Or.inr ⟨before, soft⟩
    · exact Or.inl now.2
  · exact Or.imp_right (And.imp_left Or.inl)

theorem quiet_fromMonitor (state : fsm.state = .monitor) :
    fsm.Quiet (fsm.fromMonitor unknownSnapshot rangeClosing pastAndClear nowS) ↔
      ¬ (fsm.lastCpaM > 0.0 ∧ -1.0 < fsm.lastCpaM - kCpaTrendHysteresisM ∧
        -1.0 ≤ fsm.params.tPlanS) := by
  have deteriorating : fsm.cpaDeteriorating unknownSnapshot = true ↔
      fsm.lastCpaM > 0.0 ∧ -1.0 < fsm.lastCpaM - kCpaTrendHysteresisM := by
    unfold cpaDeteriorating
    rw [Bool.and_eq_true, decide_eq_true_iff, decide_eq_true_iff]
    exact Iff.rfl
  have released : fsm.Quiet
      (if fsm.releaseCondition unknownSnapshot rangeClosing pastAndClear = true then
        { fsm with
          state := .release
          releaseConditionMetSinceS := nowS }
      else fsm) := by
    split_ifs
    · refine ⟨?_, id, id⟩
      rw [state]
      exact Nat.le_succ _
    · exact quiet_self
  rw [← and_assoc, ← deteriorating]
  refine (quiet_ite_closer ?_).trans (and_iff_left released)
  rw [state]
  exact Nat.lt_add_one _

/-- A release goes on only if minus one is far enough away. -/
theorem quiet_fromRelease (state : fsm.state = .release) :
    fsm.Quiet (fsm.fromRelease unknownSnapshot rangeClosing pastAndClear nowS) ↔
      ¬ ¬ (pastAndClear = true ∧ rangeClosing = false ∧ -1.0 ≥ fsm.params.cpaReleaseM) := by
  have condition : fsm.releaseCondition unknownSnapshot rangeClosing pastAndClear = true ↔
      pastAndClear = true ∧ rangeClosing = false ∧ -1.0 ≥ fsm.params.cpaReleaseM := by
    unfold releaseCondition
    rw [Bool.and_eq_true, Bool.and_eq_true, decide_eq_true_iff, Bool.not_eq_true', and_assoc]
    exact Iff.rfl
  unfold fromRelease
  rw [not_not, ← condition]
  split_ifs with met dwelt
  · refine iff_of_true ⟨?_, nofun, nofun⟩ met
    exact Nat.zero_le _
  · exact iff_of_true quiet_self met
  · refine iff_of_false (not_quiet_of_closer ?_) met
    rw [state]
    exact Nat.lt_add_one _

/-- An unknown approach leaves a machine quiet unless it is misread. -/
theorem quiet_transition_iff :
    fsm.Quiet (fsm.transition unknownSnapshot ruleGeometricHit rangeClosing pastAndClear nowS
        rawEval) ↔
      ¬ fsm.Misreads ruleGeometricHit rangeClosing pastAndClear rawEval := by
  unfold transition Misreads
  dsimp only
  rw [quiet_lastCpaM]
  cases state : fsm.state with
  | clear =>
    refine iff_of_false (not_quiet_of_closer ?_) (not_not_intro trivial)
    rw [state]
    exact Nat.lt_add_one _
  | detected =>
    refine (quiet_ite_closer ?_).trans (and_iff_left quiet_self)
    rw [state]
    exact Nat.lt_add_one _
  | candidate =>
    rw [not_or, ← quiet_classifyHit, ← classifyHit_params fsm unknownSnapshot ruleGeometricHit
      rawEval]
    refine quiet_ite_closer ?_
    rw [state]
    exact Nat.lt_add_one _
  | preplan =>
    rw [not_or, ← quiet_classifyHit, ← @ripe_classifyHit fsm ruleGeometricHit rawEval,
      ← classifyHit_params fsm unknownSnapshot ruleGeometricHit rawEval]
    refine quiet_ite_closer ?_
    rw [state]
    exact Nat.lt_add_one _
  | active =>
    unfold fromActive
    rw [not_cpaImproved_unknown, if_neg Bool.false_ne_true]
    exact iff_of_true ⟨le_rfl, id, id⟩ not_false
  | monitor => exact quiet_fromMonitor state
  | release => exact quiet_fromRelease state

/-- Short of past and clear, a machine moves closer to ACTIVE or stays where it is. -/
theorem transition_unknown_cases :
    (fsm.transition unknownSnapshot ruleGeometricHit rangeClosing false nowS rawEval).state =
        fsm.state ∨
      fsm.state.closeness < (fsm.transition unknownSnapshot ruleGeometricHit rangeClosing false
        nowS rawEval).state.closeness := by
  have classified := classifyHit_state fsm unknownSnapshot ruleGeometricHit rawEval
  unfold transition
  cases state : fsm.state with
  | clear => exact Or.inr (Nat.lt_add_one _)
  | detected =>
    dsimp only
    split_ifs
    · exact Or.inr (Nat.lt_add_one _)
    · exact Or.inl state
  | candidate =>
    unfold fromCandidate
    dsimp only
    split_ifs
    · exact Or.inr (Nat.lt_add_one _)
    · exact Or.inl (classified.trans state)
  | preplan =>
    unfold fromPreplan
    dsimp only
    split_ifs
    · exact Or.inr (Nat.lt_add_one _)
    · exact Or.inl (classified.trans state)
  | active =>
    unfold fromActive
    rw [not_cpaImproved_unknown]
    exact Or.inl state
  | monitor =>
    unfold fromMonitor releaseCondition
    dsimp only
    split_ifs with deteriorating releases
    · exact Or.inr (Nat.lt_add_one _)
    · exact absurd releases Bool.false_ne_true
    · exact Or.inl state
  | release =>
    unfold fromRelease releaseCondition
    exact Or.inr (Nat.lt_add_one _)

theorem engaged_of_quiet
    (quiet : fsm.Quiet (fsm.transition unknownSnapshot ruleGeometricHit rangeClosing false nowS
      rawEval)) :
    (fsm.transition unknownSnapshot ruleGeometricHit rangeClosing false nowS rawEval).engaged =
      fsm.engaged := by
  unfold engaged
  rw [transition_unknown_cases.resolve_right (Nat.not_lt.mpr quiet.state)]

end EncounterStateMachine

/-! ### One latch -/

theorem RuleLatch.quiet_update_iff {latch : RuleLatch} {ruleActive rangeClosing pastAndClear : Bool}
    {cpaM : Float} {currentEval : Option RuleEvaluation} {projection allowProjection : Bool} :
    ((latch.update ruleActive cpaM rangeClosing pastAndClear currentEval projection
        allowProjection).latched = true → latch.latched = true) ↔
      ¬ (latch.latched = false ∧
        latch.Latches ruleActive cpaM rangeClosing pastAndClear projection) := by
  unfold update
  split_ifs with latched releases latches
  · simp [latched]
  · simp [latched]
  · simp [latched, latches]
  · simp [latched, latches]

/-- A rule that is not active latches nothing. -/
theorem RuleLatch.latched_of_update_inactive {latch : RuleLatch} {rangeClosing pastAndClear : Bool}
    {cpaM : Float} {currentEval : Option RuleEvaluation} {projection allowProjection : Bool}
    (latched : (latch.update false cpaM rangeClosing pastAndClear currentEval projection
      allowProjection).latched = true) : latch.latched = true :=
  (latched_of_update latched).resolve_right fun active => Bool.false_ne_true active.1

end MassL3.M6.Colregs
