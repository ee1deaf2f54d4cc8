/-
This file says which primary rules have a target at once. At most one has it by its latch, and
while one has it no other may begin. But a state machine may hold a give-way without its latch,
and then a later rule still latches a stand-on in the same cycle: that is the only way in which
the primary rules give way and stand on at once.
-/

import MassTdl.Colregs.Targets

namespace MassL3.M6.Colregs

/-! ### At most one primary rule -/

/-- At most one primary latch is latched or holds an onset. -/
def TargetMemory.AtMostOne (memory : TargetMemory) : Prop :=
  ∀ rule other, isEngaged (memory.latches.get rule) = true →
    isEngaged (memory.latches.get other) = true → rule = other

/-- An update engages a latch only if it latches. -/
theorem RuleLatch.engaged_update {latch : RuleLatch} {ruleActive rangeClosing pastAndClear : Bool}
    {cpaM : Float} {currentEval : Option RuleEvaluation} {projection allowProjection : Bool}
    (engaged : isEngaged (some (latch.update ruleActive cpaM rangeClosing pastAndClear currentEval
      projection allowProjection)) = true) :
    isEngaged (some latch) = true ∨ ruleActive = true := by
  unfold RuleLatch.update at engaged
  split_ifs at engaged with latched releases latches
  · cases engaged
  · exact .inl engaged
  · exact .inr latches.2.2.1
  · exact .inl engaged

theorem isEngaged_of_isLatched {latch : Option RuleLatch} (latched : isLatched latch = true) :
    isEngaged latch = true := by
  cases latch with
  | none => cases latched
  | some latch => simp_all [isLatched, isEngaged]

namespace TargetMemory

variable {memory : TargetMemory}

theorem latchedPrimaryRule_engaged {rule : PrimaryRule}
    (first : memory.latchedPrimaryRule = some rule) :
    isEngaged (memory.latches.get rule) = true :=
  List.find?_some (p := fun rule => isEngaged (memory.latches.get rule)) first

/-- Some engaged rule is found first. -/
theorem latchedPrimaryRule_isSome {rule : PrimaryRule}
    (engaged : isEngaged (memory.latches.get rule) = true) :
    memory.latchedPrimaryRule.isSome = true := by
  refine List.find?_isSome.mpr ⟨rule, ?_, engaged⟩
  cases rule <;> decide

/-- While one rule is engaged, no other may begin. -/
theorem AtMostOne.eq_of_onsetAllowed (one : memory.AtMostOne) {rule other : PrimaryRule}
    (engaged : isEngaged (memory.latches.get rule) = true)
    (allowed : primaryOnsetAllowed memory other = true) : rule = other := by
  obtain ⟨first, found⟩ := Option.isSome_iff_exists.mp (latchedPrimaryRule_isSome engaged)
  have same : rule = first := one rule first engaged (latchedPrimaryRule_engaged found)
  simp only [primaryOnsetAllowed, primaryRuleOnsetAllowed, found, Bool.or_eq_true,
    decide_eq_true_eq, reduceCtorEq, false_or, Option.some.injEq] at allowed
  rw [same, allowed]

/-- The empty memory and that of a resolved target have none. -/
theorem atMostOne_of_none (none : ∀ rule, memory.latches.get rule = none) : memory.AtMostOne := by
  intro rule other engaged
  rw [none rule] at engaged
  cases engaged

/-- No rule becomes engaged. -/
theorem AtMostOne.mono {again : TargetMemory} (one : memory.AtMostOne)
    (within : ∀ rule, isEngaged (again.latches.get rule) = true →
      isEngaged (memory.latches.get rule) = true) : again.AtMostOne :=
  fun rule other engaged otherEngaged => one rule other (within rule engaged)
    (within other otherEngaged)

end TargetMemory

section Primary

variable {lib : MathLibrary} {odd : OddDomain} {params : RuleParameters}
  {target : TargetGeometricState} {nowS : Float} {threat : Threat} {memory : TargetMemory}
  {rule : PrimaryRule}

/-- An active evaluation passes the gate as it is, and no other rule has the target. -/
theorem gatedPrimary_active
    (active : (gatedPrimary lib params target nowS threat memory rule).isActive = true) :
    gatedPrimary lib params target nowS threat memory rule = primaryRaw lib params target rule ∧
      primaryOnsetAllowed memory rule = true := by
  unfold gatedPrimary at active ⊢
  dsimp only at active ⊢
  split_ifs at active ⊢ with gate
  · cases active
  · simp only [Bool.or_eq_true, not_or, Bool.not_eq_true, Bool.not_eq_false'] at gate
    exact ⟨rfl, gate.2⟩

/-- A primary latch that is engaged after its update was engaged, or its rule may begin. -/
theorem primaryLatch_engaged
    (engaged : isEngaged (some (primaryLatch lib params target nowS threat memory rule)) = true) :
    isEngaged (memory.latches.get rule) = true ∨
      (gatedPrimary lib params target nowS threat memory rule).isActive = true := by
  unfold primaryLatch at engaged
  obtain before | active := RuleLatch.engaged_update engaged
  · unfold latchOf at before
    cases known : memory.latches.get rule with
    | none =>
      rw [known] at before
      cases before
    | some latch =>
      rw [known] at before
      exact .inl before
  · exact .inr active

/-- Each rule keeps at most one engaged. -/
theorem afterPrimary_atMostOne (one : memory.AtMostOne) :
    (memory.afterPrimary lib params target nowS threat rule).AtMostOne := by
  have own : isEngaged (some (primaryLatch lib params target nowS threat memory rule)) = true →
      ∀ other, isEngaged (memory.latches.get other) = true → other = rule := by
    intro engaged other otherEngaged
    obtain before | active := primaryLatch_engaged engaged
    · exact one other rule otherEngaged before
    · exact one.eq_of_onsetAllowed otherEngaged (gatedPrimary_active active).2
  intro first second firstEngaged secondEngaged
  rw [afterPrimary_latches] at firstEngaged secondEngaged
  by_cases firstOwn : first = rule
  · by_cases secondOwn : second = rule
    · rw [firstOwn, secondOwn]
    · subst firstOwn
      rw [PerPrimary.get_set_self] at firstEngaged
      rw [PerPrimary.get_set_of_ne _ _ secondOwn] at secondEngaged
      exact (own firstEngaged second secondEngaged).symm
  · rw [PerPrimary.get_set_of_ne _ _ firstOwn] at firstEngaged
    by_cases secondOwn : second = rule
    · subst secondOwn
      rw [PerPrimary.get_set_self] at secondEngaged
      exact own secondEngaged first firstEngaged
    · rw [PerPrimary.get_set_of_ne _ _ secondOwn] at secondEngaged
      exact one first second firstEngaged secondEngaged

theorem evaluateRules_atMostOne (one : memory.AtMostOne)
    {semanticState : Option EncounterState} :
    (evaluateRules lib odd params target nowS threat memory semanticState).memory.AtMostOne := by
  rw [evaluateRules_memory]
  exact afterPrimary_atMostOne (afterPrimary_atMostOne (afterPrimary_atMostOne one))

/-- The release pass engages nothing. -/
theorem releasePass_engaged (semanticState : Option EncounterState) (rule : PrimaryRule)
    (engaged : isEngaged ((releasePass target nowS threat memory
      semanticState).memory.latches.get rule) = true) :
    isEngaged (memory.latches.get rule) = true := by
  refine releasePrimaries_invariant target nowS threat memory semanticState
    (fun pass => ∀ rule, isEngaged (pass.memory.latches.get rule) = true →
      isEngaged (memory.latches.get rule) = true) (fun _ => id)
    (fun pass rule within other released => within other ?_) rule engaged
  by_cases own : other = rule
  · subst own
    rw [releasePrimary, PerPrimary.get_set_self] at released
    cases known : pass.memory.latches.get other with
    | none =>
      rw [known] at released
      cases released
    | some latch =>
      rw [known] at released
      exact (RuleLatch.engaged_update released).resolve_right Bool.false_ne_true
  · rwa [releasePrimary, PerPrimary.get_set_of_ne _ _ own] at released

theorem releasedPass_atMostOne (one : memory.AtMostOne) (semanticState : Option EncounterState) :
    (releasedPass target nowS threat memory semanticState).memory.AtMostOne := by
  unfold releasedPass
  split_ifs
  · exact one.mono fun rule engaged => releasePass_engaged semanticState rule engaged
  · exact one

/-- The cycle of a target keeps at most one engaged. -/
theorem reasonTarget_atMostOne (one : memory.AtMostOne) (currentRng : Float)
    (semanticState : Option EncounterState) :
    (reasonTarget lib odd params target nowS currentRng memory
      semanticState).memory.AtMostOne := by
  obtain ⟨_, resolved⟩ | ⟨_, _, assessed⟩ := reasonTarget_cases lib odd params target nowS
    currentRng memory semanticState
  · rw [resolved]
    refine TargetMemory.atMostOne_of_none fun rule => ?_
    cases rule <;> rfl
  · rw [assessed]
    exact (evaluateRules_atMostOne (releasedPass_atMostOne one semanticState)).mono
      fun rule engaged => by rwa [← assess_latches]

end Primary

/-- Every reachable node remembers at most one engaged rule of a target. -/
theorem nodeAt_atMostOne (config : Config) (events : List Event) (count : Nat) (mmsi : UInt32) :
    ((nodeAt config events count).memory mmsi).AtMostOne := by
  refine Runs.stateAt_invariant (fun node : ColregsReasonerNode =>
    (node.memory mmsi).AtMostOne) ?_ (fun index event present one => ?_) count
  · exact TargetMemory.atMostOne_of_none fun rule => by cases rule <;> rfl
  · refine next_memory_invariant TargetMemory.AtMostOne event one (fun _ => ?_)
      (fun memory bearing range one => one) fun _ _ _ currentRng _ semanticState one =>
        reasonTarget_atMostOne one currentRng semanticState
    exact TargetMemory.atMostOne_of_none fun rule => by cases rule <;> rfl

/-! ### The evaluation of a primary rule -/

section Evaluation

variable {lib : MathLibrary} {params : RuleParameters} {target : TargetGeometricState}
  {nowS : Float} {threat : Threat} {memory : TargetMemory} {rule : PrimaryRule}

theorem primaryEval_ruleId :
    (primaryEval lib params target nowS threat memory rule).ruleId = rule.id :=
  primaryEval_keeps (fun eval => eval.ruleId = rule.id) (PrimaryRule.evaluate_ruleId rule)
    (fun _ same => same) (fun _ _ same => same) memory

theorem primaryEval_isPrimary :
    (primaryEval lib params target nowS threat memory rule).isPrimary = true := by
  rw [RuleEvaluation.isPrimary, primaryEval_ruleId]
  cases rule <;> rfl

theorem primaryRaw_isActive (classified : (primaryRaw lib params target rule).role ≠ .free) :
    (primaryRaw lib params target rule).isActive = true :=
  PrimaryRule.evaluate_isActive classified

/-- An active evaluation is one of a rule that may begin, and its latch or its machine holds. -/
theorem primaryEval_active
    (active : (primaryEval lib params target nowS threat memory rule).isActive = true) :
    primaryOnsetAllowed memory rule = true ∧
      ((primaryLatch lib params target nowS threat memory rule).latched = true ∨
        fsmHolds lib params target nowS threat memory rule = true) := by
  unfold primaryEval at active
  dsimp only at active
  by_cases allowed : primaryOnsetAllowed memory rule = true
  · rw [if_pos allowed] at active
    refine ⟨allowed, ?_⟩
    by_cases held : ((primaryLatch lib params target nowS threat memory rule).latched ||
        fsmHolds lib params target nowS threat memory rule) = true
    · exact Bool.or_eq_true_iff.mp held
    · rw [if_neg held] at active
      cases active
  · rw [if_neg allowed] at active
    cases active

/-- What a machine holds is a give-way. -/
theorem primaryEval_of_fsmHolds (allowed : primaryOnsetAllowed memory rule = true)
    (holds : fsmHolds lib params target nowS threat memory rule = true) :
    evaluationHasGiveWayDuty (primaryEval lib params target nowS threat memory rule) = true := by
  have parts := holds
  simp only [fsmHolds, Bool.and_eq_true] at parts
  obtain ⟨⟨engaged, _⟩, duty⟩ := parts
  have gated : gatedPrimary lib params target nowS threat memory rule =
      primaryRaw lib params target rule := by
    unfold gatedPrimary
    simp [engaged, allowed]
  have kept : ∀ eval, evaluationHasGiveWayDuty eval = true → eval.isActive = true :=
    fun eval giveWay => (Bool.and_eq_true_iff.mp giveWay).1
  unfold primaryEval
  dsimp only
  rw [if_pos allowed, holds, Bool.or_true, if_pos rfl, Bool.true_and]
  by_cases raw : evaluationHasGiveWayDuty (gatedPrimary lib params target nowS threat memory rule) =
      true
  · rw [raw, Bool.not_true, if_neg Bool.false_ne_true, if_pos (kept _ raw)]
    exact raw
  · have held : evaluationHasGiveWayDuty
        (fsmHeldEval lib params target nowS threat memory rule) = true := by
      unfold primaryGiveWayDuty giveWayDutyFromRawOrFsm at duty
      obtain giveWay | held := Bool.or_eq_true_iff.mp duty
      · refine absurd ?_ raw
        rw [gated, evaluationHasGiveWayDuty, giveWay, Bool.and_true]
        exact primaryRaw_isActive fun free => by simp [free, Role.isGiveWay] at giveWay
      · exact (Bool.and_eq_true_iff.mp held).2
    rw [Bool.eq_false_of_not_eq_true raw, Bool.not_false, if_pos rfl, if_pos (kept _ held)]
    exact held

/-- While the latch is closed, an active evaluation that has passed the gate is raw. -/
theorem primaryEval_of_latched (allowed : primaryOnsetAllowed memory rule = true)
    (latched : (primaryLatch lib params target nowS threat memory rule).latched = true)
    (active : (gatedPrimary lib params target nowS threat memory rule).isActive = true) :
    primaryEval lib params target nowS threat memory rule =
      primaryRaw lib params target rule := by
  have holds : fsmHolds lib params target nowS threat memory rule = false := by
    simp [fsmHolds, latched]
  unfold primaryEval
  dsimp only
  rw [if_pos allowed, holds, latched, Bool.false_and, if_neg Bool.false_ne_true, Bool.true_or,
    if_pos rfl, if_pos active]
  exact (gatedPrimary_active active).1

/-- A latch that was open latches only on the evaluation that has passed the gate. -/
theorem primaryLatch_new
    (latched : (primaryLatch lib params target nowS threat memory rule).latched = true)
    (open_ : isEngaged (memory.latches.get rule) = false) :
    (gatedPrimary lib params target nowS threat memory rule).isActive = true := by
  have engaged : isEngaged (some (primaryLatch lib params target nowS threat memory rule)) =
      true := isEngaged_of_isLatched latched
  refine (primaryLatch_engaged engaged).resolve_left fun before => ?_
  rw [open_] at before
  cases before

/-- A stand-on that is active is held by its latch. -/
theorem primaryEval_standOn
    (active : (primaryEval lib params target nowS threat memory rule).isActive = true)
    (standOn : (primaryEval lib params target nowS threat memory rule).role = .standOn) :
    (primaryLatch lib params target nowS threat memory rule).latched = true := by
  obtain ⟨allowed, latched | holds⟩ := primaryEval_active active
  · exact latched
  · have giveWay := primaryEval_of_fsmHolds allowed holds
    simp [evaluationHasGiveWayDuty, standOn, Role.isGiveWay] at giveWay

/-- An open latch holds no stand-on that its rule does not ask for. -/
theorem primaryEval_standOn_new
    (active : (primaryEval lib params target nowS threat memory rule).isActive = true)
    (standOn : (primaryEval lib params target nowS threat memory rule).role = .standOn)
    (open_ : isEngaged (memory.latches.get rule) = false) :
    (primaryRaw lib params target rule).role = .standOn := by
  have latched := primaryEval_standOn active standOn
  rw [← primaryEval_of_latched (primaryEval_active active).1 latched
    (primaryLatch_new latched open_)]
  exact standOn

end Evaluation

/-! ### The primary rules one after the other -/

section InOrder

variable (lib : MathLibrary) (params : RuleParameters) (target : TargetGeometricState)
  (nowS : Float) (threat : Threat) (memory : TargetMemory)

/-- The memory a primary rule of a cycle reads. -/
def memoryBefore : PrimaryRule → TargetMemory
  | .rule13 => memory
  | .rule14 => memory.afterPrimary lib params target nowS threat .rule13
  | .rule15 =>
      (memory.afterPrimary lib params target nowS threat .rule13).afterPrimary lib params target
        nowS threat .rule14

/-- The evaluation of a primary rule in its cycle. -/
def cycleEval (rule : PrimaryRule) : RuleEvaluation :=
  primaryEval lib params target nowS threat
    (memoryBefore lib params target nowS threat memory rule) rule

/-- The state machine of a rule holds a give-way that its latch does not. -/
def HeldByMachine (rule : PrimaryRule) : Prop :=
  primaryOnsetAllowed (memoryBefore lib params target nowS threat memory rule) rule = true ∧
    fsmHolds lib params target nowS threat
      (memoryBefore lib params target nowS threat memory rule) rule = true

/-- Rule 15 latches a stand-on in the cycle in which the state machine of an earlier rule holds a
give-way that no latch holds. -/
structure Overtaken : Prop where
  held : HeldByMachine lib params target nowS threat memory .rule13 ∨
    HeldByMachine lib params target nowS threat memory .rule14
  allowed : primaryOnsetAllowed
    (memoryBefore lib params target nowS threat memory .rule15) .rule15 = true
  latched : (primaryLatch lib params target nowS threat
    (memoryBefore lib params target nowS threat memory .rule15) .rule15).latched = true
  standOn : (primaryRaw lib params target .rule15).role = .standOn

variable {lib params target nowS threat memory} {rule other : PrimaryRule}

theorem memoryBefore_atMostOne (one : memory.AtMostOne) (rule : PrimaryRule) :
    (memoryBefore lib params target nowS threat memory rule).AtMostOne := by
  cases rule with
  | rule13 => exact one
  | rule14 => exact afterPrimary_atMostOne one
  | rule15 => exact afterPrimary_atMostOne (afterPrimary_atMostOne one)

/-- An earlier rule has updated its latch. -/
theorem memoryBefore_get_earlier (earlier : rule.id < other.id) :
    (memoryBefore lib params target nowS threat memory other).latches.get rule =
      some (primaryLatch lib params target nowS threat
        (memoryBefore lib params target nowS threat memory rule) rule) := by
  cases rule <;> cases other <;> simp [PrimaryRule.id] at earlier <;>
    simp [memoryBefore, afterPrimary_latches, PerPrimary.get_set_of_ne]

/-- Its own latch and those of later rules are still as they were. -/
theorem memoryBefore_get_later (later : rule.id ≤ other.id) :
    (memoryBefore lib params target nowS threat memory rule).latches.get other =
      memory.latches.get other := by
  cases rule <;> cases other <;> simp [PrimaryRule.id] at later <;>
    simp [memoryBefore, afterPrimary_latches, PerPrimary.get_set_of_ne]

/-- A stand-on is held by its latch, so no later rule may begin. -/
theorem not_later_of_standOn (one : memory.AtMostOne)
    (standOn : isStandOn (cycleEval lib params target nowS threat memory rule) = true)
    (active : (cycleEval lib params target nowS threat memory other).isActive = true) :
    ¬ rule.id < other.id := by
  intro earlier
  obtain ⟨standing, role⟩ := Bool.and_eq_true_iff.mp standOn
  have engaged : isEngaged ((memoryBefore lib params target nowS threat memory
      other).latches.get rule) = true := by
    rw [memoryBefore_get_earlier earlier]
    exact isEngaged_of_isLatched (primaryEval_standOn standing (of_decide_eq_true role))
  have same := (memoryBefore_atMostOne one other).eq_of_onsetAllowed engaged
    (primaryEval_active active).1
  exact absurd earlier (by simp [same])

/-- An active rule finds the latches of later rules open. -/
theorem open_of_active (one : memory.AtMostOne) (earlier : rule.id < other.id)
    (active : (cycleEval lib params target nowS threat memory rule).isActive = true) :
    isEngaged (memory.latches.get other) = false := by
  refine Bool.eq_false_iff.mpr fun engaged => ?_
  rw [← memoryBefore_get_later earlier.le] at engaged
  have same := (memoryBefore_atMostOne one rule).eq_of_onsetAllowed engaged
    (primaryEval_active active).1
  exact absurd earlier (by simp [same])

/-- If a later rule is active too, no latch holds the earlier one. -/
theorem heldByMachine_of_active (one : memory.AtMostOne) (earlier : rule.id < other.id)
    (active : (cycleEval lib params target nowS threat memory rule).isActive = true)
    (otherActive : (cycleEval lib params target nowS threat memory other).isActive = true) :
    HeldByMachine lib params target nowS threat memory rule := by
  obtain ⟨allowed, latched | holds⟩ := primaryEval_active active
  · have engaged : isEngaged ((memoryBefore lib params target nowS threat memory
        other).latches.get rule) = true := by
      rw [memoryBefore_get_earlier earlier]
      exact isEngaged_of_isLatched latched
    have same := (memoryBefore_atMostOne one other).eq_of_onsetAllowed engaged
      (primaryEval_active otherActive).1
    exact absurd earlier (by simp [same])
  · exact ⟨allowed, holds⟩

/-- The evaluation of Rule 15 that has overtaken another rule is a stand-on. -/
theorem Overtaken.isStandOn (overtaken : Overtaken lib params target nowS threat memory) :
    isStandOn (cycleEval lib params target nowS threat memory .rule15) = true := by
  have gate : (gatedPrimary lib params target nowS threat
      (memoryBefore lib params target nowS threat memory .rule15) .rule15).isActive = true := by
    have duty : (primaryFsm lib params target nowS threat
        (memoryBefore lib params target nowS threat memory .rule15) .rule15).engaged = false →
        primaryGiveWayDuty lib params target nowS threat
          (memoryBefore lib params target nowS threat memory .rule15) .rule15 = false := by
      intro idle
      simp [primaryGiveWayDuty, giveWayDutyFromRawOrFsm, idle, overtaken.standOn, Role.isGiveWay]
    have raw : (primaryRaw lib params target .rule15).isActive = true :=
      primaryRaw_isActive fun free => by cases free.symm.trans overtaken.standOn
    unfold gatedPrimary
    dsimp only
    rw [if_neg]
    · exact raw
    · rw [overtaken.allowed, Bool.not_true, Bool.or_false]
      intro waits
      obtain ⟨idle, asks⟩ := Bool.and_eq_true_iff.mp waits
      rw [duty (by simpa using idle)] at asks
      cases asks
  have same : cycleEval lib params target nowS threat memory .rule15 =
      primaryRaw lib params target .rule15 :=
    primaryEval_of_latched overtaken.allowed overtaken.latched gate
  rw [same]
  simp [Colregs.isStandOn, overtaken.standOn, primaryRaw_isActive]

/-- The primary rules give way and stand on at once exactly if one overtakes another. -/
theorem overtaken_iff (one : memory.AtMostOne) :
    ((∃ rule, evaluationHasGiveWayDuty
          (cycleEval lib params target nowS threat memory rule) = true) ∧
        ∃ rule, isStandOn (cycleEval lib params target nowS threat memory rule) = true) ↔
      Overtaken lib params target nowS threat memory := by
  constructor
  · rintro ⟨⟨rule, giveWay⟩, other, standOn⟩
    obtain ⟨active, duty⟩ := Bool.and_eq_true_iff.mp giveWay
    obtain ⟨standing, role⟩ := Bool.and_eq_true_iff.mp standOn
    have role := of_decide_eq_true role
    have different : rule ≠ other := by
      rintro rfl
      simp [role, Role.isGiveWay] at duty
    have notLater := not_later_of_standOn one standOn active
    have earlier : rule.id < other.id := by
      revert different notLater
      cases rule <;> cases other <;> simp [PrimaryRule.id]
    have raw : (primaryRaw lib params target other).role = .standOn := by
      refine primaryEval_standOn_new standing role ?_
      rw [memoryBefore_get_later le_rfl]
      exact open_of_active one earlier active
    have held := heldByMachine_of_active one earlier active standing
    have last : other = .rule15 := by
      cases other with
      | rule13 => cases rule <;> simp [PrimaryRule.id] at earlier
      | rule14 => exact absurd raw rule14HeadOn_role_ne
      | rule15 => rfl
    subst last
    refine ⟨?_, (primaryEval_active standing).1, primaryEval_standOn standing role, raw⟩
    cases rule with
    | rule13 => exact .inl held
    | rule14 => exact .inr held
    | rule15 => exact absurd rfl different
  · intro overtaken
    refine ⟨?_, .rule15, overtaken.isStandOn⟩
    obtain held | held := overtaken.held
    · exact ⟨.rule13, primaryEval_of_fsmHolds held.1 held.2⟩
    · exact ⟨.rule14, primaryEval_of_fsmHolds held.1 held.2⟩

end InOrder

end MassL3.M6.Colregs
