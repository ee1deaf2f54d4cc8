/-
This file asks whether a published constraint agrees with itself. The conflict flag, the primary
role and the phase are computed by three passes. The first two agree, because both look for the
evaluations that require action. The phase is promoted out of PRESERVE_COURSE for a give-way
evaluation only when it prefers a direction, so a conflict may be published with that phase.
-/

import MassTdl.Colregs.Passes

namespace MassL3.M6.Colregs

/-- The text of a phase in the message. -/
def TimingPhase.name : TimingPhase → String
  | .preserveCourse => "PRESERVE_COURSE"
  | .soundWarning => "SOUND_WARNING"
  | .independentAction => "INDEPENDENT_ACTION"
  | .criticalAction => "CRITICAL_ACTION"

/-! ### The phase -/

theorem phase_ne_of_not_any {evaluations : List RuleEvaluation} {phase : TimingPhase}
    (none : ¬ (evaluations.any fun eval => eval.phase = phase) = true) {eval : RuleEvaluation}
    (member : eval ∈ evaluations) : eval.phase ≠ phase := fun equal =>
  none (List.any_eq_true.mpr ⟨eval, member, decide_eq_true equal⟩)

/-- The published phase bounds the phases of the active evaluations. -/
theorem dominantPhase_eq (evaluations : List RuleEvaluation) :
    ∃ phase : TimingPhase, dominantPhase evaluations = phase.name ∧
      ∀ eval ∈ evaluations, eval.phase.toNat ≤ phase.toNat := by
  unfold dominantPhase
  split_ifs with critical independent warning
  · refine ⟨.criticalAction, rfl, fun eval member => ?_⟩
    cases eval.phase <;> decide
  · refine ⟨.independentAction, rfl, fun eval member => ?_⟩
    have notCritical := phase_ne_of_not_any critical member
    cases phase : eval.phase <;> first | decide | exact absurd phase notCritical
  · refine ⟨.soundWarning, rfl, fun eval member => ?_⟩
    have notCritical := phase_ne_of_not_any critical member
    have notIndependent := phase_ne_of_not_any independent member
    cases phase : eval.phase <;>
      first | decide | exact absurd phase notCritical | exact absurd phase notIndependent
  · refine ⟨.preserveCourse, rfl, fun eval member => ?_⟩
    have notCritical := phase_ne_of_not_any critical member
    have notIndependent := phase_ne_of_not_any independent member
    have notWarning := phase_ne_of_not_any warning member
    cases phase : eval.phase <;>
      first
        | decide
        | exact absurd phase notCritical
        | exact absurd phase notIndependent
        | exact absurd phase notWarning

/-! ### The dominant evaluation -/

/-- What is kept as dominant of some evaluations: one that requires action, of maximal phase
among these, or nothing if none does. -/
def IsDominant (evaluations : List RuleEvaluation) : Option RuleEvaluation → Prop
  | none => ∀ eval ∈ evaluations, requiresAction eval = false
  | some dominant =>
      dominant ∈ evaluations ∧ requiresAction dominant = true ∧
        ∀ other ∈ evaluations, requiresAction other = true →
          other.phase.toNat ≤ dominant.phase.toNat

/-- One evaluation more. -/
theorem IsDominant.concat {evaluations : List RuleEvaluation} {dominant : Option RuleEvaluation}
    (before : IsDominant evaluations dominant) (eval : RuleEvaluation) :
    IsDominant (evaluations ++ [eval]) (dominantOf dominant eval) := by
  cases dominant with
  | none =>
    cases required : requiresAction eval with
    | false =>
      simp only [dominantOf, required, if_neg Bool.false_ne_true]
      intro other member
      rcases List.mem_append.mp member with earlier | last
      · exact before other earlier
      · exact List.mem_singleton.mp last ▸ required
    | true =>
      simp only [dominantOf, required, if_true]
      refine ⟨List.mem_append_right _ (List.mem_singleton_self _), required, ?_⟩
      intro other member needs
      rcases List.mem_append.mp member with earlier | last
      · exact absurd ((before other earlier).symm.trans needs) Bool.false_ne_true
      · exact List.mem_singleton.mp last ▸ Nat.le_refl _
  | some held =>
    obtain ⟨isMember, requires, maximal⟩ := before
    simp only [dominantOf]
    split
    next rises =>
      refine ⟨List.mem_append_right _ (List.mem_singleton_self _), rises.1, ?_⟩
      intro other member needs
      rcases List.mem_append.mp member with earlier | last
      · exact Nat.le_of_lt (Nat.lt_of_le_of_lt (maximal other earlier needs) rises.2)
      · exact List.mem_singleton.mp last ▸ Nat.le_refl _
    next stays =>
      refine ⟨List.mem_append_left _ isMember, requires, ?_⟩
      intro other member needs
      rcases List.mem_append.mp member with earlier | last
      · exact maximal other earlier needs
      · obtain rfl := List.mem_singleton.mp last
        exact Nat.le_of_not_lt fun rises => stays ⟨needs, rises⟩

/-- And all of them. -/
theorem isDominant_foldl (evaluations : List RuleEvaluation) :
    IsDominant evaluations (evaluations.foldl dominantOf none) := by
  induction evaluations using List.reverseRecOn with
  | nil => exact fun eval absurdly => absurd absurdly List.not_mem_nil
  | append_singleton evaluations eval inductionHypothesis =>
    rw [List.foldl_concat]
    exact inductionHypothesis.concat eval

/-! ### Conflicts -/

/-- A give-way evaluation without a direction that is left in PRESERVE_COURSE. -/
def IsHeldGiveWay (eval : RuleEvaluation) : Prop :=
  eval.role.isGiveWay = true ∧ eval.phase = .preserveCourse ∧ eval.preferredDirection = .hold

variable {params : RuleParameters} {evaluations : List RuleEvaluation}

theorem isActive_of_requiresAction {eval : RuleEvaluation} (requires : requiresAction eval = true) :
    eval.isActive = true :=
  (Bool.and_eq_true_iff.mp requires).1

/-- What requires action in PRESERVE_COURSE gives way. -/
theorem isGiveWay_of_requiresAction {eval : RuleEvaluation}
    (requires : requiresAction eval = true) (preserves : eval.phase = .preserveCourse) :
    eval.role.isGiveWay = true := by
  simpa [requiresAction, TimingPhase.isAction, preserves, isActive_of_requiresAction requires]
    using requires

/-- A give-way evaluation with a direction is promoted. -/
theorem effectiveEvaluation_hold {raw : RuleEvaluation}
    (requires : requiresAction (effectiveEvaluation params raw) = true)
    (preserves : (effectiveEvaluation params raw).phase = .preserveCourse) :
    IsHeldGiveWay (effectiveEvaluation params raw) := by
  have giveWay := isGiveWay_of_requiresAction requires preserves
  refine ⟨giveWay, preserves, ?_⟩
  have active := isActive_of_requiresAction requires
  rw [effectiveEvaluation_isActive] at active
  rw [effectiveEvaluation_role] at giveWay
  unfold effectiveEvaluation at preserves ⊢
  dsimp only at preserves ⊢
  -- what is rewritten has left the phase, so nothing has been promoted
  split_ifs at preserves ⊢ with standOn promoted
  simpa [shouldPromoteDirectionalGivewayAction, active, giveWay, preserves] using promoted

/-- What requires action among the effective evaluations of a list has not been suppressed. -/
theorem mem_effectiveEvaluations {eval : RuleEvaluation}
    (member : eval ∈ effectiveEvaluations params evaluations) (active : eval.isActive = true) :
    ∃ raw ∈ evaluations, eval = effectiveEvaluation params raw := by
  rw [effectiveEvaluations_eq_map] at member
  obtain ⟨raw, isRaw, rfl⟩ := List.mem_map.mp member
  refine ⟨raw, isRaw, ?_⟩
  unfold suppressed at active ⊢
  split_ifs at active ⊢
  · exact absurd active Bool.false_ne_true
  · rfl

theorem conflictDetected_iff (confidence : Float32) :
    (generate params confidence evaluations).conflictDetected = true ↔
      ∃ eval ∈ effectiveEvaluations params evaluations, requiresAction eval = true :=
  List.any_eq_true

/-! ### Coherence -/

/-- The role and the direction of a constraint are those of an evaluation that requires action
and is of maximal phase among these, and the phase of the constraint is at least its phase. It is
SOUND_WARNING at least, unless all that requires action holds its course. -/
def AgreesWith (constraint : COLREGsConstraint) (effective : List RuleEvaluation) : Prop :=
  ∃ dominant ∈ effective, requiresAction dominant = true ∧
    (∀ other ∈ effective, requiresAction other = true →
      other.phase.toNat ≤ dominant.phase.toNat) ∧
    constraint.primaryRole = dominant.role ∧
    constraint.primaryPreferredDirection = some dominant.preferredDirection ∧
    ∃ phase : TimingPhase, constraint.phase = phase.name ∧
      dominant.phase.toNat ≤ phase.toNat ∧
      (TimingPhase.soundWarning.toNat ≤ phase.toNat ∨
        ∀ eval ∈ effective, requiresAction eval = true → IsHeldGiveWay eval)

/-- A constraint in conflict agrees with its effective evaluations. -/
theorem agreesWith_of_conflict {confidence : Float32}
    (conflict : (generate params confidence evaluations).conflictDetected = true) :
    AgreesWith (generate params confidence evaluations)
      (effectiveEvaluations params evaluations) := by
  obtain ⟨eval, member, requires⟩ := (conflictDetected_iff confidence).mp conflict
  have isActive : ∀ other ∈ effectiveEvaluations params evaluations,
      requiresAction other = true →
        other ∈ (effectiveEvaluations params evaluations).filter fun eval => eval.isActive :=
    fun other inList needs => List.mem_filter.mpr ⟨inList, isActive_of_requiresAction needs⟩
  have dominance := isDominant_foldl
    ((effectiveEvaluations params evaluations).filter fun eval => eval.isActive)
  obtain ⟨phase, isPhase, bounds⟩ := dominantPhase_eq
    ((effectiveEvaluations params evaluations).filter fun eval => eval.isActive)
  unfold generate
  dsimp only
  cases found : ((effectiveEvaluations params evaluations).filter
      fun eval => eval.isActive).foldl dominantOf none with
  | none =>
    rw [found] at dominance
    exact absurd ((dominance eval (isActive eval member requires)).symm.trans requires)
      Bool.false_ne_true
  | some dominant =>
    rw [found] at dominance
    obtain ⟨inActive, needs, maximal⟩ := dominance
    refine ⟨dominant, (List.mem_filter.mp inActive).1, needs, ?_, rfl, rfl, phase, isPhase,
      bounds dominant inActive, ?_⟩
    · exact fun other inList otherNeeds =>
        maximal other (isActive other inList otherNeeds) otherNeeds
    · refine Classical.or_iff_not_imp_left.mpr fun low other inList otherNeeds => ?_
      -- a phase below SOUND_WARNING bounds the phase of every active evaluation
      have bounded := bounds other (isActive other inList otherNeeds)
      have preserves : other.phase = .preserveCourse := by
        cases isPhase : other.phase <;> rw [isPhase] at bounded <;>
          first | rfl | (simp only [TimingPhase.toNat] at bounded low; omega)
      obtain ⟨raw, -, rfl⟩ :=
        mem_effectiveEvaluations inList (isActive_of_requiresAction otherNeeds)
      exact effectiveEvaluation_hold otherNeeds preserves

/-- A constraint without a conflict leaves the ship free. -/
theorem free_of_not_conflict {confidence : Float32}
    (calm : (generate params confidence evaluations).conflictDetected = false) :
    (generate params confidence evaluations).primaryRole = .free ∧
      (generate params confidence evaluations).primaryPreferredDirection = some .hold := by
  have dominance := isDominant_foldl
    ((effectiveEvaluations params evaluations).filter fun eval => eval.isActive)
  unfold generate
  dsimp only
  cases found : ((effectiveEvaluations params evaluations).filter
      fun eval => eval.isActive).foldl dominantOf none with
  | none => exact ⟨rfl, rfl⟩
  | some dominant =>
    rw [found] at dominance
    have conflict := (conflictDetected_iff confidence).mpr
      ⟨dominant, (List.mem_filter.mp dominance.1).1, dominance.2.1⟩
    exact absurd (calm.symm.trans conflict) Bool.false_ne_true

theorem generate_coherent (params : RuleParameters) (confidence : Float32)
    (evaluations : List RuleEvaluation) :
    ((generate params confidence evaluations).conflictDetected = true ↔
        ∃ eval ∈ effectiveEvaluations params evaluations, requiresAction eval = true) ∧
      ((generate params confidence evaluations).conflictDetected = true →
        AgreesWith (generate params confidence evaluations)
          (effectiveEvaluations params evaluations)) ∧
      ((generate params confidence evaluations).conflictDetected = false →
        (generate params confidence evaluations).primaryRole = .free ∧
          (generate params confidence evaluations).primaryPreferredDirection = some .hold) :=
  ⟨conflictDetected_iff confidence, agreesWith_of_conflict, free_of_not_conflict⟩

/-- A give-way evaluation that prefers no direction. -/
def heldGiveWay : RuleEvaluation where
  isActive := true
  ruleId := 15
  role := .giveWay

/-- It is published as a conflict in the phase that releases the other modules. -/
theorem held_giveWay_preserves_course :
    (generate fallbackParameters 0.9 [heldGiveWay]).conflictDetected = true ∧
      ¬ ∃ phase : TimingPhase,
        (generate fallbackParameters 0.9 [heldGiveWay]).phase = phase.name ∧
          TimingPhase.soundWarning.toNat ≤ phase.toNat := by
  refine ⟨by decide +kernel, ?_⟩
  rintro ⟨phase, isPhase, atLeast⟩
  cases phase with
  | preserveCourse => exact absurd atLeast (by decide)
  | _ => exact absurd isPhase (by decide +kernel)

end MassL3.M6.Colregs
