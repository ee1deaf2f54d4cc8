/-
This file says when a target is given way to and stood on for at once. If the primary rules ask
for both, only the duty of an earlier cycle takes the stand-on away again: the stand-on itself
keeps a new duty from beginning. Nothing else is listed together, for the other rules give way
only under a duty, under which nothing stands on, and the stand-on of Rule 17 is suppressed.
-/

import MassTdl.Colregs.Engagement
import MassTdl.Colregs.Passes

namespace MassL3.M6.Colregs

/-! ### The gates of the duty and of the action -/

section Gates

variable {params : RuleParameters} {dutyLatched action standon inextremis : Bool}
  {eval : RuleEvaluation}

/-- Both gates. -/
def gate (params : RuleParameters) (dutyLatched action standon inextremis : Bool)
    (eval : RuleEvaluation) : RuleEvaluation :=
  gateStandon params standon inextremis (gateDuty dutyLatched action eval)

theorem gate_ruleId :
    (gate params dutyLatched action standon inextremis eval).ruleId = eval.ruleId := by
  have duty : (gateDuty dutyLatched action eval).ruleId = eval.ruleId := by
    unfold gateDuty
    split_ifs <;> rfl
  unfold gate gateStandon
  split_ifs <;> exact duty

/-- No gate makes another rule than Rule 17 stand on. -/
theorem isStandOn_of_gate
    (standOn : isStandOn (gate params dutyLatched action standon inextremis eval) = true) :
    isStandOn eval = true ∨ eval.ruleId = 17 := by
  by_cases rule17 : eval.ruleId = 17
  · exact .inr rule17
  · refine .inl ?_
    have kept : (gateDuty dutyLatched action eval).ruleId ≠ 17 := by
      unfold gateDuty
      split_ifs <;> exact rule17
    have duty : isStandOn (gateDuty dutyLatched action eval) = true := by
      unfold gate gateStandon at standOn
      simpa [kept] using standOn
    unfold gateDuty at duty
    split_ifs at duty
    · cases duty
    · exact duty
    · cases duty
    · exact duty

/-- While the duty is latched and no stand-on action is, nothing stands on. -/
theorem not_isStandOn_gate (duty : (!dutyLatched || action) = false) (idle : standon = false) :
    isStandOn (gate params dutyLatched action standon inextremis eval) = false := by
  have dropped : isStandOn (gateDuty dutyLatched action eval) = false := by
    unfold gateDuty
    rw [duty, if_neg Bool.false_ne_true]
    split_ifs with standOn
    · rfl
    · exact Bool.eq_false_of_not_eq_true standOn
  unfold gate gateStandon
  rw [idle, dropped]
  exact dropped

section Open

variable (opened : (!dutyLatched || action) = true)

include opened

/-- Otherwise only the primary rules give way. -/
theorem giveWay_gate :
    evaluationHasGiveWayDuty (gate params dutyLatched action standon inextremis eval) =
      (evaluationHasGiveWayDuty eval && eval.isPrimary) := by
  have duty : evaluationHasGiveWayDuty (gateDuty dutyLatched action eval) =
      (evaluationHasGiveWayDuty eval && eval.isPrimary) := by
    unfold gateDuty
    rw [if_pos opened]
    split_ifs with secondary
    · simp only [isSecondaryGiveWay, Bool.and_eq_true, Bool.not_eq_true'] at secondary
      rw [secondary.2, Bool.and_false]
      rfl
    · cases primary : eval.isPrimary with
      | true => rw [Bool.and_true]
      | false =>
        rw [Bool.and_false]
        exact Bool.eq_false_of_not_eq_true fun giveWay => secondary
          (by rw [isSecondaryGiveWay, primary, Bool.not_false, Bool.and_true]; exact giveWay)
  have same : (gateDuty dutyLatched action eval).ruleId = eval.ruleId := by
    unfold gateDuty
    split_ifs <;> rfl
  unfold gate gateStandon
  rw [← duty]
  cases standon with
  | false =>
    rw [Bool.not_false, if_pos rfl]
    split_ifs with acts
    · -- what is dropped was a stand-on
      simp only [Bool.and_eq_true, isStandOn, decide_eq_true_eq] at acts
      simp [evaluationHasGiveWayDuty, RuleEvaluation.deactivate, acts.1.1.2, Role.isGiveWay]
    · rfl
  | true =>
    rw [Bool.not_true, if_neg Bool.false_ne_true]
    by_cases holds : (!inextremis && decide ((gateDuty dutyLatched action eval).ruleId = 17)) =
        true
    · -- what is held is one, and its rule is not primary
      rw [if_pos holds]
      simp only [Bool.and_eq_true, decide_eq_true_eq] at holds
      rw [duty, RuleEvaluation.isPrimary, ← same, holds.2]
      simp [evaluationHasGiveWayDuty, Role.isGiveWay]
    · rw [if_neg holds]

/-- Otherwise the stand-on of a primary rule stays. -/
theorem isStandOn_gate (primary : eval.isPrimary = true) :
    isStandOn (gate params dutyLatched action standon inextremis eval) = isStandOn eval := by
  have other : eval.ruleId ≠ 17 := by
    rintro rule17
    simp [RuleEvaluation.isPrimary, rule17] at primary
  have kept : gateDuty dutyLatched action eval = eval := by
    simp [gateDuty, opened, isSecondaryGiveWay, primary]
  simp [gate, gateStandon, kept, other]

end Open

end Gates

/-! ### The listed rules -/

/-- A give-way and a stand-on are listed at once. -/
def Conflicts (rules : List RuleActive) : Prop :=
  (∃ rule ∈ rules, rule.role.isGiveWay = true) ∧ ∃ rule ∈ rules, rule.role = .standOn

instance (rules : List RuleActive) : Decidable (Conflicts rules) :=
  inferInstanceAs (Decidable (_ ∧ _))

section Listed

variable {params : RuleParameters} {any : Bool} {evaluations : List RuleEvaluation}

theorem conflicts_rulesWith_iff :
    Conflicts (rulesWith params any evaluations) ↔
      (∃ eval ∈ evaluations, evaluationHasGiveWayDuty eval = true) ∧
        ∃ eval ∈ evaluations, isStandOn eval = true ∧ (any = true → eval.ruleId ≠ 17) := by
  unfold Conflicts
  rw [exists_rulesWith_role (fun role => role.isGiveWay = true),
    exists_rulesWith_role (fun role => role = .standOn)]
  refine and_congr (exists_congr fun eval => and_congr_right fun _ => ?_)
    (exists_congr fun eval => and_congr_right fun _ => ?_)
  · cases role : eval.role <;>
      simp [evaluationHasGiveWayDuty, isRule17StandOn, role, Role.isGiveWay]
  · cases role : eval.role <;> cases active : eval.isActive <;>
      simp [isStandOn, isRule17StandOn, role, active]

variable {dutyLatched action standon inextremis : Bool}

/-- Behind the gates both are listed exactly if the primary rules ask for both and the gates let
both pass: then it is not Rule 17 that stands on, so the suppression changes nothing. -/
theorem conflicts_gate_iff
    (roles : ∀ eval ∈ evaluations, isStandOn eval = true →
      eval.isPrimary = true ∨ eval.ruleId = 17)
    (acts : standon = true → (!dutyLatched || action) = true)
    (seen : (evaluations.map (gate params dutyLatched action standon inextremis)).any
      isPrimaryGiveWay = true → any = true) :
    Conflicts (rulesWith params any
        (evaluations.map (gate params dutyLatched action standon inextremis))) ↔
      (!dutyLatched || action) = true ∧
        (∃ eval ∈ evaluations, eval.isPrimary = true ∧ evaluationHasGiveWayDuty eval = true) ∧
        ∃ eval ∈ evaluations, eval.isPrimary = true ∧ isStandOn eval = true := by
  rw [conflicts_rulesWith_iff]
  constructor
  · rintro ⟨⟨_, gatedGiveWay, giveWay⟩, _, gatedStandOn, standOn, passes⟩
    obtain ⟨eval, member, rfl⟩ := List.mem_map.mp gatedGiveWay
    obtain ⟨other, otherMember, rfl⟩ := List.mem_map.mp gatedStandOn
    have opened : (!dutyLatched || action) = true := by
      by_contra closed
      rw [not_isStandOn_gate (Bool.eq_false_of_not_eq_true closed)
        (Bool.eq_false_of_not_eq_true fun standing => closed (acts standing))] at standOn
      cases standOn
    rw [giveWay_gate opened, Bool.and_eq_true] at giveWay
    refine ⟨opened, ⟨eval, member, giveWay.2, giveWay.1⟩, other, otherMember, ?_⟩
    have seen : any = true := by
      refine seen (List.any_eq_true.mpr ⟨_, gatedGiveWay, ?_⟩)
      have duty : evaluationHasGiveWayDuty
          (gate params dutyLatched action standon inextremis eval) = true := by
        rw [giveWay_gate opened, giveWay.1, giveWay.2, Bool.and_true]
      have primary := giveWay.2
      simp only [RuleEvaluation.isPrimary, Bool.or_eq_true, decide_eq_true_eq] at primary
      rw [isPrimaryGiveWay, gate_ruleId, Bool.and_eq_true]
      exact ⟨duty, by simp [primary]⟩
    have not17 : other.ruleId ≠ 17 := by simpa [gate_ruleId] using passes seen
    have before := (isStandOn_of_gate standOn).resolve_right not17
    exact ⟨(roles other otherMember before).resolve_right not17, before⟩
  · rintro ⟨opened, ⟨eval, member, primary, giveWay⟩, other, otherMember, otherPrimary, standOn⟩
    refine ⟨⟨_, List.mem_map_of_mem member, ?_⟩, _, List.mem_map_of_mem otherMember, ?_,
      fun _ => ?_⟩
    · rw [giveWay_gate opened, giveWay, primary, Bool.and_true]
    · rw [isStandOn_gate opened otherPrimary, standOn]
    · rw [gate_ruleId]
      rintro rule17
      simp [RuleEvaluation.isPrimary, rule17] at otherPrimary

end Listed

/-! ### The cycle of a target -/

section Assess

variable {lib : MathLibrary} {odd : OddDomain} {params : RuleParameters}
  {target : TargetGeometricState} {nowS : Float} {threat : Threat} {memory : TargetMemory}
  {semanticState : Option EncounterState}

theorem secondaryEval_ruleId (rule : SecondaryRule) :
    (secondaryEval lib odd params target memory rule).ruleId = rule.id := by
  have raw : (rule.evaluate lib target odd params).ruleId = rule.id :=
    SecondaryRule.evaluate_ruleId rule
  unfold secondaryEval
  dsimp only
  split_ifs <;> exact raw

theorem secondaryEval_isPrimary (rule : SecondaryRule) :
    (secondaryEval lib odd params target memory rule).isPrimary = false := by
  rw [RuleEvaluation.isPrimary, secondaryEval_ruleId]
  cases rule <;> rfl

/-- Of the rules that do not classify, only Rule 17 stands on. -/
theorem secondaryEval_isStandOn {rule : SecondaryRule}
    (priority : target.targetShipTypePriority ≤ 5)
    (standOn : isStandOn (secondaryEval lib odd params target memory rule) = true) :
    rule = .rule17 := by
  have role := of_decide_eq_true (Bool.and_eq_true_iff.mp standOn).2
  unfold secondaryEval at role
  dsimp only at role
  have raw : (rule.evaluate lib target odd params).role = .standOn := by
    split_ifs at role <;> exact role
  exact SecondaryRule.evaluate_standOn priority raw

/-- The evaluations of a cycle in their order. -/
theorem evaluateRules_evaluations :
    (evaluateRules lib odd params target nowS threat memory semanticState).evaluations =
      [SecondaryRule.rule5, .rule6, .rule7, .rule8].map
          (secondaryEval lib odd params target memory) ++
        PrimaryRule.all.map (cycleEval lib params target nowS threat memory) ++
        [SecondaryRule.rule16, .rule17, .rule18, .rule19].map
          (secondaryEval lib odd params target ((memoryBefore lib params target nowS threat memory
            .rule15).afterPrimary lib params target nowS threat .rule15)) := by
  unfold evaluateRules ruleLibrary
  rfl

theorem exists_primary_iff (Property : RuleEvaluation → Prop) :
    (∃ eval ∈ (evaluateRules lib odd params target nowS threat memory semanticState).evaluations,
        eval.isPrimary = true ∧ Property eval) ↔
      ∃ rule, Property (cycleEval lib params target nowS threat memory rule) := by
  rw [evaluateRules_evaluations]
  constructor
  · rintro ⟨eval, member, primary, holds⟩
    obtain member | member := List.mem_append.mp member
    · obtain member | member := List.mem_append.mp member
      · obtain ⟨rule, _, rfl⟩ := List.mem_map.mp member
        rw [secondaryEval_isPrimary] at primary
        cases primary
      · obtain ⟨rule, _, rfl⟩ := List.mem_map.mp member
        exact ⟨rule, holds⟩
    · obtain ⟨rule, _, rfl⟩ := List.mem_map.mp member
      rw [secondaryEval_isPrimary] at primary
      cases primary
  · rintro ⟨rule, holds⟩
    refine ⟨_, List.mem_append_left _ (List.mem_append_right _ (List.mem_map_of_mem ?_)),
      primaryEval_isPrimary, holds⟩
    cases rule <;> decide

theorem evaluateRules_isStandOn (priority : target.targetShipTypePriority ≤ 5) :
    ∀ eval ∈ (evaluateRules lib odd params target nowS threat memory semanticState).evaluations,
      isStandOn eval = true → eval.isPrimary = true ∨ eval.ruleId = 17 := by
  refine evaluateRules_forall _ (fun _ _ _ => .inl primaryEval_isPrimary)
    (fun _ rule standOn => .inr ?_) memory semanticState
  rw [secondaryEval_ruleId, secondaryEval_isStandOn priority standOn]
  rfl

/-- A duty that an earlier cycle has latched and that this one does not release. -/
def dutyRemains (target : TargetGeometricState) (threat : Threat) (memory : TargetMemory) :
    Bool :=
  isLatched (memory.giveWayLatch.map (releaseDutyLatch target threat))

/-- While a primary rule stands on, no duty begins. -/
theorem dutyLatch_of_overtaken
    (overtaken : Overtaken lib params target nowS threat memory) :
    let evaluated := evaluateRules lib odd params target nowS threat memory semanticState
    (dutyLatch params target threat evaluated.memory evaluated.evaluations).latched =
      dutyRemains target threat memory := by
  intro evaluated
  have standsOn : (evaluated.evaluations.any fun eval => isStandOn eval && eval.isPrimary) =
      true := by
    obtain ⟨eval, member, primary, standOn⟩ :=
      (exists_primary_iff fun eval => isStandOn eval = true).mpr ⟨.rule15, overtaken.isStandOn⟩
    exact List.any_eq_true.mpr ⟨eval, member, by rw [standOn, primary]; rfl⟩
  have silent : dutyOnsetSignal params target threat evaluated.evaluations = false := by
    simp [dutyOnsetSignal, giveWayDutyOnsetSignal, standsOn]
  have kept : evaluated.memory.giveWayLatch = memory.giveWayLatch := by
    simp only [evaluated, evaluateRules_memory, afterPrimary_giveWayLatch]
  rw [dutyLatch, silent, kept, dutyRemains]
  cases known : memory.giveWayLatch with
  | none => simp [isLatched, RuleLatch.update, RuleLatch.Latches]
  | some latch => rfl

/-- What clashes in the cycle of a target: Rule 15 overtakes another rule, and no duty remains
that would take its stand-on away, or a stand-on action keeps it. -/
structure Clash (lib : MathLibrary) (params : RuleParameters) (target : TargetGeometricState)
    (nowS : Float) (threat : Threat) (memory : TargetMemory) : Prop where
  overtaken : Overtaken lib params target nowS threat memory
  kept : dutyRemains target threat memory = true → threat.standonActionLatched = true

/-- The rules of an assessment conflict exactly if they clash. -/
theorem assess_conflicts_iff {any latchReleased : Bool} (one : memory.AtMostOne)
    (priority : target.targetShipTypePriority ≤ 5)
    (action : isLatched memory.standonLatch = true → threat.standonActionLatched = true)
    (seen : (assess lib odd params target nowS threat memory semanticState
      latchReleased).evaluations.any isPrimaryGiveWay = true → any = true) :
    Conflicts (rulesWith params any (assess lib odd params target nowS threat memory semanticState
        latchReleased).evaluations) ↔
      Clash lib params target nowS threat memory := by
  refine (conflicts_gate_iff (evaluateRules_isStandOn priority) (fun standing => ?_) seen).trans ?_
  · -- under a duty the action latch can only have been latched before
    by_contra closed
    simp only [Bool.or_eq_true, Bool.not_eq_true', not_or, Bool.not_eq_false] at closed
    rw [standonLatch, closed.1, Bool.not_true, Bool.false_and, Bool.false_and, evaluateRules_memory,
      afterPrimary_standonLatch, afterPrimary_standonLatch, afterPrimary_standonLatch] at standing
    exact closed.2 (action ((isLatched_of_update standing).resolve_right
      fun latches => Bool.false_ne_true latches.1))
  · rw [exists_primary_iff, exists_primary_iff, overtaken_iff one]
    constructor
    · rintro ⟨opened, overtaken⟩
      rw [dutyLatch_of_overtaken overtaken] at opened
      exact ⟨overtaken, fun remains => by simpa [remains] using opened⟩
    · rintro ⟨overtaken, kept⟩
      refine ⟨?_, overtaken⟩
      rw [dutyLatch_of_overtaken overtaken]
      cases remains : dutyRemains target threat memory with
      | false => rfl
      | true => exact kept remains

/-- The encounter of a target goes on behind its release pass. -/
structure GoesOn (threat : Threat) (pass : ReleasePass) : Prop where
  noRelease : (pass.transitionedToRelease && pass.latchReleasedNow) = false
  noneReleased : threat.anyLatchReleased = false
  unresolved : pass.memory.resolved = false

/-- The encounter of a target goes on, and the rules of its cycle clash. -/
def Clashes (lib : MathLibrary) (params : RuleParameters) (target : TargetGeometricState)
    (nowS currentRng : Float) (memory : TargetMemory) (semanticState : Option EncounterState) :
    Prop :=
  let threat := Colregs.threat lib params target memory currentRng
  let pass := releasedPass target nowS threat memory semanticState
  GoesOn threat pass ∧ Clash lib params target nowS threat pass.memory

theorem isLatched_releasedPass_standonLatch
    (latched : isLatched (releasedPass target nowS threat memory
      semanticState).memory.standonLatch = true) : isLatched memory.standonLatch = true := by
  unfold releasedPass at latched
  split_ifs at latched
  · refine isLatched_map (fun latch released => ?_) latched
    exact (RuleLatch.latched_of_update released).resolve_right
      fun latches => Bool.false_ne_true latches.1
  · exact latched

theorem not_conflicts_none {any : Bool} : ¬ Conflicts (rulesWith params any []) := by
  rintro ⟨⟨rule, member, _⟩, _⟩
  cases member

/-- The rules of a target's cycle conflict exactly if they clash. -/
theorem reasonTarget_conflicts_iff {any : Bool} {currentRng : Float} (one : memory.AtMostOne)
    (priority : target.targetShipTypePriority ≤ 5)
    (seen : (reasonTarget lib odd params target nowS currentRng memory
      semanticState).evaluations.any isPrimaryGiveWay = true → any = true) :
    Conflicts (rulesWith params any
        (reasonTarget lib odd params target nowS currentRng memory semanticState).evaluations) ↔
      Clashes lib params target nowS currentRng memory semanticState := by
  unfold reasonTarget afterRelease Clashes at *
  dsimp only at seen ⊢
  split_ifs at seen ⊢ with released known
  · refine iff_of_false not_conflicts_none fun ⟨goesOn, _⟩ => ?_
    rw [goesOn.noRelease] at released
    cases released
  · refine iff_of_false not_conflicts_none fun ⟨goesOn, _⟩ => ?_
    rw [goesOn.noneReleased, goesOn.unresolved] at known
    cases known
  · have goesOn : GoesOn (Colregs.threat lib params target memory currentRng)
        (releasedPass target nowS (Colregs.threat lib params target memory currentRng) memory
          semanticState) := by
      simp only [Bool.or_eq_true, not_or, Bool.not_eq_true] at known
      exact ⟨Bool.eq_false_of_not_eq_true released, known.1, known.2⟩
    refine (assess_conflicts_iff (releasedPass_atMostOne one semanticState) priority
      (fun latched => isLatched_releasedPass_standonLatch latched) seen).trans ?_
    exact (and_iff_right goesOn).symm

end Assess

/-! ### The constraints of a run -/

/-- Give-way and stand-on are not listed for a target at once. -/
def Exclusive (targetId : UInt64) (constraint : COLREGsConstraint) : Prop :=
  ¬ Conflicts (constraint.activeRules.filter fun rule => rule.targetId = targetId)

instance (targetId : UInt64) (constraint : COLREGsConstraint) :
    Decidable (Exclusive targetId constraint) :=
  inferInstanceAs (Decidable (¬ _))

/-- The cycle so far, when the loop has been through some targets. -/
def ColregsReasonerNode.arrival (config : Config) (node : ColregsReasonerNode)
    (world : WorldState) (earlier : List TrackedTarget) : Cycle :=
  Cycle.after config node.domain world { memory := (node.observe world).memory }
    (earlier.map (convertTarget config.lib world.ownShip))

/-- The rules of a target clash when the loop comes to it behind some others. -/
def ColregsReasonerNode.ClashesAt (config : Config) (node : ColregsReasonerNode)
    (world : WorldState) (earlier : List TrackedTarget) (target : TrackedTarget) : Prop :=
  Clashes config.lib (currentRuleParams config node.domain)
    (convertTarget config.lib world.ownShip target) (seconds world.stamp)
    (currentRange world.targets target.mmsi)
    ((node.arrival config world earlier).memory target.mmsi)
    ((node.arrival config world earlier).semanticState target.mmsi)

/-- The rules of some target of a world state clash. -/
def ColregsReasonerNode.ClashesOn (config : Config) (node : ColregsReasonerNode)
    (world : WorldState) : Prop :=
  ∃ earlier target later, world.targets = earlier ++ target :: later ∧
    node.ClashesAt config world earlier target

section Node

variable {config : Config} {node : ColregsReasonerNode} {world : WorldState}

theorem convertTarget_priority (lib : MathLibrary) (own : OwnShipState)
    (target : TrackedTarget) : (convertTarget lib own target).targetShipTypePriority ≤ 5 := by
  unfold convertTarget classifyShipPriority
  dsimp only
  split_ifs <;> decide

theorem arrival_atMostOne (one : ∀ mmsi, (node.memory mmsi).AtMostOne)
    (earlier : List TrackedTarget) (mmsi : UInt32) :
    ((node.arrival config world earlier).memory mmsi).AtMostOne := by
  have observed : ((node.observe world).memory mmsi).AtMostOne := by
    obtain kept | emptied := observe_memory_cases node world mmsi
    · rw [kept]
      exact one mmsi
    · rw [emptied]
      exact TargetMemory.atMostOne_of_none fun rule => by cases rule <;> rfl
  exact Cycle.after_memory_invariant TargetMemory.AtMostOne _ _ observed
    fun _ currentRng _ semanticState one => reasonTarget_atMostOne one currentRng semanticState

/-- The rules listed for a target whose id is listed once conflict exactly if they clash. -/
theorem conflicts_target_iff (one : ∀ mmsi, (node.memory mmsi).AtMostOne) (nowNs : Int)
    {earlier later : List TrackedTarget} {target : TrackedTarget}
    (split : world.targets = earlier ++ target :: later)
    (before : ∀ other ∈ earlier, other.targetId ≠ target.targetId)
    (behind : ∀ other ∈ later, other.targetId ≠ target.targetId) :
    Conflicts (((node.cycleOn config world).constraint config node.domain world
        nowNs).activeRules.filter fun rule => rule.targetId = target.targetId) ↔
      node.ClashesAt config world earlier target := by
  have own : evaluationsOf target.targetId (node.cycleOn config world).evaluations =
      ((node.arrival config world earlier).outcome config node.domain world
        (convertTarget config.lib world.ownShip target)).evaluations := by
    unfold ColregsReasonerNode.cycleOn reasonTargets
    rw [convertWorldState, split, List.map_append, List.map_cons]
    have distinct : ∀ {others : List TrackedTarget},
        (∀ other ∈ others, other.targetId ≠ target.targetId) →
          ∀ other ∈ others.map (convertTarget config.lib world.ownShip),
            other.targetId ≠ (convertTarget config.lib world.ownShip target).targetId := by
      intro others different other member
      obtain ⟨tracked, inOthers, rfl⟩ := List.mem_map.mp member
      exact different tracked inOthers
    exact Cycle.evaluationsOf_after { memory := (node.observe world).memory } rfl
      (distinct before) (distinct behind)
  rw [Cycle.constraint_activeRules, generate_activeRules_filter, own]
  refine reasonTarget_conflicts_iff (arrival_atMostOne one earlier _)
    (convertTarget_priority _ _ target) fun seen => ?_
  obtain ⟨eval, member, giveWay⟩ := List.any_eq_true.mp seen
  refine List.any_eq_true.mpr ⟨eval, ?_, giveWay⟩
  have listed : eval ∈ evaluationsOf target.targetId (node.cycleOn config world).evaluations :=
    own ▸ member
  exact (List.mem_filter.mp listed).1

/-- A cycle on distinct ids is exclusive for every target exactly if nothing clashes. -/
theorem cycleOn_exclusive_iff (one : ∀ mmsi, (node.memory mmsi).AtMostOne) (nowNs : Int)
    (once : (world.targets.map TrackedTarget.targetId).Nodup) :
    (∀ targetId, Exclusive targetId
        ((node.cycleOn config world).constraint config node.domain world nowNs)) ↔
      ¬ node.ClashesOn config world := by
  have listed : ∀ {earlier later : List TrackedTarget} {target : TrackedTarget},
      world.targets = earlier ++ target :: later →
        (Conflicts (((node.cycleOn config world).constraint config node.domain world
            nowNs).activeRules.filter fun rule => rule.targetId = target.targetId) ↔
          node.ClashesAt config world earlier target) := by
    intro earlier later target split
    rw [split] at once
    obtain ⟨before, behind⟩ := others_ne_of_nodup once
    exact conflicts_target_iff one nowNs split before behind
  constructor
  · rintro exclusive ⟨earlier, target, later, split, clashes⟩
    exact exclusive target.targetId ((listed split).mpr clashes)
  · intro none targetId conflicts
    have evaluated := conflicts
    rw [Cycle.constraint_activeRules, generate_activeRules_filter,
      conflicts_rulesWith_iff] at evaluated
    obtain ⟨⟨eval, member, _⟩, _⟩ := evaluated
    obtain ⟨inCycle, own⟩ := List.mem_filter.mp member
    obtain absurdly | ⟨_, converted, same⟩ := Cycle.mem_after_evaluations inCycle
    · cases absurdly
    · obtain ⟨target, tracked, rfl⟩ := List.mem_map.mp converted
      obtain ⟨earlier, later, split⟩ := List.append_of_mem tracked
      have isTarget : target.targetId = targetId := same.symm.trans (of_decide_eq_true own)
      subst isTarget
      exact none ⟨earlier, target, later, split, (listed split).mp conflicts⟩

/-- A callback publishes an exclusive constraint exactly if it is no cycle that clashes. -/
theorem handle_exclusive_iff (config : Config) (one : ∀ mmsi, (node.memory mmsi).AtMostOne)
    (event : Event) (once : ∀ world, node.lastWorldState = some world →
      (world.targets.map TrackedTarget.targetId).Nodup) :
    (∀ constraint targetId, (node.handle config event).2 = some constraint →
        Exclusive targetId constraint) ↔
      ∀ nowNs world, event = .reasoningTick nowNs → node.lastWorldState = some world →
        isStale config world nowNs = false → ¬ node.ClashesOn config world := by
  constructor
  · rintro exclusive nowNs world rfl cached fresh
    exact (cycleOn_exclusive_iff one nowNs (once world cached)).mp fun targetId =>
      exclusive _ targetId (handle_tick_fresh cached fresh)
  · intro none constraint targetId published
    obtain ⟨nowNs, world, rfl, cached, ⟨fresh, rfl⟩ | ⟨_, rfl⟩⟩ := handle_published published
    · exact (cycleOn_exclusive_iff one nowNs (once world cached)).mpr
        (none nowNs world rfl cached fresh) targetId
    · rintro ⟨⟨rule, member, _⟩, _⟩
      cases member

end Node

/-- In a run whose world states list every target id once, every published constraint is exclusive
for every target exactly if no rules clash in any cycle on a world state that is not stale. -/
theorem exclusive_iff (config : Config) (events : List Event)
    (once : ∀ world, Event.worldState world ∈ events →
      (world.targets.map TrackedTarget.targetId).Nodup) :
    (∀ (count : Nat) (constraint : COLREGsConstraint) (targetId : UInt64),
        (ColregsReasonerNode.published config {} events)[count]? = some (some constraint) →
          Exclusive targetId constraint) ↔
      ∀ (count : Nat) (nowNs : Int) (world : WorldState),
        events[count]? = some (.reasoningTick nowNs) →
        (nodeAt config events count).lastWorldState = some world →
        isStale config world nowNs = false →
          ¬ (nodeAt config events count).ClashesOn config world := by
  have callback := fun count event => handle_exclusive_iff config
    (nodeAt_atMostOne config events count) event
    fun world cached => once world (arrived_of_cached cached)
  constructor
  · intro exclusive count nowNs world present
    refine (callback count (.reasoningTick nowNs)).mp (fun constraint targetId published => ?_)
      nowNs world rfl
    refine exclusive count constraint targetId ?_
    rw [published_getElem?, present]
    exact congrArg some published
  · intro none count constraint targetId publishes
    rw [published_getElem?] at publishes
    obtain ⟨event, present, published⟩ := Option.map_eq_some_iff.mp publishes
    refine (callback count event).mpr (fun nowNs world tick => ?_) constraint targetId published
    exact none count nowNs world (tick ▸ present)

/-- In the narrows a ship comes head-on at a thousand metres, so the latch of Rule 14 stays open
while its machine gives way. Then the own ship turns to starboard, and the other one is on its
port side at nine hundred metres. -/
def turnedMeeting : List Event :=
  .oddState 1 :: cyclesOf
    [scene 1 0.0 [onMeridian 7 0.07 180.0 8000.0 1000.0 700.0],
      scene 2 0.0 [onMeridian 7 0.07 180.0 7900.0 1000.0 690.0],
      scene 3 0.0 [onMeridian 7 0.07 180.0 7800.0 1000.0 680.0],
      scene 4 0.0 [onMeridian 7 0.07 180.0 7700.0 1000.0 670.0],
      scene 5 45.0 [onMeridian 7 0.07 180.0 7600.0 900.0 660.0]]

theorem exclusive_iff_turnedMeeting :
    (∀ (count : Nat) (constraint : COLREGsConstraint) (targetId : UInt64),
        (ColregsReasonerNode.published meridianConfig {} turnedMeeting)[count]? =
            some (some constraint) →
          Exclusive targetId constraint) ↔
      ∀ (count : Nat) (nowNs : Int) (world : WorldState),
        turnedMeeting[count]? = some (.reasoningTick nowNs) →
        (nodeAt meridianConfig turnedMeeting count).lastWorldState = some world →
        isStale meridianConfig world nowNs = false →
          ¬ (nodeAt meridianConfig turnedMeeting count).ClashesOn meridianConfig world :=
  exclusive_iff meridianConfig turnedMeeting (by simp [turnedMeeting, mem_cyclesOf, scene])

/-- The last cycle has the own ship give way by Rule 14 and stand on by Rule 15. -/
theorem turned_meeting_conflicts :
    ∃ constraint, (ColregsReasonerNode.published meridianConfig {} turnedMeeting)[10]? =
        some (some constraint) ∧
      (constraint.activeRules.map fun rule => (rule.ruleId, rule.targetId, rule.role)) =
        [(5, 7, .free), (7, 7, .free), (8, 7, .free), (14, 7, .bothGiveWay),
          (15, 7, .standOn)] ∧
      ¬ Exclusive 7 constraint := by
  have last : ((ColregsReasonerNode.published meridianConfig {} turnedMeeting)[10]?.join.any
      fun constraint =>
        decide ((constraint.activeRules.map fun rule => (rule.ruleId, rule.targetId, rule.role)) =
          [(5, 7, .free), (7, 7, .free), (8, 7, .free), (14, 7, .bothGiveWay),
            (15, 7, .standOn)] ∧ ¬ Exclusive 7 constraint)) = true := by
    decide +kernel
  obtain ⟨constraint, published, holds⟩ := (Option.any_eq_true _ _).mp last
  exact ⟨constraint, Option.join_eq_some_iff.mp published, of_decide_eq_true holds⟩

end MassL3.M6.Colregs
