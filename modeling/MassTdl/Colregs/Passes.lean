/-
This file is about the passes of the constraint generator over the evaluations of all targets.
Both change an evaluation by itself, except that the suppression asks whether any target is a
primary give-way. So the rules that are listed for a target are read off from its evaluations
and that one bit.

Targets of a world state interfere through that bit alone. Each target's evaluations come from
its own memory. The generator then drops the stand-on directives of Rule 17 of every target as
soon as any target is a primary give-way, so a target loses its directive to another one exactly
if it has one and is no primary give-way itself.
-/

import MassTdl.Colregs.Targets

namespace MassL3.M6.Colregs

section Passes

variable {params : RuleParameters}

@[simp]
theorem isPrimaryGiveWay_effective (eval : RuleEvaluation) :
    isPrimaryGiveWay (effectiveEvaluation params eval) = isPrimaryGiveWay eval := by
  unfold effectiveEvaluation
  dsimp only
  split_ifs <;> rfl

@[simp]
theorem isRule17StandOn_effective (eval : RuleEvaluation) :
    isRule17StandOn (effectiveEvaluation params eval) = isRule17StandOn eval := by
  unfold effectiveEvaluation
  dsimp only
  split_ifs <;> rfl

@[simp]
theorem effectiveEvaluation_targetId (eval : RuleEvaluation) :
    (effectiveEvaluation params eval).targetId = eval.targetId := by
  unfold effectiveEvaluation
  dsimp only
  split_ifs <;> rfl

@[simp]
theorem effectiveEvaluation_role (eval : RuleEvaluation) :
    (effectiveEvaluation params eval).role = eval.role := by
  unfold effectiveEvaluation
  dsimp only
  split_ifs <;> rfl

@[simp]
theorem effectiveEvaluation_isActive (eval : RuleEvaluation) :
    (effectiveEvaluation params eval).isActive = eval.isActive := by
  unfold effectiveEvaluation
  dsimp only
  split_ifs <;> rfl

/-- The suppression of one evaluation. -/
def suppressed (any : Bool) (eval : RuleEvaluation) : RuleEvaluation :=
  if any && isRule17StandOn eval then eval.deactivate else eval

@[simp]
theorem suppressed_targetId (any : Bool) (eval : RuleEvaluation) :
    (suppressed any eval).targetId = eval.targetId := by
  unfold suppressed
  split_ifs <;> rfl

@[simp]
theorem suppressed_role (any : Bool) (eval : RuleEvaluation) :
    (suppressed any eval).role = eval.role := by
  unfold suppressed
  split_ifs <;> rfl

theorem suppressed_false : suppressed false = id := by
  funext eval
  simp [suppressed]

/-- One evaluation stays active through the suppression. -/
theorem suppressed_isActive (any : Bool) (eval : RuleEvaluation) :
    (suppressed any eval).isActive = (eval.isActive && !(any && isRule17StandOn eval)) := by
  unfold suppressed
  split_ifs with dropped
  · simp [RuleEvaluation.deactivate, dropped]
  · simp [dropped]

/-- The passes treat the evaluations one by one, once it is known whether any is a primary
give-way. -/
theorem effectiveEvaluations_eq_map (evaluations : List RuleEvaluation) :
    effectiveEvaluations params evaluations =
      evaluations.map fun eval =>
        suppressed (evaluations.any isPrimaryGiveWay) (effectiveEvaluation params eval) := by
  have same : (evaluations.map (effectiveEvaluation params)).any isPrimaryGiveWay =
      evaluations.any isPrimaryGiveWay := by
    simp [List.any_map, Function.comp_def]
  unfold effectiveEvaluations suppressStandOn
  rw [same]
  cases evaluations.any isPrimaryGiveWay with
  | false => simp [suppressed_false]
  | true => simp [suppressed, RuleEvaluation.deactivate]

/-- The active rules of some evaluations, given whether any target is a primary give-way. -/
def rulesWith (params : RuleParameters) (any : Bool) (evaluations : List RuleEvaluation) :
    List RuleActive :=
  ((evaluations.map fun eval => suppressed any (effectiveEvaluation params eval)).filter
    fun eval => eval.isActive).map RuleEvaluation.ruleActive

/-- The rules that are listed for a target come from its evaluations. -/
theorem generate_activeRules_filter (confidence : Float32) (evaluations : List RuleEvaluation)
    (targetId : UInt64) :
    ((generate params confidence evaluations).activeRules.filter fun rule =>
        rule.targetId = targetId) =
      rulesWith params (evaluations.any isPrimaryGiveWay)
        (evaluationsOf targetId evaluations) := by
  simp only [generate, effectiveEvaluations_eq_map, rulesWith, evaluationsOf, List.filter_map,
    List.filter_filter, Function.comp_def, RuleEvaluation.ruleActive, suppressed_targetId,
    effectiveEvaluation_targetId, List.map_map, Bool.and_comm]

/-- The roles that are listed are those of the active evaluations that are not suppressed. -/
theorem exists_rulesWith_role (Property : Role → Prop) (any : Bool)
    (evaluations : List RuleEvaluation) :
    (∃ rule ∈ rulesWith params any evaluations, Property rule.role) ↔
      ∃ eval ∈ evaluations, eval.isActive = true ∧ (any && isRule17StandOn eval) = false ∧
        Property eval.role := by
  have listed : ∀ eval, (suppressed any (effectiveEvaluation params eval)).isActive = true ↔
      eval.isActive = true ∧ (any && isRule17StandOn eval) = false := by
    intro eval
    rw [suppressed_isActive, effectiveEvaluation_isActive, isRule17StandOn_effective,
      Bool.and_eq_true, Bool.not_eq_true']
  constructor
  · rintro ⟨rule, member, holds⟩
    obtain ⟨_, kept, rfl⟩ := List.mem_map.mp member
    obtain ⟨passed, active⟩ := List.mem_filter.mp kept
    obtain ⟨eval, inEvaluations, rfl⟩ := List.mem_map.mp passed
    obtain ⟨active, free⟩ := (listed eval).mp active
    exact ⟨eval, inEvaluations, active, free, by simpa [RuleEvaluation.ruleActive] using holds⟩
  · rintro ⟨eval, inEvaluations, active, free, holds⟩
    refine ⟨(suppressed any (effectiveEvaluation params eval)).ruleActive, List.mem_map_of_mem
      (List.mem_filter.mpr ⟨List.mem_map_of_mem inEvaluations, ?_⟩), ?_⟩
    · exact (listed eval).mpr ⟨active, free⟩
    · simpa [RuleEvaluation.ruleActive] using holds

theorem length_rulesWith (any : Bool) (evaluations : List RuleEvaluation) :
    (rulesWith params any evaluations).length =
      evaluations.countP fun eval =>
        (effectiveEvaluation params eval).isActive && !(any && isRule17StandOn eval) := by
  simp [rulesWith, ← List.countP_eq_length_filter, List.countP_map, Function.comp_def,
    suppressed_isActive]

/-- The suppression shows exactly if there is a stand-on directive to drop. -/
theorem rulesWith_true_eq_false_iff (evaluations : List RuleEvaluation) :
    rulesWith params true evaluations = rulesWith params false evaluations ↔
      evaluations.any isRule17StandOn = false := by
  constructor
  · intro same
    have lengths := congrArg List.length same
    simp only [length_rulesWith, Bool.true_and, Bool.false_and, Bool.not_false,
      Bool.and_true] at lengths
    have parts := List.countP_eq_countP_filter_add evaluations
      (fun eval => (effectiveEvaluation params eval).isActive) isRule17StandOn
    simp only [List.countP_filter] at parts
    have dropped : evaluations.countP (fun eval =>
        (effectiveEvaluation params eval).isActive && isRule17StandOn eval) = 0 := by omega
    refine List.any_eq_false.mpr fun eval member standsOn => ?_
    refine List.countP_eq_zero.mp dropped eval member ?_
    have effective : isRule17StandOn (effectiveEvaluation params eval) = true := by
      rw [isRule17StandOn_effective, standsOn]
    have active : (effectiveEvaluation params eval).isActive = true := by
      simp only [isRule17StandOn, Bool.and_eq_true] at effective
      exact effective.1.1
    rw [active, standsOn]
    rfl
  · intro none
    unfold rulesWith
    congr 2
    refine List.map_congr_left fun eval member => ?_
    have notStandOn : isRule17StandOn eval = false :=
      Bool.eq_false_iff.mpr fun standsOn => List.any_eq_false.mp none eval member standsOn
    simp [suppressed, notStandOn]

end Passes

/-! ### The constraint of a cycle -/

theorem Cycle.constraint_activeRules (config : Config) (cycle : Cycle) (odd : OddDomain)
    (world : WorldState) (nowNs : Int) :
    (cycle.constraint config odd world nowNs).activeRules =
      (generate (currentRuleParams config odd) world.confidence cycle.evaluations).activeRules := by
  unfold Cycle.constraint
  dsimp only
  split_ifs <;> rfl

/-- A tick on a fresh world state publishes the constraint of its cycle. -/
theorem handle_tick_fresh {config : Config} {node : ColregsReasonerNode} {world : WorldState}
    {nowNs : Int} (cached : node.lastWorldState = some world)
    (fresh : isStale config world nowNs = false) :
    (node.handle config (.reasoningTick nowNs)).2 =
      some ((node.cycleOn config world).constraint config node.domain world nowNs) := by
  unfold ColregsReasonerNode.handle ColregsReasonerNode.runReasoning
    ColregsReasonerNode.reasonOn ColregsReasonerNode.cycleOn
  rw [cached]
  simp [fresh, ColregsReasonerNode.observe_domain]

/-- A tick on a stale one publishes the degraded constraint. -/
theorem handle_tick_stale {config : Config} {node : ColregsReasonerNode} {world : WorldState}
    {nowNs : Int} (cached : node.lastWorldState = some world)
    (stale : isStale config world nowNs = true) :
    (node.handle config (.reasoningTick nowNs)).2 =
      some (degradedConstraint nowNs (seconds (nowNs - world.stamp))) := by
  unfold ColregsReasonerNode.handle ColregsReasonerNode.runReasoning
    ColregsReasonerNode.reasonOn
  rw [cached]
  simp [stale]

/-- Only a tick on a cached world state publishes: the constraint of its cycle, or the degraded
one. -/
theorem handle_published {config : Config} {node : ColregsReasonerNode} {event : Event}
    {constraint : COLREGsConstraint} (published : (node.handle config event).2 = some constraint) :
    ∃ nowNs world, event = .reasoningTick nowNs ∧ node.lastWorldState = some world ∧
      (isStale config world nowNs = false ∧
          constraint = (node.cycleOn config world).constraint config node.domain world nowNs ∨
        isStale config world nowNs = true ∧
          constraint = degradedConstraint nowNs (seconds (nowNs - world.stamp))) := by
  cases event with
  | oddState currentZone => cases published
  | worldState world => cases published
  | scenarioLoaded => cases published
  | reasoningTick nowNs =>
    cases cached : node.lastWorldState with
    | none =>
      rw [ColregsReasonerNode.handle, ColregsReasonerNode.runReasoning, cached] at published
      cases published
    | some world =>
      refine ⟨nowNs, world, rfl, rfl, ?_⟩
      cases stale : isStale config world nowNs with
      | false =>
        rw [handle_tick_fresh cached stale] at published
        exact .inl ⟨rfl, (Option.some.inj published).symm⟩
      | true =>
        rw [handle_tick_stale cached stale] at published
        exact .inr ⟨rfl, (Option.some.inj published).symm⟩

variable (config : Config) (node : ColregsReasonerNode) (world : WorldState) (nowNs : Int)
  (target : TrackedTarget)

/-! ### Two publications -/

/-- The world state without the other targets. -/
def WorldState.only : WorldState := { world with targets := [target] }

/-- What the node publishes in a cycle on a world state. -/
def ColregsReasonerNode.publishedOn : Option COLREGsConstraint :=
  ({ node with lastWorldState := some world }.runReasoning config nowNs).2

/-- The active rules a constraint lists for a target. -/
def activeRulesOf (targetId : UInt64) (constraint : Option COLREGsConstraint) :
    List RuleActive :=
  ((constraint.map fun constraint => constraint.activeRules).getD []).filter fun rule =>
    rule.targetId = targetId

/-- The evaluations of a target by itself. -/
def ColregsReasonerNode.evaluationsAlone : List RuleEvaluation :=
  (node.outcomeAlone config world target).evaluations

/-- By itself, the target is a primary give-way. -/
def ColregsReasonerNode.GivesWay : Prop :=
  (node.evaluationsAlone config world target).any isPrimaryGiveWay = true

/-- By itself, the target has a stand-on directive of Rule 17. -/
def ColregsReasonerNode.StandsOn : Prop :=
  (node.evaluationsAlone config world target).any isRule17StandOn = true

/-- No other target takes a directive away: the world state is stale, or the target has no
stand-on directive of Rule 17, or it is a primary give-way itself, or no target is. -/
def ColregsReasonerNode.Undisturbed : Prop :=
  isStale config world nowNs = true ∨
    (node.StandsOn config world target →
      (∃ other ∈ world.targets, node.GivesWay config world other) →
        node.GivesWay config world target)

/-! ### The cycle on distinct targets -/

section Distinct

variable {config node world nowNs target}

/-- The memory a cycle starts from does not depend on the cached world state. -/
theorem ColregsReasonerNode.observe_memory_cached (cached : Option WorldState) :
    ({ node with lastWorldState := cached }.observe world).memory =
      (node.observe world).memory := by
  unfold ColregsReasonerNode.observe
  dsimp only
  split_ifs with rewinds other other
  · rfl
  · exact absurd rewinds other
  · exact absurd other rewinds
  · rfl

/-- What a cycle on a fresh world state publishes. -/
theorem publishedOn_fresh (fresh : isStale config world nowNs = false) :
    node.publishedOn config world nowNs =
      some ((node.cycleOn config world).constraint config node.domain world nowNs) := by
  unfold ColregsReasonerNode.publishedOn ColregsReasonerNode.runReasoning
    ColregsReasonerNode.reasonOn ColregsReasonerNode.cycleOn
  simp only [fresh, ColregsReasonerNode.observe_domain,
    ColregsReasonerNode.observe_memory_cached]
  rfl

/-- What a cycle on a fresh world state lists for a target. -/
theorem activeRulesOf_publishedOn (fresh : isStale config world nowNs = false)
    (targetId : UInt64) :
    activeRulesOf targetId (node.publishedOn config world nowNs) =
      rulesWith (currentRuleParams config node.domain)
        ((node.cycleOn config world).evaluations.any isPrimaryGiveWay)
        (evaluationsOf targetId (node.cycleOn config world).evaluations) := by
  rw [← generate_activeRules_filter world.confidence, publishedOn_fresh fresh, activeRulesOf,
    Option.map_some, Option.getD_some, Cycle.constraint_activeRules]

/-- A stale world state lists nothing. -/
theorem activeRulesOf_stale (stale : isStale config world nowNs = true) (targetId : UInt64) :
    activeRulesOf targetId (node.publishedOn config world nowNs) = [] := by
  unfold activeRulesOf ColregsReasonerNode.publishedOn ColregsReasonerNode.runReasoning
    ColregsReasonerNode.reasonOn
  simp [stale, degradedConstraint]

/-- Among distinct targets, the evaluations of a target are those it has by itself. -/
theorem evaluationsOf_cycleOn (member : target ∈ world.targets)
    (distinct : (world.targets.map TrackedTarget.mmsi).Nodup) :
    evaluationsOf target.targetId (node.cycleOn config world).evaluations =
      node.evaluationsAlone config world target := by
  obtain ⟨earlier, later, alone⟩ := WorldState.AloneAt.of_nodup member distinct
  exact alone.evaluationsOf_cycleOn

/-- Every evaluation of a cycle is one of a target by itself. -/
theorem mem_cycleOn_evaluations (distinct : (world.targets.map TrackedTarget.mmsi).Nodup)
    {eval : RuleEvaluation} :
    eval ∈ (node.cycleOn config world).evaluations ↔
      ∃ other ∈ world.targets, eval ∈ node.evaluationsAlone config world other := by
  constructor
  · intro member
    obtain absurdly | ⟨converted, inTargets, same⟩ := Cycle.mem_after_evaluations member
    · cases absurdly
    · obtain ⟨other, inWorld, rfl⟩ := List.mem_map.mp inTargets
      refine ⟨other, inWorld, ?_⟩
      rw [← evaluationsOf_cycleOn inWorld distinct]
      exact List.mem_filter.mpr ⟨member, by simpa using same⟩
  · rintro ⟨other, inWorld, member⟩
    rw [← evaluationsOf_cycleOn inWorld distinct] at member
    exact (List.mem_filter.mp member).1

/-- Any target of the cycle is a primary give-way exactly if one is by itself. -/
theorem any_isPrimaryGiveWay_cycleOn (config : Config) (node : ColregsReasonerNode)
    (distinct : (world.targets.map TrackedTarget.mmsi).Nodup) :
    (node.cycleOn config world).evaluations.any isPrimaryGiveWay = true ↔
      ∃ other ∈ world.targets, node.GivesWay config world other := by
  simp only [ColregsReasonerNode.GivesWay, List.any_eq_true, mem_cycleOn_evaluations distinct]
  constructor
  · rintro ⟨eval, ⟨other, inWorld, member⟩, givesWay⟩
    exact ⟨other, inWorld, eval, member, givesWay⟩
  · rintro ⟨other, inWorld, eval, member, givesWay⟩
    exact ⟨eval, ⟨other, inWorld, member⟩, givesWay⟩

/-- Alone, a target has the evaluations it has by itself. -/
theorem cycleOn_only_evaluations :
    (node.cycleOn config (world.only target)).evaluations =
      node.evaluationsAlone config world target :=
  cycleOn_evaluations_one (rfl : (world.only target).targets = [target])

end Distinct

/-- A target among distinct ones gets the rules it would get without the others exactly if it
is undisturbed. -/
theorem activeRulesOf_only_iff (config : Config) (node : ColregsReasonerNode)
    (world : WorldState) (nowNs : Int) {target : TrackedTarget}
    (member : target ∈ world.targets)
    (distinct : (world.targets.map TrackedTarget.mmsi).Nodup) :
    activeRulesOf target.targetId (node.publishedOn config world nowNs) =
        activeRulesOf target.targetId (node.publishedOn config (world.only target) nowNs) ↔
      node.Undisturbed config world nowNs target := by
  have sameAge : isStale config (world.only target) nowNs = isStale config world nowNs := rfl
  cases stale : isStale config world nowNs with
  | true =>
    rw [activeRulesOf_stale stale, activeRulesOf_stale (sameAge.trans stale)]
    simp [ColregsReasonerNode.Undisturbed, stale]
  | false =>
    have alone : evaluationsOf target.targetId
        (node.cycleOn config (world.only target)).evaluations =
          node.evaluationsAlone config world target :=
      evaluationsOf_cycleOn (by simp [WorldState.only]) (by simp [WorldState.only])
    rw [activeRulesOf_publishedOn stale, activeRulesOf_publishedOn (sameAge.trans stale),
      evaluationsOf_cycleOn member distinct, alone, cycleOn_only_evaluations]
    have joint := any_isPrimaryGiveWay_cycleOn config node distinct
    simp only [ColregsReasonerNode.Undisturbed, stale, Bool.false_eq_true, false_or]
    rw [← joint]
    unfold ColregsReasonerNode.StandsOn ColregsReasonerNode.GivesWay
    cases own : (node.evaluationsAlone config world target).any isPrimaryGiveWay with
    | true =>
      have others : (node.cycleOn config world).evaluations.any isPrimaryGiveWay = true :=
        joint.mpr ⟨target, member, own⟩
      simp [others]
    | false =>
      cases others : (node.cycleOn config world).evaluations.any isPrimaryGiveWay with
      | true => simp [rulesWith_true_eq_false_iff]
      | false => simp

/-- The two ships of the next world state: one still comes head-on, the other lies ahead. -/
def headOnAndAhead : WorldState :=
  scene 5 0.0
    [onMeridian 7 0.07 180.0 7600.0 100.0 660.0, onMeridian 8 0.03 0.0 3000.0 100.0 400.0]

theorem activeRulesOf_only_iff_headOnAndAhead :
    activeRulesOf 8 (({} : ColregsReasonerNode).publishedOn meridianConfig headOnAndAhead 0) =
        activeRulesOf 8
          (({} : ColregsReasonerNode).publishedOn meridianConfig
            (headOnAndAhead.only (onMeridian 8 0.03 0.0 3000.0 100.0 400.0)) 0) ↔
      ({} : ColregsReasonerNode).Undisturbed meridianConfig headOnAndAhead 0
        (onMeridian 8 0.03 0.0 3000.0 100.0 400.0) :=
  @activeRulesOf_only_iff meridianConfig {} headOnAndAhead 0
    (onMeridian 8 0.03 0.0 3000.0 100.0 400.0) (by simp [headOnAndAhead, scene]) (by decide)

/-- The duty towards the ship that comes head-on takes the directive of Rule 17 for the other
ship away. -/
theorem standOn_dropped_for_other_target :
    let node := ColregsReasonerNode.after meridianConfig {} (cyclesOf headOnMeeting)
    let alone := headOnAndAhead.only (onMeridian 8 0.03 0.0 3000.0 100.0 400.0)
    (headOnAndAhead.targets.map TrackedTarget.mmsi).Nodup ∧
      (activeRulesOf 8 (node.publishedOn meridianConfig headOnAndAhead 5100000000)).map
        (fun rule => (rule.ruleId, rule.role)) = [(5, .free), (7, .free), (8, .free)] ∧
      (activeRulesOf 8 (node.publishedOn meridianConfig alone 5100000000)).map
          (fun rule => (rule.ruleId, rule.role)) =
        [(5, .free), (7, .free), (8, .free), (17, .standOn)] := by
  decide +kernel

end MassL3.M6.Colregs
