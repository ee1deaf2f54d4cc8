/-
This file compares a node that has been reset between two scenarios with a fresh one. The reset
empties the memory of every target, but it keeps the cached world state and its stamp. The
stamp makes no difference, since a rewind only empties the memory once more. The cached world
state is reasoned about again by a tick that comes before the next one.
-/

import MassTdl.Colregs.Targets

namespace MassL3.M6.Colregs

variable {config : Config} {node fresh : ColregsReasonerNode}

/-! ### Nodes apart from their stamp -/

/-- Two nodes with one cached world state and one memory. Their stamps may differ while there
is nothing to forget. -/
structure SameKnowledge (node fresh : ColregsReasonerNode) : Prop where
  odd : node.currentOdd = fresh.currentOdd
  world : node.lastWorldState = fresh.lastWorldState
  memory : node.memory = fresh.memory
  stamp : node.prevWorldStamp = fresh.prevWorldStamp ∨ node.memory = fun _ => {}

namespace SameKnowledge

section

variable (same : SameKnowledge node fresh)
include same

/-- The check of the stamp makes the nodes equal. -/
theorem observe_eq (world : WorldState) :
    node.observe world = fresh.observe world := by
  have equalFields : ∀ stamp, { node with prevWorldStamp := stamp } =
      { fresh with prevWorldStamp := stamp } := by
    intro stamp
    simp [same.odd, same.world, same.memory]
  rcases same.stamp with stamps | empty
  · have whole : node = fresh := by
      rw [show node = { node with prevWorldStamp := fresh.prevWorldStamp } by rw [← stamps],
        equalFields]
    rw [whole]
  · -- Without memory, the reset of a rewind changes nothing.
    have resetNode : node.resetCrossRunState = node := by
      rw [ColregsReasonerNode.resetCrossRunState, ← empty]
    have resetFresh : fresh.resetCrossRunState = fresh := by
      rw [ColregsReasonerNode.resetCrossRunState, ← empty, same.memory]
    unfold ColregsReasonerNode.observe
    rw [resetNode, resetFresh, ite_self, ite_self]
    exact equalFields world.stamp

/-- A tick publishes the same. -/
theorem runReasoning_eq (nowNs : Int) :
    (node.runReasoning config nowNs).2 = (fresh.runReasoning config nowNs).2 ∧
      SameKnowledge (node.runReasoning config nowNs).1 (fresh.runReasoning config nowNs).1 := by
  unfold ColregsReasonerNode.runReasoning
  rw [← same.world]
  cases node.lastWorldState with
  | none => exact ⟨rfl, same⟩
  | some world =>
    have equal : node.reasonOn config world nowNs = fresh.reasonOn config world nowNs := by
      unfold ColregsReasonerNode.reasonOn
      rw [same.observe_eq]
    dsimp only
    rw [equal]
    exact ⟨rfl, rfl, rfl, rfl, .inl rfl⟩

/-- Every callback publishes the same. -/
theorem handle_eq (config : Config) (event : Event) :
    (node.handle config event).2 = (fresh.handle config event).2 ∧
      SameKnowledge (node.next config event) (fresh.next config event) := by
  cases event with
  | oddState currentZone => exact ⟨rfl, rfl, same.world, same.memory, same.stamp⟩
  | worldState world => exact ⟨rfl, same.odd, rfl, same.memory, same.stamp⟩
  | reasoningTick nowNs => exact same.runReasoning_eq nowNs
  | scenarioLoaded => exact ⟨rfl, same.odd, same.world, rfl, .inr rfl⟩

theorem published_eq (events : List Event) :
    node.published config events = fresh.published config events := by
  induction events generalizing node fresh with
  | nil => rfl
  | cons event later inductionHypothesis =>
    obtain ⟨constraint, after⟩ := same.handle_eq config event
    unfold ColregsReasonerNode.published
    rw [constraint, inductionHypothesis after]

end

end SameKnowledge

/-! ### Until the first world state -/

/-- No tick comes before the first world state. -/
def WorldFirst : List Event → Prop
  | [] => True
  | .worldState _ :: _ => True
  | .reasoningTick _ :: _ => False
  | .oddState _ :: later => WorldFirst later
  | .scenarioLoaded :: later => WorldFirst later

/-- Two nodes without memory that differ in what they have cached. -/
structure SameMemory (node fresh : ColregsReasonerNode) : Prop where
  odd : node.currentOdd = fresh.currentOdd
  memory : node.memory = fun _ => {}
  freshMemory : fresh.memory = fun _ => {}

namespace SameMemory

theorem sameKnowledge (same : SameMemory node fresh)
    (world : node.lastWorldState = fresh.lastWorldState) : SameKnowledge node fresh :=
  ⟨same.odd, world, same.memory.trans same.freshMemory.symm, .inr same.memory⟩

/-- From a node that has a world state to one that has none, the difference shows exactly if a
tick comes before the next world state. -/
theorem published_eq_iff (same : SameMemory node fresh)
    (cached : node.lastWorldState.isSome = true) (none : fresh.lastWorldState = none)
    (events : List Event) :
    node.published config events = fresh.published config events ↔ WorldFirst events := by
  induction events generalizing node fresh with
  | nil => simp [WorldFirst, ColregsReasonerNode.published]
  | cons event later inductionHypothesis =>
    cases event with
    | worldState world =>
      have known : SameKnowledge (node.next config (.worldState world))
          (fresh.next config (.worldState world)) :=
        ⟨same.odd, rfl, same.memory.trans same.freshMemory.symm, .inr same.memory⟩
      refine iff_of_true ?_ trivial
      unfold ColregsReasonerNode.published
      rw [known.published_eq]
      rfl
    | reasoningTick nowNs =>
      -- One node publishes a constraint here, the other one does not.
      refine iff_of_false ?_ id
      obtain ⟨world, seen⟩ := Option.isSome_iff_exists.mp cached
      simp [ColregsReasonerNode.published, ColregsReasonerNode.handle,
        ColregsReasonerNode.runReasoning, seen, none]
    | oddState currentZone =>
      have after : SameMemory (node.next config (.oddState currentZone))
          (fresh.next config (.oddState currentZone)) := ⟨rfl, same.memory, same.freshMemory⟩
      refine Iff.trans ?_ (inductionHypothesis after cached none)
      simp [ColregsReasonerNode.published, ColregsReasonerNode.handle]
    | scenarioLoaded =>
      have after : SameMemory (node.next config .scenarioLoaded)
          (fresh.next config .scenarioLoaded) := ⟨same.odd, rfl, rfl⟩
      refine Iff.trans ?_ (inductionHypothesis after cached none)
      simp [ColregsReasonerNode.published, ColregsReasonerNode.handle]

end SameMemory

/-! ### The reset -/

/-- A world state is cached exactly if one was, or one has arrived. -/
theorem lastWorldState_after_isSome_iff (config : Config) (node : ColregsReasonerNode)
    (events : List Event) :
    (node.after config events).lastWorldState.isSome = true ↔
      node.lastWorldState.isSome = true ∨ ∃ world, Event.worldState world ∈ events := by
  induction events generalizing node with
  | nil => simp [ColregsReasonerNode.after, Runs.run]
  | cons event later inductionHypothesis =>
    refine (inductionHypothesis (node.next config event)).trans ?_
    cases event with
    | worldState world => simp [ColregsReasonerNode.next, ColregsReasonerNode.handle]
    | reasoningTick nowNs =>
      simp [ColregsReasonerNode.next, ColregsReasonerNode.handle, runReasoning_lastWorldState]
    | oddState currentZone => simp [ColregsReasonerNode.next, ColregsReasonerNode.handle]
    | scenarioLoaded =>
      simp [ColregsReasonerNode.next, ColregsReasonerNode.handle,
        ColregsReasonerNode.resetCrossRunState]

/-- After a reset, a node publishes what a fresh one with its domain would publish exactly if no
tick comes before the first world state, or none had arrived before the reset. -/
theorem published_after_reset_iff (config : Config) (before later : List Event) :
    ((ColregsReasonerNode.after config {} before).next config .scenarioLoaded).published config
          later =
        ({ currentOdd := (ColregsReasonerNode.after config {} before).currentOdd } :
          ColregsReasonerNode).published config later ↔
      (∀ world, Event.worldState world ∉ before) ∨ WorldFirst later := by
  have arrived := lastWorldState_after_isSome_iff config {} before
  have same : SameMemory
      ((ColregsReasonerNode.after config {} before).next config .scenarioLoaded)
      { currentOdd := (ColregsReasonerNode.after config {} before).currentOdd } :=
    ⟨rfl, rfl, rfl⟩
  cases cached : (ColregsReasonerNode.after config {} before).lastWorldState with
  | none =>
    rw [cached] at arrived
    refine iff_of_true ((same.sameKnowledge cached).published_eq later)
      (.inl fun world member => ?_)
    exact Bool.false_ne_true (arrived.mpr (.inr ⟨world, member⟩))
  | some world =>
    rw [cached] at arrived
    have known : ¬ ∀ world, Event.worldState world ∉ before := by
      obtain absurdly | ⟨world, member⟩ := arrived.mp rfl
      · cases absurdly
      · exact fun absent => absent world member
    refine (same.published_eq_iff (by exact congrArg Option.isSome cached) rfl later).trans ?_
    simp [known]

/-- The tick after the reset reasons about the world state of the previous scenario. -/
theorem previous_scenario_reasoned :
    let before := cyclesOf [scene 1 0.0 [onMeridian 7 0.07 180.0 8000.0 100.0 700.0]]
    let later := [Event.reasoningTick 2000000000]
    ((((ColregsReasonerNode.after meridianConfig {} before).next meridianConfig
        .scenarioLoaded).published meridianConfig later).map fun constraint =>
          constraint.map fun constraint => constraint.activeRules.map fun rule => rule.ruleId) =
      [some [5, 7, 8, 17]] ∧
    ((({} : ColregsReasonerNode).published meridianConfig later).map fun constraint =>
        constraint.map fun constraint => constraint.activeRules.map fun rule => rule.ruleId) =
      [none] := by
  decide +kernel

end MassL3.M6.Colregs
