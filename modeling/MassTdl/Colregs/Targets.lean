/-
This file is about the loop over the targets of a world state. Every evaluation carries the id
of its target, and the memory of a target is only written by the targets with its key, so what
the loop leaves for a target can be read off from the cycle before it.
-/

import MassTdl.Colregs.Node
import MassTdl.Runs

namespace MassL3.M6.Colregs

/-! ### Ids of evaluations -/

section TargetId

variable (eval : RuleEvaluation)

@[simp]
theorem RuleEvaluation.stamp_targetId (target : TargetGeometricState) :
    (eval.stamp target).targetId = target.targetId := rfl

@[simp]
theorem RuleEvaluation.deactivate_targetId : eval.deactivate.targetId = eval.targetId := rfl

@[simp]
theorem gateDuty_targetId (dutyLatched standonActionLatched : Bool) :
    (gateDuty dutyLatched standonActionLatched eval).targetId = eval.targetId := by
  unfold gateDuty
  split_ifs <;> rfl

@[simp]
theorem gateStandon_targetId (params : RuleParameters) (standonLatched inextremis : Bool) :
    (gateStandon params standonLatched inextremis eval).targetId = eval.targetId := by
  unfold gateStandon
  split_ifs <;> rfl

end TargetId

section OneTarget

variable {lib : MathLibrary} {odd : OddDomain} {params : RuleParameters}
  {target : TargetGeometricState} {nowS : Float} {threat : Threat}

/-- What a raw evaluation has, and what no deactivation and no hold takes away, the evaluation
of a primary rule has. -/
theorem primaryEval_keeps (Kept : RuleEvaluation → Prop) {rule : PrimaryRule}
    (raw : Kept (primaryRaw lib params target rule))
    (deactivated : ∀ eval, Kept eval → Kept eval.deactivate)
    (held : ∀ eval onset, Kept eval → Kept (eval.hold onset)) (memory : TargetMemory) :
    Kept (primaryEval lib params target nowS threat memory rule) := by
  have gated : Kept (gatedPrimary lib params target nowS threat memory rule) := by
    unfold gatedPrimary
    dsimp only
    split_ifs
    · exact deactivated _ raw
    · exact raw
  have ofMachine : Kept (fsmHeldEval lib params target nowS threat memory rule) := by
    unfold fsmHeldEval EncounterStateMachine.applyOnset
    dsimp only
    split_ifs
    · split
      · exact held _ _ raw
      · exact raw
    · exact raw
  have ofLatch : ∀ (latch : RuleLatch) eval, Kept eval → Kept (latch.applyOnset eval) := by
    intro latch eval kept
    unfold RuleLatch.applyOnset
    split
    · exact held _ _ kept
    · exact kept
  have either : ∀ (condition : Bool) {first second : RuleEvaluation}, Kept first → Kept second →
      Kept (if condition then first else second) := by
    rintro (_ | _) first second keptFirst keptSecond
    · exact keptSecond
    · exact keptFirst
  have chosen := fun condition => either condition ofMachine gated
  have latched := fun condition active onset => either condition
    (either active (chosen onset) (ofLatch (primaryLatch lib params target nowS threat memory rule)
      _ (chosen onset))) (deactivated _ (chosen onset))
  unfold primaryEval
  exact either _ (latched _ _ _) (deactivated _ (latched _ _ _))

theorem primaryEval_targetId (memory : TargetMemory) (rule : PrimaryRule) :
    (primaryEval lib params target nowS threat memory rule).targetId = target.targetId :=
  primaryEval_keeps (fun eval => eval.targetId = target.targetId) rfl (fun _ same => same)
    (fun _ _ same => same) memory

theorem secondaryEval_targetId (memory : TargetMemory) (rule : SecondaryRule) :
    (secondaryEval lib odd params target memory rule).targetId = target.targetId := by
  unfold secondaryEval
  dsimp only
  split_ifs <;> simp

/-- What the release of every primary rule preserves holds after all of them. -/
theorem releasePrimaries_invariant (target : TargetGeometricState) (nowS : Float)
    (threat : Threat) (memory : TargetMemory) (semanticState : Option EncounterState)
    (Invariant : ReleasePass → Prop) (initially : Invariant { memory, semanticState })
    (preserved : ∀ pass rule, Invariant pass →
      Invariant (releasePrimary target nowS threat pass rule)) :
    Invariant (PrimaryRule.all.foldl (releasePrimary target nowS threat)
      { memory, semanticState }) :=
  Runs.run_invariant Invariant initially preserved

/-- What every rule preserves holds after all the rules. -/
theorem evaluateRules_invariant (Invariant : Evaluated → Prop) {memory : TargetMemory}
    {semanticState : Option EncounterState} (initially : Invariant { memory, semanticState })
    (preserved : ∀ evaluated rule, Invariant evaluated →
      Invariant (evaluateRule lib odd params target nowS threat evaluated rule)) :
    Invariant (evaluateRules lib odd params target nowS threat memory semanticState) :=
  Runs.run_invariant Invariant initially preserved

/-- What holds of every single evaluation holds of all the evaluations of the rules. -/
theorem evaluateRules_forall (Property : RuleEvaluation → Prop)
    (primary : ∀ memory rule,
      Property (primaryEval lib params target nowS threat memory rule))
    (secondary : ∀ memory rule, Property (secondaryEval lib odd params target memory rule))
    (memory : TargetMemory) (semanticState : Option EncounterState) :
    ∀ eval ∈ (evaluateRules lib odd params target nowS threat memory semanticState).evaluations,
      Property eval := by
  refine evaluateRules_invariant
    (fun evaluated => ∀ eval ∈ evaluated.evaluations, Property eval)
    (fun eval member => by cases member) fun evaluated rule holds eval member => ?_
  cases rule with
  | primary rule =>
    rcases List.mem_append.mp member with earlier | new
    · exact holds eval earlier
    · rw [List.mem_singleton.mp new]
      exact primary _ rule
  | secondary rule =>
    rcases List.mem_append.mp member with earlier | new
    · exact holds eval earlier
    · rw [List.mem_singleton.mp new]
      exact secondary _ rule

/-- A target whose encounter is resolved has no evaluation. The others are assessed. -/
theorem reasonTarget_cases (lib : MathLibrary) (odd : OddDomain) (params : RuleParameters)
    (target : TargetGeometricState) (nowS currentRng : Float) (memory : TargetMemory)
    (semanticState : Option EncounterState) :
    let threat := Colregs.threat lib params target memory currentRng
    let pass := releasedPass target nowS threat memory semanticState
    (reasonTarget lib odd params target nowS currentRng memory semanticState).evaluations = [] ∧
        (reasonTarget lib odd params target nowS currentRng memory semanticState).memory =
          pass.memory.resolve ∨
      pass.memory.resolved = false ∧ threat.anyLatchReleased = false ∧
        reasonTarget lib odd params target nowS currentRng memory semanticState =
          assess lib odd params target nowS threat pass.memory pass.semanticState
            pass.latchReleasedNow := by
  unfold reasonTarget afterRelease
  dsimp only
  split_ifs with released known
  · exact .inl ⟨rfl, rfl⟩
  · exact .inl ⟨rfl, rfl⟩
  · simp only [Bool.or_eq_true, not_or, Bool.not_eq_true] at known
    exact .inr ⟨known.2, known.1, by rw [known.1, Bool.false_or]⟩

/-- Every evaluation of a target's cycle carries its id. -/
theorem reasonTarget_targetId (currentRng : Float) (memory : TargetMemory)
    (semanticState : Option EncounterState) {eval : RuleEvaluation}
    (member : eval ∈
      (reasonTarget lib odd params target nowS currentRng memory semanticState).evaluations) :
    eval.targetId = target.targetId := by
  obtain ⟨none, _⟩ | ⟨_, _, assessed⟩ := reasonTarget_cases lib odd params target nowS
    currentRng memory semanticState
  · rw [none] at member
    cases member
  · rw [assessed] at member
    obtain ⟨before, inRules, rfl⟩ := List.mem_map.mp member
    rw [gateStandon_targetId, gateDuty_targetId]
    exact evaluateRules_forall (fun eval => eval.targetId = target.targetId)
      primaryEval_targetId secondaryEval_targetId _ _ before inRules

end OneTarget

/-! ### The loop over the targets -/

@[simp]
theorem convertTarget_mmsi (lib : MathLibrary) (own : OwnShipState) (target : TrackedTarget) :
    (convertTarget lib own target).mmsi = target.mmsi := rfl

@[simp]
theorem convertTarget_targetId (lib : MathLibrary) (own : OwnShipState)
    (target : TrackedTarget) : (convertTarget lib own target).targetId = target.targetId := rfl

section Loop

variable {config : Config} {odd : OddDomain} {world : WorldState}

/-- The cycle after some targets. -/
def Cycle.after (config : Config) (odd : OddDomain) (world : WorldState) (cycle : Cycle)
    (targets : List TargetGeometricState) : Cycle :=
  targets.foldl (Cycle.add config odd world) cycle

theorem Cycle.after_append (cycle : Cycle) (earlier later : List TargetGeometricState) :
    cycle.after config odd world (earlier ++ later) =
      (cycle.after config odd world earlier).after config odd world later :=
  List.foldl_append

theorem Cycle.add_memory_self (cycle : Cycle) (target : TargetGeometricState) :
    (cycle.add config odd world target).memory target.mmsi =
      (cycle.outcome config odd world target).memory := Function.update_self ..

variable {target : TargetGeometricState} {mmsi : UInt32}

theorem Cycle.add_memory_other (cycle : Cycle) (different : target.mmsi ≠ mmsi) :
    (cycle.add config odd world target).memory mmsi = cycle.memory mmsi :=
  Function.update_of_ne different.symm _ _

/-- The entries of a key in the maps of a cycle. -/
def Cycle.entry (cycle : Cycle) (mmsi : UInt32) : TargetOutcome where
  memory := cycle.memory mmsi
  semanticState := cycle.semanticState mmsi
  latchReleased := cycle.latchReleased mmsi
  releasePredicted := cycle.releasePredicted mmsi

theorem Cycle.add_entry_self (cycle : Cycle) (target : TargetGeometricState) :
    (cycle.add config odd world target).entry target.mmsi =
      { cycle.outcome config odd world target with evaluations := [] } := by
  simp [Cycle.entry, Cycle.add]

theorem Cycle.add_entry_other (cycle : Cycle) (different : target.mmsi ≠ mmsi) :
    (cycle.add config odd world target).entry mmsi = cycle.entry mmsi := by
  simp [Cycle.entry, Cycle.add, Function.update_of_ne different.symm]

variable {targets : List TargetGeometricState}

/-- Targets with other keys leave the entries of a key alone. -/
theorem Cycle.after_entry_other (config : Config) (odd : OddDomain) (world : WorldState)
    (cycle : Cycle) (others : ∀ target ∈ targets, target.mmsi ≠ mmsi) :
    (cycle.after config odd world targets).entry mmsi = cycle.entry mmsi := by
  induction targets generalizing cycle with
  | nil => rfl
  | cons target later inductionHypothesis =>
    refine (inductionHypothesis (cycle.add config odd world target) fun other member =>
      others other (List.mem_cons_of_mem target member)).trans ?_
    exact cycle.add_entry_other (others target List.mem_cons_self)

/-- The evaluations with an id. -/
def evaluationsOf (targetId : UInt64) (evaluations : List RuleEvaluation) :
    List RuleEvaluation :=
  evaluations.filter fun eval => eval.targetId = targetId

theorem evaluationsOf_append (targetId : UInt64) (earlier later : List RuleEvaluation) :
    evaluationsOf targetId (earlier ++ later) =
      evaluationsOf targetId earlier ++ evaluationsOf targetId later :=
  List.filter_append ..

theorem Cycle.evaluationsOf_outcome_self (cycle : Cycle) (target : TargetGeometricState) :
    evaluationsOf target.targetId (cycle.outcome config odd world target).evaluations =
      (cycle.outcome config odd world target).evaluations := by
  refine List.filter_eq_self.mpr fun eval member => ?_
  simpa using reasonTarget_targetId _ _ _ member

theorem Cycle.evaluationsOf_outcome_other (cycle : Cycle) {targetId : UInt64}
    (different : target.targetId ≠ targetId) :
    evaluationsOf targetId (cycle.outcome config odd world target).evaluations = [] := by
  refine List.filter_eq_nil_iff.mpr fun eval member => ?_
  simpa [reasonTarget_targetId _ _ _ member] using different

/-- Targets with other ids add no evaluation of a target. -/
theorem Cycle.evaluationsOf_after_other (cycle : Cycle) {targetId : UInt64}
    (others : ∀ target ∈ targets, target.targetId ≠ targetId) :
    evaluationsOf targetId (cycle.after config odd world targets).evaluations =
      evaluationsOf targetId cycle.evaluations := by
  induction targets generalizing cycle with
  | nil => rfl
  | cons target later inductionHypothesis =>
    refine (inductionHypothesis (cycle.add config odd world target) fun other member =>
      others other (List.mem_cons_of_mem target member)).trans ?_
    refine (evaluationsOf_append ..).trans ?_
    rw [cycle.evaluationsOf_outcome_other (others target List.mem_cons_self), List.append_nil]

/-- Every evaluation was there before, or it has the id of a target. -/
theorem Cycle.mem_after_evaluations {cycle : Cycle} {eval : RuleEvaluation}
    (member : eval ∈ (cycle.after config odd world targets).evaluations) :
    eval ∈ cycle.evaluations ∨ ∃ target ∈ targets, eval.targetId = target.targetId := by
  by_cases known : ∃ target ∈ targets, eval.targetId = target.targetId
  · exact .inr known
  · refine .inl ?_
    have others : ∀ target ∈ targets, target.targetId ≠ eval.targetId :=
      fun target inTargets same => known ⟨target, inTargets, same.symm⟩
    have own : eval ∈ evaluationsOf eval.targetId
        (cycle.after config odd world targets).evaluations :=
      List.mem_filter.mpr ⟨member, by simp⟩
    rw [Cycle.evaluationsOf_after_other cycle others] at own
    exact (List.mem_filter.mp own).1

/-- With distinct ids, the evaluations of a target are those of its own cycle. -/
theorem Cycle.evaluationsOf_after (cycle : Cycle) {earlier later : List TargetGeometricState}
    (none : cycle.evaluations = []) (before : ∀ other ∈ earlier, other.targetId ≠ target.targetId)
    (behind : ∀ other ∈ later, other.targetId ≠ target.targetId) :
    evaluationsOf target.targetId
        (cycle.after config odd world (earlier ++ target :: later)).evaluations =
      ((cycle.after config odd world earlier).outcome config odd world target).evaluations := by
  rw [Cycle.after_append]
  refine (Cycle.evaluationsOf_after_other
    (((cycle.after config odd world earlier).add config odd world target)) behind).trans ?_
  refine (evaluationsOf_append ..).trans ?_
  rw [Cycle.evaluationsOf_after_other cycle before, none, Cycle.evaluationsOf_outcome_self]
  rfl

end Loop

/-! ### What a tick remembers -/

/-- The cycle of a world state. -/
def ColregsReasonerNode.cycleOn (config : Config) (node : ColregsReasonerNode)
    (world : WorldState) : Cycle :=
  reasonTargets config node.domain world (node.observe world).memory

theorem ColregsReasonerNode.observe_domain (node : ColregsReasonerNode) (world : WorldState) :
    (node.observe world).domain = node.domain := by
  unfold ColregsReasonerNode.observe
  dsimp only
  split_ifs <;> rfl

section Memory

variable {config : Config} {node : ColregsReasonerNode} {odd : OddDomain} {world : WorldState}
  {mmsi : UInt32}

/-- What the cycle of every target with a key preserves holds of the memory of the key. -/
theorem Cycle.after_memory_invariant (Invariant : TargetMemory → Prop) (cycle : Cycle)
    (targets : List TargetGeometricState) (initially : Invariant (cycle.memory mmsi))
    (preserved : ∀ target currentRng memory semanticState, Invariant memory →
      Invariant (reasonTarget config.lib odd (currentRuleParams config odd) target
        (seconds world.stamp) currentRng memory semanticState).memory) :
    Invariant ((cycle.after config odd world targets).memory mmsi) := by
  refine Runs.run_invariant (fun cycle : Cycle => Invariant (cycle.memory mmsi)) initially
    fun cycle target holds => ?_
  by_cases own : target.mmsi = mmsi
  · subst own
    rw [Cycle.add_memory_self]
    exact preserved target _ _ _ holds
  · rwa [Cycle.add_memory_other cycle own]

/-- The range and the bearing for the next cycle. -/
def TargetMemory.withHistory (memory : TargetMemory) (bearing range : Option Float) :
    TargetMemory :=
  { memory with
    prevTargetBearing := bearing
    prevTargetRange := range }

theorem updateHistory_invariant (Invariant : TargetMemory → Prop) (targets : List TrackedTarget)
    (memory : UInt32 → TargetMemory) (initially : Invariant (memory mmsi))
    (preserved : ∀ memory bearing range, Invariant memory →
      Invariant (memory.withHistory bearing range)) :
    Invariant (updateHistory targets memory mmsi) := by
  refine Runs.run_invariant (fun memory : UInt32 → TargetMemory => Invariant (memory mmsi))
    initially fun memory target holds => ?_
  by_cases own : mmsi = target.mmsi
  · subst own
    dsimp only
    rw [Function.update_self]
    exact preserved _ (some target.brgDeg) (some target.rngM) holds
  · dsimp only
    rwa [Function.update_of_ne own]

theorem updateHistory_absent {targets : List TrackedTarget}
    (absent : ∀ target ∈ targets, target.mmsi ≠ mmsi) (memory : UInt32 → TargetMemory) :
    updateHistory targets memory mmsi = memory mmsi := by
  induction targets generalizing memory with
  | nil => rfl
  | cons target later inductionHypothesis =>
    refine (inductionHypothesis (fun other member =>
      absent other (List.mem_cons_of_mem target member)) _).trans ?_
    exact Function.update_of_ne (absent target List.mem_cons_self).symm _ _

/-- A target that alone has its key leaves its own history. -/
theorem updateHistory_once {earlier later : List TrackedTarget} {target : TrackedTarget}
    (before : ∀ other ∈ earlier, other.mmsi ≠ target.mmsi)
    (behind : ∀ other ∈ later, other.mmsi ≠ target.mmsi) (memory : UInt32 → TargetMemory) :
    updateHistory (earlier ++ target :: later) memory target.mmsi =
      (memory target.mmsi).withHistory (some target.brgDeg) (some target.rngM) := by
  have split : updateHistory (earlier ++ target :: later) memory =
      updateHistory later (Function.update (updateHistory earlier memory) target.mmsi
        ((updateHistory earlier memory target.mmsi).withHistory (some target.brgDeg)
          (some target.rngM))) := List.foldl_append
  rw [split, updateHistory_absent behind, Function.update_self, updateHistory_absent before]

/-- Every memory is dropped in this callback. -/
def ColregsReasonerNode.forgets (node : ColregsReasonerNode) : Event → Bool
  | .scenarioLoaded => true
  | .reasoningTick _ => node.lastWorldState.any fun world => node.rewinds world
  | .oddState _ => false
  | .worldState _ => false

/-- What the cycle of a target preserves, whatever its history, holds after every callback. -/
theorem next_memory_invariant (Invariant : TargetMemory → Prop) (event : Event)
    (initially : Invariant (node.memory mmsi))
    (forgotten : node.forgets event = true → Invariant {})
    (remembered : ∀ memory bearing range, Invariant memory →
      Invariant (memory.withHistory bearing range))
    (reasoned : ∀ odd target nowS currentRng memory semanticState, Invariant memory →
      Invariant (reasonTarget config.lib odd (currentRuleParams config odd) target nowS
        currentRng memory semanticState).memory) :
    Invariant ((node.next config event).memory mmsi) := by
  cases event with
  | oddState currentZone => exact initially
  | worldState world => exact initially
  | scenarioLoaded => exact forgotten rfl
  | reasoningTick nowNs =>
    unfold ColregsReasonerNode.next ColregsReasonerNode.handle ColregsReasonerNode.runReasoning
    cases cached : node.lastWorldState with
    | none => exact initially
    | some world =>
      have observed : Invariant ((node.observe world).memory mmsi) := by
        unfold ColregsReasonerNode.observe
        dsimp only
        split_ifs with rewinds
        · exact forgotten (by simp [ColregsReasonerNode.forgets, cached, rewinds])
        · exact initially
      unfold ColregsReasonerNode.reasonOn
      dsimp only
      split_ifs
      · exact observed
      · refine updateHistory_invariant Invariant _ _ ?_ remembered
        exact Cycle.after_memory_invariant Invariant { memory := (node.observe world).memory } _
          observed fun target currentRng memory semanticState =>
            reasoned _ target _ currentRng memory semanticState

theorem observe_lastWorldState (node : ColregsReasonerNode) (world : WorldState) :
    (node.observe world).lastWorldState = node.lastWorldState := by
  unfold ColregsReasonerNode.observe
  dsimp only
  split_ifs <;> rfl

/-- A tick keeps the cached world state. -/
theorem runReasoning_lastWorldState (node : ColregsReasonerNode) (nowNs : Int) :
    (node.runReasoning config nowNs).1.lastWorldState = node.lastWorldState := by
  unfold ColregsReasonerNode.runReasoning
  cases cached : node.lastWorldState with
  | none => exact cached
  | some world =>
    unfold ColregsReasonerNode.reasonOn
    dsimp only
    split_ifs
    · exact (observe_lastWorldState node world).trans cached
    · exact (observe_lastWorldState node world).trans cached

/-- The cycle of a target that alone has its key. -/
def ColregsReasonerNode.outcomeAlone (config : Config) (node : ColregsReasonerNode)
    (world : WorldState) (target : TrackedTarget) : TargetOutcome :=
  reasonTarget config.lib node.domain (currentRuleParams config node.domain)
    (convertTarget config.lib world.ownShip target) (seconds world.stamp) target.rngM
    ((node.observe world).memory target.mmsi) none

/-- Where all keys differ, every other item has another key. -/
theorem others_ne_of_nodup {Item Key : Type} {key : Item → Key} {earlier later : List Item}
    {item : Item} (distinct : ((earlier ++ item :: later).map key).Nodup) :
    (∀ other ∈ earlier, key other ≠ key item) ∧ ∀ other ∈ later, key other ≠ key item := by
  rw [List.map_append, List.map_cons, List.nodup_middle, List.nodup_cons] at distinct
  constructor
  · intro other member same
    exact distinct.1 (List.mem_append_left _ (same ▸ List.mem_map_of_mem member))
  · intro other member same
    exact distinct.1 (List.mem_append_right _ (same ▸ List.mem_map_of_mem member))

/-- The only target of a world state with its key. -/
structure WorldState.AloneAt (world : WorldState) (target : TrackedTarget)
    (earlier later : List TrackedTarget) : Prop where
  split : world.targets = earlier ++ target :: later
  before : ∀ other ∈ earlier, other.mmsi ≠ target.mmsi
  behind : ∀ other ∈ later, other.mmsi ≠ target.mmsi

namespace WorldState.AloneAt

variable {target : TrackedTarget} {earlier later : List TrackedTarget}

theorem of_nodup (member : target ∈ world.targets)
    (distinct : (world.targets.map TrackedTarget.mmsi).Nodup) :
    ∃ earlier later, world.AloneAt target earlier later := by
  obtain ⟨earlier, later, split⟩ := List.append_of_mem member
  rw [split] at distinct
  obtain ⟨before, behind⟩ := others_ne_of_nodup distinct
  exact ⟨earlier, later, split, before, behind⟩

variable (alone : world.AloneAt target earlier later)

include alone

theorem currentRange_eq : currentRange world.targets target.mmsi = target.rngM := by
  have absent : earlier.find? (fun other => other.mmsi = target.mmsi) = none := by
    simpa using alone.before
  simp [currentRange, alone.split, absent]

theorem convertWorldState_eq (lib : MathLibrary) :
    convertWorldState lib world =
      earlier.map (convertTarget lib world.ownShip) ++
        convertTarget lib world.ownShip target ::
          later.map (convertTarget lib world.ownShip) := by
  rw [convertWorldState, alone.split, List.map_append, List.map_cons]

theorem keys_before (lib : MathLibrary) :
    ∀ other ∈ earlier.map (convertTarget lib world.ownShip), other.mmsi ≠ target.mmsi := by
  intro other member
  obtain ⟨tracked, inEarlier, rfl⟩ := List.mem_map.mp member
  exact alone.before tracked inEarlier

theorem keys_behind (lib : MathLibrary) :
    ∀ other ∈ later.map (convertTarget lib world.ownShip), other.mmsi ≠ target.mmsi := by
  intro other member
  obtain ⟨tracked, inLater, rfl⟩ := List.mem_map.mp member
  exact alone.behind tracked inLater

/-- The loop reaches the target with what was remembered of it. -/
theorem outcome_eq (config : Config) (node : ColregsReasonerNode) :
    ((Cycle.mk (node.observe world).memory (fun _ => none) (fun _ => false) (fun _ => false)
        []).after config node.domain world
          (earlier.map (convertTarget config.lib world.ownShip))).outcome config node.domain world
            (convertTarget config.lib world.ownShip target) =
      node.outcomeAlone config world target := by
  have entry := Cycle.after_entry_other config node.domain world
    { memory := (node.observe world).memory } (alone.keys_before config.lib)
  have memory := congrArg TargetOutcome.memory entry
  have state := congrArg TargetOutcome.semanticState entry
  simp only [Cycle.entry] at memory state
  unfold Cycle.outcome ColregsReasonerNode.outcomeAlone
  rw [convertTarget_mmsi, alone.currentRange_eq, memory, state]

/-- The loop leaves the outcome of the target at its key. -/
theorem cycleOn_entry (config : Config) (node : ColregsReasonerNode) :
    (node.cycleOn config world).entry target.mmsi =
      { node.outcomeAlone config world target with evaluations := [] } := by
  unfold ColregsReasonerNode.cycleOn reasonTargets
  rw [alone.convertWorldState_eq]
  refine (congrArg (fun cycle : Cycle => cycle.entry target.mmsi)
    (Cycle.after_append _ _ _)).trans ?_
  refine (Cycle.after_entry_other config node.domain world (Cycle.add config node.domain world _
    (convertTarget config.lib world.ownShip target)) (alone.keys_behind config.lib)).trans ?_
  refine (Cycle.add_entry_self _ (convertTarget config.lib world.ownShip target)).trans ?_
  exact congrArg (fun outcome : TargetOutcome => { outcome with evaluations := [] })
    (alone.outcome_eq config node)

/-- The evaluations of the target are those of its own cycle. -/
theorem evaluationsOf_cycleOn :
    evaluationsOf target.targetId (node.cycleOn config world).evaluations =
      (node.outcomeAlone config world target).evaluations := by
  have others : ∀ {other : TargetGeometricState}, other.mmsi ≠ target.mmsi →
      other.targetId ≠ target.targetId :=
    fun different same => different (congrArg UInt64.toUInt32 same)
  unfold ColregsReasonerNode.cycleOn reasonTargets
  rw [alone.convertWorldState_eq]
  refine (Cycle.evaluationsOf_after { memory := (node.observe world).memory } rfl
    (fun other member => others (alone.keys_before config.lib other member))
    fun other member => others (alone.keys_behind config.lib other member) :
      evaluationsOf (convertTarget config.lib world.ownShip target).targetId _ = _).trans ?_
  exact congrArg TargetOutcome.evaluations (alone.outcome_eq config node)

end WorldState.AloneAt

section One

variable {target : TrackedTarget} (one : world.targets = [target])

include one

theorem aloneAt_one : world.AloneAt target [] [] := ⟨one, by simp, by simp⟩

theorem convertWorldState_one (lib : MathLibrary) :
    convertWorldState lib world = [convertTarget lib world.ownShip target] := by
  rw [convertWorldState, one, List.map_singleton]

/-- The cycle on one target has its evaluations. -/
theorem cycleOn_evaluations_one :
    (node.cycleOn config world).evaluations =
      (node.outcomeAlone config world target).evaluations := by
  unfold ColregsReasonerNode.cycleOn reasonTargets
  rw [convertWorldState_one one]
  exact congrArg TargetOutcome.evaluations
    ((aloneAt_one one).outcome_eq config node)

end One

/-- The check of the stamp keeps a memory or empties it. -/
theorem observe_memory_cases (node : ColregsReasonerNode) (world : WorldState) (mmsi : UInt32) :
    (node.observe world).memory mmsi = node.memory mmsi ∨
      (node.observe world).memory mmsi = {} := by
  unfold ColregsReasonerNode.observe
  dsimp only
  split_ifs
  · exact .inr rfl
  · exact .inl rfl

variable {nowNs : Int}

/-- A tick on a stale world state only checks its stamp. -/
theorem next_tick_memory_stale (cached : node.lastWorldState = some world)
    (stale : isStale config world nowNs = true) :
    (node.next config (.reasoningTick nowNs)).memory = (node.observe world).memory := by
  unfold ColregsReasonerNode.next ColregsReasonerNode.handle ColregsReasonerNode.runReasoning
    ColregsReasonerNode.reasonOn
  rw [cached]
  simp [stale]

/-- What a tick on a fresh world state remembers. -/
theorem next_tick_memory (cached : node.lastWorldState = some world)
    (fresh : isStale config world nowNs = false) :
    (node.next config (.reasoningTick nowNs)).memory =
      updateHistory world.targets (node.cycleOn config world).memory := by
  unfold ColregsReasonerNode.next ColregsReasonerNode.handle ColregsReasonerNode.runReasoning
    ColregsReasonerNode.reasonOn ColregsReasonerNode.cycleOn
  rw [cached]
  simp [fresh, ColregsReasonerNode.observe_domain]

/-- What a tick on a fresh world state remembers of a target that alone has its key. -/
theorem WorldState.AloneAt.next_tick_memory {target : TrackedTarget}
    {earlier later : List TrackedTarget} (alone : world.AloneAt target earlier later)
    (cached : node.lastWorldState = some world) (fresh : isStale config world nowNs = false) :
    (node.next config (.reasoningTick nowNs)).memory target.mmsi =
      (node.outcomeAlone config world target).memory.withHistory (some target.brgDeg)
        (some target.rngM) := by
  have memory := congrArg TargetOutcome.memory (alone.cycleOn_entry config node)
  rw [Colregs.next_tick_memory cached fresh, alone.split,
    updateHistory_once alone.before alone.behind]
  exact congrArg (fun memory : TargetMemory => memory.withHistory (some target.brgDeg)
    (some target.rngM)) memory

end Memory

/-! ### Runs -/

/-- The node after a run. -/
def ColregsReasonerNode.after (config : Config) (node : ColregsReasonerNode)
    (events : List Event) : ColregsReasonerNode :=
  Runs.run (ColregsReasonerNode.next config) node events

/-- The node before a callback of a run from its start. -/
def nodeAt (config : Config) (events : List Event) (count : Nat) : ColregsReasonerNode :=
  Runs.stateAt (ColregsReasonerNode.next config) {} events count

theorem nodeAt_succ {config : Config} {events : List Event} {count : Nat} {event : Event}
    (present : events[count]? = some event) :
    nodeAt config events (count + 1) = (nodeAt config events count).next config event :=
  Runs.stateAt_succ (ColregsReasonerNode.next config) {} events present

/-- What a run publishes is what each callback publishes from the node before it. -/
theorem published_getElem? (config : Config) (node : ColregsReasonerNode) (events : List Event)
    (count : Nat) :
    (node.published config events)[count]? =
      events[count]?.map fun event =>
        ((Runs.stateAt (ColregsReasonerNode.next config) node events count).handle config
          event).2 := by
  induction events generalizing node count with
  | nil => rfl
  | cons event later inductionHypothesis =>
    cases count with
    | zero => rfl
    | succ count => exact inductionHypothesis (node.next config event) count

/-- A cached world state has arrived. -/
theorem arrived_of_cached {config : Config} {events : List Event} {count : Nat}
    {world : WorldState} (cached : (nodeAt config events count).lastWorldState = some world) :
    Event.worldState world ∈ events := by
  revert world
  refine Runs.stateAt_invariant (fun node : ColregsReasonerNode => ∀ {world : WorldState},
    node.lastWorldState = some world → Event.worldState world ∈ events)
    (fun absurdly => by cases absurdly) (fun index event present holds world next => ?_) count
  cases event with
  | worldState other =>
    obtain rfl := Option.some.inj next
    exact List.mem_of_getElem? present
  | oddState currentZone => exact holds next
  | scenarioLoaded => exact holds next
  | reasoningTick nowNs =>
    exact holds ((runReasoning_lastWorldState _ nowNs).symm.trans next)

/-! ### A meeting on a meridian -/

/-- The functions of the library at multiples of a right angle, with the rests of the double
`M_PI`. -/
def meridianLibrary : MathLibrary where
  sin angle :=
    if angle.abs < 0.1 then angle
    else if angle < 2.0 then 1.0
    else if angle < 4.0 then 1.2246467991473532e-16
    else -1.0
  cos angle :=
    if angle.abs < 0.1 then 1.0
    else if angle < 2.0 then 6.123233995736766e-17
    else if angle < 4.0 then -1.0
    else -1.8369701987210297e-16
  atan2 _ x := if x > 0.0 then 0.0 else kPi
  hypot x y := (x * x + y * y).sqrt
  fmod value modulus :=
    if value.abs < modulus then value
    else if value < 0.0 then value + modulus
    else value - modulus
  turns := 2

def meridianConfig : Config where
  lib := meridianLibrary
  oddThresholds := shippedThresholds

/-- A ship on the meridian of the own ship. -/
def onMeridian (targetId : UInt64) (latitude headingDeg rngM cpaM tcpaS : Float) :
    TrackedTarget where
  targetId := targetId
  latitude := latitude
  longitude := 0.0
  sogKn := 10.0
  cogDeg := headingDeg
  headingDeg := headingDeg
  classification := "vessel"
  cpaM := cpaM
  tcpaS := tcpaS
  brgDeg := if latitude > 0.0 then 0.0 else 180.0
  rngM := rngM
  targetCompliance := 0.5

@[simp]
theorem onMeridian_mmsi (targetId : UInt64) (latitude headingDeg rngM cpaM tcpaS : Float) :
    (onMeridian targetId latitude headingDeg rngM cpaM tcpaS).mmsi = targetId.toUInt32 := rfl

/-- The own ship makes ten knots at the origin. -/
def scene (second : Int) (headingDeg : Float) (targets : List TrackedTarget) : WorldState where
  stamp := second * 1000000000
  ownShip :=
    { latitude := 0.0
      longitude := 0.0
      headingDeg := headingDeg
      cogDeg := headingDeg
      sogKn := 10.0 }
  targets := targets
  confidence := 1.0

/-- Every world state arrives, and it is reasoned about a tenth of a second later. -/
def cyclesOf (worlds : List WorldState) : List Event :=
  worlds.flatMap fun world => [.worldState world, .reasoningTick (world.stamp + 100000000)]

theorem mem_cyclesOf {world : WorldState} {worlds : List WorldState} :
    Event.worldState world ∈ cyclesOf worlds ↔ world ∈ worlds := by
  simp [cyclesOf]

/-- A ship comes head-on, until both have to give way. -/
def headOnMeeting : List WorldState :=
  [scene 1 0.0 [onMeridian 7 0.07 180.0 8000.0 100.0 700.0],
    scene 2 0.0 [onMeridian 7 0.07 180.0 7900.0 100.0 690.0],
    scene 3 0.0 [onMeridian 7 0.07 180.0 7800.0 100.0 680.0],
    scene 4 0.0 [onMeridian 7 0.07 180.0 7700.0 100.0 670.0]]

end MassL3.M6.Colregs
