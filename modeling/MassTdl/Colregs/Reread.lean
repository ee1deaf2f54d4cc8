/-
This file says what an extra cycle on a world state does that has been processed already. The
range of a target is then the one of the cycle before, so it does not close, and its closest
approach is the one every state machine has seen last. Nothing latches in such a cycle and no
encounter becomes active, but a state machine that waits for its next cycle goes on.
-/

import MassTdl.Binary64.Extrema
import MassTdl.Colregs.Targets

namespace MassL3.M6.Colregs

/-! ### One latch and one machine -/

/-- While the range does not close, no latch latches. -/
theorem RuleLatch.latched_of_update_opening {latch : RuleLatch} {ruleActive pastAndClear : Bool}
    {cpaM : Float} {currentEval : Option RuleEvaluation} {projection allowProjection : Bool}
    (latched : (latch.update ruleActive cpaM false pastAndClear currentEval projection
      allowProjection).latched = true) : latch.latched = true :=
  (latched_of_update latched).resolve_right fun latches => Bool.false_ne_true latches.2

theorem hysteresis_not_neg : ¬ kCpaTrendHysteresisM < 0.0 := by decide

namespace EncounterStateMachine

variable {fsm : EncounterStateMachine} {target : TargetSnapshot}

section Still

variable (still : fsm.lastCpaM = target.cpaM)

include still

/-- A closest approach that has not changed has not improved. -/
theorem not_cpaImproved : fsm.cpaImproved target = false := by
  refine Bool.eq_false_iff.mpr fun improved => ?_
  simp only [cpaImproved, still, Bool.and_eq_true, decide_eq_true_eq] at improved
  have sumNumber := (Binary64.number_of_lt improved.2).1
  exact Binary64.not_lt_of_le (Binary64.le_add_of_not_neg sumNumber hysteresis_not_neg)
    improved.2

/-- Nor has it deteriorated. -/
theorem not_cpaDeteriorating : fsm.cpaDeteriorating target = false := by
  refine Bool.eq_false_iff.mpr fun deteriorating => ?_
  simp only [cpaDeteriorating, still, Bool.and_eq_true, decide_eq_true_eq] at deteriorating
  exact Binary64.not_lt_sub_of_not_neg deteriorating.1 rfl hysteresis_not_neg deteriorating.2

/-- On what it has seen last, and while the range does not close, a machine neither enters
ACTIVE nor leaves it. -/
theorem transition_active_iff (ruleGeometricHit pastAndClear : Bool) (nowS : Float)
    (rawEval : Option RuleEvaluation) :
    (fsm.transition target ruleGeometricHit false pastAndClear nowS rawEval).state = .active ↔
      fsm.state = .active := by
  cases state : fsm.state with
  | clear => simp [transition, state]
  | detected => cases ruleGeometricHit <;> simp [transition, state]
  | candidate =>
    have classified := (classifyHit_state fsm target ruleGeometricHit rawEval).trans state
    simp only [transition, state, fromCandidate]
    split_ifs <;> simp [classified]
  | preplan =>
    have classified := (classifyHit_state fsm target ruleGeometricHit rawEval).trans state
    simp [transition, state, fromPreplan, classified]
  | active => simp [transition, state, fromActive, not_cpaImproved still]
  | monitor =>
    simp only [transition, state, fromMonitor, not_cpaDeteriorating still]
    split_ifs <;> simp_all
  | release =>
    simp only [transition, state, fromRelease]
    split_ifs <;> simp [state]

end Still

end EncounterStateMachine

/-! ### One target -/

/-- The machine is in ACTIVE. -/
def isInActive (fsm : Option EncounterStateMachine) : Bool :=
  fsm.any fun fsm => fsm.state = .active

/-- The state machines have seen this closest approach last. -/
def TargetMemory.SeenCpa (memory : TargetMemory) (cpaM : Float) : Prop :=
  ∀ rule, ∀ fsm ∈ memory.fsms.get rule, fsm.lastCpaM = cpaM

/-- Nothing latches from one memory to the other, and the same machines are in ACTIVE. -/
structure TargetMemory.Calm (before again : TargetMemory) : Prop where
  latches : ∀ rule, isLatched (again.latches.get rule) = true →
    isLatched (before.latches.get rule) = true
  giveWay : isLatched again.giveWayLatch = true → isLatched before.giveWayLatch = true
  standon : isLatched again.standonLatch = true → isLatched before.standonLatch = true
  active : ∀ rule, isInActive (again.fsms.get rule) = isInActive (before.fsms.get rule)

/-- Every latch and every machine is gone, and the target is resolved. -/
structure TargetMemory.Erased (memory : TargetMemory) : Prop where
  resolved : memory.resolved = true
  latches : ∀ rule, memory.latches.get rule = none
  fsms : ∀ rule, memory.fsms.get rule = none
  giveWay : memory.giveWayLatch = none
  standon : memory.standonLatch = none

theorem TargetMemory.resolve_erased (memory : TargetMemory) : memory.resolve.Erased where
  resolved := rfl
  latches rule := by cases rule <;> rfl
  fsms rule := by cases rule <;> rfl
  giveWay := rfl
  standon := rfl

namespace TargetMemory.Calm

variable {before between again : TargetMemory}

theorem refl (memory : TargetMemory) : memory.Calm memory :=
  ⟨fun _ => id, id, id, fun _ => rfl⟩

theorem trans (first : before.Calm between) (second : between.Calm again) :
    before.Calm again where
  latches rule latched := first.latches rule (second.latches rule latched)
  giveWay latched := first.giveWay (second.giveWay latched)
  standon latched := first.standon (second.standon latched)
  active rule := (second.active rule).trans (first.active rule)

/-- One rule gets a new latch and a new machine. -/
theorem set (memory : TargetMemory) (rule : PrimaryRule) {latch : Option RuleLatch}
    {fsm : Option EncounterStateMachine}
    (latched : isLatched latch = true → isLatched (memory.latches.get rule) = true)
    (active : isInActive fsm = isInActive (memory.fsms.get rule)) :
    memory.Calm
      { memory with
        fsms := memory.fsms.set rule fsm
        latches := memory.latches.set rule latch } where
  latches other newLatched := by
    by_cases own : other = rule
    · subst own
      rw [PerPrimary.get_set_self] at newLatched
      exact latched newLatched
    · rwa [PerPrimary.get_set_of_ne _ _ own] at newLatched
  giveWay := id
  standon := id
  active other := by
    by_cases own : other = rule
    · subst own
      rw [PerPrimary.get_set_self, active]
    · rw [PerPrimary.get_set_of_ne _ _ own]

end TargetMemory.Calm

variable {memory : TargetMemory}

theorem TargetMemory.SeenCpa.set {cpaM : Float} (seen : memory.SeenCpa cpaM) (rule : PrimaryRule)
    {fsm : Option EncounterStateMachine} (latches : PerPrimary (Option RuleLatch))
    (new : ∀ next ∈ fsm, next.lastCpaM = cpaM) :
    TargetMemory.SeenCpa
      { memory with
        fsms := memory.fsms.set rule fsm
        latches := latches } cpaM := by
  intro other next member
  by_cases own : other = rule
  · subst own
    rw [PerPrimary.get_set_self] at member
    exact new next member
  · rw [PerPrimary.get_set_of_ne _ _ own] at member
    exact seen other next member

section OneTarget

variable {lib : MathLibrary} {odd : OddDomain} {params : RuleParameters}
  {target : TargetGeometricState} {nowS : Float} {threat : Threat}

theorem isInActive_transition {fsm : EncounterStateMachine} (still : fsm.lastCpaM = target.cpaM)
    (ruleGeometricHit pastAndClear : Bool) (rawEval : Option RuleEvaluation) :
    isInActive (some (fsm.transition target.snapshot ruleGeometricHit false pastAndClear nowS
      rawEval)) = isInActive (some fsm) := by
  have active : (fsm.transition target.snapshot ruleGeometricHit false pastAndClear nowS
      rawEval).state = .active ↔ fsm.state = .active :=
    EncounterStateMachine.transition_active_iff still ruleGeometricHit pastAndClear nowS rawEval
  simp only [isInActive, Option.any_some]
  exact decide_eq_decide.mpr active

theorem isLatched_of_update_opening {latch : Option RuleLatch} {cpaSafeM cpaM : Float}
    {ruleActive pastAndClear : Bool} {currentEval : Option RuleEvaluation}
    {projection allowProjection : Bool}
    (latched : ((latch.getD { cpaSafeM }).update ruleActive cpaM false pastAndClear currentEval
      projection allowProjection).latched = true) :
    isLatched latch = true :=
  (isLatched_of_update latched).resolve_right fun latches => Bool.false_ne_true latches.2

section Opening

variable (opening : threat.rangeClosing = false)

include opening

variable {memory : TargetMemory}

/-- The release pass is calm. -/
theorem releasePass_calm (semanticState : Option EncounterState)
    (seen : memory.SeenCpa target.cpaM) :
    memory.Calm (releasePass target nowS threat memory semanticState).memory ∧
      (releasePass target nowS threat memory semanticState).memory.SeenCpa target.cpaM := by
  have primary := releasePrimaries_invariant target nowS threat memory semanticState
    (fun pass => memory.Calm pass.memory ∧ pass.memory.SeenCpa target.cpaM)
    ⟨.refl memory, seen⟩ ?_
  · refine ⟨⟨primary.1.latches, ?_, ?_, primary.1.active⟩, primary.2⟩
    · exact isLatched_map fun latch latched => RuleLatch.latched_of_update_opening
        (by rwa [releaseDutyLatch, opening] at latched)
    · exact isLatched_map fun latch latched => RuleLatch.latched_of_update_opening
        (by rwa [releaseStandonLatch, opening] at latched)
  · rintro pass rule ⟨calm, passSeen⟩
    unfold releasePrimary
    dsimp only
    rw [opening]
    refine ⟨calm.trans (.set pass.memory rule
      (isLatched_map fun latch => RuleLatch.latched_of_update_opening) ?_),
      passSeen.set rule _ fun next member => ?_⟩
    · cases present : pass.memory.fsms.get rule with
      | none => rfl
      | some fsm => exact isInActive_transition (passSeen rule fsm present) _ _ _
    · obtain ⟨fsm, _, rfl⟩ := Option.mem_map.mp member
      rfl

/-- One primary rule is calm. -/
theorem afterPrimary_calm (rule : PrimaryRule) (seen : memory.SeenCpa target.cpaM) :
    memory.Calm (memory.afterPrimary lib params target nowS threat rule) ∧
      (memory.afterPrimary lib params target nowS threat rule).SeenCpa target.cpaM := by
  have latched : isLatched (some (primaryLatch lib params target nowS threat memory rule)) =
      true → isLatched (memory.latches.get rule) = true := by
    intro latched
    unfold primaryLatch at latched
    rw [opening] at latched
    exact isLatched_of_update_opening (by simpa [isLatched, latchOf] using latched)
  have active : isInActive (some (primaryFsm lib params target nowS threat memory rule)) =
      isInActive (memory.fsms.get rule) := by
    unfold primaryFsm
    rw [opening]
    cases present : memory.fsms.get rule with
    | none => rfl
    | some fsm => exact isInActive_transition (seen rule fsm present) _ _ _
  have new : ∀ next ∈ some (primaryFsm lib params target nowS threat memory rule),
      next.lastCpaM = target.cpaM := by
    rintro next ⟨⟩
    rfl
  have calm := TargetMemory.Calm.set memory rule latched active
  have set := seen.set rule (memory.latches.set rule
    (some (primaryLatch lib params target nowS threat memory rule))) new
  unfold TargetMemory.afterPrimary
  dsimp only
  split_ifs
  · exact ⟨calm.trans ⟨fun _ => id, id, id, fun _ => rfl⟩, set⟩
  · exact ⟨calm, set⟩

/-- All the rules are calm. -/
theorem evaluateRules_calm (semanticState : Option EncounterState)
    (seen : memory.SeenCpa target.cpaM) :
    memory.Calm
        (evaluateRules lib odd params target nowS threat memory semanticState).memory ∧
      (evaluateRules lib odd params target nowS threat memory semanticState).memory.SeenCpa
        target.cpaM := by
  refine evaluateRules_invariant
    (fun evaluated => memory.Calm evaluated.memory ∧ evaluated.memory.SeenCpa target.cpaM)
    ⟨.refl memory, seen⟩ fun evaluated rule holds => ?_
  cases rule with
  | primary rule =>
    obtain ⟨calm, seen⟩ := holds
    have step : evaluated.memory.Calm
          (evaluated.memory.afterPrimary lib params target nowS threat rule) ∧
        (evaluated.memory.afterPrimary lib params target nowS threat rule).SeenCpa target.cpaM :=
      afterPrimary_calm opening rule seen
    exact ⟨calm.trans step.1, step.2⟩
  | secondary rule => exact holds

/-- The assessment is calm. -/
theorem assess_calm (semanticState : Option EncounterState) (latchReleased : Bool)
    (seen : memory.SeenCpa target.cpaM) :
    memory.Calm
      (assess lib odd params target nowS threat memory semanticState latchReleased).memory := by
  have calm : memory.Calm
      (evaluateRules lib odd params target nowS threat memory semanticState).memory :=
    (evaluateRules_calm opening semanticState seen).1
  refine calm.trans ⟨fun rule latched => ?_, fun latched => ?_, fun latched => ?_, fun rule => ?_⟩
  · rwa [assess_latches] at latched
  · rw [assess_giveWayLatch, dutyLatch, opening] at latched
    exact isLatched_of_update_opening (by simpa [isLatched] using latched)
  · rw [assess_standonLatch, standonLatch, opening] at latched
    exact isLatched_of_update_opening (by simpa [isLatched] using latched)
  · rw [assess_fsms]

end Opening

/-- The range of the cycle before is not above itself. -/
theorem rangeClosing_self {currentRng : Float}
    (range : ∀ range ∈ memory.prevTargetRange, range = currentRng) :
    rangeClosing memory currentRng = false := by
  unfold rangeClosing
  cases known : memory.prevTargetRange with
  | none => rfl
  | some prevRange =>
    rw [range prevRange known]
    simp [Binary64.lt_irrefl]

/-- A target that has not moved is resolved, or its cycle is calm. -/
theorem reasonTarget_calm {currentRng : Float} (semanticState : Option EncounterState)
    (range : ∀ range ∈ memory.prevTargetRange, range = currentRng)
    (seen : memory.SeenCpa target.cpaM) :
    (reasonTarget lib odd params target nowS currentRng memory semanticState).memory.Erased ∨
      memory.Calm
        (reasonTarget lib odd params target nowS currentRng memory semanticState).memory := by
  have opening : (Colregs.threat lib params target memory currentRng).rangeClosing = false :=
    rangeClosing_self range
  have pass : memory.Calm (releasedPass target nowS
        (Colregs.threat lib params target memory currentRng) memory semanticState).memory ∧
      (releasedPass target nowS (Colregs.threat lib params target memory currentRng) memory
        semanticState).memory.SeenCpa target.cpaM := by
    unfold releasedPass
    split_ifs
    · exact releasePass_calm opening semanticState seen
    · exact ⟨.refl memory, seen⟩
  obtain ⟨_, resolved⟩ | ⟨_, _, assessed⟩ := reasonTarget_cases lib odd params target nowS
    currentRng memory semanticState
  · rw [resolved]
    exact .inl (TargetMemory.resolve_erased _)
  · rw [assessed]
    exact .inr (pass.1.trans (assess_calm opening _ _ pass.2))

/-- Once all the rules are evaluated, every machine has seen the closest approach last. -/
theorem evaluateRules_seenCpa (memory : TargetMemory) (semanticState : Option EncounterState) :
    (evaluateRules lib odd params target nowS threat memory semanticState).memory.SeenCpa
      target.cpaM := by
  intro rule fsm member
  rw [evaluateRules_memory] at member
  simp only [afterPrimary_fsms] at member
  cases rule with
  | rule13 =>
    rw [PerPrimary.get_set_of_ne _ _ (by decide), PerPrimary.get_set_of_ne _ _ (by decide),
      PerPrimary.get_set_self, Option.mem_some_iff] at member
    rw [← member, primaryFsm]
    rfl
  | rule14 =>
    rw [PerPrimary.get_set_of_ne _ _ (by decide), PerPrimary.get_set_self,
      Option.mem_some_iff] at member
    rw [← member, primaryFsm]
    rfl
  | rule15 =>
    rw [PerPrimary.get_set_self, Option.mem_some_iff] at member
    rw [← member, primaryFsm]
    rfl

/-- After the cycle of a target, every machine has seen its closest approach last. -/
theorem reasonTarget_seenCpa (memory : TargetMemory) (currentRng : Float)
    (semanticState : Option EncounterState) :
    (reasonTarget lib odd params target nowS currentRng memory
      semanticState).memory.SeenCpa target.cpaM := by
  obtain ⟨_, resolved⟩ | ⟨_, _, assessed⟩ := reasonTarget_cases lib odd params target nowS
    currentRng memory semanticState
  · rw [resolved]
    intro rule fsm member
    rw [(TargetMemory.resolve_erased _).fsms rule] at member
    cases member
  · rw [assessed]
    intro rule fsm member
    rw [assess_fsms] at member
    exact evaluateRules_seenCpa _ _ rule fsm member

end OneTarget

/-! ### The extra cycle -/

/-- No world state arrives. -/
def Event.isQuiet : Event → Bool
  | .worldState _ => false
  | .oddState _ => true
  | .reasoningTick _ => true
  | .scenarioLoaded => true

/-- The memory of a key was read from a target: its range is the last one, and its closest
approach is the last one of every machine. -/
structure TargetMemory.ReadFrom (memory : TargetMemory) (target : TrackedTarget) : Prop where
  range : ∀ range ∈ memory.prevTargetRange, range = target.rngM
  seen : memory.SeenCpa target.cpaM

theorem TargetMemory.readFrom_empty (target : TrackedTarget) :
    TargetMemory.ReadFrom {} target where
  range := by
    rintro range ⟨⟩
  seen := by
    rintro rule fsm member
    cases rule <;> cases member

/-- The cached world state has been processed. -/
structure Processed (node : ColregsReasonerNode) (world : WorldState) : Prop where
  cached : node.lastWorldState = some world
  stamp : node.prevWorldStamp = world.stamp

section Tick

variable {config : Config} {node : ColregsReasonerNode} {world : WorldState}
  {target : TrackedTarget} {earlier later : List TrackedTarget}

/-- Any tick on a cached world state processes it, as far as the stamp goes. -/
theorem processed_tick (cached : node.lastWorldState = some world) (nowNs : Int) :
    Processed (node.next config (.reasoningTick nowNs)) world where
  cached := (runReasoning_lastWorldState node nowNs).trans cached
  stamp := by
    unfold ColregsReasonerNode.next ColregsReasonerNode.handle ColregsReasonerNode.runReasoning
      ColregsReasonerNode.reasonOn
    rw [cached]
    dsimp only
    split_ifs <;> rfl

namespace Processed

variable (processed : Processed node world)

include processed

/-- The stamp of a processed world state does not go back. -/
theorem observe_eq : node.observe world = node := by
  have rewinds : node.rewinds world = false := by
    have still : ¬ seconds 0 < -1.0 := by decide
    unfold ColregsReasonerNode.rewinds
    rw [processed.stamp, Int.sub_self]
    simp [still]
  unfold ColregsReasonerNode.observe
  rw [rewinds, if_neg Bool.false_ne_true, ← processed.stamp]

theorem next {event : Event} (quiet : event.isQuiet = true) :
    Processed (node.next config event) world := by
  cases event with
  | worldState other => cases quiet
  | oddState currentZone => exact ⟨processed.cached, processed.stamp⟩
  | reasoningTick nowNs => exact processed_tick processed.cached nowNs
  | scenarioLoaded => exact ⟨processed.cached, processed.stamp⟩

/-- A tick on a stale world state changes no memory. -/
theorem tick_memory_stale {nowNs : Int} (stale : isStale config world nowNs = true) :
    (node.next config (.reasoningTick nowNs)).memory = node.memory := by
  rw [next_tick_memory_stale processed.cached stale, processed.observe_eq]

/-- Nor does any tick change the memory of a key without target. -/
theorem tick_memory_absent {mmsi : UInt32} (absent : ∀ other ∈ world.targets, other.mmsi ≠ mmsi)
    (nowNs : Int) : (node.next config (.reasoningTick nowNs)).memory mmsi = node.memory mmsi := by
  cases stale : isStale config world nowNs with
  | true => rw [processed.tick_memory_stale stale]
  | false =>
    have keys : ∀ other ∈ convertWorldState config.lib world, other.mmsi ≠ mmsi := by
      intro other member
      obtain ⟨tracked, inWorld, rfl⟩ := List.mem_map.mp member
      exact absent tracked inWorld
    have entry := Cycle.after_entry_other config node.domain world
      { memory := (node.observe world).memory } keys
    rw [next_tick_memory processed.cached stale, updateHistory_absent absent]
    refine (congrArg TargetOutcome.memory entry).trans ?_
    simp [Cycle.entry, processed.observe_eq]

end Processed

/-- What a tick remembers of a target was read from it. -/
theorem readFrom_tick (alone : world.AloneAt target earlier later)
    (cached : node.lastWorldState = some world) {nowNs : Int}
    (fresh : isStale config world nowNs = false) :
    ((node.next config (.reasoningTick nowNs)).memory target.mmsi).ReadFrom target := by
  rw [alone.next_tick_memory cached fresh]
  refine ⟨fun range known => ?_, reasonTarget_seenCpa _ _ _⟩
  exact (Option.mem_some_iff.mp known).symm

section

variable (processed : Processed node world)
include processed

/-- It stays so until the next world state. -/
theorem Processed.readFrom_next (alone : world.AloneAt target earlier later) {event : Event}
    (quiet : event.isQuiet = true) (read : (node.memory target.mmsi).ReadFrom target) :
    ((node.next config event).memory target.mmsi).ReadFrom target := by
  cases event with
  | worldState other => cases quiet
  | oddState currentZone => exact read
  | scenarioLoaded => exact TargetMemory.readFrom_empty target
  | reasoningTick nowNs =>
    cases stale : isStale config world nowNs with
    | true => rwa [processed.tick_memory_stale stale]
    | false => exact readFrom_tick alone processed.cached stale

/-- An extra tick resolves a target, or it is calm. -/
theorem Processed.tick_calm (alone : world.AloneAt target earlier later)
    (read : (node.memory target.mmsi).ReadFrom target) (nowNs : Int) :
    ((node.next config (.reasoningTick nowNs)).memory target.mmsi).Erased ∨
      (node.memory target.mmsi).Calm
        ((node.next config (.reasoningTick nowNs)).memory target.mmsi) := by
  cases stale : isStale config world nowNs with
  | true =>
    rw [processed.tick_memory_stale stale]
    exact .inr (.refl _)
  | false =>
    rw [alone.next_tick_memory processed.cached stale]
    have cycle : (node.outcomeAlone config world target).memory.Erased ∨
        (node.memory target.mmsi).Calm (node.outcomeAlone config world target).memory := by
      unfold ColregsReasonerNode.outcomeAlone
      rw [processed.observe_eq]
      exact reasonTarget_calm none read.range read.seen
    obtain erased | calm := cycle
    · exact .inl ⟨erased.resolved, erased.latches, erased.fsms, erased.giveWay, erased.standon⟩
    · exact .inr ⟨calm.latches, calm.giveWay, calm.standon, calm.active⟩

/-- The world state stays processed until another one arrives. -/
theorem Processed.after {events : List Event} (quiet : ∀ event ∈ events, event.isQuiet = true) :
    Processed (node.after config events) world := by
  induction events generalizing node with
  | nil => exact processed
  | cons event later inductionHypothesis =>
    exact inductionHypothesis (processed.next (quiet event List.mem_cons_self))
      fun other member => quiet other (List.mem_cons_of_mem event member)

theorem Processed.readFrom_after (alone : world.AloneAt target earlier later) {events : List Event}
    (quiet : ∀ event ∈ events, event.isQuiet = true)
    (read : (node.memory target.mmsi).ReadFrom target) :
    ((node.after config events).memory target.mmsi).ReadFrom target := by
  induction events generalizing node with
  | nil => exact read
  | cons event later inductionHypothesis =>
    have quietNow := quiet event List.mem_cons_self
    exact inductionHypothesis (processed.next quietNow)
      (fun other member => quiet other (List.mem_cons_of_mem event member))
      (processed.readFrom_next alone quietNow read)

end

/-- No target has a key, or one alone has it. -/
theorem absent_or_aloneAt {mmsi : UInt32}
    (once : (world.targets.filter fun target => target.mmsi = mmsi).length ≤ 1) :
    (∀ target ∈ world.targets, target.mmsi ≠ mmsi) ∨
      ∃ target earlier later, target.mmsi = mmsi ∧ world.AloneAt target earlier later := by
  cases found : world.targets.filter fun target => target.mmsi = mmsi with
  | nil => exact .inl (by simpa [List.filter_eq_nil_iff] using found)
  | cons target others =>
    obtain ⟨earlier, later, split, before, own, behind⟩ := List.filter_eq_cons_iff.mp found
    have key : target.mmsi = mmsi := by simpa using own
    have none : others = [] := by
      rw [found] at once
      exact List.eq_nil_of_length_eq_zero (Nat.le_zero.mp (Nat.le_of_succ_le_succ once))
    refine .inr ⟨target, earlier, later, key, split, ?_, ?_⟩
    · simpa [key] using before
    · rw [none, List.filter_eq_nil_iff] at behind
      simpa [key] using behind

end Tick

/-- After a world state has been processed and before another one arrives, an extra tick
resolves a target that alone has its key, or it latches nothing of it, and the same encounters
are active. -/
theorem reread_calm (config : Config) (node : ColregsReasonerNode) (world : WorldState)
    (firstNs againNs : Int) (quiet : List Event) (mmsi : UInt32)
    (cached : node.lastWorldState = some world) (fresh : isStale config world firstNs = false)
    (nothingArrives : ∀ event ∈ quiet, event.isQuiet = true)
    (once : (world.targets.filter fun target => target.mmsi = mmsi).length ≤ 1) :
    let before := (node.next config (.reasoningTick firstNs)).after config quiet
    let again := before.next config (.reasoningTick againNs)
    (again.memory mmsi).Erased ∨ (before.memory mmsi).Calm (again.memory mmsi) := by
  intro before again
  have first : Processed (node.next config (.reasoningTick firstNs)) world :=
    processed_tick cached firstNs
  have processed : Processed before world := first.after nothingArrives
  obtain absent | ⟨target, earlier, later, rfl, alone⟩ := absent_or_aloneAt once
  · refine .inr ?_
    rw [show again.memory mmsi = before.memory mmsi from
      processed.tick_memory_absent absent againNs]
    exact .refl _
  · exact processed.tick_calm alone
      (first.readFrom_after alone nothingArrives (readFrom_tick alone cached fresh)) againNs

/-- The first world state of the meeting. -/
def firstSight : WorldState := scene 1 0.0 [onMeridian 7 0.07 180.0 8000.0 100.0 700.0]

theorem reread_calm_firstSight :
    let node : ColregsReasonerNode := { lastWorldState := some firstSight }
    let before := (node.next meridianConfig (.reasoningTick 1100000000)).after meridianConfig
      [.oddState 1, .reasoningTick 1600000000]
    let again := before.next meridianConfig (.reasoningTick 2100000000)
    (again.memory 7).Erased ∨ (before.memory 7).Calm (again.memory 7) :=
  reread_calm meridianConfig { lastWorldState := some firstSight } firstSight 1100000000
    2100000000 [.oddState 1, .reasoningTick 1600000000] 7 rfl (by decide)
    (by simp [Event.isQuiet]) (by decide)

/-- The ship has passed with a wide berth, and it is still closing. -/
def passedClosing : List WorldState :=
  headOnMeeting ++
    [scene 5 0.0 [onMeridian 7 0.07 180.0 7600.0 110.0 660.0],
      scene 6 0.0 [onMeridian 7 0.07 180.0 7500.0 120.0 650.0],
      scene 7 0.0 [onMeridian 7 (-0.07) 180.0 7400.0 2000.0 0.0]]

/-- Two ships with one key, the nearer one first. -/
def sharedKey : List WorldState :=
  headOnMeeting.take 3 ++
    [scene 4 0.0
      [onMeridian 7 0.07 180.0 7800.0 100.0 670.0,
        onMeridian 4294967303 0.07 180.0 8000.0 100.0 670.0]]

/-- An extra cycle takes a waiting machine on, it resolves a target that has been closing all
the time, and it makes an encounter active and latches its rule if two targets share a key. -/
theorem reread_changes :
    let first := ColregsReasonerNode.after meridianConfig {} (cyclesOf [firstSight])
    let passed := ColregsReasonerNode.after meridianConfig {} (cyclesOf passedClosing)
    let shared := ColregsReasonerNode.after meridianConfig {} (cyclesOf sharedKey)
    let again (node : ColregsReasonerNode) (nowNs : Int) :=
      node.next meridianConfig (.reasoningTick nowNs)
    ((first.memory 7).fsms.rule14.map EncounterStateMachine.state = some .detected ∧
      ((again first 1600000000).memory 7).fsms.rule14.map EncounterStateMachine.state =
        some .candidate) ∧
    ((passed.memory 7).resolved = false ∧ isLatched (passed.memory 7).latches.rule14 = true ∧
      ((again passed 7600000000).memory 7).resolved = true) ∧
    (isLatched (shared.memory 7).latches.rule14 = false ∧
      isLatched ((again shared 4600000000).memory 7).latches.rule14 = true) := by
  decide +kernel

end MassL3.M6.Colregs
