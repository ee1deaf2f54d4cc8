/-
This file says when the end of an encounter is announced. In a world with one target the cycle
that resolves it has no evaluation, so the published lifecycle is that of the target, summed up
by one of its three machines: the last one, if a release is predicted, or else the first one.
The end is announced exactly if that machine is in RELEASE or back in CLEAR, or if the cycle
before has announced it already.
-/

import MassTdl.Colregs.Rearm

namespace MassL3.M6.Colregs

/-! ### The announcement -/

/-- The constraint says that an encounter is over. -/
def Announces (constraint : COLREGsConstraint) : Prop :=
  constraint.pastClear = true ∧
    (constraint.encounterState = .release ∨ constraint.encounterState = .clear)

/-- An encounter in this state is over, or has never been. -/
def EncounterState.IsOver (state : EncounterState) : Prop :=
  state = .release ∨ state = .clear

instance (state : EncounterState) : Decidable state.IsOver :=
  inferInstanceAs (Decidable (_ ∨ _))

theorem announces_populateColregsSemantics_iff {constraint : COLREGsConstraint}
    {state : EncounterState} {latchReleased releasePredicted : Bool} :
    Announces (populateColregsSemantics constraint state latchReleased releasePredicted) ↔
      state.IsOver ∧ latchReleased = true := by
  cases state <;>
    simp [Announces, populateColregsSemantics, EncounterState.lifecycle, EncounterState.IsOver]

section OneTarget

variable {target : TargetGeometricState} {evaluations : List RuleEvaluation}

/-- The search for the closest target can find it. -/
def Seen (target : TargetGeometricState) (evaluations : List RuleEvaluation) : Prop :=
  (∃ eval ∈ evaluations, eval.isActive = true) ∨ target.cpaM < doubleMax

theorem closestTarget_one :
    closestTarget [target] = if target.cpaM < doubleMax then some target else none := by
  unfold closestTarget
  simp only [List.foldl_cons, List.foldl_nil]
  split_ifs <;> rfl

/-- Alone, a target has its lifecycle published if it is seen. -/
theorem semanticTarget_one_seen (own : ∀ eval ∈ evaluations, eval.targetId = target.targetId)
    (seen : Seen target evaluations) : semanticTarget [target] evaluations = target.mmsi := by
  unfold semanticTarget chainTargetId
  rw [closestTarget_one]
  by_cases active : ∃ eval ∈ evaluations, eval.isActive = true
  · obtain ⟨eval, found⟩ := Option.isSome_iff_exists.mp (List.find?_isSome.mpr active)
    have same : eval.targetId.toUInt32 = target.mmsi :=
      congrArg UInt64.toUInt32 (own eval (List.mem_of_find?_eq_some found))
    rw [List.any_eq_true.mpr active, if_pos rfl, found]
    dsimp only [Option.map_some, Option.getD_some]
    rw [same]
    split_ifs <;> simp_all [TargetGeometricState.mmsi]
  · have near : target.cpaM < doubleMax := seen.resolve_left active
    have inactive : evaluations.any (fun eval => eval.isActive) = false := by
      simpa [List.any_eq_false] using active
    have none : evaluations.find? (fun eval => eval.isActive) = none := by
      simpa [List.find?_eq_none] using active
    simp [inactive, none, near]

/-- An unseen one has no lifecycle published. -/
theorem semanticTarget_one_unseen (unseen : ¬ Seen target evaluations) :
    semanticTarget [target] evaluations = 0 := by
  obtain ⟨inactive, far⟩ := not_or.mp unseen
  have none : evaluations.find? (fun eval => eval.isActive) = none := by
    simpa [List.find?_eq_none] using inactive
  have noneActive : evaluations.any (fun eval => eval.isActive) = false := by
    simpa [List.any_eq_false] using inactive
  unfold semanticTarget chainTargetId
  rw [closestTarget_one, if_neg far, none, noneActive]
  rfl

end OneTarget

/-- The cycle of a world state with one target announces the end of its encounter exactly if
the target is seen, its key is not zero, its encounter is over and a latch has been released. -/
theorem announces_constraint_iff {config : Config} {node : ColregsReasonerNode}
    {world : WorldState} {target : TrackedTarget} (one : world.targets = [target])
    (nowNs : Int) :
    Announces ((node.cycleOn config world).constraint config node.domain world nowNs) ↔
      (target.mmsi ≠ 0 ∧
        Seen (convertTarget config.lib world.ownShip target)
          (node.outcomeAlone config world target).evaluations) ∧
      ((node.outcomeAlone config world target).semanticState.getD .clear).IsOver ∧
      (node.outcomeAlone config world target).latchReleased = true := by
  have entry := (aloneAt_one one).cycleOn_entry config node
  have state := congrArg TargetOutcome.semanticState entry
  have released := congrArg TargetOutcome.latchReleased entry
  simp only [Cycle.entry] at state released
  have own : ∀ eval ∈ (node.outcomeAlone config world target).evaluations,
      eval.targetId = (convertTarget config.lib world.ownShip target).targetId :=
    fun eval member => reasonTarget_targetId _ _ _ member
  unfold Cycle.constraint
  dsimp only
  rw [convertWorldState_one one, cycleOn_evaluations_one one]
  by_cases seen : Seen (convertTarget config.lib world.ownShip target)
    (node.outcomeAlone config world target).evaluations
  · rw [semanticTarget_one_seen own seen, convertTarget_mmsi]
    split_ifs with zero
    · simp [announces_populateColregsSemantics_iff, zero]
    · rw [announces_populateColregsSemantics_iff, state, released]
      simp [zero, seen]
  · rw [semanticTarget_one_unseen seen, if_pos rfl]
    simp [announces_populateColregsSemantics_iff, seen]

/-! ### The cycle that resolves -/

section Resolving

variable {lib : MathLibrary} {odd : OddDomain} {params : RuleParameters}
  {target : TargetGeometricState} {nowS : Float} {threat : Threat} {memory : TargetMemory}

/-- A machine after its transition of the release pass. -/
def releasedFsm (target : TargetGeometricState) (nowS : Float) (threat : Threat)
    (rule : PrimaryRule) (fsm : EncounterStateMachine) : EncounterStateMachine :=
  fsm.transition target.snapshot false threat.rangeClosing
    (threat.releasePastAndClear || threat.ruleProjectionReleaseOk rule) nowS none

/-- The state that sums up the three machines while an encounter is resolved: that of the last
one after its transition, if a release is predicted, or else that of the first one. -/
def summary (target : TargetGeometricState) (nowS : Float) (threat : Threat)
    (memory : TargetMemory) : Option EncounterState :=
  if threat.releasePredicted then
    [PrimaryRule.rule15, .rule14, .rule13].findSome? fun rule =>
      (memory.fsms.get rule).map fun fsm => (releasedFsm target nowS threat rule fsm).state
  else memory.firstState

/-- The release pass writes the last state over the others. -/
theorem releasePass_semanticState :
    (releasePass target nowS threat memory none).semanticState =
      [PrimaryRule.rule15, .rule14, .rule13].findSome? fun rule =>
        (memory.fsms.get rule).map fun fsm => (releasedFsm target nowS threat rule fsm).state := by
  obtain ⟨latches, ⟨fsm13, fsm14, fsm15⟩⟩ := memory
  cases fsm13 <;> cases fsm14 <;> cases fsm15 <;> rfl

/-- Its machines have the states it has seen. -/
theorem releasePass_firstState (none : (releasePass target nowS threat memory none).semanticState =
    none) : (releasePass target nowS threat memory .none).memory.firstState = .none := by
  obtain ⟨latches, ⟨fsm13, fsm14, fsm15⟩⟩ := memory
  cases fsm13 <;> cases fsm14 <;> cases fsm15 <;> first | rfl | cases none

/-- A pass that has seen a machine in RELEASE has seen a machine. -/
theorem releasePass_transitioned
    (none : (releasePass target nowS threat memory none).semanticState = none) :
    (releasePass target nowS threat memory .none).transitionedToRelease = false := by
  obtain ⟨latches, ⟨fsm13, fsm14, fsm15⟩⟩ := memory
  cases fsm13 <;> cases fsm14 <;> cases fsm15 <;> first | rfl | cases none

/-- What the release pass has written, or else the first machine, is the summary. -/
theorem releasedPass_summary :
    (releasedPass target nowS threat memory none).semanticState.or
        (releasedPass target nowS threat memory none).memory.firstState =
      summary target nowS threat memory := by
  unfold releasedPass summary
  split_ifs
  · rw [← releasePass_semanticState]
    cases written : (releasePass target nowS threat memory none).semanticState with
    | none => rw [releasePass_firstState written, Option.or_none]
    | some state => rfl
  · rfl

theorem releasedPass_transitioned
    (transitioned : (releasedPass target nowS threat memory none).transitionedToRelease = true) :
    (releasedPass target nowS threat memory none).semanticState =
      summary target nowS threat memory := by
  rw [← releasedPass_summary]
  cases written : (releasedPass target nowS threat memory none).semanticState with
  | some state => rfl
  | none =>
    unfold releasedPass at written transitioned
    split_ifs at written transitioned
    rw [releasePass_transitioned written] at transitioned
    cases transitioned

/-- The cycle that resolves a target publishes its summary, with a latch released. -/
theorem reasonTarget_resolves {currentRng : Float} (unresolved : memory.resolved = false)
    (resolves : (reasonTarget lib odd params target nowS currentRng memory
      none).memory.resolved = true) :
    (reasonTarget lib odd params target nowS currentRng memory none).evaluations = [] ∧
      (reasonTarget lib odd params target nowS currentRng memory none).latchReleased = true ∧
      (reasonTarget lib odd params target nowS currentRng memory none).semanticState =
        summary target nowS (Colregs.threat lib params target memory currentRng) memory := by
  have passResolved := (releasedPass_resolved target nowS
    (Colregs.threat lib params target memory currentRng) memory none).trans unresolved
  unfold reasonTarget at resolves ⊢
  dsimp only at resolves ⊢
  unfold afterRelease at resolves ⊢
  dsimp only at resolves ⊢
  split_ifs at resolves ⊢ with released known
  · obtain ⟨transitioned, now⟩ := Bool.and_eq_true_iff.mp released
    exact ⟨rfl, by simp [now], releasedPass_transitioned transitioned⟩
  · rw [passResolved, Bool.or_false] at known
    exact ⟨rfl, by simp [known], releasedPass_summary⟩
  · rw [assess_resolved, passResolved] at resolves
    cases resolves

/-- A cycle that goes on has released a latch in its release pass exactly if no latch was
released before and no machine is in RELEASE. -/
theorem reasonTarget_goesOn {currentRng : Float}
    (goesOn : (reasonTarget lib odd params target nowS currentRng memory
      none).memory.resolved = false) :
    let threat := Colregs.threat lib params target memory currentRng
    let pass := releasedPass target nowS threat memory none
    (threat.anyLatchReleased = false ∧
        (pass.transitionedToRelease && pass.latchReleasedNow) = false ∧
        memory.resolved = false) ∧
      reasonTarget lib odd params target nowS currentRng memory none =
        assess lib odd params target nowS threat pass.memory pass.semanticState
          pass.latchReleasedNow := by
  have passResolved := releasedPass_resolved target nowS
    (Colregs.threat lib params target memory currentRng) memory none
  unfold reasonTarget at goesOn ⊢
  dsimp only at goesOn ⊢
  unfold afterRelease at goesOn ⊢
  dsimp only at goesOn ⊢
  split_ifs at goesOn ⊢ with released known
  · cases goesOn
  · cases goesOn
  · simp only [Bool.or_eq_true, not_or, Bool.not_eq_true] at known
    rw [passResolved] at known
    rw [known.1, Bool.false_or]
    exact ⟨⟨rfl, Bool.eq_false_iff.mpr released, known.2⟩, rfl⟩

end Resolving

/-! ### One tick -/

section Tick

variable (config : Config) (node : ColregsReasonerNode) (world : WorldState)
  (target : TrackedTarget)

/-- The threat geometry of the target, from the memory of its key. -/
def ColregsReasonerNode.threatOf : Threat :=
  threat config.lib (currentRuleParams config node.domain)
    (convertTarget config.lib world.ownShip target) ((node.observe world).memory target.mmsi)
    target.rngM

/-- The release pass of the target, from the memory of its key. -/
def ColregsReasonerNode.passOf : ReleasePass :=
  releasedPass (convertTarget config.lib world.ownShip target) (seconds world.stamp)
    (node.threatOf config world target) ((node.observe world).memory target.mmsi) none

/-- The end of the encounter can be said: the target is found, its key is not zero, and the
machine that sums the encounter up is in RELEASE or CLEAR. -/
structure ColregsReasonerNode.SumsUp : Prop where
  key : target.mmsi ≠ 0
  found : target.cpaM < doubleMax
  ended : ((summary (convertTarget config.lib world.ownShip target) (seconds world.stamp)
    (node.threatOf config world target) ((node.observe world).memory target.mmsi)).getD
      .clear).IsOver

/-- The end of the encounter is said one cycle before it is resolved: the release pass releases
the first latch without a machine in RELEASE, and the rules then bring the highest of the
machines into RELEASE, or all of them are in CLEAR. -/
structure ColregsReasonerNode.ReleasesEarly : Prop where
  key : target.mmsi ≠ 0
  seen : Seen (convertTarget config.lib world.ownShip target)
    (node.outcomeAlone config world target).evaluations
  unresolved : ((node.observe world).memory target.mmsi).resolved = false
  held : ((node.observe world).memory target.mmsi).anyLatchReleased = false
  released : (node.passOf config world target).latchReleasedNow = true
  waiting : (node.passOf config world target).transitionedToRelease = false
  ended : ((evaluateRules config.lib node.domain (currentRuleParams config node.domain)
    (convertTarget config.lib world.ownShip target) (seconds world.stamp)
    (node.threatOf config world target) (node.passOf config world target).memory
    (node.passOf config world target).semanticState).semanticState.getD .clear).IsOver

variable {config node world target}

/-- The cycle that resolves an encounter announces its end exactly if it sums it up so. -/
theorem announces_resolving_iff (one : world.targets = [target])
    (unresolved : ((node.observe world).memory target.mmsi).resolved = false)
    (resolves : (node.outcomeAlone config world target).memory.resolved = true) (nowNs : Int) :
    Announces ((node.cycleOn config world).constraint config node.domain world nowNs) ↔
      node.SumsUp config world target := by
  obtain ⟨evaluations, released, state⟩ := reasonTarget_resolves unresolved resolves
  rw [announces_constraint_iff one]
  unfold ColregsReasonerNode.outcomeAlone
  rw [evaluations, released, state]
  constructor
  · rintro ⟨⟨key, seen⟩, ended, _⟩
    exact ⟨key, seen.resolve_left (by simp), ended⟩
  · rintro ⟨key, found, ended⟩
    exact ⟨⟨key, .inr found⟩, ended, rfl⟩

/-- A cycle after which an encounter goes on announces its end exactly if it releases it
early. -/
theorem announces_goingOn_iff (one : world.targets = [target])
    (goesOn : (node.outcomeAlone config world target).memory.resolved = false) (nowNs : Int) :
    Announces ((node.cycleOn config world).constraint config node.domain world nowNs) ↔
      node.ReleasesEarly config world target := by
  obtain ⟨⟨held, waiting, unresolved⟩, outcome⟩ := reasonTarget_goesOn goesOn
  rw [announces_constraint_iff one]
  have state : (node.outcomeAlone config world target).semanticState =
      (evaluateRules config.lib node.domain (currentRuleParams config node.domain)
        (convertTarget config.lib world.ownShip target) (seconds world.stamp)
        (node.threatOf config world target) (node.passOf config world target).memory
        (node.passOf config world target).semanticState).semanticState :=
    congrArg TargetOutcome.semanticState outcome
  have released : (node.outcomeAlone config world target).latchReleased =
      (node.passOf config world target).latchReleasedNow :=
    congrArg TargetOutcome.latchReleased outcome
  rw [state, released]
  constructor
  · rintro ⟨⟨key, seen⟩, ended, now⟩
    refine ⟨key, seen, unresolved, held, now, ?_, ended⟩
    have both : ((node.passOf config world target).transitionedToRelease &&
        (node.passOf config world target).latchReleasedNow) = false := waiting
    rwa [now, Bool.and_true] at both
  · intro early
    exact ⟨⟨early.key, early.seen⟩, early.ended, early.released⟩

/-- An encounter that is released early goes on for another cycle. -/
theorem ColregsReasonerNode.ReleasesEarly.goesOn (early : node.ReleasesEarly config world target) :
    (node.outcomeAlone config world target).memory.resolved = false := by
  have passResolved := (releasedPass_resolved
    (convertTarget config.lib world.ownShip target) (seconds world.stamp)
    (node.threatOf config world target) ((node.observe world).memory target.mmsi)
    none).trans early.unresolved
  have held : (node.threatOf config world target).anyLatchReleased = false := early.held
  have goesOn : (afterRelease config.lib node.domain (currentRuleParams config node.domain)
      (convertTarget config.lib world.ownShip target) (seconds world.stamp)
      (node.threatOf config world target)
      (node.passOf config world target)).memory.resolved = false := by
    unfold afterRelease
    dsimp only
    rw [early.waiting, held, Bool.false_and, if_neg Bool.false_ne_true]
    rw [show (node.passOf config world target).memory.resolved = false from passResolved,
      Bool.or_false, if_neg Bool.false_ne_true, assess_resolved]
    exact passResolved
  exact goesOn

end Tick

theorem observe_unresolved {node : ColregsReasonerNode} {world : WorldState} {mmsi : UInt32}
    (unresolved : (node.memory mmsi).resolved = false) :
    ((node.observe world).memory mmsi).resolved = false := by
  obtain kept | emptied := observe_memory_cases node world mmsi
  · rw [kept, unresolved]
  · rw [emptied]

/-! ### Runs over one target -/

section OneTargetRuns

variable (config : Config) (events : List Event)

/-- An event of the run announces the end of an encounter. -/
def AnnouncedAt (count : Nat) : Prop :=
  ∃ constraint, (({} : ColregsReasonerNode).published config events)[count]? =
    some (some constraint) ∧ Announces constraint

/-- No reset comes between two events. -/
def SameEncounter (earlier last : Nat) : Prop :=
  ∀ count event, earlier < count → count ≤ last → events[count]? = some event →
    (nodeAt config events count).forgets event = false

/-- The event resolves a key. -/
def ResolvesAt (mmsi : UInt32) (count : Nat) : Prop :=
  ((nodeAt config events count).memory mmsi).resolved = false ∧
    ((nodeAt config events (count + 1)).memory mmsi).resolved = true

/-- The event is a tick on a fresh world state with one target. -/
structure TicksOn (count : Nat) (world : WorldState) (target : TrackedTarget) (nowNs : Int) :
    Prop where
  tick : events[count]? = some (.reasoningTick nowNs)
  cached : (nodeAt config events count).lastWorldState = some world
  one : world.targets = [target]
  fresh : isStale config world nowNs = false

/-- The tick can say that the encounter is over. -/
def SumsUpAt (count : Nat) : Prop :=
  ∃ world target nowNs, TicksOn config events count world target nowNs ∧
    (nodeAt config events count).SumsUp config world target

/-- The tick says it before the encounter is resolved. -/
def ReleasesEarlyAt (count : Nat) : Prop :=
  ∃ world target nowNs, TicksOn config events count world target nowNs ∧
    (nodeAt config events count).ReleasesEarly config world target

variable {config events} {count : Nat} {world : WorldState} {target : TrackedTarget}
  {nowNs : Int}

section

variable (ticks : TicksOn config events count world target nowNs)
include ticks

theorem TicksOn.announcedAt_iff :
    AnnouncedAt config events count ↔
      Announces (((nodeAt config events count).cycleOn config world).constraint config
        (nodeAt config events count).domain world nowNs) := by
  have published := published_getElem? config {} events count
  rw [ticks.tick] at published
  have constraint := handle_tick_fresh ticks.cached ticks.fresh
  unfold AnnouncedAt
  rw [published]
  simp only [Option.map_some]
  rw [show Runs.stateAt (ColregsReasonerNode.next config) {} events count =
    nodeAt config events count from rfl, constraint]
  simp

/-- After the tick, the key of the target is as resolved as its cycle has left it. -/
theorem TicksOn.resolved_succ :
    ((nodeAt config events (count + 1)).memory target.mmsi).resolved =
      ((nodeAt config events count).outcomeAlone config world target).memory.resolved := by
  rw [nodeAt_succ ticks.tick, (aloneAt_one ticks.one).next_tick_memory ticks.cached ticks.fresh]
  rfl

/-- The tick that resolves its target announces the end exactly if it sums it up so. -/
theorem TicksOn.announcedAt_iff_sumsUp (resolves : ResolvesAt config events target.mmsi count) :
    AnnouncedAt config events count ↔ (nodeAt config events count).SumsUp config world target := by
  obtain ⟨unresolved, resolved⟩ := resolves
  rw [ticks.resolved_succ] at resolved
  exact ticks.announcedAt_iff.trans
    (announces_resolving_iff ticks.one (observe_unresolved unresolved) resolved nowNs)

end

/-- What is resolved stays so as long as no reset comes. -/
theorem SameEncounter.resolved {earlier last : Nat} {mmsi : UInt32} (before : earlier < last)
    (same : SameEncounter config events earlier last)
    (resolved : ((nodeAt config events (earlier + 1)).memory mmsi).resolved = true) :
    ((nodeAt config events last).memory mmsi).resolved = true :=
  Runs.stateAt_invariant_between
    (fun node : ColregsReasonerNode => (node.memory mmsi).resolved = true) before resolved
    fun count event above below present resolved =>
      next_resolved resolved (same count event above (Nat.le_of_lt below) present)

end OneTargetRuns

/-- An announcement comes from a tick on a fresh world state. -/
theorem AnnouncedAt.ticksOn {config : Config} {events : List Event} {count : Nat}
    (announced : AnnouncedAt config events count)
    (one : ∀ world, Event.worldState world ∈ events → ∃ target, world.targets = [target]) :
    ∃ world target nowNs, TicksOn config events count world target nowNs := by
  obtain ⟨constraint, published, pastClear, _⟩ := announced
  rw [published_getElem?] at published
  obtain ⟨event, present, output⟩ := Option.map_eq_some_iff.mp published
  obtain ⟨nowNs, world, rfl, cached, ⟨fresh, _⟩ | ⟨_, rfl⟩⟩ := handle_published output
  · obtain ⟨target, targets⟩ := one world (arrived_of_cached cached)
    exact ⟨world, target, nowNs, present, cached, targets, fresh⟩
  · cases pastClear

/-- In a run over one target, the end of an encounter that is resolved has been announced,
in that cycle or in an earlier one of the same encounter, exactly if the resolving cycle sums it
up as over or an earlier one has released it early. -/
theorem resolved_announced_iff (config : Config) (events : List Event) (targetId : UInt64)
    (one : ∀ world, Event.worldState world ∈ events →
      ∃ target, world.targets = [target] ∧ target.targetId = targetId)
    (last : Nat) (resolves : ResolvesAt config events targetId.toUInt32 last) :
    (∃ earlier ≤ last, SameEncounter config events earlier last ∧
        AnnouncedAt config events earlier) ↔
      SumsUpAt config events last ∨
        ∃ earlier < last, SameEncounter config events earlier last ∧
          ReleasesEarlyAt config events earlier := by
  have oneTarget : ∀ world, Event.worldState world ∈ events →
      ∃ target, world.targets = [target] := fun world member =>
    (one world member).imp fun target known => known.1
  have ownKey : ∀ {count world target nowNs}, TicksOn config events count world target nowNs →
      target.mmsi = targetId.toUInt32 := by
    intro count world target nowNs ticks
    obtain ⟨other, others, same⟩ := one world (arrived_of_cached ticks.cached)
    obtain rfl : target = other := List.singleton_inj.mp (ticks.one.symm.trans others)
    exact congrArg UInt64.toUInt32 same
  constructor
  · rintro ⟨earlier, upToLast, same, announced⟩
    obtain ⟨world, target, nowNs, ticks⟩ := announced.ticksOn oneTarget
    obtain before | rfl := Nat.lt_or_eq_of_le upToLast
    · refine .inr ⟨earlier, before, same, world, target, nowNs, ticks, ?_⟩
      have goesOn : ((nodeAt config events earlier).outcomeAlone config world
          target).memory.resolved = false := by
        refine Bool.eq_false_iff.mpr fun already => ?_
        rw [← ticks.resolved_succ, ownKey ticks] at already
        exact Bool.false_ne_true (resolves.1.symm.trans (same.resolved before already))
      exact (announces_goingOn_iff ticks.one goesOn nowNs).mp (ticks.announcedAt_iff.mp announced)
    · refine .inl ⟨world, target, nowNs, ticks, ?_⟩
      exact (ticks.announcedAt_iff_sumsUp (ownKey ticks ▸ resolves)).mp announced
  · rintro (⟨world, target, nowNs, ticks, sums⟩ | ⟨earlier, before, same, world, target, nowNs,
      ticks, early⟩)
    · refine ⟨last, Nat.le_refl last, fun count event above below => ?_, ?_⟩
      · exact absurd below (Nat.not_le_of_lt above)
      · exact (ticks.announcedAt_iff_sumsUp (ownKey ticks ▸ resolves)).mpr sums
    · exact ⟨earlier, Nat.le_of_lt before, same, ticks.announcedAt_iff.mpr
        ((announces_goingOn_iff ticks.one early.goesOn nowNs).mpr early)⟩

/-- The last cycle of the meeting resolves the encounter. -/
theorem passedMeeting_resolves :
    ((nodeAt meridianConfig (cyclesOf passedMeeting) 13).memory 7).resolved = false ∧
      ((nodeAt meridianConfig (cyclesOf passedMeeting) 14).memory 7).resolved = true := by
  decide +kernel

theorem resolved_announced_iff_passedMeeting :
    (∃ earlier ≤ 13, SameEncounter meridianConfig (cyclesOf passedMeeting) earlier 13 ∧
        AnnouncedAt meridianConfig (cyclesOf passedMeeting) earlier) ↔
      SumsUpAt meridianConfig (cyclesOf passedMeeting) 13 ∨
        ∃ earlier < 13, SameEncounter meridianConfig (cyclesOf passedMeeting) earlier 13 ∧
          ReleasesEarlyAt meridianConfig (cyclesOf passedMeeting) earlier :=
  resolved_announced_iff meridianConfig (cyclesOf passedMeeting) 7
    (by simp [mem_cyclesOf, passedMeeting, headOnMeeting, scene, onMeridian])
    13 passedMeeting_resolves

/-- The encounter with Rule 14 is resolved in the last cycle of the meeting. The machine of
Rule 15 sums it up, and that one has only detected the target, so the end is never said. -/
theorem passed_meeting_unannounced :
    (((nodeAt meridianConfig (cyclesOf passedMeeting) 13).memory 7).resolved = false ∧
        ((nodeAt meridianConfig (cyclesOf passedMeeting) 14).memory 7).resolved = true) ∧
      ((({} : ColregsReasonerNode).published meridianConfig (cyclesOf passedMeeting)).filterMap
          fun constraint => constraint.map fun constraint =>
            (constraint.encounterState, constraint.pastClear)) =
        [(.onset, false), (.onset, false), (.onset, false), (.active, false), (.active, false),
          (.active, false), (.onset, false)] := by
  exact ⟨passedMeeting_resolves, by decide +kernel⟩

end MassL3.M6.Colregs
