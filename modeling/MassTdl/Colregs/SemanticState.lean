/-
This file is about the state of a target that a cycle publishes: one slot for each key, which two
loops write. The rules raise it by rank, so that their order does not matter. The release pass
assigns to it, and the machine of a later rule puts the state of an earlier one away.

The rules are taken in any order here, so the cycle has the library of its rules as a parameter.
-/

import MassTdl.Colregs.Announce
import MassTdl.Colregs.Reread
import MassTdl.Registers

namespace MassL3.M6.Colregs

open Registers

/-! ### A cycle with its rules in any order -/

section Library

variable (lib : MathLibrary) (odd : OddDomain) (params : RuleParameters)
  (library : List ColregsRule) (target : TargetGeometricState) (nowS : Float) (threat : Threat)

/-- Every rule of a library in its order. -/
def evaluateRulesIn (memory : TargetMemory) (semanticState : Option EncounterState) :
    Evaluated :=
  library.foldl (evaluateRule lib odd params target nowS threat) { memory, semanticState }

/-- The rules, the duty and the action, with the rules of a library. -/
def assessIn (memory : TargetMemory) (semanticState : Option EncounterState)
    (latchReleased : Bool) : TargetOutcome :=
  let evaluated := evaluateRulesIn lib odd params library target nowS threat memory semanticState
  let inextremis := rule17InextremisRaw evaluated.evaluations
  let duty := dutyLatch params target threat evaluated.memory evaluated.evaluations
  let standon := standonLatch params target threat evaluated.memory duty.latched inextremis
  let memory :=
    { evaluated.memory with
      giveWayLatch := some duty
      standonLatch := some standon }
  { memory :=
      if duty.latched || standon.latched then memory.emplaceReference target.ownshipHeadingDeg
      else memory
    semanticState := evaluated.semanticState
    latchReleased := latchReleased
    releasePredicted := threat.releasePredicted
    evaluations := evaluated.evaluations.map fun eval =>
      gateStandon params standon.latched inextremis
        (gateDuty duty.latched threat.standonActionLatched eval) }

/-- The encounter does not go on behind its release pass. -/
def endsBehind (pass : ReleasePass) : Bool :=
  pass.transitionedToRelease && pass.latchReleasedNow ||
    (threat.anyLatchReleased || pass.memory.resolved)

/-- The cycle of one target after its release pass, with the rules of a library. -/
def afterReleaseIn (pass : ReleasePass) : TargetOutcome :=
  let latchReleased := threat.anyLatchReleased || pass.latchReleasedNow
  if pass.transitionedToRelease && pass.latchReleasedNow then
    { memory := pass.memory.resolve
      semanticState := pass.semanticState
      latchReleased := latchReleased
      releasePredicted := threat.releasePredicted }
  else if threat.anyLatchReleased || pass.memory.resolved then
    { memory := pass.memory.resolve
      semanticState := pass.semanticState.or pass.memory.firstState
      latchReleased := latchReleased
      releasePredicted := threat.releasePredicted }
  else
    assessIn lib odd params library target nowS threat pass.memory pass.semanticState
      latchReleased

/-- The body of the loop over the targets, with the rules of a library. -/
def reasonTargetIn (currentRng : Float) (memory : TargetMemory)
    (semanticState : Option EncounterState) : TargetOutcome :=
  let threat := Colregs.threat lib params target memory currentRng
  afterReleaseIn lib odd params library target nowS threat
    (releasedPass target nowS threat memory semanticState)

/-- With the library of the node it is the body of its loop. -/
theorem reasonTargetIn_ruleLibrary (currentRng : Float) (memory : TargetMemory)
    (semanticState : Option EncounterState) :
    reasonTargetIn lib odd params ruleLibrary target nowS currentRng memory semanticState =
      reasonTarget lib odd params target nowS currentRng memory semanticState := rfl

end Library

section LibraryCycle

variable (config : Config) (library : List ColregsRule) (odd : OddDomain) (world : WorldState)

/-- The loop over the targets, with the rules of a library. -/
def Cycle.addIn (cycle : Cycle) (target : TargetGeometricState) : Cycle :=
  let outcome :=
    reasonTargetIn config.lib odd (currentRuleParams config odd) library target
      (seconds world.stamp) (currentRange world.targets target.mmsi) (cycle.memory target.mmsi)
      (cycle.semanticState target.mmsi)
  { memory := Function.update cycle.memory target.mmsi outcome.memory
    semanticState := Function.update cycle.semanticState target.mmsi outcome.semanticState
    latchReleased := Function.update cycle.latchReleased target.mmsi outcome.latchReleased
    releasePredicted :=
      Function.update cycle.releasePredicted target.mmsi outcome.releasePredicted
    evaluations := cycle.evaluations ++ outcome.evaluations }

/-- The cycle of a world state, with the rules of a library. -/
def ColregsReasonerNode.cycleIn (node : ColregsReasonerNode) : Cycle :=
  (convertWorldState config.lib world).foldl (Cycle.addIn config library node.domain world)
    { memory := (node.observe world).memory }

/-- With the library of the node it is the cycle of the node. -/
theorem ColregsReasonerNode.cycleIn_ruleLibrary (node : ColregsReasonerNode) :
    node.cycleIn config ruleLibrary world = node.cycleOn config world := rfl

end LibraryCycle

/-! ### The states a cycle produces -/

/-- The states that one body of the loop leads the machines of its target to, in their order, and
whether the encounter ends behind the release pass. -/
structure TargetStates where
  pass : List EncounterState
  rules : List EncounterState
  ends : Bool

/-- The release pass assigns its states, and the rules raise the slot to theirs. -/
def TargetStates.writes (states : TargetStates) : List (Write EncounterState) :=
  states.pass.map .assign ++ states.rules.map .raise

def TargetStates.all (states : TargetStates) : List EncounterState :=
  states.pass ++ states.rules

@[simp]
theorem TargetStates.map_state_writes (states : TargetStates) :
    states.writes.map Write.state = states.all := by
  rw [writes, List.map_append, map_state_assign, map_state_raise, all]

section OneBody

variable (lib : MathLibrary) (odd : OddDomain) (params : RuleParameters)
  (library : List ColregsRule) (target : TargetGeometricState) (nowS : Float) (threat : Threat)

/-- The release pass takes every machine that there is through one transition. -/
def passStates (memory : TargetMemory) : List EncounterState :=
  if threat.releasePredicted then
    PrimaryRule.all.filterMap fun rule =>
      (memory.fsms.get rule).map fun fsm => (releasedFsm target nowS threat rule fsm).state
  else []

/-- Every primary rule takes its machine through one. -/
def ruleStates : List ColregsRule → TargetMemory → List EncounterState
  | [], _ => []
  | .primary rule :: later, memory =>
      (primaryFsm lib params target nowS threat memory rule).state ::
        ruleStates later (memory.afterPrimary lib params target nowS threat rule)
  | .secondary _ :: later, memory => ruleStates later memory

def targetStates (currentRng : Float) (memory : TargetMemory) : TargetStates :=
  let threat := Colregs.threat lib params target memory currentRng
  let pass := releasedPass target nowS threat memory none
  { pass := passStates target nowS threat memory
    rules :=
      if endsBehind threat pass then []
      else ruleStates lib params target nowS threat library pass.memory
    ends := endsBehind threat pass }

variable {lib odd params library target nowS threat}

/-- The slot is the only thing the pass does with the slot. -/
theorem releasedPass_slot (memory : TargetMemory) (semanticState : Option EncounterState) :
    releasedPass target nowS threat memory semanticState =
      { releasedPass target nowS threat memory none with
        semanticState :=
          writeAll EncounterState.rank semanticState
            ((passStates target nowS threat memory).map .assign) } := by
  unfold releasedPass passStates
  split_ifs
  · obtain ⟨latches, ⟨fsm13, fsm14, fsm15⟩⟩ := memory
    cases fsm13 <;> cases fsm14 <;> cases fsm15 <;> rfl
  · rfl

theorem releasedPass_memory (memory : TargetMemory) (semanticState : Option EncounterState) :
    (releasedPass target nowS threat memory semanticState).memory =
      (releasedPass target nowS threat memory none).memory := by
  rw [releasedPass_slot]

theorem some_aggregate (slot : Option EncounterState) (state : EncounterState) :
    some (aggregate slot state) = (Write.raise state).apply EncounterState.rank slot := by
  cases slot with
  | none => rfl
  | some held =>
    unfold aggregate Write.apply
    dsimp only
    split_ifs <;> rfl

/-- The rules raise the slot. -/
theorem evaluateRulesIn_semanticState (memory : TargetMemory)
    (semanticState : Option EncounterState) :
    (evaluateRulesIn lib odd params library target nowS threat memory
      semanticState).semanticState =
        writeAll EncounterState.rank semanticState
          ((ruleStates lib params target nowS threat library memory).map .raise) := by
  have folded : ∀ (library : List ColregsRule) (evaluated : Evaluated),
      (library.foldl (evaluateRule lib odd params target nowS threat) evaluated).semanticState =
        writeAll EncounterState.rank evaluated.semanticState
          ((ruleStates lib params target nowS threat library evaluated.memory).map .raise) := by
    intro library
    induction library with
    | nil => exact fun _ => rfl
    | cons rule later inductionHypothesis =>
      intro evaluated
      rw [List.foldl_cons, inductionHypothesis]
      cases rule with
      | primary rule =>
        rw [ruleStates, List.map_cons, writeAll_cons, ← some_aggregate]
        rfl
      | secondary rule => rfl
  exact folded library { memory, semanticState }

/-- Behind the pass the rules raise the slot, if the encounter goes on. Otherwise an empty slot
may still take the state of the first machine, before the machines are erased. -/
theorem afterReleaseIn_semanticState (lib : MathLibrary) (odd : OddDomain)
    (params : RuleParameters) (library : List ColregsRule) (target : TargetGeometricState)
    (nowS : Float) (threat : Threat) (pass : ReleasePass) :
    let rules :=
      if endsBehind threat pass then []
      else ruleStates lib params target nowS threat library pass.memory
    let outcome := afterReleaseIn lib odd params library target nowS threat pass
    outcome.semanticState =
        writeAll EncounterState.rank pass.semanticState (rules.map .raise) ∨
      pass.semanticState = none ∧ rules = [] ∧ outcome.memory.Erased := by
  unfold afterReleaseIn endsBehind
  dsimp only
  by_cases released : (pass.transitionedToRelease && pass.latchReleasedNow) = true
  · rw [if_pos released, released, Bool.true_or, if_pos rfl]
    exact .inl rfl
  · rw [if_neg released, Bool.not_eq_true _ |>.mp released, Bool.false_or]
    split_ifs with known
    · cases held : pass.semanticState with
      | some state => exact .inl rfl
      | none => exact .inr ⟨rfl, rfl, pass.memory.resolve_erased⟩
    · exact .inl (evaluateRulesIn_semanticState _ _)

/-- A body writes its states to the slot. An empty slot stays empty where it has none, or the
machines are erased with it. -/
theorem reasonTargetIn_semanticState (lib : MathLibrary) (odd : OddDomain)
    (params : RuleParameters) (library : List ColregsRule) (target : TargetGeometricState)
    (nowS : Float) (currentRng : Float) (memory : TargetMemory)
    (semanticState : Option EncounterState) :
    let states := targetStates lib params library target nowS currentRng memory
    let outcome :=
      reasonTargetIn lib odd params library target nowS currentRng memory semanticState
    outcome.semanticState = writeAll EncounterState.rank semanticState states.writes ∨
      semanticState = none ∧ states.writes = [] ∧ outcome.memory.Erased := by
  intro states outcome
  let threat := Colregs.threat lib params target memory currentRng
  have behind := afterReleaseIn_semanticState lib odd params library target nowS threat
    (releasedPass target nowS threat memory semanticState)
  rw [releasedPass_slot] at behind
  refine behind.imp (fun written => ?_) fun ⟨empty, unraised, erased⟩ => ?_
  · refine Eq.trans ?_ (written.trans (writeAll_append _ _ _).symm)
    exact congrArg (fun pass => (afterReleaseIn lib odd params library target nowS threat
      pass).semanticState) (releasedPass_slot memory semanticState)
  · obtain ⟨slot, unassigned⟩ := writeAll_eq_none.mp empty
    refine ⟨slot, ?_, ?_⟩
    · refine (congrArg₂ (· ++ ·) unassigned ?_ : _ = [] ++ [])
      exact List.map_eq_nil_iff.mpr unraised
    · rw [← releasedPass_slot] at erased
      exact erased

end OneBody

/-! ### The slot of a key -/

section Slot

variable (config : Config) (library : List ColregsRule) (odd : OddDomain) (world : WorldState)

/-- The states that the body of a target produces, from the cycle so far. -/
def Cycle.statesOf (cycle : Cycle) (target : TargetGeometricState) : TargetStates :=
  targetStates config.lib (currentRuleParams config odd) library target (seconds world.stamp)
    (currentRange world.targets target.mmsi) (cycle.memory target.mmsi)

/-- The states that the bodies of a key produce, body by body. -/
def Cycle.statesAt (mmsi : UInt32) : Cycle → List TargetGeometricState → List TargetStates
  | _, [] => []
  | cycle, target :: later =>
      let rest := statesAt mmsi (cycle.addIn config library odd world target) later
      if target.mmsi = mmsi then cycle.statesOf config library odd world target :: rest else rest

/-- The states that a reasoning cycle produces for a key. -/
def ColregsReasonerNode.statesAt (node : ColregsReasonerNode) (mmsi : UInt32) :
    List TargetStates :=
  Cycle.statesAt config library node.domain world mmsi { memory := (node.observe world).memory }
    (convertWorldState config.lib world)

variable {config library odd world}

/-- The slot of a key is what has been written to it. Where nothing has been, it may hold the
state of a machine that is erased with the others. -/
def Cycle.Follows (cycle : Cycle) (mmsi : UInt32) (writes : List (Write EncounterState)) : Prop :=
  cycle.semanticState mmsi = writeAll EncounterState.rank none writes ∨
    writes = [] ∧ (cycle.memory mmsi).Erased

section Erased

variable {lib : MathLibrary} {params : RuleParameters} {target : TargetGeometricState}
  {nowS currentRng : Float} {memory : TargetMemory} {semanticState : Option EncounterState}

/-- The encounter of a resolved target ends. -/
theorem targetStates_ends (resolved : memory.resolved = true) :
    (targetStates lib params library target nowS currentRng memory).ends = true := by
  unfold targetStates endsBehind
  dsimp only
  rw [releasedPass_resolved, resolved, Bool.or_true, Bool.or_true]

/-- And its rules are not reached. -/
theorem targetStates_rules
    (ends : (targetStates lib params library target nowS currentRng memory).ends = true) :
    (targetStates lib params library target nowS currentRng memory).rules = [] :=
  if_pos ends

/-- An erased target produces nothing. -/
theorem targetStates_erased (erased : memory.Erased) :
    (targetStates lib params library target nowS currentRng memory).writes = [] := by
  have pass : (targetStates lib params library target nowS currentRng memory).pass = [] := by
    simp [targetStates, passStates, erased.fsms]
  rw [TargetStates.writes, pass, targetStates_rules (targetStates_ends erased.resolved)]
  rfl

/-- Where its encounter ends, a target is erased. -/
theorem reasonTargetIn_erased
    (ends : (targetStates lib params library target nowS currentRng memory).ends = true) :
    (reasonTargetIn lib odd params library target nowS currentRng memory
      semanticState).memory.Erased := by
  let threat := Colregs.threat lib params target memory currentRng
  let pass := releasedPass target nowS threat memory semanticState
  have endsPass : endsBehind threat pass = true := by
    rw [show pass = _ from releasedPass_slot memory semanticState]
    exact ends
  have resolves : (reasonTargetIn lib odd params library target nowS currentRng memory
      semanticState).memory = pass.memory.resolve := by
    unfold reasonTargetIn afterReleaseIn
    dsimp only
    by_cases released : (pass.transitionedToRelease && pass.latchReleasedNow) = true
    · rw [if_pos released]
    · rw [if_neg released]
      refine congrArg TargetOutcome.memory (if_pos ?_)
      exact (Bool.or_eq_true_iff.mp endsPass).resolve_left released
  rw [resolves]
  exact pass.memory.resolve_erased

end Erased

variable {cycle : Cycle} {writes : List (Write EncounterState)}

/-- A body with the key adds its writes. -/
theorem Cycle.Follows.addIn_self {target : TargetGeometricState}
    (follows : cycle.Follows target.mmsi writes) :
    (cycle.addIn config library odd world target).Follows target.mmsi
      (writes ++ (cycle.statesOf config library odd world target).writes) := by
  have stepped := reasonTargetIn_semanticState config.lib odd (currentRuleParams config odd)
    library target (seconds world.stamp) (currentRange world.targets target.mmsi)
    (cycle.memory target.mmsi) (cycle.semanticState target.mmsi)
  unfold Cycle.Follows Cycle.addIn Cycle.statesOf
  dsimp only at stepped ⊢
  rw [Function.update_self, Function.update_self]
  obtain held | ⟨rfl, erased⟩ := follows
  · obtain written | ⟨empty, unwritten, stays⟩ := stepped
    · left
      rw [written, held, writeAll_append]
    · right
      rw [unwritten, List.append_nil]
      exact ⟨(writeAll_eq_none.mp (held.symm.trans empty)).2, stays⟩
  · right
    rw [targetStates_erased erased]
    exact ⟨rfl, reasonTargetIn_erased (targetStates_ends erased.resolved)⟩

/-- A body with another key adds none. -/
theorem Cycle.Follows.addIn_other {target : TargetGeometricState} {mmsi : UInt32}
    (follows : cycle.Follows mmsi writes) (different : target.mmsi ≠ mmsi) :
    (cycle.addIn config library odd world target).Follows mmsi writes := by
  unfold Cycle.Follows Cycle.addIn
  dsimp only
  rw [Function.update_of_ne different.symm, Function.update_of_ne different.symm]
  exact follows

/-- After some bodies the slot follows the writes of those with its key. -/
theorem Cycle.Follows.foldl {mmsi : UInt32} (targets : List TargetGeometricState)
    (follows : cycle.Follows mmsi writes) :
    (targets.foldl (Cycle.addIn config library odd world) cycle).Follows mmsi
      (writes ++
        (Cycle.statesAt config library odd world mmsi cycle targets).flatMap
          TargetStates.writes) := by
  induction targets generalizing cycle writes with
  | nil => simpa [Cycle.statesAt] using follows
  | cons target later inductionHypothesis =>
    rw [List.foldl_cons, Cycle.statesAt]
    split_ifs with own
    · subst own
      rw [List.flatMap_cons, ← List.append_assoc]
      exact inductionHypothesis follows.addIn_self
    · exact inductionHypothesis (follows.addIn_other own)

end Slot

/-- What a reasoning cycle has written to the slot of a key is what the slot holds. -/
theorem ColregsReasonerNode.semanticState_cycleIn (config : Config) (library : List ColregsRule)
    (world : WorldState) (node : ColregsReasonerNode) (mmsi : UInt32) :
    let writes := (node.statesAt config library world mmsi).flatMap TargetStates.writes
    writes = [] ∨
      (node.cycleIn config library world).semanticState mmsi =
        writeAll EncounterState.rank none writes := by
  have start : Cycle.Follows { memory := (node.observe world).memory } mmsi [] := .inl rfl
  have follows : (node.cycleIn config library world).Follows mmsi
      ((node.statesAt config library world mmsi).flatMap TargetStates.writes) :=
    start.foldl (convertWorldState config.lib world)
  exact follows.symm.imp_left And.left

end MassL3.M6.Colregs
