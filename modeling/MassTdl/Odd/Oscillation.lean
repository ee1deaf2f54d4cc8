/-
This file is about a state machine of the envelope whose inputs stay the same. Its state settles
after a few steps, unless the score is at once high enough to enter the envelope and low enough to
leave it, which happens when zone C raises the threshold of leaving above that of entering. Then
the machine goes in and out with every step.
-/

import MassTdl.Odd.StateMachine

namespace MassL3.M1

open Binary64 (lt_iff not_le_of_lt lt_of_number_of_not_le chain_lt chain_lt_le)
open Runs (Settles)

/-! ### Which rule decides -/

/-- No rule in front of the rules of the states applies. -/
structure StepInputs.LeftToState (inputs : StepInputs) : Prop where
  notOverridden : ¬ (inputs.events.overrideActive ∨ inputs.events.reflexActivation)
  number : ¬ inputs.score.isNaN
  unalarmed : ¬ (inputs.events.m7SafetyCritical ∨ inputs.events.m7SafetyMrcRequired)
  notCritical : inputs.zoneHealth.health ≠ .critical

namespace OddStateMachine

variable {machine other : OddStateMachine} {inputs : StepInputs}

theorem step_thresholds (machine : OddStateMachine) (inputs : StepInputs) :
    (machine.step inputs).thresholds = machine.thresholds := by
  have kept : ∀ next rationale,
      (machine.transit next inputs.now rationale).thresholds = machine.thresholds := by
    intro next rationale
    unfold transit
    split <;> rfl
  unfold step
  split_ifs <;> exact kept _ _

/-- A step that keeps the state keeps the machine. -/
theorem step_eq_of_current (same : (machine.step inputs).current = machine.current) :
    machine.step inputs = machine := by
  have rests : ∀ next rationale, (machine.transit next inputs.now rationale).current =
      machine.current → machine.transit next inputs.now rationale = machine := by
    intro next rationale unchanged
    rw [transit_current] at unchanged
    unfold transit
    rw [if_neg (not_not.mpr unchanged.symm)]
  revert same
  unfold step
  split_ifs <;> exact rests _ _

theorem step_current_of_left (left : inputs.LeftToState) (machine : OddStateMachine) :
    (machine.step inputs).current = machine.computeNext (machine.effectiveScore inputs)
      inputs.tdlS inputs.tmrS inputs.events inputs.zoneHealth := by
  rw [step_current, if_neg left.notOverridden, if_neg left.number, if_neg left.unalarmed,
    if_neg left.notCritical]

/-- Where another rule decides, the state does not matter. -/
theorem step_current_of_not_left (notLeft : ¬ inputs.LeftToState) :
    (machine.step inputs).current = (other.step inputs).current := by
  rw [step_current, step_current]
  split_ifs with overridden undefined alarmed critical
  · rfl
  · rfl
  · rfl
  · rfl
  · exact absurd ⟨overridden, undefined, alarmed, critical⟩ notLeft

/-! ### The readings -/

/-- The score is high enough to enter the envelope. -/
def Enters (machine : OddStateMachine) (inputs : StepInputs) : Prop :=
  machine.effectiveScore inputs ≥ machine.thresholds.inToEdge

/-- The score is low enough to leave the envelope. -/
def Leaves (machine : OddStateMachine) (inputs : StepInputs) : Prop :=
  machine.effectiveScore inputs ≤ 0.0 ∨
    machine.effectiveScore inputs < machine.edgeToOut inputs.zoneHealth

/-- The machine waits in its preparation for time enough. -/
def Waits (machine : OddStateMachine) (inputs : StepInputs) : Prop :=
  machine.current = .mrcPrep ∧ ¬ inputs.tdlS > inputs.tmrS

/-- The states decide on a score that both enters and leaves. -/
structure Flips (machine : OddStateMachine) (inputs : StepInputs) : Prop where
  left : inputs.LeftToState
  enters : machine.Enters inputs
  leaves : machine.Leaves inputs
  free : ¬ machine.Waits inputs

/-- Along a run the thresholds, and with them the readings, stay the same. -/
def Alike (machine other : OddStateMachine) : Prop := other.thresholds = machine.thresholds

theorem Alike.effectiveScore (alike : machine.Alike other) (inputs : StepInputs) :
    other.effectiveScore inputs = machine.effectiveScore inputs := by
  unfold OddStateMachine.effectiveScore
  rw [alike]

theorem Alike.edgeToOut (alike : machine.Alike other) (zoneHealth : OddZoneHealthPair) :
    other.edgeToOut zoneHealth = machine.edgeToOut zoneHealth := by
  unfold OddStateMachine.edgeToOut
  rw [alike]

theorem Alike.step (inputs : StepInputs) (alike : machine.Alike other) :
    machine.Alike (other.step inputs) :=
  (step_thresholds other inputs).trans alike

/-! ### Scores that flip -/

/-- From a state that does not wait, a score that both enters and leaves goes out of the envelope
if it was in it, and in otherwise. -/
theorem Flips.step_current (flips : machine.Flips inputs) :
    (machine.step inputs).current =
      if machine.current = .inEnvelope then .out else .inEnvelope := by
  obtain ⟨left, enters, leaves, free⟩ := flips
  rw [step_current_of_left left]
  unfold Enters at enters
  unfold Leaves at leaves
  unfold Waits at free
  unfold computeNext
  cases state : machine.current with
  | inEnvelope => simp [handleInState, leaves]
  | edge => simp [handleEdgeState, enters]
  | mrcPrep =>
    rw [state] at free
    have soon : inputs.tdlS > inputs.tmrS := not_not.mp fun late => free ⟨rfl, late⟩
    have unalarmed := not_or.mp left.unalarmed
    simp [handleMrcPrepState, unalarmed, soon, enters]
  | mrcActive =>
    have unalarmed := not_or.mp left.unalarmed
    simp [handleMrcActiveState, unalarmed, enters]
  | out | overridden => simp [handleOutState, enters]

/-- It flips back and forth for ever. -/
theorem Flips.not_settles (flips : machine.Flips inputs) :
    ¬ Settles OddStateMachine.step inputs machine := by
  have again : ∀ other, machine.Alike other ∧ ¬ other.Waits inputs → other.Flips inputs := by
    rintro other ⟨alike, free⟩
    refine ⟨flips.left, ?_, ?_, free⟩
    · unfold Enters
      rw [alike.effectiveScore, alike]
      exact flips.enters
    · unfold Leaves
      rw [alike.effectiveScore, alike.edgeToOut]
      exact flips.leaves
  refine Runs.not_settles_of_invariant (fun other => machine.Alike other ∧ ¬ other.Waits inputs)
    ?_ ?_ ⟨rfl, flips.free⟩
  · intro other free
    refine ⟨free.1.step inputs, fun waits => ?_⟩
    have moved := (again other free).step_current
    rw [waits.1] at moved
    split_ifs at moved
  · intro other free rests
    have moved := (again other free).step_current
    rw [rests] at moved
    split_ifs at moved with state
    · rw [state] at moved
      cases moved
    · exact state moved

/-! ### Scores that settle -/

/-- A machine that waits stays where it is. -/
theorem settles_of_waits (left : inputs.LeftToState) (waits : machine.Waits inputs) :
    Settles OddStateMachine.step inputs machine := by
  have unalarmed := not_or.mp left.unalarmed
  refine ⟨0, step_eq_of_current ?_⟩
  rw [Function.iterate_zero_apply, step_current_of_left left]
  unfold computeNext
  simp [waits.1, handleMrcPrepState, unalarmed, waits.2]

/-- While the score enters the envelope and does not leave it, a step that changes the state leads
into the envelope. -/
theorem step_current_of_enters (left : inputs.LeftToState) (alike : machine.Alike other)
    (enters : machine.Enters inputs) (stays : ¬ machine.Leaves inputs)
    (changed : (other.step inputs).current ≠ other.current) :
    other.current ≠ .inEnvelope ∧ (other.step inputs).current = .inEnvelope := by
  have unalarmed := not_or.mp left.unalarmed
  rw [step_current_of_left left, alike.effectiveScore] at changed ⊢
  unfold computeNext at changed ⊢
  rw [alike.edgeToOut, alike] at changed ⊢
  unfold Enters at enters
  unfold Leaves at stays
  have notBelow : ¬ machine.effectiveScore inputs < machine.thresholds.inToEdge :=
    fun below => not_le_of_lt below enters
  cases state : other.current with
  | inEnvelope =>
    rw [state] at changed
    exact absurd (by simp [handleInState, stays, notBelow]) changed
  | edge => simp [handleEdgeState, enters]
  | mrcPrep =>
    rw [state] at changed
    by_cases soon : inputs.tdlS > inputs.tmrS
    · simp [handleMrcPrepState, unalarmed, soon, enters]
    · exact absurd (by simp [handleMrcPrepState, unalarmed, soon]) changed
  | mrcActive => simp [handleMrcActiveState, unalarmed, enters]
  | out | overridden => simp [handleOutState, enters]

/-- So the machine comes to rest in the envelope, or where it is. -/
theorem settles_of_enters (left : inputs.LeftToState) (enters : machine.Enters inputs)
    (stays : ¬ machine.Leaves inputs) : Settles OddStateMachine.step inputs machine := by
  refine Runs.settles_of_rank machine.Alike (fun _ alike => alike.step inputs)
    (fun other => if other.current = .inEnvelope then 0 else 1) (fun other alike moves => ?_) rfl
  obtain ⟨outside, entered⟩ := step_current_of_enters left alike enters stays
    fun same => moves (step_eq_of_current same)
  simp only [entered, outside, if_true, if_false]
  exact Nat.zero_lt_one

/-- How far a state is from rest while the score does not enter the envelope: the way leads from
the envelope or an override over the outside to the edge or the other way about, and between the
edge and the preparation the times decide. -/
def restRank (below late : Bool) : EnvelopeState → ℕ
  | .inEnvelope | .overridden => 4
  | .out => if below then 0 else 3
  | .edge => 2
  | .mrcPrep => if late then 1 else 3
  | .mrcActive => 0

theorem restRank_out_lt (below late : Bool) : restRank below late .out < 4 := by
  cases below <;> cases late <;> decide

/-- While the score does not enter the envelope, every step that changes the state comes nearer to
rest. -/
theorem restRank_step_lt (left : inputs.LeftToState) (alike : machine.Alike other)
    (below : ¬ machine.Enters inputs)
    (changed : (other.step inputs).current ≠ other.current) :
    restRank (machine.effectiveScore inputs < machine.edgeToOut inputs.zoneHealth)
        (inputs.tdlS ≤ inputs.tmrS) (other.step inputs).current <
      restRank (machine.effectiveScore inputs < machine.edgeToOut inputs.zoneHealth)
        (inputs.tdlS ≤ inputs.tmrS) other.current := by
  have unalarmed := not_or.mp left.unalarmed
  rw [step_current_of_left left, alike.effectiveScore] at changed ⊢
  unfold computeNext at changed ⊢
  rw [alike.edgeToOut, alike] at changed ⊢
  unfold Enters at below
  generalize machine.effectiveScore inputs = score at below changed ⊢
  generalize machine.edgeToOut inputs.zoneHealth = edgeToOut at changed ⊢
  cases state : other.current with
  | inEnvelope =>
    simp only [state] at changed ⊢
    unfold handleInState at changed ⊢
    split_ifs at changed ⊢
    · exact restRank_out_lt _ _
    · exact (by decide : 2 < 4)
    · exact absurd rfl changed
  | edge =>
    simp only [state] at changed ⊢
    unfold handleEdgeState at changed ⊢
    split_ifs at changed ⊢ with out late
    · simp [restRank, out]
    · simp [restRank, late]
    · exact absurd rfl changed
  | mrcPrep =>
    simp only [state] at changed ⊢
    unfold handleMrcPrepState at changed ⊢
    split_ifs at changed ⊢ with required soon reaches
    · exact absurd required unalarmed.2
    · have notLate : ¬ inputs.tdlS ≤ inputs.tmrS := fun late => not_le_of_lt soon.2 late
      simp [restRank, notLate]
    · exact absurd rfl changed
    · exact absurd rfl changed
  | mrcActive =>
    simp only [state] at changed
    exact absurd (by simp [handleMrcActiveState, below]) changed
  | out =>
    simp only [state] at changed ⊢
    unfold handleOutState at changed ⊢
    split_ifs at changed ⊢ with reaches
    · have notBelow : ¬ score < edgeToOut := fun under => not_le_of_lt under reaches
      simp [restRank, notBelow]
    · exact absurd rfl changed
  | overridden =>
    simp only
    unfold handleOutState
    split_ifs
    · exact (by decide : 2 < 4)
    · exact restRank_out_lt _ _

/-- A score that does not enter the envelope leads away from it for good. -/
theorem settles_of_not_enters (left : inputs.LeftToState) (below : ¬ machine.Enters inputs) :
    Settles OddStateMachine.step inputs machine :=
  Runs.settles_of_rank machine.Alike (fun _ alike => alike.step inputs)
    (fun other => restRank
      (machine.effectiveScore inputs < machine.edgeToOut inputs.zoneHealth)
      (inputs.tdlS ≤ inputs.tmrS) other.current)
    (fun _ alike moves => restRank_step_lt left alike below
      fun same => moves (step_eq_of_current same)) rfl

/-- A rule in front of the states leads to its state at once. -/
theorem settles_of_not_left (notLeft : ¬ inputs.LeftToState) (machine : OddStateMachine) :
    Settles OddStateMachine.step inputs machine :=
  ⟨1, step_eq_of_current (step_current_of_not_left notLeft)⟩

/-- Under constant inputs the machine settles exactly if it does not flip. -/
theorem settles_iff (machine : OddStateMachine) (inputs : StepInputs) :
    Settles OddStateMachine.step inputs machine ↔ ¬ machine.Flips inputs := by
  refine ⟨fun settles flips => flips.not_settles settles, fun steady => ?_⟩
  by_cases left : inputs.LeftToState
  · by_cases enters : machine.Enters inputs
    · by_cases leaves : machine.Leaves inputs
      · exact settles_of_waits left (not_not.mp fun free => steady ⟨left, enters, leaves, free⟩)
      · exact settles_of_enters left enters leaves
    · exact settles_of_not_enters left enters
  · exact settles_of_not_left left machine

end OddStateMachine

/-! ### A flipping machine -/

/-- Thresholds in order, both below the one of zone C. -/
def lowThresholds : StateMachineThresholds where
  inToEdge := 0.5
  edgeToOut := 0.3
  staleDegradationFactor := 0.8

/-- A score above the threshold of entering in zone C. -/
def scoreInZoneC : StepInputs where
  score := 0.55
  tdlS := 100.0
  tmrS := 60.0
  events := {}
  zoneHealth := { zone := .c }
  now := 1

/-- The machine that is created with them. -/
def lowMachine : OddStateMachine where
  thresholds := lowThresholds
  current := .inEnvelope
  lastTransitionAt := 0
  currentRationale := "Initial state: IN (within operational envelope)"

theorem created_machine_flips :
    OddStateMachine.create lowThresholds 0 = .ok lowMachine ∧
      ¬ Settles OddStateMachine.step scoreInZoneC lowMachine := by
  constructor
  · unfold OddStateMachine.create
    rw [if_neg (by decide), if_neg (by decide), if_neg (by decide)]
    rfl
  have left : scoreInZoneC.LeftToState := ⟨by decide, by decide, by decide, by decide⟩
  have enters : lowMachine.Enters scoreInZoneC := by
    show (0.55 : Float) ≥ 0.5
    decide
  have tightened : lowMachine.edgeToOut scoreInZoneC.zoneHealth = 0.6 := by
    unfold OddStateMachine.edgeToOut
    rw [if_pos (by decide)]
  have leaves : lowMachine.Leaves scoreInZoneC := by
    right
    rw [tightened]
    show (0.55 : Float) < 0.6
    decide
  refine OddStateMachine.Flips.not_settles ⟨left, enters, leaves, ?_⟩
  rintro ⟨preparing, -⟩
  cases preparing

end MassL3.M1
