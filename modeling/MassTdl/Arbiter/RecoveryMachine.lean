/-
This file is about the recovery of the route within one tick. Three values are carried from tick
to tick: whether a turn has armed the recovery, whether it is under way, and for how many ticks
the ship has been back on its route. They move as a small machine of their own, driven by what
each tick sees, and the stages of a tick step it once or leave it alone.
-/

import MassTdl.Arbiter.LiveConflict

namespace MassL3.M4

open MassL3.Risk
open Runs (Begins EndsIn)

/-! ### The lifecycle -/

/-- What the recovery carries from tick to tick. -/
structure Lifecycle where
  armed : Bool := false
  active : Bool := false
  dwell : Nat := 0

/-- What a tick tells the recovery: a turn is under way, a conflict is active, the ship is back
on its route, there is something to restore. -/
structure Signals where
  turn : Bool
  conflict : Bool
  restored : Bool
  pending : Bool

/-- What an event of the node is for the recovery. -/
inductive Occasion where
  | idle
  | reset
  | evaluated (signals : Signals)

def Lifecycle.step (lifecycle : Lifecycle) : Occasion → Lifecycle
  | .idle => lifecycle
  | .reset => {}
  | .evaluated signals =>
      let armed := lifecycle.armed || signals.turn
      if signals.conflict then ⟨armed, false, 0⟩
      else if lifecycle.active then
        if signals.restored then
          let dwell := lifecycle.dwell + 1
          ⟨false, decide (dwell < kRecoveryReleaseDwellCycles), dwell⟩
        else ⟨false, true, 0⟩
      else if armed && signals.pending then ⟨false, true, 0⟩
      else ⟨false, false, lifecycle.dwell⟩

/-- The lifecycle after the first occasions. -/
def lifecycleAt (occasion : ℕ → Occasion) : ℕ → Lifecycle
  | 0 => {}
  | index + 1 => (lifecycleAt occasion index).step (occasion index)

/-- The signals of the first occasions that have any. -/
def signalsBefore (occasion : ℕ → Occasion) (count : ℕ) : List Signals :=
  (List.range count).filterMap fun index =>
    match occasion index with
    | .evaluated signals => some signals
    | _ => none

section Laws

variable {occasion : ℕ → Occasion} {signals : Signals} {index : ℕ}

/-- A turn was under way, and neither a release nor a reset came between it and the occasion. -/
def TurnLasts (occasion : ℕ → Occasion) (index : ℕ) : Prop :=
  ∃ turn < index, (∃ signals, occasion turn = .evaluated signals ∧ signals.turn = true) ∧
    ∀ between, turn < between → between < index → occasion between ≠ .reset ∧
      ∀ signals, occasion between = .evaluated signals → signals.conflict = true

/-- Turns are made only in a conflict. -/
def TurnsInConflict (occasion : ℕ → Occasion) : Prop :=
  ∀ index signals, occasion index = .evaluated signals → signals.turn = true →
    signals.conflict = true

theorem TurnLasts.succ (lasts : TurnLasts occasion index) (notReset : occasion index ≠ .reset)
    (inConflict : ∀ signals, occasion index = .evaluated signals → signals.conflict = true) :
    TurnLasts occasion (index + 1) := by
  obtain ⟨turn, earlier, turned, between⟩ := lasts
  refine ⟨turn, Nat.lt_succ_of_lt earlier, turned, fun later after upTo => ?_⟩
  rcases Nat.lt_succ_iff_lt_or_eq.mp upTo with before | rfl
  · exact between later after before
  · exact ⟨notReset, inConflict⟩

/-- The recovery is armed only while a turn lasts. -/
theorem turnLasts_of_armed (index : ℕ)
    (armed : (lifecycleAt occasion index).armed = true) : TurnLasts occasion index := by
  induction index with
  | zero => cases armed
  | succ index inductionHypothesis =>
    cases seen : occasion index with
    | idle =>
      rw [lifecycleAt, seen] at armed
      exact (inductionHypothesis armed).succ (by rw [seen]; exact Occasion.noConfusion)
        fun signals evaluated => by rw [seen] at evaluated; cases evaluated
    | reset =>
      rw [lifecycleAt, seen] at armed
      cases armed
    | evaluated signals =>
      have inConflict : signals.conflict = true := by
        rw [lifecycleAt, seen] at armed
        by_contra quiet
        unfold Lifecycle.step at armed
        simp only [quiet, if_false] at armed
        split_ifs at armed
      have lasting : ∀ others, occasion index = .evaluated others → others.conflict = true := by
        intro others evaluated
        rw [seen] at evaluated
        cases evaluated
        exact inConflict
      have notReset : occasion index ≠ .reset := by
        rw [seen]
        exact Occasion.noConfusion
      cases turned : signals.turn with
      | true =>
        exact ⟨index, Nat.lt_succ_self index, ⟨signals, seen, turned⟩,
          fun between after upTo => absurd (Nat.lt_succ_iff.mp upTo) (Nat.not_le.mpr after)⟩
      | false =>
        refine (inductionHypothesis ?_).succ notReset lasting
        rw [lifecycleAt, seen] at armed
        unfold Lifecycle.step at armed
        simpa only [inConflict, turned, if_true, Bool.or_false] using armed

/-- A recovery begins only at the release of a turn. -/
theorem Lifecycle.enters (turns : TurnsInConflict occasion)
    (enters : Begins (fun count => (lifecycleAt occasion count).active = true) index) :
    TurnLasts occasion index ∧
      ∃ signals, occasion index = .evaluated signals ∧ signals.conflict = false := by
  obtain ⟨inactive, active⟩ := enters
  rw [lifecycleAt] at active
  cases seen : occasion index with
  | idle =>
    rw [seen] at active
    exact absurd active inactive
  | reset =>
    rw [seen] at active
    cases active
  | evaluated signals =>
    rw [seen] at active
    unfold step at active
    simp only [inactive, if_false] at active
    split_ifs at active with conflict armed
    have released : signals.conflict = false := Bool.eq_false_iff.mpr conflict
    refine ⟨turnLasts_of_armed index ?_, signals, rfl, released⟩
    have still : signals.turn = false :=
      Bool.eq_false_iff.mpr fun turning => conflict (turns index signals seen turning)
    rw [still, Bool.or_false, Bool.and_eq_true] at armed
    exact armed.1

/-- The ship is back on its route without a conflict. -/
def Signals.Back (signals : Signals) : Prop :=
  signals.conflict = false ∧ signals.restored = true

theorem signalsBefore_succ (occasion : ℕ → Occasion) (count : ℕ) :
    signalsBefore occasion (count + 1) = signalsBefore occasion count ++
      match occasion count with
      | .evaluated signals => [signals]
      | _ => [] := by
  unfold signalsBefore
  rw [List.range_succ, List.filterMap_append]
  cases seen : occasion count <;> simp [seen]

/-- While a recovery is under way, the ship has been back on its route for as many ticks as the
dwell tells. -/
theorem endsIn_of_active (index : ℕ) (active : (lifecycleAt occasion index).active = true) :
    EndsIn Signals.Back (lifecycleAt occasion index).dwell (signalsBefore occasion index) := by
  induction index with
  | zero => cases active
  | succ index inductionHypothesis =>
    rw [lifecycleAt] at active ⊢
    rw [signalsBefore_succ]
    cases seen : occasion index with
    | idle =>
      rw [seen] at active
      rw [List.append_nil]
      exact inductionHypothesis active
    | reset =>
      rw [seen] at active
      cases active
    | evaluated signals =>
      rw [seen] at active
      unfold Lifecycle.step at active ⊢
      simp only at active ⊢
      split_ifs at active ⊢ with conflict underway restored
      · exact (inductionHypothesis underway).concat ⟨Bool.eq_false_iff.mpr conflict, restored⟩
      all_goals exact EndsIn.zero _ _

/-- A recovery ends by a reset, by a conflict, or when the ship has been back on its route for
four ticks. -/
theorem Lifecycle.leaves (active : (lifecycleAt occasion index).active = true)
    (left : (lifecycleAt occasion (index + 1)).active = false) :
    occasion index = .reset ∨
      (∃ signals, occasion index = .evaluated signals ∧ signals.conflict = true) ∨
      ∃ count, kRecoveryReleaseDwellCycles ≤ count ∧
        EndsIn Signals.Back count (signalsBefore occasion (index + 1)) := by
  rw [lifecycleAt] at left
  rw [signalsBefore_succ]
  cases seen : occasion index with
  | idle =>
    rw [seen] at left
    exact absurd active (Bool.eq_false_iff.mp left)
  | reset => exact .inl rfl
  | evaluated signals =>
    rw [seen] at left
    unfold step at left
    simp only [active, if_true] at left
    split_ifs at left with conflict restored
    · exact .inr (.inl ⟨signals, rfl, conflict⟩)
    · exact .inr (.inr ⟨_, Nat.not_lt.mp (of_decide_eq_false left),
        (endsIn_of_active index active).concat ⟨Bool.eq_false_iff.mpr conflict, restored⟩⟩)

/-- A conflict ends the recovery and restarts the dwell. -/
theorem Lifecycle.conflict (seen : occasion index = .evaluated signals)
    (conflict : signals.conflict = true) :
    (lifecycleAt occasion (index + 1)).active = false ∧
      (lifecycleAt occasion (index + 1)).dwell = 0 := by
  rw [lifecycleAt, seen]
  unfold step
  simp only [conflict, if_true, and_self]

end Laws

/-! ### The recovery of a tick -/

def Decision.lifecycle (decision : Decision) : Lifecycle where
  armed := decision.colregsRecoveryArmed
  active := decision.recoveryActive
  dwell := decision.recoveryDwellCycles

/-- What a tick tells its recovery. -/
def Arbitration.signals (arbitration : Arbitration) (tracking : Option RouteTracking)
    (conflictDetected : Bool) : Signals where
  turn := arbitration.turnActive
  conflict := arbitration.conflictActive conflictDetected
  restored := !(xteBeyondGate tracking || !headingAligned tracking ||
    !arbitration.rule15AllowsRecoveryComplete)
  pending := arbitration.directive.primaryClosingSpeedMps ≤ 1.0e-6 &&
    arbitration.decision.lastColregsTargetAbaftBeam &&
    (xteBeyondGate tracking ||
      (arbitration.residualRule15CommitActive && !arbitration.rule15AllowsRecoveryComplete))

theorem Decision.lifecycle_release (decision : Decision) (released : Bool) :
    (decision.release released).lifecycle =
      { decision.lifecycle with armed := decision.colregsRecoveryArmed && !released } := by
  unfold release
  cases released
  · rw [if_neg Bool.false_ne_true, Bool.not_false, Bool.and_true]
    rfl
  · rw [if_pos rfl, Bool.not_true, Bool.and_false]
    rfl

/-- A recovery that advances, before the release disarms it. -/
theorem Arbitration.lifecycle_advanceRecovery (arbitration : Arbitration)
    (tracking : Option RouteTracking) (conflictDetected : Bool) :
    (arbitration.advanceRecovery tracking).lifecycle =
      let signals := arbitration.signals tracking conflictDetected
      let lifecycle := arbitration.decision.lifecycle
      if lifecycle.active then
        if signals.restored then
          { lifecycle with
            active := decide (lifecycle.dwell + 1 < kRecoveryReleaseDwellCycles)
            dwell := lifecycle.dwell + 1 }
        else { lifecycle with active := true, dwell := 0 }
      else if lifecycle.armed && signals.pending then { lifecycle with active := true, dwell := 0 }
      else lifecycle := by
  have pending : arbitration.entersRecovery tracking =
      (arbitration.decision.colregsRecoveryArmed &&
        (arbitration.signals tracking conflictDetected).pending) := by
    unfold entersRecovery signals
    simp only [Bool.and_assoc]
  have restored : (xteBeyondGate tracking || !headingAligned tracking ||
      !arbitration.rule15AllowsRecoveryComplete) =
        !(arbitration.signals tracking conflictDetected).restored :=
    (Bool.not_not _).symm
  unfold advanceRecovery Decision.lifecycle
  simp only [pending, restored]
  cases active : arbitration.decision.recoveryActive with
  | true =>
    cases (arbitration.signals tracking conflictDetected).restored with
    | true =>
      by_cases more : arbitration.decision.recoveryDwellCycles + 1 < kRecoveryReleaseDwellCycles
      · simp [more]
      · simp [more]
    | false => simp
  | false =>
    cases armed : arbitration.decision.colregsRecoveryArmed <;>
      cases (arbitration.signals tracking conflictDetected).pending <;> simp [active, armed]

/-- A conflict cancels the recovery, and its end disarms it. -/
theorem Arbitration.lifecycle_recover (arbitration : Arbitration)
    (tracking : Option RouteTracking) (conflictDetected : Bool) :
    (arbitration.recover tracking conflictDetected).decision.lifecycle =
      if arbitration.conflictActive conflictDetected then
        { arbitration.decision.lifecycle with active := false, dwell := 0 }
      else { (arbitration.advanceRecovery tracking).lifecycle with armed := false } := by
  cases conflict : arbitration.conflictActive conflictDetected with
  | true =>
    unfold recover
    rw [if_pos conflict, if_pos rfl]
    rfl
  | false =>
    have ended : (!conflictDetected || arbitration.riskReleased) = true := by
      have quiet := conflict
      unfold conflictActive at quiet
      revert quiet
      cases conflictDetected <;> cases arbitration.riskReleased <;> decide
    have kept : (arbitration.advanceRecovery tracking).colregsRecoveryArmed =
        arbitration.decision.colregsRecoveryArmed := by
      unfold advanceRecovery
      simp only
      split_ifs <;> rfl
    have disarmed := (arbitration.advanceRecovery tracking).lifecycle_release
      (arbitration.decision.colregsRecoveryArmed && (!conflictDetected || arbitration.riskReleased))
    rw [ended, Bool.and_true, kept, Bool.and_not_self] at disarmed
    unfold recover
    rw [if_neg (Bool.eq_false_iff.mp conflict), if_neg Bool.false_ne_true, ended, Bool.and_true,
      ← disarmed]
    simp only
    split_ifs <;> rfl

/-- The recovery of a tick moves as its lifecycle. -/
theorem Arbitration.lifecycle_recover_holdTurn (arbitration : Arbitration) (mrc : Bool)
    (tracking : Option RouteTracking) (conflictDetected : Bool) :
    ((arbitration.holdTurn mrc).recover tracking conflictDetected).decision.lifecycle =
      arbitration.decision.lifecycle.step
        (.evaluated (arbitration.signals tracking conflictDetected)) := by
  have turned : (arbitration.holdTurn mrc).signals tracking conflictDetected =
      arbitration.signals tracking conflictDetected := by
    unfold holdTurn
    split <;> rfl
  have armed : (arbitration.holdTurn mrc).decision.lifecycle =
      { arbitration.decision.lifecycle with
        armed := arbitration.decision.lifecycle.armed || arbitration.turnActive } := by
    unfold holdTurn
    cases turning : arbitration.turnActive
    · rw [if_neg Bool.false_ne_true, Bool.or_false]
    · rw [if_pos rfl, Bool.or_true]
      rfl
  have conflict : (arbitration.holdTurn mrc).conflictActive conflictDetected =
      (arbitration.signals tracking conflictDetected).conflict := by
    rw [← turned]
    rfl
  rw [lifecycle_recover, (arbitration.holdTurn mrc).lifecycle_advanceRecovery tracking
    conflictDetected, turned, armed, conflict]
  have turning : (arbitration.signals tracking conflictDetected).turn = arbitration.turnActive :=
    rfl
  unfold Lifecycle.step
  simp only [turning]
  cases underway : arbitration.decision.lifecycle.active
  · simp only [Bool.false_eq_true, if_false]
    split_ifs <;> rfl
  · simp only [if_true]
    split_ifs <;> rfl

/-- The recovery is under way after a tick that resolves to it, and only then. -/
theorem Arbitration.recoveryActive_recover (arbitration : Arbitration)
    (tracking : Option RouteTracking) (conflictDetected : Bool) :
    (arbitration.recover tracking conflictDetected).decision.recoveryActive =
      (!arbitration.conflictActive conflictDetected && arbitration.recovering tracking) := by
  cases conflict : arbitration.conflictActive conflictDetected with
  | true =>
    unfold recover
    rw [if_pos conflict]
    rfl
  | false =>
    have active : ∀ released, ((arbitration.advanceRecovery tracking).release
        released).recoveryActive = arbitration.recovering tracking := by
      intro released
      have kept : ((arbitration.advanceRecovery tracking).release released).recoveryActive =
          (arbitration.advanceRecovery tracking).recoveryActive :=
        congrArg Lifecycle.active (Decision.lifecycle_release _ released)
      rw [kept]
      unfold advanceRecovery recovering staysInRecovery
      simp only
      split_ifs <;> simp_all
    unfold recover
    rw [if_neg (Bool.eq_false_iff.mp conflict)]
    simp only
    split_ifs <;> exact active _

/-! ### Stages that leave the recovery alone -/

theorem lifecycle_hearTick (inbox : Inbox) (decision : Decision) (now : Int) :
    (hearTick inbox decision now).decision.lifecycle = decision.lifecycle := by
  obtain ⟨latch, last, ruleId, targetKey, cycles, heard⟩ := hearTick_decision inbox decision now
  rw [heard]
  rfl

theorem lifecycle_weighRisk (lib : MathLibrary) (world : WorldState)
    (tracking : Option RouteTracking) (conflictDetected sameReleasedEncounter : Bool)
    (directive : ColregsDirective) (guidance : PrimaryRiskGuidance) (decision : Decision) :
    (weighRisk lib world tracking conflictDetected sameReleasedEncounter directive guidance
      decision).decision.lifecycle = decision.lifecycle := by
  have reengaged : ∀ required : Bool, (if required then
      decision.reengage sameReleasedEncounter else decision).lifecycle = decision.lifecycle := by
    intro required
    cases required <;> rfl
  exact reengaged _

theorem lifecycle_guide (lib : MathLibrary) (world : WorldState)
    (tracking : Option RouteTracking) (conflictDetected : Bool) (msg : COLREGsConstraint)
    (decision : Decision) :
    (guide lib world tracking conflictDetected msg decision).decision.lifecycle =
      decision.lifecycle := by
  unfold guide
  simp only
  split
  · rfl
  · split
    · exact lifecycle_weighRisk _ _ _ _ _ _ _ _
    · split <;> rfl

theorem lifecycle_guideHeard (lib : MathLibrary) (world : WorldState)
    (tracking : Option RouteTracking) (heard : Heard) :
    (guideHeard lib world tracking heard).decision.lifecycle = heard.decision.lifecycle := by
  unfold guideHeard
  split
  · exact lifecycle_guide _ _ _ _ _ _
  · rfl

theorem lifecycle_planTurn (lib : MathLibrary) (world : WorldState) (nominalHdg : Float)
    (forDirective : Option COLREGsConstraint) (directive : ColregsDirective)
    (decision : Decision) :
    (planTurn lib world nominalHdg forDirective directive decision).decision.lifecycle =
      decision.lifecycle := by
  have anchored : (decision.anchorTurn directive.turnActive world).lifecycle =
      decision.lifecycle := by
    unfold Decision.anchorTurn
    split_ifs <;> rfl
  rw [← anchored]
  unfold planTurn Decision.commitRule15
  simp only
  split_ifs <;> rfl

theorem lifecycle_fallbackBox (lib : MathLibrary) (world : WorldState)
    (directive : ColregsDirective) (turn : Turn) :
    (fallbackBox lib world directive turn).decision.lifecycle = turn.decision.lifecycle := by
  unfold fallbackBox
  simp only
  split_ifs <;> rfl

theorem lifecycle_arbitrate (params : Parameters) (mission : Option MissionGoal)
    (world : WorldState) (tracking : Option RouteTracking) (heard : Heard)
    (expired : Nat → Nat → Bool) :
    (arbitrate params mission world tracking heard expired).decision.lifecycle =
      heard.decision.lifecycle := by
  unfold arbitrate runSolver
  simp only
  split_ifs
  · rfl
  · rfl
  · rw [← lifecycle_guideHeard params.lib world tracking heard]
    have planned := lifecycle_planTurn params.lib world (nominalHdg params.lib mission world)
      heard.forDirective (guideHeard params.lib world tracking heard).directive
      (guideHeard params.lib world tracking heard).decision
    split
    · exact planned
    · exact (lifecycle_fallbackBox _ _ _ _).trans planned

end MassL3.M4
