/-
This file is about emergencies: the health that silent inputs lead to, and what becomes of the
minimum-risk drift on its way to the published plan. The early return without a mission and the
recovery of the route do not ask whether the drift is active, so it is published exactly when
a conflict is heard, or a mission was received and no recovery is pending.
-/

import MassTdl.Arbiter.Stages
import Mathlib.Data.List.ReduceOption

namespace MassL3.M4

open Binary64
open MassL3.Risk

/-! ### Silent inputs -/

/-- The stamps of the four inputs that were received. -/
def Inbox.stamps (inbox : Inbox) : List Int :=
  [inbox.odd.map (·.stamp), inbox.world.map (·.stamp), inbox.mission.map (·.stamp),
    inbox.colregs.map (·.stamp)].reduceOption

/-- How many received inputs are older than the critical timeout. -/
def Inbox.silentInputs (inbox : Inbox) (now : Int) : Nat :=
  inbox.stamps.countP fun stamp => ageMs now stamp > 5000

/-- The ages of inputs that were never received count as fresh. -/
theorem countP_ages (inbox : Inbox) (now : Int) :
    (buildInputs inbox now).ages.countP (· > (buildInputs inbox now).timeoutCriticalMs) =
      inbox.silentInputs now := by
  unfold Inbox.silentInputs Inbox.stamps ArbitrationInputs.ages buildInputs
  cases inbox.odd <;> cases inbox.world <;> cases inbox.mission <;> cases inbox.colregs <;>
    simp [List.countP_cons, List.reduceOption]

/-- The health does not depend on what was heard of the conflict. -/
theorem health_hearTick (inbox : Inbox) (decision : Decision) (now : Int) :
    computeHealthState (hearTick inbox decision now).inputs =
      computeHealthState (buildInputs inbox now) := by
  obtain ⟨conflict, action, same⟩ :=
    hear_inputs inbox (buildInputs inbox now) (decision.latchM3 inbox)
  unfold hearTick
  rw [same]
  rfl

/-- The health is critical exactly when three received inputs are silent. -/
theorem health_eq_critical_iff (inbox : Inbox) (decision : Decision) (now : Int) :
    computeHealthState (hearTick inbox decision now).inputs = .critical ↔
      3 ≤ inbox.silentInputs now := by
  rw [health_hearTick, ← countP_ages]
  unfold computeHealthState
  split_ifs with silent
  · exact iff_of_true rfl silent
  · exact iff_of_false (by decide) silent
  · exact iff_of_false (by decide) silent

/-- In critical health the drift is the only active behaviour and the selected one. -/
theorem selectPrimary_of_critical {inputs : ArbitrationInputs}
    (critical : computeHealthState inputs = .critical) :
    computeActiveSet inputs = [.mrcDrift] ∧
      selectPrimary (computeActiveSet inputs) inputs = .mrcDrift := by
  have applicable : isMrcDriftApplicable inputs = true := by
    unfold isMrcDriftApplicable
    rw [critical]
    exact Bool.or_true _
  refine ⟨computeActiveSet_of_mrc applicable, ?_⟩
  unfold selectPrimary
  rw [if_pos critical]

/-! ### The drift on its way to the plan -/

/-- A conflict is heard: the latest message reports one, or one is held through a gap. -/
def conflictHeard (inbox : Inbox) (decision : Decision) : Bool :=
  match inbox.colregs with
  | some latest => latest.conflictDetected || (heldDirective latest decision).isSome
  | none => false

/-- The target of a commitment under Rule 15 neither passed nor is gone. -/
def commitmentPending (lib : MathLibrary) (world : WorldState) (decision : Decision) : Bool :=
  let key := decision.colregsRule15CommitTargetKey
  decision.colregsRule15CommitActive &&
    !((key ≠ "" && (world.find key).isNone) ||
      rule15GiveWayPassedAstern lib world {} true true key)

/-- A recovery is under way and not over yet, or an armed one begins. -/
def recoveryPending (lib : MathLibrary) (inbox : Inbox) (world : WorldState)
    (decision : Decision) : Bool :=
  let tracking := currentRouteTracking lib inbox.route world
  if decision.recoveryActive then
    xteBeyondGate tracking || !headingAligned tracking || commitmentPending lib world decision ||
      decision.recoveryDwellCycles + 1 < kRecoveryReleaseDwellCycles
  else
    decision.colregsRecoveryArmed && decision.lastColregsTargetAbaftBeam &&
      (xteBeyondGate tracking || commitmentPending lib world decision)

/-- The node does not put another behaviour in place of the drift. -/
def YieldsToMrc (lib : MathLibrary) (node : Node) : Prop :=
  conflictHeard node.inbox node.decision = true ∨
    node.inbox.mission.isSome = true ∧
      ∀ world, node.inbox.world = some world →
        recoveryPending lib node.inbox world node.decision = false

/-- The inputs of an arbitration call for the drift. -/
def IsEmergency (inbox : Inbox) (now : Int) : Prop :=
  inbox.odd.isSome = true ∧ inbox.world.isSome = true ∧
    (inbox.mode.any (·.mode = modeEmergency) = true ∨
      computeHealthState (buildInputs inbox now) = .critical)

/-- The plan stops the ship. -/
def IsDrift (plan : BehaviorPlan) : Prop :=
  plan.behavior = .mrcDrift ∧ plan.speedMaxKn = 0.0

section Drift

variable {params : Parameters} {inbox : Inbox} {decision : Decision} {now : Int}
  {expired : Nat → Nat → Bool} {world : WorldState}

theorem heldDirective_latchM3 (latest : COLREGsConstraint) :
    heldDirective latest (decision.latchM3 inbox) = heldDirective latest decision := by
  unfold Decision.latchM3
  split <;> rfl

theorem conflictDetected_hearTick :
    (hearTick inbox decision now).inputs.colregsConflictDetected =
      conflictHeard inbox decision := by
  unfold hearTick hear conflictHeard
  cases received : inbox.colregs with
  | none =>
    show inbox.colregs.any (·.conflictDetected) = false
    rw [received]
    rfl
  | some latest =>
    have reported : (buildInputs inbox now).colregsConflictDetected = latest.conflictDetected := by
      show inbox.colregs.any (·.conflictDetected) = _
      rw [received]
      rfl
    simp only [heldDirective_latchM3]
    split
    · next conflict =>
      rw [reported, conflict]
      rfl
    · next silent =>
      rw [Bool.eq_false_iff.mpr silent, Bool.false_or]
      split
      · next held found =>
        rw [found]
        rfl
      · next missing =>
        rw [missing, reported]
        exact Bool.eq_false_iff.mpr silent

/-- Hearing leaves the state of the recovery alone. -/
theorem recoveryPending_hearTick (lib : MathLibrary) :
    recoveryPending lib inbox world (hearTick inbox decision now).decision =
      recoveryPending lib inbox world decision := by
  obtain ⟨latch, last, ruleId, targetKey, cycles, same⟩ := hearTick_decision inbox decision now
  rw [same]
  rfl

/-- The arbitration of an emergency. -/
def driftArbitration (decision : Decision) : Arbitration where
  decision := decision
  primary := .mrcDrift
  hMin := 0.0
  hMax := 360.0
  sMin := 0.0
  sMax := 0.0
  confidence := 1.0

/-- In an emergency the recovery is the one of the state. -/
theorem recovering_drift (lib : MathLibrary) :
    ((driftArbitration decision).keepCommitment lib world).recovering
        (currentRouteTracking lib inbox.route world) =
      recoveryPending lib inbox world decision := by
  unfold Arbitration.recovering Arbitration.keepCommitment Arbitration.staysInRecovery
    Arbitration.entersRecovery recoveryPending commitmentPending driftArbitration
  have notClosing : decide (({} : ColregsDirective).primaryClosingSpeedMps ≤ 1.0e-6) = true := by
    decide
  cases decision.colregsRule15CommitActive <;> simp [notClosing]

/-- What an emergency resolves to: a pending recovery takes the place of the drift, unless a
conflict is heard. -/
theorem resolveBehavior_drift {heard : Heard}
    (emergency : isMrcDriftApplicable heard.inputs = true) :
    (resolveBehavior params inbox world heard expired).primary =
        (if !heard.inputs.colregsConflictDetected &&
            recoveryPending params.lib inbox world heard.decision then .recovery else .mrcDrift) ∧
      (resolveBehavior params inbox world heard expired).sMax = 0.0 := by
  have branch : arbitrate params inbox.mission world
      (currentRouteTracking params.lib inbox.route world) heard expired =
      driftArbitration heard.decision := arbitrate_of_mrc params emergency
  have box : (driftArbitration heard.decision).SameBox
      (resolveBehavior params inbox world heard expired) := by
    rw [← branch]
    exact resolveBehavior_sameBox params
  refine ⟨?_, box.sMax⟩
  have still : ((driftArbitration heard.decision).keepCommitment params.lib world).turnActive =
      false := (Arbitration.keepCommitment_sameBox _ _ _).turnActive
  rw [resolveBehavior_primary]
  simp only
  rw [branch, Arbitration.holdTurn_of_still still, recovering_drift]
  unfold Arbitration.conflictActive driftArbitration
  cases heard.inputs.colregsConflictDetected <;>
    cases recoveryPending params.lib inbox world heard.decision <;> rfl

/-- The drift applies to what a tick hears exactly in a commanded or a critical state. -/
theorem isMrcDriftApplicable_hearTick :
    isMrcDriftApplicable (hearTick inbox decision now).inputs = true ↔
      inbox.mode.any (·.mode = modeEmergency) = true ∨
        computeHealthState (buildInputs inbox now) = .critical := by
  obtain ⟨conflict, action, same⟩ :=
    hear_inputs inbox (buildInputs inbox now) (decision.latchM3 inbox)
  have mode : (hearTick inbox decision now).inputs.modeMrcTriggered =
      inbox.mode.any (·.mode = modeEmergency) := by
    unfold hearTick
    rw [same]
    rfl
  unfold isMrcDriftApplicable
  rw [mode, health_hearTick, Bool.or_eq_true, decide_eq_true_iff]

/-- A resolved drift is published as such. -/
theorem isDrift_of_arbitration {odd : ODDState} (known : inbox.odd = some odd)
    (seen : inbox.world = some world)
    (emergency : isMrcDriftApplicable (hearTick inbox decision now).inputs = true)
    (proceeds : inbox.mission.isSome = true ∨
      (hearTick inbox decision now).inputs.colregsConflictDetected = true) :
    IsDrift (tick params inbox decision now expired).2.plan ↔
      (resolveBehavior params inbox world (hearTick inbox decision now) expired).primary =
        .mrcDrift := by
  have stopped : (resolveBehavior params inbox world (hearTick inbox decision now)
      expired).sMax = 0.0 := (resolveBehavior_drift emergency).2
  unfold IsDrift
  rw [tick_of_arbitration params known seen proceeds,
    (Arbitration.publishesBox params _ _ _).behavior,
    (Arbitration.publishesBox params _ _ _).speedMaxKn,
    Arbitration.clampHeading_widenSpeed_primary, Arbitration.clampHeading_sMax]
  refine and_iff_left_of_imp fun drift => ?_
  unfold Arbitration.widenSpeed
  rw [drift, stopped, if_neg (by simp [isMrcType]), stopped]
  decide

/-- In an emergency the drift is published exactly when nothing takes its place. -/
theorem isDrift_tick_iff (emergency : IsEmergency inbox now) :
    IsDrift (tick params inbox decision now expired).2.plan ↔
      YieldsToMrc params.lib ⟨inbox, decision⟩ := by
  obtain ⟨odd, known⟩ := Option.isSome_iff_exists.mp emergency.1
  obtain ⟨world, seen⟩ := Option.isSome_iff_exists.mp emergency.2.1
  have applicable : isMrcDriftApplicable (hearTick inbox decision now).inputs = true :=
    isMrcDriftApplicable_hearTick.mpr emergency.2.2
  have conflict : (hearTick inbox decision now).inputs.colregsConflictDetected =
      conflictHeard inbox decision := conflictDetected_hearTick
  have primary : (resolveBehavior params inbox world (hearTick inbox decision now)
      expired).primary = _ := (resolveBehavior_drift applicable).1
  rw [conflict, recoveryPending_hearTick] at primary
  unfold YieldsToMrc
  simp only [seen, Option.some.injEq, forall_eq']
  cases heard : conflictHeard inbox decision with
  | true =>
    rw [isDrift_of_arbitration known seen applicable (.inr (conflict.trans heard)), primary, heard]
    exact iff_of_true rfl (.inl rfl)
  | false =>
    cases received : inbox.mission.isSome with
    | false =>
      refine iff_of_false (fun drift => ?_) (by simp)
      rw [tick_of_failsafe params known seen received (conflict.trans heard)] at drift
      cases drift.1
    | true =>
      rw [isDrift_of_arbitration known seen applicable (.inl received), primary, heard]
      cases recoveryPending params.lib inbox world decision <;> simp

end Drift

/-! ### Silence in a run -/

/-- A tick that arbitrates remembers the health that it found. -/
theorem prevHealth_tick {params : Parameters} {inbox : Inbox} {decision : Decision} {now : Int}
    {expired : Nat → Nat → Bool} (known : inbox.odd.isSome = true)
    (seen : inbox.world.isSome = true) (yields : YieldsToMrc params.lib ⟨inbox, decision⟩) :
    (tick params inbox decision now expired).1.prevHealth =
      computeHealthState (hearTick inbox decision now).inputs := by
  obtain ⟨odd, known⟩ := Option.isSome_iff_exists.mp known
  obtain ⟨world, seen⟩ := Option.isSome_iff_exists.mp seen
  have proceeds : (!inbox.mission.isSome &&
      !(hearTick inbox decision now).inputs.colregsConflictDetected) = false := by
    rw [conflictDetected_hearTick]
    rcases yields with conflict | ⟨present, -⟩
    · rw [show conflictHeard inbox decision = true from conflict]
      exact Bool.and_false _
    · rw [show inbox.mission.isSome = true from present]
      rfl
  unfold tick
  simp only [known, seen, proceeds, Bool.false_eq_true, if_false]
  rfl

/-- At every tick of a run after an envelope and a world, the health is critical exactly when
three received inputs are silent. The drift is then the only active behaviour and the selected
one. The tick publishes it and remembers the health, where nothing takes the place of a drift. -/
theorem silent_inputs_select_mrc (params : Parameters) (events : List Event) {count : Nat}
    {now : Int} {expired : Nat → Nat → Bool}
    (fires : events[count]? = some (.arbitrationTimer now expired))
    (known : (nodeAt params events count).inbox.odd.isSome = true)
    (seen : (nodeAt params events count).inbox.world.isSome = true) :
    let node := nodeAt params events count
    let inputs := (hearTick node.inbox node.decision now).inputs
    (computeHealthState inputs = .critical ↔ 3 ≤ node.inbox.silentInputs now) ∧
      (3 ≤ node.inbox.silentInputs now →
        computeActiveSet inputs = [.mrcDrift] ∧
          selectPrimary (computeActiveSet inputs) inputs = .mrcDrift ∧
          (YieldsToMrc params.lib node →
            (∃ output, node.published params (.arbitrationTimer now expired) = some output ∧
              IsDrift output.plan) ∧
            (nodeAt params events (count + 1)).decision.prevHealth = .critical)) := by
  intro node inputs
  have health := health_eq_critical_iff node.inbox node.decision now
  refine ⟨health, fun silent => ?_⟩
  have critical : computeHealthState inputs = .critical := health.mpr silent
  obtain ⟨alone, selected⟩ := selectPrimary_of_critical critical
  refine ⟨alone, selected, fun yields => ⟨⟨_, rfl, ?_⟩, ?_⟩⟩
  · rw [isDrift_tick_iff ⟨known, seen, .inr (by rwa [← health_hearTick])⟩]
    exact yields
  · have ticked : nodeAt params events (count + 1) =
        node.step params (.arbitrationTimer now expired) :=
      Runs.stateAt_succ _ _ _ fires
    rw [ticked]
    exact (prevHealth_tick known seen yields).trans critical

/-- The ship turns for a conflict before any mission, and nothing more is heard. -/
def silentRun : List Event :=
  [.oddState ⟨0, 0⟩, .worldState (lonelyWorld 0), .colregsConstraint (giveWayDemand "STARBOARD"),
    .arbitrationTimer 0 patient, .arbitrationTimer 6000000000 patient]

/-- Six seconds later the ship drifts. -/
theorem silent_inputs_select_mrc_silentRun :
    let node := nodeAt quarterParameters silentRun 4
    3 ≤ node.inbox.silentInputs 6000000000 ∧
      ∃ output, node.published quarterParameters (.arbitrationTimer 6000000000 patient) =
          some output ∧ IsDrift output.plan := by
  have fires : silentRun[4]? = some (.arbitrationTimer 6000000000 patient) := rfl
  have silent : 3 ≤ (nodeAt quarterParameters silentRun 4).inbox.silentInputs 6000000000 := by
    decide
  have selected := silent_inputs_select_mrc quarterParameters silentRun fires rfl rfl
  exact ⟨silent, ((selected.2 silent).2.2 (.inl rfl)).1⟩

/-- An hour after the last message, with two inputs silent and two never received, the health
is not critical, no behaviour is active, and the tick publishes a transit. -/
theorem absent_inputs_not_critical :
    let node := nodeAt quarterParameters [.oddState ⟨0, 0⟩, .worldState (lonelyWorld 0)] 2
    let inputs := (hearTick node.inbox node.decision 3600000000000).inputs
    node = ⟨{ odd := some ⟨0, 0⟩, world := some (lonelyWorld 0) }, {}⟩ ∧
      computeHealthState inputs = .degraded ∧ computeActiveSet inputs = [] ∧
      ∃ output, node.published quarterParameters (.arbitrationTimer 3600000000000 patient) =
        some output ∧ output.plan.behavior = .transit := by
  refine ⟨rfl, by decide, by decide, _, rfl, ?_⟩
  decide

/-! ### Emergencies in a run -/

/-- In a run every tick of an emergency publishes the drift exactly when at every such tick a
conflict is heard, or a mission was received and no recovery is pending. -/
theorem emergency_dominates_iff (params : Parameters) (events : List Event) :
    (∀ count now expired, events[count]? = some (.arbitrationTimer now expired) →
        IsEmergency (nodeAt params events count).inbox now →
        ∃ output, (nodeAt params events count).published params (.arbitrationTimer now expired) =
          some output ∧ IsDrift output.plan) ↔
      ∀ count now expired, events[count]? = some (.arbitrationTimer now expired) →
        IsEmergency (nodeAt params events count).inbox now →
        YieldsToMrc params.lib (nodeAt params events count) := by
  refine forall_congr' fun count => forall_congr' fun now => forall_congr' fun expired =>
    imp_congr_right fun _ => imp_congr_right fun emergency => ?_
  rw [← isDrift_tick_iff emergency]
  constructor
  · rintro ⟨output, published, drift⟩
    obtain rfl := Option.some.inj published
    exact drift
  · intro drift
    exact ⟨_, rfl, drift⟩

/-- An emergency before any mission. -/
def emergencyRun : List Event :=
  [.oddState ⟨0, 0⟩, .worldState (lonelyWorld 0), .modeCmd ⟨modeEmergency⟩,
    .arbitrationTimer 0 patient]

/-- The emergency is commanded, and the ship is left in transit at up to twenty knots. -/
theorem emergency_left_in_transit :
    emergencyRun[3]? = some (.arbitrationTimer 0 patient) ∧
      IsEmergency (nodeAt quarterParameters emergencyRun 3).inbox 0 ∧
      ∃ output, (nodeAt quarterParameters emergencyRun 3).published quarterParameters
          (.arbitrationTimer 0 patient) = some output ∧
        output.plan.behavior = .transit ∧ output.plan.speedMaxKn = 20.0 := by
  refine ⟨rfl, ⟨rfl, rfl, .inl rfl⟩, _, rfl, ?_, ?_⟩
  all_goals decide

end MassL3.M4
