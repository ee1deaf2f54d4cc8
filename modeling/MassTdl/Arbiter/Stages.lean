/-
This file is about the stages of a tick. The early returns read only the messages and what the
tick heard; the stages after the arbitration leave its box and its directive alone, and no stage
makes a minimum-risk behaviour of another one.
-/

import MassTdl.Arbiter.Node
import MassTdl.Arbiter.Optimum

namespace MassL3.M4

open MassL3.Risk

variable (params : Parameters) {inbox : Inbox} {decision : Decision} {now : Int}
  {expired : Nat → Nat → Bool}

/-! ### What a tick hears -/

/-- Hearing changes neither the messages received nor their ages. -/
theorem hear_inputs (inbox : Inbox) (inputs : ArbitrationInputs) (decision : Decision) :
    ∃ conflict action, (hear inbox inputs decision).inputs =
      { inputs with colregsConflictDetected := conflict, colregsActionRequired := action } := by
  unfold hear
  split
  · exact ⟨_, _, rfl⟩
  · split
    · exact ⟨_, _, rfl⟩
    · split <;> exact ⟨_, _, rfl⟩

/-- Hearing touches the latch of the mission and what is remembered of the conflict. -/
theorem hearTick_decision (inbox : Inbox) (decision : Decision) (now : Int) :
    ∃ latch last ruleId targetKey cycles, (hearTick inbox decision now).decision =
      { decision with
        m3ActiveLatch := latch
        lastActiveColregs := last
        activeColregsRuleId := ruleId
        activeColregsTargetKey := targetKey
        colregsInactiveCycles := cycles } := by
  obtain ⟨latch, latched⟩ : ∃ latch, decision.latchM3 inbox =
      { decision with m3ActiveLatch := latch } := by
    unfold Decision.latchM3
    split <;> exact ⟨_, rfl⟩
  unfold hearTick
  rw [latched]
  unfold hear
  split
  · exact ⟨_, _, _, _, _, rfl⟩
  · split
    · exact ⟨_, _, _, _, _, rfl⟩
    · split <;> exact ⟨_, _, _, _, _, rfl⟩

/-- A reported conflict is heard as it is, and the directive comes from it. -/
theorem hear_of_conflict {latest : COLREGsConstraint} (received : inbox.colregs = some latest)
    (conflict : latest.conflictDetected = true) (inputs : ArbitrationInputs)
    (decision : Decision) :
    (hear inbox inputs decision).inputs = inputs ∧
      (hear inbox inputs decision).forDirective = some latest := by
  unfold hear
  rw [received]
  simp only
  rw [if_pos conflict]
  exact ⟨rfl, rfl⟩

/-- A conflict of the message the directive comes from is a conflict of the inputs. -/
theorem conflict_of_forDirective {msg : COLREGsConstraint}
    (goesBy : (hearTick inbox decision now).forDirective = some msg)
    (conflict : msg.conflictDetected = true) :
    (hearTick inbox decision now).inputs.colregsConflictDetected = true := by
  revert goesBy
  unfold hearTick hear
  split
  · intro none
    cases none
  · next latest received =>
    split
    · next reported =>
      intro _
      show inbox.colregs.any (·.conflictDetected) = true
      rw [received]
      exact reported
    · next silent =>
      split
      · intro _
        rfl
      · intro same
        exact absurd (Option.some.inj same ▸ conflict) silent

/-! ### The directive -/

/-- The guidance of the risk model never makes a conflict. -/
theorem applyPrimaryRiskGuidance_conflictActive (directive : ColregsDirective)
    (current reduced : RiskVector) :
    (applyPrimaryRiskGuidance directive current reduced).conflictActive =
      directive.conflictActive := by
  unfold applyPrimaryRiskGuidance
  simp only
  split_ifs <;> rfl

theorem extractColregsDirective_conflictActive (msg : COLREGsConstraint) :
    (extractColregsDirective msg).conflictActive = msg.conflictDetected := by
  unfold extractColregsDirective
  simp only
  split_ifs <;> rfl

variable {world : WorldState} {tracking : Option RouteTracking}

/-- A directive is active only for a message with a conflict. -/
theorem conflict_of_guide {lib : MathLibrary} {conflict : Bool} {msg : COLREGsConstraint}
    {decision : Decision}
    (active : (guide lib world tracking conflict msg decision).directive.conflictActive = true) :
    msg.conflictDetected = true := by
  rw [← extractColregsDirective_conflictActive]
  by_contra quiet
  unfold guide at active
  simp only [Bool.eq_false_iff.mpr quiet, Bool.not_false, if_true] at active
  exact absurd active Bool.false_ne_true

/-! ### Which branch arbitrates -/

variable {mission : Option MissionGoal} {heard : Heard}

theorem arbitrate_of_mrc (emergency : isMrcDriftApplicable heard.inputs = true) :
    arbitrate params mission world tracking heard expired =
      { decision := heard.decision
        primary := .mrcDrift
        hMin := 0.0
        hMax := 360.0
        sMin := 0.0
        sMax := 0.0
        confidence := 1.0 } := by
  unfold arbitrate
  simp only [hasMrc_computeActiveSet, emergency, if_true]

theorem arbitrate_of_active (ordinary : isMrcDriftApplicable heard.inputs = false)
    (active : computeActiveSet heard.inputs ≠ []) :
    arbitrate params mission world tracking heard expired =
      runSolver params mission world
        (selectPrimary (computeActiveSet heard.inputs) heard.inputs) heard.forDirective
        (guideHeard params.lib world tracking heard) expired := by
  unfold arbitrate
  simp only [hasMrc_computeActiveSet, ordinary, Bool.false_eq_true, if_false,
    List.isEmpty_iff, active]

/-- Without an active behaviour the ship stays on its transit. -/
theorem arbitrate_of_inactive (inactive : computeActiveSet heard.inputs = []) :
    arbitrate params mission world tracking heard expired =
      { decision := heard.decision
        primary := .transit
        hMin := 0.0
        hMax := 360.0
        sMin := 0.0
        sMax := params.speedMaxKn
        confidence := 0.60 } := by
  unfold arbitrate
  rw [inactive]
  rfl

/-! ### The later stages -/

/-- Two stages agree on the box, the directive and what the risk gates decided. -/
structure Arbitration.SameBox (first second : Arbitration) : Prop where
  hMin : second.hMin = first.hMin
  hMax : second.hMax = first.hMax
  sMin : second.sMin = first.sMin
  sMax : second.sMax = first.sMax
  directive : second.directive = first.directive
  turnActive : second.turnActive = first.turnActive
  riskReleased : second.riskReleased = first.riskReleased

theorem Arbitration.SameBox.trans {first second third : Arbitration}
    (lower : first.SameBox second) (upper : second.SameBox third) : first.SameBox third where
  hMin := upper.hMin.trans lower.hMin
  hMax := upper.hMax.trans lower.hMax
  sMin := upper.sMin.trans lower.sMin
  sMax := upper.sMax.trans lower.sMax
  directive := upper.directive.trans lower.directive
  turnActive := upper.turnActive.trans lower.turnActive
  riskReleased := upper.riskReleased.trans lower.riskReleased

namespace Arbitration

theorem keepCommitment_sameBox (arbitration : Arbitration) (lib : MathLibrary)
    (world : WorldState) : arbitration.SameBox (arbitration.keepCommitment lib world) := by
  unfold keepCommitment
  simp only
  split_ifs <;> exact ⟨rfl, rfl, rfl, rfl, rfl, rfl, rfl⟩

theorem holdTurn_sameBox (arbitration : Arbitration) (mrc : Bool) :
    arbitration.SameBox (arbitration.holdTurn mrc) := by
  unfold holdTurn
  split_ifs <;> exact ⟨rfl, rfl, rfl, rfl, rfl, rfl, rfl⟩

theorem recover_sameBox (arbitration : Arbitration) (tracking : Option RouteTracking)
    (conflict : Bool) : arbitration.SameBox (arbitration.recover tracking conflict) := by
  unfold recover
  simp only
  split_ifs <;> exact ⟨rfl, rfl, rfl, rfl, rfl, rfl, rfl⟩

/-- The commitment leaves the primary behaviour and the state alone. -/
theorem keepCommitment_primary (arbitration : Arbitration) (lib : MathLibrary)
    (world : WorldState) :
    (arbitration.keepCommitment lib world).primary = arbitration.primary ∧
      (arbitration.keepCommitment lib world).decision = arbitration.decision := by
  unfold keepCommitment
  simp only
  split_ifs <;> exact ⟨rfl, rfl⟩

theorem holdTurn_primary (arbitration : Arbitration) (mrc : Bool) :
    (arbitration.holdTurn mrc).primary =
      if arbitration.turnActive && !mrc then .colregAvoid else arbitration.primary := by
  unfold holdTurn
  cases arbitration.turnActive <;> cases mrc <;> rfl

theorem holdTurn_of_still {arbitration : Arbitration} (still : arbitration.turnActive = false)
    (mrc : Bool) : arbitration.holdTurn mrc = arbitration := by
  unfold holdTurn
  rw [if_neg (Bool.eq_false_iff.mp still)]

theorem recover_primary (arbitration : Arbitration) (tracking : Option RouteTracking)
    (conflict : Bool) :
    (arbitration.recover tracking conflict).primary =
      if arbitration.conflictActive conflict then arbitration.primary
      else if arbitration.recovering tracking then .recovery
      else if arbitration.riskReleased then .transit
      else arbitration.primary := by
  unfold recover
  simp only
  split_ifs <;> rfl

end Arbitration

section Resolve

variable {world : WorldState} {heard : Heard}

/-- The box of a tick is the one of its arbitration. -/
theorem resolveBehavior_sameBox :
    (arbitrate params inbox.mission world (currentRouteTracking params.lib inbox.route world)
      heard expired).SameBox (resolveBehavior params inbox world heard expired) :=
  ((Arbitration.keepCommitment_sameBox _ _ _).trans (Arbitration.holdTurn_sameBox _ _)).trans
    (Arbitration.recover_sameBox _ _ _)

/-- The behaviour a tick resolves to: a turn is an avoidance, and without an active conflict a
recovery or a release takes its place. -/
theorem resolveBehavior_primary :
    (resolveBehavior params inbox world heard expired).primary =
      let tracking := currentRouteTracking params.lib inbox.route world
      let arbitration := arbitrate params inbox.mission world tracking heard expired
      let mrc := hasMrc (computeActiveSet heard.inputs)
      let held := if arbitration.turnActive && !mrc then .colregAvoid else arbitration.primary
      if arbitration.conflictActive heard.inputs.colregsConflictDetected then held
      else if ((arbitration.keepCommitment params.lib world).holdTurn mrc).recovering tracking then
        .recovery
      else if arbitration.riskReleased then .transit
      else held := by
  have committed := Arbitration.keepCommitment_sameBox (arbitrate params inbox.mission world
    (currentRouteTracking params.lib inbox.route world) heard expired) params.lib world
  have turned := committed.trans
    (Arbitration.holdTurn_sameBox _ (hasMrc (computeActiveSet heard.inputs)))
  unfold resolveBehavior
  simp only
  rw [Arbitration.recover_primary, Arbitration.holdTurn_primary, committed.turnActive,
    (Arbitration.keepCommitment_primary _ _ _).1]
  unfold Arbitration.conflictActive
  rw [turned.riskReleased]

/-- Outside an emergency no minimum-risk behaviour is resolved. -/
theorem isMrcType_resolveBehavior (ordinary : isMrcDriftApplicable heard.inputs = false)
    (active : computeActiveSet heard.inputs ≠ []) :
    isMrcType (resolveBehavior params inbox world heard expired).primary = false := by
  rw [resolveBehavior_primary]
  simp only
  rw [arbitrate_of_active params ordinary active]
  have chosen : isMrcType (runSolver params inbox.mission world
      (selectPrimary (computeActiveSet heard.inputs) heard.inputs) heard.forDirective
      (guideHeard params.lib world (currentRouteTracking params.lib inbox.route world) heard)
      expired).primary = false := by
    unfold runSolver
    simp only
    split <;> exact (selectPrimary_of_ordinary ordinary).2 active
  split_ifs <;> first | exact chosen | rfl

end Resolve

/-- What an active directive tells of its tick: the solver ran, on a conflict of the inputs. -/
structure RunsSolver (inbox : Inbox) (world : WorldState) (heard : Heard)
    (expired : Nat → Nat → Bool) : Prop where
  ordinary : isMrcDriftApplicable heard.inputs = false
  active : computeActiveSet heard.inputs ≠ []
  conflict : heard.inputs.colregsConflictDetected = true
  directive : (resolveBehavior params inbox world heard expired).directive =
    (guideHeard params.lib world (currentRouteTracking params.lib inbox.route world)
      heard).directive

theorem runsSolver_of_directive
    (active : (resolveBehavior params inbox world (hearTick inbox decision now)
      expired).directive.conflictActive = true) :
    RunsSolver params inbox world (hearTick inbox decision now) expired := by
  have same : (resolveBehavior params inbox world (hearTick inbox decision now)
      expired).directive = (arbitrate params inbox.mission world
        (currentRouteTracking params.lib inbox.route world) (hearTick inbox decision now)
        expired).directive := (resolveBehavior_sameBox params).directive
  have quiet : ({} : ColregsDirective).conflictActive ≠ true := Bool.false_ne_true
  have ordinary : isMrcDriftApplicable (hearTick inbox decision now).inputs = false := by
    by_contra emergency
    rw [same, arbitrate_of_mrc params (Bool.not_eq_false _ ▸ emergency)] at active
    exact quiet active
  have nonempty : computeActiveSet (hearTick inbox decision now).inputs ≠ [] := by
    intro inactive
    rw [same, arbitrate_of_inactive params inactive] at active
    exact quiet active
  rw [arbitrate_of_active params ordinary nonempty] at same
  refine ⟨ordinary, nonempty, ?_, same⟩
  have guided : (guideHeard params.lib world
      (currentRouteTracking params.lib inbox.route world)
      (hearTick inbox decision now)).directive.conflictActive = true := by
    rw [← active, same]
    rfl
  unfold guideHeard at guided
  split at guided
  · next msg goesBy => exact conflict_of_forDirective goesBy (conflict_of_guide guided)
  · exact absurd guided quiet

/-! ### The published plan -/

/-- The box of the plan is the box of the arbitration, narrowed. -/
structure PublishesBox (plan : BehaviorPlan) (arbitration : Arbitration) : Prop where
  behavior : plan.behavior = arbitration.primary
  headingMinDeg : plan.headingMinDeg = Binary64.narrow arbitration.hMin
  headingMaxDeg : plan.headingMaxDeg = Binary64.narrow arbitration.hMax
  speedMinKn : plan.speedMinKn = Binary64.narrow arbitration.sMin
  speedMaxKn : plan.speedMaxKn = Binary64.narrow arbitration.sMax

theorem Arbitration.publishesBox (arbitration : Arbitration) (gncOdd : Option GncExecutionOdd)
    (world : WorldState) :
    PublishesBox (arbitration.plan params gncOdd world) arbitration := by
  unfold Arbitration.plan BehaviorPlan.fillReachabilityContract
  simp only
  split_ifs <;> exact ⟨rfl, rfl, rfl, rfl, rfl⟩

/-- The last two stages change only the box. -/
theorem Arbitration.clampHeading_widenSpeed_primary (arbitration : Arbitration)
    (gncOdd : Option GncExecutionOdd) (world : WorldState) :
    ((arbitration.widenSpeed world).clampHeading params gncOdd world).primary =
      arbitration.primary := by
  have widened : (arbitration.widenSpeed world).primary = arbitration.primary := by
    unfold widenSpeed
    split_ifs <;> rfl
  rw [← widened]
  unfold clampHeading
  simp only
  split
  · split_ifs <;> rfl
  · rfl

theorem Arbitration.clampHeading_sMax (arbitration : Arbitration)
    (gncOdd : Option GncExecutionOdd) (world : WorldState) :
    (arbitration.clampHeading params gncOdd world).sMax = arbitration.sMax := by
  unfold clampHeading
  simp only
  split
  · split_ifs <;> rfl
  · rfl

/-- A tick past the early returns publishes its resolved behaviour with its box. -/
theorem tick_of_arbitration {odd : ODDState} (known : inbox.odd = some odd)
    (seen : inbox.world = some world)
    (proceeds : inbox.mission.isSome = true ∨
      (hearTick inbox decision now).inputs.colregsConflictDetected = true) :
    (tick params inbox decision now expired).2.plan =
      (((resolveBehavior params inbox world (hearTick inbox decision now) expired).widenSpeed
        world).clampHeading params inbox.gncOdd world).plan params inbox.gncOdd world := by
  have notFailsafe : (!inbox.mission.isSome &&
      !(hearTick inbox decision now).inputs.colregsConflictDetected) = false := by
    rcases proceeds with present | conflict
    · rw [present]
      rfl
    · rw [conflict]
      exact Bool.and_false _
  unfold tick
  simp only [known, seen, notFailsafe, Bool.false_eq_true, if_false]

/-- Without a mission and a conflict the failsafe plan is published. -/
theorem tick_of_failsafe {odd : ODDState} (known : inbox.odd = some odd)
    (seen : inbox.world = some world) (idle : inbox.mission.isSome = false)
    (quiet : (hearTick inbox decision now).inputs.colregsConflictDetected = false) :
    (tick params inbox decision now expired).2.plan = failsafePlan params := by
  unfold tick
  simp only [known, seen, idle, quiet, Bool.not_false, Bool.and_self, if_true]

/-! ### A ship without company -/

/-- Parameters with a coarse grid. -/
def quarterParameters : Parameters where
  lib := meridianLibrary
  headingDomain := quarterSolver.headingDomain
  speedDomain := ⟨0.0, 20.0, 10.0, quarterSolver.speedDomain.positive, by decide, by decide⟩
  headingReachabilityDtS := 5.0

/-- The ship makes ten knots and sees nothing. -/
def lonelyWorld (stamp : Int) : WorldState where
  stamp := stamp
  ownShip := { latitude := 0.0, longitude := 0.0, sogKn := 10.0, headingDeg := 0.0 }
  targets := []

/-- A constraint that obliges the ship to give way to a crossing ship by thirty degrees. -/
def giveWayDemand (direction : String) : COLREGsConstraint where
  stamp := 0
  activeRules := [⟨15, 7⟩]
  phase := "SOUND_WARNING"
  primaryRole := roleGiveWay
  primaryPreferredDirection := direction
  constraints := [⟨"colregs", 30.0, "deg"⟩]
  conflictDetected := true
  confidence := 0.9
  colregsChainTargetId := ""

/-- A node that was told to turn to starboard by thirty degrees from north. -/
def turningInbox : Inbox where
  odd := some ⟨0, 0⟩
  world := some (lonelyWorld 0)
  colregs := some (giveWayDemand "STARBOARD")

/-- The solver is given time. -/
def patient : Nat → Nat → Bool := fun _ _ => false

end MassL3.M4
