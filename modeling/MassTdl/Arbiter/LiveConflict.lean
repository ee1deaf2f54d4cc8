/-
This file is about live conflicts: fresh constraints that oblige the ship to give way by a turn.
Outside an emergency the ship avoids, unless a released encounter is held while no target can
be used, or the zone is the one the avoidance is not applicable in. There only the directive of
a tick with a mission can still make the ship turn.
-/

import MassTdl.Arbiter.Emergency

namespace MassL3.M4

open MassL3.Risk

/-- A constraint that obliges the ship to give way by a turn, in a phase that calls for action. -/
structure DemandsTurn (msg : COLREGsConstraint) : Prop where
  conflict : msg.conflictDetected = true
  role : msg.primaryRole = roleGiveWay
  phase : msg.phase = "SOUND_WARNING" ∨ msg.phase = "INDEPENDENT_ACTION" ∨
    msg.phase = "CRITICAL_ACTION"
  direction : msg.primaryPreferredDirection = "STARBOARD" ∨
    msg.primaryPreferredDirection = "PORT"

/-- The latest constraint demands a turn and is not stale. -/
structure LiveConflict (inbox : Inbox) (now : Int) (msg : COLREGsConstraint) : Prop
    extends DemandsTurn msg where
  received : inbox.colregs = some msg
  fresh : ageMs now msg.stamp ≤ 2000

/-- A released encounter is held and no target has a range that can be used. -/
def holdsReleased (world : WorldState) (decision : Decision) : Bool :=
  decision.releasedColregsRearmHold && !world.targets.any (·.hasUsableRange)

/-- The risk of the primary threat puts a reduction of speed in the place of the turn. -/
def slowsInstead (lib : MathLibrary) (world : WorldState) (msg : COLREGsConstraint)
    (decision : Decision) : Bool :=
  let directive := extractColregsDirective msg
  (computePrimaryRiskGuidance lib world directive decision.riskRankingState).1.any fun guidance =>
    canPreferSpeedReduction directive guidance.current guidance.reducedSpeed

/-! ### The directive of a demanded turn -/

section Directive

variable {lib : MathLibrary} {world : WorldState} {tracking : Option RouteTracking}
  {msg : COLREGsConstraint} {decision : Decision}

/-- There is guidance exactly if some target can be used. -/
theorem computePrimaryRiskGuidance_isSome (directive : ColregsDirective)
    (rankingState : RankingState) :
    (computePrimaryRiskGuidance lib world directive rankingState).1.isSome =
      world.targets.any (·.hasUsableRange) := by
  have usable : (world.targets.filter (·.hasUsableRange)).isEmpty =
      !world.targets.any (·.hasUsableRange) := by
    rw [Bool.eq_iff_iff, List.isEmpty_iff, List.filter_eq_nil_iff, Bool.not_eq_true',
      List.any_eq_false]
  unfold computePrimaryRiskGuidance
  simp only [usable]
  cases world.targets.any (·.hasUsableRange) with
  | false => rfl
  | true =>
    simp only [Bool.not_true, Bool.false_eq_true, if_false]
    split <;> rfl

/-- Under a duty to give way a turn stays a turn unless a reduction of speed is preferred. -/
theorem applyPrimaryRiskGuidance_turns {directive : ColregsDirective}
    (conflict : directive.conflictActive = true) (turns : directive.turns = true)
    (role : directive.primaryRole = roleGiveWay) (current reduced : RiskVector) :
    (applyPrimaryRiskGuidance directive current reduced).turns =
      !canPreferSpeedReduction directive current reduced := by
  unfold applyPrimaryRiskGuidance
  simp only
  split_ifs with idle headOn slows
  · change (!directive.conflictActive || !directive.turns) = true at idle
    rw [conflict, turns] at idle
    cases idle
  · rw [role] at headOn
    exact absurd (Bool.and_eq_true_iff.mp headOn).2 (by decide)
  · -- The preference reads nothing that the guidance changed.
    change canPreferSpeedReduction directive current reduced = true at slows
    rw [slows]
    rfl
  · change ¬ canPreferSpeedReduction directive current reduced = true at slows
    rw [Bool.eq_false_iff.mpr slows]
    exact turns

theorem DemandsTurn.extract (demands : DemandsTurn msg) :
    (extractColregsDirective msg).turns = true ∧
      (extractColregsDirective msg).primaryRole = roleGiveWay := by
  unfold extractColregsDirective ColregsDirective.turns
  simp only [demands.conflict, Bool.not_true, Bool.false_eq_true, if_false]
  refine ⟨?_, demands.role⟩
  rcases demands.direction with starboard | port
  · rw [starboard]
    rfl
  · rw [port]
    rfl

/-- The risk gates do not release a directive against a conflict of the inputs. -/
theorem weighRisk_of_conflict (same : Bool) (directive : ColregsDirective)
    (guidance : PrimaryRiskGuidance) :
    (weighRisk lib world tracking true same directive guidance decision).riskReleased = false ∧
      (weighRisk lib world tracking true same directive guidance decision).directive =
        applyPrimaryRiskGuidance directive guidance.current guidance.reducedSpeed := by
  unfold weighRisk
  simp only [Bool.not_true, Bool.and_false, Bool.not_false, Bool.true_and, and_self]

/-- A demanded turn is released only by the hold of a released encounter. -/
theorem DemandsTurn.guide_of_demand (demands : DemandsTurn msg) (lib : MathLibrary)
    (world : WorldState) (tracking : Option RouteTracking) (decision : Decision) :
    (guide lib world tracking true msg decision).riskReleased = holdsReleased world decision ∧
      (guide lib world tracking true msg decision).directive.turnActive =
        (!holdsReleased world decision && !slowsInstead lib world msg decision) := by
  have active : (extractColregsDirective msg).conflictActive = true :=
    (extractColregsDirective_conflictActive msg).trans demands.conflict
  obtain ⟨turns, role⟩ := demands.extract
  have usable : (computePrimaryRiskGuidance lib world (extractColregsDirective msg)
      decision.riskRankingState).1.isSome = world.targets.any (·.hasUsableRange) :=
    computePrimaryRiskGuidance_isSome _ _
  unfold guide holdsReleased slowsInstead
  rw [← usable]
  simp only [active, Bool.not_true, Bool.false_eq_true, if_false]
  cases (computePrimaryRiskGuidance lib world (extractColregsDirective msg)
      decision.riskRankingState).1 with
  | none =>
    cases decision.releasedColregsRearmHold with
    | true => exact ⟨rfl, rfl⟩
    | false => exact ⟨rfl, Bool.and_eq_true_iff.mpr ⟨active, turns⟩⟩
  | some guidance =>
    simp only [weighRisk_of_conflict, Option.isSome_some, Option.any_some, Bool.not_true,
      Bool.and_false, Bool.not_false, Bool.true_and, true_and]
    unfold ColregsDirective.turnActive
    rw [applyPrimaryRiskGuidance_conflictActive, active, Bool.true_and,
      applyPrimaryRiskGuidance_turns active turns role]

end Directive

/-! ### The tick of a live conflict -/

variable {params : Parameters} {inbox : Inbox} {decision : Decision} {now : Int}
  {expired : Nat → Nat → Bool} {odd : ODDState} {world : WorldState} {msg : COLREGsConstraint}

theorem oddZone_of_known (known : inbox.odd = some odd) :
    (buildInputs inbox now).oddZone = odd.currentZone := by
  show inbox.odd.elim 0 (·.currentZone) = _
  rw [known]
  rfl

namespace LiveConflict

section

variable (live : LiveConflict inbox now msg)
include live

/-- A tick hears the conflict, and hearing it leaves the release of earlier ones alone. -/
theorem hearTick_eq (decision : Decision) (lib : MathLibrary) (world : WorldState) :
    (hearTick inbox decision now).inputs = buildInputs inbox now ∧
      (hearTick inbox decision now).forDirective = some msg ∧
      holdsReleased world (hearTick inbox decision now).decision = holdsReleased world decision ∧
      slowsInstead lib world msg (hearTick inbox decision now).decision =
        slowsInstead lib world msg decision := by
  obtain ⟨inputs, directive⟩ :=
    hear_of_conflict live.received live.conflict (buildInputs inbox now) (decision.latchM3 inbox)
  obtain ⟨latch, last, ruleId, targetKey, cycles, same⟩ := hearTick_decision inbox decision now
  rw [same]
  exact ⟨inputs, directive, rfl, rfl⟩

theorem conflictDetected :
    (buildInputs inbox now).colregsConflictDetected = true := by
  show inbox.colregs.any (·.conflictDetected) = true
  rw [live.received]
  exact live.conflict

theorem colregsActionRequired :
    (buildInputs inbox now).colregsActionRequired = true := by
  show inbox.colregs.any M4.colregsActionRequired = true
  rw [live.received]
  show M4.colregsActionRequired msg = true
  unfold M4.colregsActionRequired
  rw [live.conflict, live.role]
  rcases live.phase with warning | independent | critical
  · rw [warning]
    decide
  · rw [independent]
    decide
  · rw [critical]
    decide

/-- The avoidance is applicable outside zone two. -/
theorem isColregAvoidApplicable_iff (known : inbox.odd = some odd) :
    isColregAvoidApplicable (buildInputs inbox now) = true ↔ odd.currentZone ≠ 2 := by
  have zone : (buildInputs inbox now).oddZone = odd.currentZone := oddZone_of_known known
  have received : (buildInputs inbox now).colregsReceived = true := by
    show inbox.colregs.isSome = true
    rw [live.received]
    rfl
  have fresh : ¬ (buildInputs inbox now).ageColregsMs >
      (buildInputs inbox now).timeoutDegradedMs := by
    show ¬ inbox.colregs.elim 0 (fun msg => ageMs now msg.stamp) > 2000
    rw [live.received]
    exact not_lt.mpr live.fresh
  unfold isColregAvoidApplicable
  rw [zone, received, if_neg fresh, live.conflictDetected, live.colregsActionRequired]
  simp only [Bool.not_true, Bool.false_eq_true, if_false]
  split_ifs with two
  · exact iff_of_false not_false (not_not.mpr two)
  · exact iff_of_true rfl two

end

end LiveConflict

/-! ### The resolved behaviour -/

section Resolve

variable {heard : Heard}

/-- On a conflict that the risk gates did not release, a turn is an avoidance. -/
theorem resolveBehavior_unreleased (conflict : heard.inputs.colregsConflictDetected = true)
    (unreleased : (arbitrate params inbox.mission world
      (currentRouteTracking params.lib inbox.route world) heard expired).riskReleased = false) :
    (resolveBehavior params inbox world heard expired).primary =
      let arbitration := arbitrate params inbox.mission world
        (currentRouteTracking params.lib inbox.route world) heard expired
      if arbitration.turnActive && !hasMrc (computeActiveSet heard.inputs) then .colregAvoid
      else arbitration.primary := by
  rw [resolveBehavior_primary]
  simp only
  unfold Arbitration.conflictActive
  rw [unreleased, conflict]
  rfl

/-- A conflict that the risk gates released is followed by the transit or the recovery. -/
theorem resolveBehavior_released
    (released : (arbitrate params inbox.mission world
      (currentRouteTracking params.lib inbox.route world) heard expired).riskReleased = true) :
    (resolveBehavior params inbox world heard expired).primary = .transit ∨
      (resolveBehavior params inbox world heard expired).primary = .recovery := by
  rw [resolveBehavior_primary]
  simp only
  unfold Arbitration.conflictActive
  rw [released, Bool.not_true, Bool.and_false]
  simp only [Bool.false_eq_true, if_false, if_true]
  split_ifs
  · exact .inr rfl
  · exact .inl rfl

/-- What the branch that runs the solver decides about the behaviour. -/
theorem runSolver_decides (params : Parameters) (mission : Option MissionGoal)
    (world : WorldState) (primary : BehaviorType) (forDirective : Option COLREGsConstraint)
    (guided : Guided) (expired : Nat → Nat → Bool) :
    (runSolver params mission world primary forDirective guided expired).primary = primary ∧
      (runSolver params mission world primary forDirective guided expired).turnActive =
        guided.directive.turnActive ∧
      (runSolver params mission world primary forDirective guided expired).riskReleased =
        guided.riskReleased := by
  refine ⟨?_, rfl, rfl⟩
  unfold runSolver
  simp only
  split <;> rfl

/-- Which behaviours a live conflict leaves active outside an emergency. -/
theorem LiveConflict.selectPrimary_eq (live : LiveConflict inbox now msg)
    (known : inbox.odd = some odd)
    (ordinary : isMrcDriftApplicable (buildInputs inbox now) = false)
    (busy : ¬ (odd.currentZone = 2 ∧ inbox.mission.isSome = false)) :
    computeActiveSet (buildInputs inbox now) ≠ [] ∧
      selectPrimary (computeActiveSet (buildInputs inbox now)) (buildInputs inbox now) =
        if odd.currentZone = 2 then .transit else .colregAvoid := by
  split_ifs with two
  · have transit : computeActiveSet (buildInputs inbox now) = [.transit] := by
      have zone : (buildInputs inbox now).oddZone = 2 := (oddZone_of_known known).trans two
      rw [computeActiveSet_of_zone_two ordinary zone]
      exact if_pos (Bool.not_eq_false _ ▸ fun idle => busy ⟨two, idle⟩)
    rw [transit]
    refine ⟨List.cons_ne_nil _ _, ?_⟩
    unfold selectPrimary
    rw [if_neg (not_critical_of_ordinary ordinary)]
    rfl
  · have avoids := (selectPrimary_of_ordinary ordinary).1.mpr
      ((live.isColregAvoidApplicable_iff known).mpr two)
    refine ⟨fun inactive => ?_, avoids⟩
    rw [inactive] at avoids
    unfold selectPrimary at avoids
    rw [if_neg (not_critical_of_ordinary ordinary)] at avoids
    cases avoids

/-- What the arbitration of a live conflict decides where some behaviour is active. -/
theorem LiveConflict.arbitrate_decides (live : LiveConflict inbox now msg) (params : Parameters)
    (world : WorldState) (expired : Nat → Nat → Bool) (known : inbox.odd = some odd)
    (ordinary : isMrcDriftApplicable (hearTick inbox decision now).inputs = false)
    (busy : ¬ (odd.currentZone = 2 ∧ inbox.mission.isSome = false))
    (tracking : Option RouteTracking) :
    let arbitration :=
      arbitrate params inbox.mission world tracking (hearTick inbox decision now) expired
    arbitration.riskReleased = holdsReleased world decision ∧
      arbitration.turnActive =
        (!holdsReleased world decision && !slowsInstead params.lib world msg decision) ∧
      arbitration.primary = if odd.currentZone = 2 then .transit else .colregAvoid := by
  obtain ⟨inputs, goesBy, holds, slows⟩ := live.hearTick_eq decision params.lib world
  obtain ⟨active, chosen⟩ := live.selectPrimary_eq known (inputs ▸ ordinary) busy
  rw [← inputs] at active chosen
  have guided : guideHeard params.lib world tracking (hearTick inbox decision now) =
      guide params.lib world tracking true msg (hearTick inbox decision now).decision := by
    unfold guideHeard
    rw [goesBy, inputs, live.conflictDetected]
  obtain ⟨released, turning⟩ := live.guide_of_demand params.lib world tracking
    (hearTick inbox decision now).decision
  obtain ⟨primary, turnActive, riskReleased⟩ := runSolver_decides params inbox.mission world
    (selectPrimary (computeActiveSet (hearTick inbox decision now).inputs)
      (hearTick inbox decision now).inputs) (hearTick inbox decision now).forDirective
    (guideHeard params.lib world tracking (hearTick inbox decision now)) expired
  simp only
  rw [arbitrate_of_active params ordinary active, primary, turnActive, riskReleased, guided,
    released, turning, holds, slows, chosen]
  exact ⟨rfl, rfl, rfl⟩

/-- In a live conflict outside an emergency an idle tick in zone two stays on its transit. Else
the hold of a released encounter decides, then the zone and the risk. -/
theorem LiveConflict.resolveBehavior_primary (live : LiveConflict inbox now msg)
    (params : Parameters) (world : WorldState) (expired : Nat → Nat → Bool)
    (known : inbox.odd = some odd)
    (ordinary : isMrcDriftApplicable (hearTick inbox decision now).inputs = false) :
    let behavior :=
      (resolveBehavior params inbox world (hearTick inbox decision now) expired).primary
    if odd.currentZone = 2 ∧ inbox.mission.isSome = false then behavior = .transit
    else if holdsReleased world decision then behavior = .transit ∨ behavior = .recovery
    else if odd.currentZone = 2 ∧ slowsInstead params.lib world msg decision = true then
      behavior = .transit
    else behavior = .colregAvoid := by
  obtain ⟨inputs, -, -, -⟩ := live.hearTick_eq decision params.lib world
  have conflict : (hearTick inbox decision now).inputs.colregsConflictDetected = true := by
    rw [inputs]
    exact live.conflictDetected
  have noMrc : hasMrc (computeActiveSet (hearTick inbox decision now).inputs) = false := by
    rw [hasMrc_computeActiveSet, ordinary]
  intro behavior
  by_cases idle : odd.currentZone = 2 ∧ inbox.mission.isSome = false
  · have inactive : computeActiveSet (hearTick inbox decision now).inputs = [] := by
      rw [inputs, computeActiveSet_of_zone_two (inputs ▸ ordinary)
        ((oddZone_of_known known).trans idle.1)]
      exact if_neg (Bool.eq_false_iff.mp idle.2)
    have settled : behavior = _ := resolveBehavior_unreleased conflict
      (congrArg (·.riskReleased) (arbitrate_of_inactive params inactive))
    rw [if_pos idle, settled, arbitrate_of_inactive params inactive]
    rfl
  · obtain ⟨released, turning, primary⟩ := live.arbitrate_decides params world expired known
      ordinary idle (currentRouteTracking params.lib inbox.route world)
    rw [if_neg idle]
    cases held : holdsReleased world decision with
    | true =>
      rw [held] at released
      exact resolveBehavior_released released
    | false =>
      rw [held] at released turning
      have settled : behavior = _ := resolveBehavior_unreleased conflict released
      simp only at settled
      rw [turning, primary, noMrc] at settled
      rw [settled]
      cases slowsInstead params.lib world msg decision <;>
        by_cases two : odd.currentZone = 2 <;> simp [two]

end Resolve

/-! ### The published behaviour -/

namespace LiveConflict

/-- A live conflict is past the early returns, so its resolved behaviour is published. -/
theorem published_behavior (live : LiveConflict inbox now msg) (params : Parameters)
    (known : inbox.odd = some odd) (seen : inbox.world = some world) (decision : Decision)
    (expired : Nat → Nat → Bool) :
    (tick params inbox decision now expired).2.plan.behavior =
      (resolveBehavior params inbox world (hearTick inbox decision now) expired).primary := by
  have conflict : (hearTick inbox decision now).inputs.colregsConflictDetected = true := by
    rw [(live.hearTick_eq decision params.lib world).1]
    exact live.conflictDetected
  rw [tick_of_arbitration params known seen (.inr conflict),
    (Arbitration.publishesBox params _ _ _).behavior,
    Arbitration.clampHeading_widenSpeed_primary]

/-- In an emergency the conflict keeps the drift in its place. -/
theorem drifts (live : LiveConflict inbox now msg) (params : Parameters)
    (emergency : IsEmergency inbox now) (decision : Decision) (expired : Nat → Nat → Bool) :
    (tick params inbox decision now expired).2.plan.behavior = .mrcDrift := by
  have heard : conflictHeard inbox decision = true := by
    unfold conflictHeard
    rw [live.received]
    simp only
    rw [live.conflict, Bool.true_or]
  exact ((isDrift_tick_iff emergency).mpr (.inl heard)).1

/-- Outside an emergency the drift does not apply to what a tick hears. -/
theorem ordinary (known : inbox.odd = some odd) (seen : inbox.world = some world)
    (calm : ¬ IsEmergency inbox now) (decision : Decision) :
    isMrcDriftApplicable (hearTick inbox decision now).inputs = false :=
  Bool.eq_false_iff.mpr fun applicable =>
    calm ⟨known ▸ rfl, seen ▸ rfl, isMrcDriftApplicable_hearTick.mp applicable⟩

end LiveConflict

/-- A live conflict drifts in an emergency and is avoided outside one, unless a released
encounter is held without a target or zone two stands in the way. The held encounter itself and
a conflict that zone two keeps from the ship are not avoided. -/
theorem live_conflict_avoided (params : Parameters) (known : inbox.odd = some odd)
    (seen : inbox.world = some world) (live : LiveConflict inbox now msg) (decision : Decision)
    (expired : Nat → Nat → Bool) :
    let behavior := (tick params inbox decision now expired).2.plan.behavior
    (IsEmergency inbox now → behavior = .mrcDrift) ∧
      (¬ IsEmergency inbox now → holdsReleased world decision = false →
        (odd.currentZone ≠ 2 ∨
          inbox.mission.isSome = true ∧ slowsInstead params.lib world msg decision = false) →
        behavior = .colregAvoid) ∧
      (¬ IsEmergency inbox now →
        (holdsReleased world decision = true ∧
            sameColregsEncounter msg decision.releasedColregsRuleId
              decision.releasedColregsTargetKey = true ∨
          odd.currentZone = 2 ∧
            (inbox.mission.isSome = false ∨ slowsInstead params.lib world msg decision = true)) →
        behavior = .transit ∨ behavior = .recovery) := by
  refine ⟨fun emergency => live.drifts params emergency decision expired,
    fun calm unheld reaches => ?_, fun calm kept => ?_⟩
  · have primary := live.resolveBehavior_primary params world expired known
      (LiveConflict.ordinary known seen calm decision)
    rw [← live.published_behavior params known seen, unheld] at primary
    rcases reaches with far | ⟨mission, turn⟩
    · simpa [far] using primary
    · simpa [mission, turn] using primary
  · have primary := live.resolveBehavior_primary params world expired known
      (LiveConflict.ordinary known seen calm decision)
    rw [← live.published_behavior params known seen] at primary
    rcases kept with ⟨held, -⟩ | ⟨two, idle | slows⟩
    · rw [held] at primary
      simp only [if_true] at primary
      split_ifs at primary
      · exact .inl primary
      · exact primary
    · rw [if_pos ⟨two, idle⟩] at primary
      exact .inl primary
    · simp only [two, slows, true_and, if_true] at primary
      split_ifs at primary
      · exact .inl primary
      · exact primary
      · exact .inl primary

theorem live_conflict_avoided_starboard :
    (tick quarterParameters turningInbox {} 0 patient).2.plan.behavior = .colregAvoid := by
  have live : LiveConflict turningInbox 0 (giveWayDemand "STARBOARD") :=
    ⟨⟨rfl, rfl, .inl rfl, .inl rfl⟩, rfl, by decide⟩
  have calm : ¬ IsEmergency turningInbox 0 := by
    rintro ⟨-, -, commanded | critical⟩
    · cases commanded
    · cases critical
  have known : turningInbox.odd = some ⟨0, 0⟩ := rfl
  have seen : turningInbox.world = some (lonelyWorld 0) := rfl
  exact (live_conflict_avoided quarterParameters known seen live {} patient).2.1 calm rfl
    (.inl (by decide))

/-- The reasoner withdraws the demand. -/
def withdrawnDemand : COLREGsConstraint :=
  { giveWayDemand "STARBOARD" with conflictDetected := false }

/-- A mission without a waypoint and a recommended speed. -/
def plainMission : MissionGoal := ⟨0, 0.0, 0.0, 0.0, fsmActive, taskValidityValid⟩

/-- A conflict comes and goes while the ship is on a mission. -/
def releasedRun : List Event :=
  [.oddState ⟨0, 0⟩, .worldState (lonelyWorld 0), .missionGoal plainMission,
    .colregsConstraint (giveWayDemand "STARBOARD"), .arbitrationTimer 0 patient,
    .colregsConstraint withdrawnDemand, .arbitrationTimer 0 patient]

/-- A ship without a mission in zone two. -/
def harbourRun : List Event :=
  [.oddState ⟨0, 2⟩, .worldState (lonelyWorld 0),
    .colregsConstraint (giveWayDemand "STARBOARD")]

/-- After a run, a tick with a live conflict keeps the ship on its transit. -/
def KeepsTransit (events : List Event) : Prop :=
  let node := nodeAt quarterParameters events events.length
  LiveConflict node.inbox 0 (giveWayDemand "STARBOARD") ∧
    ∃ output, node.published quarterParameters (.arbitrationTimer 0 patient) = some output ∧
      output.plan.behavior = .transit

/-- The conflict that comes back is not avoided, and neither is one in zone two. -/
theorem live_conflict_overridden :
    KeepsTransit (releasedRun ++ [.colregsConstraint (giveWayDemand "STARBOARD")]) ∧
      KeepsTransit harbourRun := by
  constructor
  · exact ⟨⟨⟨rfl, rfl, .inl rfl, .inl rfl⟩, rfl, by decide⟩, _, rfl, by decide +kernel⟩
  · exact ⟨⟨⟨rfl, rfl, .inl rfl, .inl rfl⟩, rfl, by decide⟩, _, rfl, by decide⟩

end MassL3.M4
