/-
This file is about what the published box keeps of the demands of a directive. The solver and its
fallback keep to the cap on the speed, and then the box is widened to contain the own speed, so
that no demanded reduction is left in the plan.

The heading window of a turn does not depend on whether the solver has a solution: the published
window reaches fifteen degrees to both sides of a heading. With a solution that is the base heading
turned by the required deviation, without one the latched anchor turned by it. So the window begins
short of the deviation that the solver was constrained to.
-/

import MassTdl.Arbiter.Stages

namespace MassL3.M4

open Binary64
open Clamps
open MassL3.M6.Colregs (doubleMax)
open MassL3.Risk

/-! ### Minima and maxima of two -/

theorem stdMin_le_second {first second : Float} (firstNumber : first.isNaN = false)
    (secondNumber : second.isNaN = false) : stdMin first second ≤ second := by
  unfold stdMin
  split
  · exact le_self_of_number secondNumber
  · next notLt => exact le_of_not_lt firstNumber secondNumber notLt

/-- The larger of a value and a bound it keeps to is the bound. -/
theorem unpacked_stdMax_of_le {first second : Float} (keeps : first ≤ second)
    (positive : 0.0 < second) : unpacked (stdMax first second) = unpacked second := by
  unfold stdMax
  split
  · rfl
  · next notLt =>
    obtain ⟨firstNumber, secondNumber, below⟩ := (le_iff _ _).mp keeps
    have above := ((le_iff _ _).mp (le_of_not_lt secondNumber firstNumber notLt)).2.2
    have secondPositive := ((lt_iff _ _).mp positive).2.2
    rw [toEReal_zero] at secondPositive
    exact (unpacked_eq_of_toEReal_eq secondPositive (le_antisymm above below)).symm

/-! ### The cap -/

variable {params : Parameters} {inbox : Inbox} {decision : Decision} {now : Int}
  {expired : Nat → Nat → Bool} {world : WorldState} {directive : ColregsDirective}

theorem conflictActive_of_speedCap (capped : dynamicRiskRequiresSpeedCap directive = true) :
    directive.conflictActive = true := by
  by_contra quiet
  unfold dynamicRiskRequiresSpeedCap at capped
  simp only [Bool.eq_false_iff.mpr quiet, Bool.not_false, if_true] at capped
  exact absurd capped Bool.false_ne_true

theorem Parameters.speedMaxKn_number (params : Parameters) : params.speedMaxKn.isNaN = false :=
  number_of_sub (number_of_div params.speedDomain.castable)

/-- The cap does not exceed the own speed. -/
theorem directiveSpeedMaxKn_le (capped : dynamicRiskRequiresSpeedCap directive = true)
    (moving : 0.0 < world.ownShip.sogKn) :
    directiveSpeedMaxKn params world directive ≤ world.ownShip.sogKn := by
  have share : stdMax 0.0 (world.ownShip.sogKn * 0.6) ≤ world.ownShip.sogKn := by
    unfold stdMax
    split
    · next above =>
      exact mul_le_self (le_of_lt moving) ⟨by decide, by decide⟩
        (number_of_lt above).2
    · exact le_of_lt moving
  unfold directiveSpeedMaxKn
  rw [if_pos capped]
  exact chain_le (stdMin_le_second params.speedMaxKn_number (number_of_le share).1) share

/-! ### The solver keeps to the cap -/

namespace IvPSolver

variable {solver : IvPSolver} {functions : List WeightedFunction}
  {constraints : IvPHardConstraints} {solution : IvPSolution} {limit : Float}

/-- The speeds of a solution keep to a limit that the constraints keep to. -/
theorem solve_speedMaxKn_le {inTime : Nat → Bool}
    (found : solver.solve functions constraints inTime = some solution)
    (keeps : constraints.speedMaxKn ≤ limit) (positive : 0.0 < limit) :
    solution.speedMaxKn ≤ limit := by
  unfold solve at found
  split_ifs at found
  simp only at found
  split_ifs at found
  obtain rfl := Option.some.inj found
  have number : (-1.0 : Float).isNaN = false := by decide
  let speeds := (solver.nearOptimalCells functions constraints
    (solver.findBestUtility functions constraints inTime)).map Prod.snd
  have greatestNumber : (runningMax (-1.0) speeds).isNaN = false := runningMax_number number _
  show runningMax (-1.0) speeds ≤ limit
  rcases runningMax_found (-1.0) speeds with start | member
  · rw [start]
    exact le_of_lt (chain_lt (by decide) positive)
  · obtain ⟨cell, near, same⟩ := List.mem_map.mp member
    have feasible := (List.mem_filter.mp (List.mem_filter.mp near).1).2
    rw [← same] at greatestNumber ⊢
    refine chain_le (le_of_not_lt greatestNumber (number_of_le keeps).1 fun above => ?_) keeps
    unfold isCellFeasible at feasible
    simp [above] at feasible

theorem solveWithFallback_speedMaxKn_le
    (found : solver.solveWithFallback functions constraints expired = some solution)
    (keeps : constraints.speedMaxKn ≤ limit) (positive : 0.0 < limit) :
    solution.speedMaxKn ≤ limit := by
  obtain ⟨level, -, some⟩ := List.exists_of_findSome?_eq_some found
  obtain ⟨base, solved, rfl⟩ := Option.map_eq_some_iff.mp some
  have relaxed : (constraints.relax level).speedMaxKn ≤ limit := by
    unfold IvPHardConstraints.relax
    split <;> exact keeps
  have keepsTo : base.speedMaxKn ≤ limit := solve_speedMaxKn_le solved relaxed positive
  exact keepsTo

end IvPSolver

theorem runSolver_sMax_le {mission : Option MissionGoal} {primary : BehaviorType}
    {forDirective : Option COLREGsConstraint} {guided : Guided}
    (capped : dynamicRiskRequiresSpeedCap guided.directive = true)
    (moving : 0.0 < world.ownShip.sogKn) :
    (runSolver params mission world primary forDirective guided expired).sMax ≤
      world.ownShip.sogKn := by
  have cap : directiveSpeedMaxKn params world guided.directive ≤ world.ownShip.sogKn :=
    directiveSpeedMaxKn_le capped moving
  unfold runSolver
  simp only
  split
  · next solution found => exact IvPSolver.solveWithFallback_speedMaxKn_le found cap moving
  · exact cap

/-! ### The plan does not -/

theorem unpacked_publishedSpeed {arbitration : Arbitration}
    (ordinary : isMrcType arbitration.primary = false)
    (keeps : arbitration.sMax ≤ world.ownShip.sogKn) (moving : world.ownShip.sogKn > 0.5) :
    unpacked (arbitration.widenSpeed world).sMax = unpacked world.ownShip.sogKn := by
  unfold Arbitration.widenSpeed
  rw [if_pos (by simp [ordinary, moving])]
  exact unpacked_stdMax_of_le keeps (chain_lt (by decide) moving)

/-- A demanded reduction is left in the plan: its greatest speed is at most the reduced one and
below the own speed. -/
def CapReachesPlan (plan : BehaviorPlan) (ownSogKn : Float) : Prop :=
  plan.speedMaxKn ≤ narrow (ownSogKn * 0.6) ∧ plan.speedMaxKn < narrow ownSogKn

/-- A ship under way keeps its speed in the plan whenever a directive demands a cap. -/
theorem speed_cap_never_reaches_plan {odd : ODDState} (known : inbox.odd = some odd)
    (seen : inbox.world = some world)
    (capped : dynamicRiskRequiresSpeedCap (resolveBehavior params inbox world
      (hearTick inbox decision now) expired).directive = true)
    (moving : world.ownShip.sogKn > 0.5) :
    ¬ CapReachesPlan (tick params inbox decision now expired).2.plan world.ownShip.sogKn := by
  have runs := runsSolver_of_directive params (conflictActive_of_speedCap capped)
  have kept : (resolveBehavior params inbox world (hearTick inbox decision now) expired).sMax ≤
      world.ownShip.sogKn := by
    rw [(resolveBehavior_sameBox params).sMax, arbitrate_of_active params runs.ordinary runs.active]
    exact runSolver_sMax_le (runs.directive ▸ capped) (chain_lt (by decide) moving)
  have ordinary : isMrcType (resolveBehavior params inbox world (hearTick inbox decision now)
      expired).primary = false := isMrcType_resolveBehavior params runs.ordinary runs.active
  rintro ⟨-, below⟩
  rw [tick_of_arbitration params known seen (.inr runs.conflict),
    (Arbitration.publishesBox params _ _ _).speedMaxKn, Arbitration.clampHeading_sMax] at below
  have same : narrow ((resolveBehavior params inbox world (hearTick inbox decision now)
      expired).widenSpeed world).sMax = narrow world.ownShip.sogKn :=
    narrow_congr (unpacked_publishedSpeed ordinary kept moving)
  rw [same] at below
  exact lt_irrefl_float32 _ below

/-- A fresh node that was told to slow down. -/
def slowedInbox : Inbox where
  odd := some ⟨0, 0⟩
  world := some (lonelyWorld 0)
  colregs := some (giveWayDemand "REDUCE_SPEED")

theorem speed_cap_never_reaches_plan_slowing :
    ¬ CapReachesPlan (tick quarterParameters slowedInbox {} 0 patient).2.plan
      (lonelyWorld 0).ownShip.sogKn := by
  have known : slowedInbox.odd = some ⟨0, 0⟩ := rfl
  have seen : slowedInbox.world = some (lonelyWorld 0) := rfl
  exact speed_cap_never_reaches_plan known seen (by decide +kernel) (by decide +kernel)

/-- The ship that is told to slow down is free to keep its ten knots. -/
theorem demanded_cap_lost :
    nodeAt quarterParameters [.oddState ⟨0, 0⟩, .worldState (lonelyWorld 0),
        .colregsConstraint (giveWayDemand "REDUCE_SPEED")] 3 = ⟨slowedInbox, {}⟩ ∧
      dynamicRiskRequiresSpeedCap (resolveBehavior quarterParameters slowedInbox (lonelyWorld 0)
        (hearTick slowedInbox {} 0) patient).directive = true ∧
      (lonelyWorld 0).ownShip.sogKn > 0.5 ∧
      ¬ CapReachesPlan (tick quarterParameters slowedInbox {} 0 patient).2.plan
        (lonelyWorld 0).ownShip.sogKn := by
  refine ⟨rfl, by decide +kernel, by decide +kernel, ?_⟩
  unfold CapReachesPlan
  decide +kernel

/-! ### The turn of a tick -/

/-- The directive of a tick that runs the solver. -/
def tickGuided (params : Parameters) (inbox : Inbox) (decision : Decision) (now : Int)
    (world : WorldState) : Guided :=
  guideHeard params.lib world (currentRouteTracking params.lib inbox.route world)
    (hearTick inbox decision now)

/-- The geometry of the turn of a tick that runs the solver. -/
def tickTurn (params : Parameters) (inbox : Inbox) (decision : Decision) (now : Int)
    (world : WorldState) : Turn :=
  let guided := tickGuided params inbox decision now world
  planTurn params.lib world (nominalHdg params.lib inbox.mission world)
    (hearTick inbox decision now).forDirective guided.directive guided.decision

/-- What the solver finds in a tick. -/
def tickSolution (params : Parameters) (inbox : Inbox) (decision : Decision) (now : Int)
    (world : WorldState) (expired : Nat → Nat → Bool) : Option IvPSolution :=
  let turn := tickTurn params inbox decision now world
  let directive := (tickGuided params inbox decision now world).directive
  params.solver.solveWithFallback (weightedFunctions params inbox.mission world directive turn)
    (hardConstraints params world directive turn) expired

/-! ### The window -/

/-- Fifteen degrees to both sides of the base heading turned by the deviation. -/
def turnedWindow (lib : MathLibrary) (turn : Turn) : HeadingWindow :=
  let centre := wrapHeadingDeg lib (turn.baseHdg + turn.signedDevDeg)
  ⟨wrapHeadingDeg lib (centre - 15.0), wrapHeadingDeg lib (centre + 15.0)⟩

/-- The heading that stands for the base without a solution: the one latched before, else the
base, which is latched now or not. -/
def fallbackAnchor (turn : Turn) : Float :=
  if turn.decision.fallbackAnchorSet then turn.decision.fallbackAnchorHdg else turn.baseHdg

/-- Fifteen degrees to both sides of the fallback anchor turned by the deviation. -/
def fallbackWindow (lib : MathLibrary) (turn : Turn) : HeadingWindow :=
  let centre := lib.fmod (fallbackAnchor turn + turn.signedDevDeg + 360.0) 360.0
  ⟨lib.fmod (centre - 15.0 + 360.0) 360.0, lib.fmod (centre + 15.0 + 360.0) 360.0⟩

/-- The deviation of a turn by a positive angle is not zero on either side. -/
theorem signedDeviation_nonzero {directive : ColregsDirective} {requiredDevDeg : Float}
    (turns : directive.turns = true) (positive : 0.0 < requiredDevDeg) :
    0.0 < (signedDeviationDeg directive requiredDevDeg).abs ∧
      (signedDeviationDeg directive requiredDevDeg == 0.0) = false := by
  unfold ColregsDirective.turns at turns
  unfold signedDeviationDeg
  cases direction : directive.direction with
  | starboard => exact ⟨(abs_pos_of_pos positive).1, (ne_zero_of_pos positive).1⟩
  | port => exact ⟨(abs_pos_of_pos positive).2, (ne_zero_of_pos positive).2⟩
  | hold | reduceSpeed => simp [direction] at turns

theorem directiveHeadingWindow_eq {lib : MathLibrary} {baseHdg requiredDevDeg : Float}
    {directive : ColregsDirective}
    (nonzero : (signedDeviationDeg directive requiredDevDeg == 0.0) = false) :
    directiveHeadingWindow lib baseHdg directive requiredDevDeg 15.0 =
      some
        ⟨wrapHeadingDeg lib (wrapHeadingDeg lib
            (baseHdg + signedDeviationDeg directive requiredDevDeg) - 15.0),
          wrapHeadingDeg lib (wrapHeadingDeg lib
            (baseHdg + signedDeviationDeg directive requiredDevDeg) + 15.0)⟩ := by
  unfold directiveHeadingWindow
  simp only [nonzero, Bool.false_eq_true, if_false]

section Box

variable {turn : Turn}

theorem solvedWindow_of_turn (lib : MathLibrary) (turning : directive.turnActive = true)
    (signed : turn.signedDevDeg = signedDeviationDeg directive turn.requiredDevDeg)
    (demanded : 0.0 < turn.requiredDevDeg) (solution : IvPSolution) :
    solvedWindow lib directive turn solution = turnedWindow lib turn := by
  obtain ⟨conflict, turns⟩ := Bool.and_eq_true_iff.mp turning
  obtain ⟨positive, nonzero⟩ := signedDeviation_nonzero turns demanded
  unfold solvedWindow
  rw [signed, if_pos ⟨conflict, positive⟩, directiveHeadingWindow_eq nonzero]
  unfold turnedWindow
  rw [signed]
  rfl

theorem fallbackBox_of_turn (lib : MathLibrary) (turning : directive.turnActive = true)
    (signed : turn.signedDevDeg = signedDeviationDeg directive turn.requiredDevDeg)
    (demanded : 0.0 < turn.requiredDevDeg) :
    (fallbackBox lib world directive turn).hMin = (fallbackWindow lib turn).headingMinDeg ∧
      (fallbackBox lib world directive turn).hMax = (fallbackWindow lib turn).headingMaxDeg := by
  obtain ⟨conflict, turns⟩ := Bool.and_eq_true_iff.mp turning
  have positive := (signedDeviation_nonzero turns demanded).1
  rw [← signed] at positive
  unfold fallbackBox fallbackWindow fallbackAnchor
  simp only [turning, if_true, if_pos positive]
  cases set : turn.decision.fallbackAnchorSet with
  | false => cases turn.decision.m3ActiveLatch <;> simp [set]
  | true => simp [set]

end Box

/-! ### The published window -/

/-- The window a tick builds for its turn. -/
def tickWindow (params : Parameters) (inbox : Inbox) (decision : Decision) (now : Int)
    (world : WorldState) (expired : Nat → Nat → Bool) : HeadingWindow :=
  if (tickSolution params inbox decision now world expired).isSome then
    turnedWindow params.lib (tickTurn params inbox decision now world)
  else fallbackWindow params.lib (tickTurn params inbox decision now world)

/-- The clamp to reachable headings leaves the box of the arbitration as it is. -/
def ClampIdle (params : Parameters) (inbox : Inbox) (world : WorldState)
    (arbitration : Arbitration) : Prop :=
  ((arbitration.widenSpeed world).clampHeading params inbox.gncOdd world).hMin =
      arbitration.hMin ∧
    ((arbitration.widenSpeed world).clampHeading params inbox.gncOdd world).hMax =
      arbitration.hMax

/-- Without the envelope of the controller there is nothing to clamp to. -/
theorem clampIdle_of_none (arbitration : Arbitration) (unknown : inbox.gncOdd = none) :
    ClampIdle params inbox world arbitration := by
  unfold ClampIdle Arbitration.clampHeading Arbitration.widenSpeed
  rw [unknown]
  simp only
  split <;> exact ⟨rfl, rfl⟩

theorem runSolver_window {primary : BehaviorType}
    (turning : (tickGuided params inbox decision now world).directive.turnActive = true)
    (demanded : 0.0 < (tickTurn params inbox decision now world).requiredDevDeg) :
    let box := runSolver params inbox.mission world primary
      (hearTick inbox decision now).forDirective (tickGuided params inbox decision now world)
      expired
    box.hMin = (tickWindow params inbox decision now world expired).headingMinDeg ∧
      box.hMax = (tickWindow params inbox decision now world expired).headingMaxDeg := by
  have signed : (tickTurn params inbox decision now world).signedDevDeg =
      signedDeviationDeg (tickGuided params inbox decision now world).directive
        (tickTurn params inbox decision now world).requiredDevDeg := rfl
  unfold runSolver tickWindow
  simp only
  split
  · next solution found =>
    have some : (tickSolution params inbox decision now world expired).isSome = true := by
      unfold tickSolution tickTurn
      exact Option.isSome_iff_exists.mpr ⟨solution, found⟩
    have window := solvedWindow_of_turn params.lib turning signed demanded solution
    rw [if_pos some, ← window]
    exact ⟨rfl, rfl⟩
  · next missing =>
    have none : ¬ (tickSolution params inbox decision now world expired).isSome = true := by
      unfold tickSolution tickTurn
      rw [Option.not_isSome_iff_eq_none]
      exact missing
    rw [if_neg none]
    exact fallbackBox_of_turn params.lib turning signed demanded

/-- While a turn is demanded and the clamp has nothing to do, the published window is the one
built for the turn. -/
theorem publishes_tickWindow {odd : ODDState} (known : inbox.odd = some odd)
    (seen : inbox.world = some world)
    (turning : (resolveBehavior params inbox world (hearTick inbox decision now)
      expired).directive.turnActive = true)
    (demanded : (tickTurn params inbox decision now world).requiredDevDeg > 0.0)
    (idle : ClampIdle params inbox world
      (resolveBehavior params inbox world (hearTick inbox decision now) expired)) :
    let plan := (tick params inbox decision now expired).2.plan
    let window := tickWindow params inbox decision now world expired
    plan.headingMinDeg = narrow window.headingMinDeg ∧
      plan.headingMaxDeg = narrow window.headingMaxDeg := by
  have runs := runsSolver_of_directive params (Bool.and_eq_true_iff.mp turning).1
  have same : (arbitrate params inbox.mission world
      (currentRouteTracking params.lib inbox.route world) (hearTick inbox decision now)
      expired).SameBox (resolveBehavior params inbox world (hearTick inbox decision now) expired) :=
    resolveBehavior_sameBox params
  rw [arbitrate_of_active params runs.ordinary runs.active] at same
  rw [runs.directive] at turning
  obtain ⟨lower, upper⟩ := runSolver_window turning demanded
  simp only
  rw [tick_of_arbitration params known seen (.inr runs.conflict),
    (Arbitration.publishesBox params _ _ _).headingMinDeg,
    (Arbitration.publishesBox params _ _ _).headingMaxDeg, idle.1, idle.2, same.hMin, same.hMax]
  exact ⟨congrArg narrow lower, congrArg narrow upper⟩

theorem publishes_tickWindow_starboard :
    let plan := (tick quarterParameters turningInbox {} 0 patient).2.plan
    let window := tickWindow quarterParameters turningInbox {} 0 (lonelyWorld 0) patient
    plan.headingMinDeg = narrow window.headingMinDeg ∧
      plan.headingMaxDeg = narrow window.headingMaxDeg := by
  have known : turningInbox.odd = some ⟨0, 0⟩ := rfl
  have seen : turningInbox.world = some (lonelyWorld 0) := rfl
  exact publishes_tickWindow known seen (by decide +kernel) (by decide +kernel)
    (clampIdle_of_none _ rfl)

/-- The searches of an impatient solver find nothing. -/
def impatient : Nat → Nat → Bool := fun _ _ => true

/-- The published window contains the heading twenty degrees to starboard, which the demanded
deviation of thirty degrees rules out. -/
def StartsTooEarly (expired : Nat → Nat → Bool) : Prop :=
  let plan := (tick quarterParameters turningInbox {} 0 expired).2.plan
  let turn := tickTurn quarterParameters turningInbox {} 0 (lonelyWorld 0)
  let directive := (tickGuided quarterParameters turningInbox {} 0 (lonelyWorld 0)).directive
  directive.turnActive = true ∧ turn.requiredDevDeg > 0.0 ∧
    ClampIdle quarterParameters turningInbox (lonelyWorld 0)
      (resolveBehavior quarterParameters turningInbox (lonelyWorld 0)
        (hearTick turningInbox {} 0) expired) ∧
    plan.headingMinDeg ≤ 20.0 ∧ 20.0 ≤ plan.headingMaxDeg ∧
    isHeadingFeasible 20.0 (directiveAllowedRanges meridianLibrary turn.baseHdg directive
      turn.requiredDevDeg) = false

/-- The window starts too early with a solution and without one. -/
theorem window_short_of_deviation : StartsTooEarly patient ∧ StartsTooEarly impatient := by
  constructor
  · exact ⟨by decide +kernel, by decide +kernel, clampIdle_of_none _ rfl, by decide +kernel,
      by decide +kernel, by decide +kernel⟩
  · exact ⟨by decide +kernel, by decide +kernel, clampIdle_of_none _ rfl, by decide +kernel,
      by decide +kernel, by decide +kernel⟩

end MassL3.M4
