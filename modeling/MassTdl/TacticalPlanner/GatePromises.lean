/-
This file says what the gate between the planner's solver and the ship promises, over the reals. The
checks are promises about a ship that sails the plan and then holds its last command. She ends on
the side that the encounter asks for, she is never close ahead of the target, she loses no speed and
gains no heading faster than her limits allow between any two points of the plan, and once the
target opens she keeps clear of it for all time to come. A ship that stands on is only asked to end
on her route and on its heading.

The promises are then carried back to the decision of the solver, whose headings and speeds the
points of the plan are reckoned from.
-/

import MassTdl.TacticalPlanner.TailGate

namespace MassL3.M5.TailGate

open Clamps
open M2.Scalars (Vector2d)
open MidMpc (ColregsPreferredDirection SolveStatus)
open Windows (TrajectoryPoint circularHeadingDistance)

/-! ### The promises of the gate -/

/-- The ship is to the side that the encounter asks for. -/
def OnSide : ColregsPreferredDirection → ℝ → Prop
  | .starboard, lateral => 25.0 ≤ lateral
  | .port, lateral => lateral ≤ -25.0
  | .hold, _ | .reduceSpeed, _ => True

/-- A point of a plan is behind the target, seen along the route, or passes well abeam of it. -/
def PassesAstern (target : TargetState ℝ) (routeBrg : ℝ) (point : TrajectoryPoint ℝ) : Prop :=
  let seen := (point.xM - (targetAt target point.tS).north,
    point.yM - (targetAt target point.tS).east)
  Windows.ahead routeBrg seen ≤ 0 ∨ 100.0 < |Windows.abeam routeBrg seen|

/-- The ship as the checks of the steps take her, one step before the plan. -/
noncomputable def startPoint (own : TrajectoryPoint ℝ) :
    List (TrajectoryPoint ℝ) → TrajectoryPoint ℝ
  | [] => own
  | first :: later => { own with tS := -firstStepDt first later }

@[simp]
theorem startPoint_psiRad (own : TrajectoryPoint ℝ) (trajectory : List (TrajectoryPoint ℝ)) :
    (startPoint own trajectory).psiRad = own.psiRad := by
  cases trajectory <;> rfl

@[simp]
theorem startPoint_uMps (own : TrajectoryPoint ℝ) (trajectory : List (TrajectoryPoint ℝ)) :
    (startPoint own trajectory).uMps = own.uMps := by
  cases trajectory <;> rfl

/-- What a plan of a ship that gives way keeps to. -/
structure GivesWay (trajectory : List (TrajectoryPoint ℝ)) (input : MidMpcInput ℝ)
    (terminal : TrajectoryPoint ℝ) : Prop where
  side : OnSide input.colregsPreferredDirection
    (Windows.abeam input.plannedRouteBearingRad (terminal.xM, terminal.yM))
  astern : ∀ target ∈ primaryTailGateTarget input, ∀ point ∈ trajectory,
    PassesAstern target input.plannedRouteBearingRad point
  clear : ∀ target ∈ primaryTailGateTarget input, targetOpening input = true →
    KeepsClear target terminal (input.cpaHardM + 3.0 * max target.cpaSigmaM 0)
  slows : 0 < input.decelMaxMps2 → (startPoint input.ownShip trajectory :: trajectory).Pairwise
    fun earlier later => earlier.uMps - later.uMps ≤
      (input.decelMaxMps2 + 1.0e-6) * (later.tS - earlier.tS)
  turns : 0 < input.rotMaxRadS → (startPoint input.ownShip trajectory :: trajectory).Pairwise
    fun earlier later =>
      circularHeadingDistance Windows.realFunctions later.psiRad earlier.psiRad ≤
        (input.rotMaxRadS + 1.0e-6) * (later.tS - earlier.tS)
  band : lateralColregActive input = true →
    input.terminalLMinFeasibleM ≤ signedPref input.colregsPreferredDirection *
      Windows.abeam input.plannedRouteBearingRad (terminal.xM, terminal.yM) ∧
    |Windows.abeam input.plannedRouteBearingRad (terminal.xM, terminal.yM)| ≤
      input.terminalLMaxFeasibleM

/-- A ship that stands on ends on her route, on its heading. -/
def StandsOn (terminal : TrajectoryPoint ℝ) (routeBrg : ℝ) : Prop :=
  circularHeadingDistance Windows.realFunctions terminal.psiRad routeBrg ≤
      2.0 * (Real.pi / 180.0) ∧
    |Windows.abeam routeBrg (terminal.xM, terminal.yM)| ≤ 10.0

section Gate

variable {solution : MidMpcSolution ℝ} {input : MidMpcInput ℝ} {terminal : TrajectoryPoint ℝ}
  {trajectory : List (TrajectoryPoint ℝ)}

theorem lateralOffset_eq (point : TrajectoryPoint ℝ) (routeBrg : ℝ) :
    trajectoryTerminalLateralOffsetM Windows.realFunctions point routeBrg =
      Windows.abeam routeBrg (point.xM, point.yM) := by
  simp only [trajectoryTerminalLateralOffsetM, Windows.abeam, Windows.realFunctions]
  ring

theorem terminalOffsetMatchesM6Direction_iff (routeBrg : ℝ)
    (direction : ColregsPreferredDirection) :
    terminalOffsetMatchesM6Direction Windows.realFunctions terminal routeBrg direction = true ↔
      OnSide direction (Windows.abeam routeBrg (terminal.xM, terminal.yM)) := by
  cases direction <;>
    simp only [terminalOffsetMatchesM6Direction, OnSide, lateralOffset_eq, decide_eq_true_eq,
      ge_iff_le]

theorem pointIsAhead_iff (target : TargetState ℝ) (routeBrg : ℝ) (point : TrajectoryPoint ℝ) :
    pointIsAhead Windows.realFunctions target routeBrg point = false ↔
      PassesAstern target routeBrg point := by
  have zero : (0.0 : ℝ) = 0 := by norm_num
  have lateral : ∀ north east : ℝ,
      north * -Real.sin routeBrg + east * Real.cos routeBrg =
        Windows.abeam routeBrg (north, east) := fun north east => by
    unfold Windows.abeam
    ring
  unfold pointIsAhead PassesAstern
  simp only [Bool.and_eq_false_iff, decide_eq_false_iff_not, gt_iff_lt, not_lt, not_le]
  dsimp only [Windows.realFunctions]
  rw [zero, lateral]
  rfl

theorem tailGateNoCrossingAhead_iff :
    tailGateNoCrossingAhead Windows.realFunctions solution input = true ↔
      ∀ target ∈ primaryTailGateTarget input, ∀ point ∈ solution.trajectory,
        PassesAstern target input.plannedRouteBearingRad point := by
  unfold tailGateNoCrossingAhead trajectoryCrossesAheadOfTarget
  cases primaryTailGateTarget input with
  | none => simp
  | some target => simp [pointIsAhead_iff]

/-- No point of a plan is before it is made. -/
theorem Spaced.nonneg (spaced : Spaced trajectory) {point : TrajectoryPoint ℝ}
    (member : point ∈ trajectory) : 0 ≤ point.tS := by
  induction trajectory with
  | nil => cases member
  | cons first later inductionHypothesis =>
    have begins := spaced.1 first rfl
    rcases List.mem_cons.mp member with rfl | inLater
    · exact begins
    cases later with
    | nil => cases inLater
    | cons second rest =>
      obtain ⟨apart, chained⟩ := List.isChain_cons_cons.mp spaced.2
      refine inductionHypothesis ⟨fun head equal => ?_, chained⟩ inLater
      obtain rfl := Option.some.inj equal
      unfold Apart at apart
      norm_num at apart
      linarith

theorem tailGateCpaReleaseClear_iff (last : solution.trajectory.getLast? = some terminal)
    (later : 0 ≤ terminal.tS) :
    tailGateCpaReleaseClear Windows.realFunctions solution input = true ↔
      ∀ target ∈ primaryTailGateTarget input, targetOpening input = true →
        KeepsClear target terminal (input.cpaHardM + 3.0 * max target.cpaSigmaM 0) := by
  have zero : (0.0 : ℝ) = 0 := by norm_num
  unfold tailGateCpaReleaseClear trajectoryTerminalStateCpaM
  rw [last]
  cases primaryTailGateTarget input with
  | none => simp
  | some target =>
    simp only [Option.mem_some_iff, forall_eq', ← le_terminalStateCpaM_iff later, stdMax_eq_max,
      zero]
    cases targetOpening input with
    | false => simp
    | true => simp [le_sub_iff_add_le]

theorem tailGateTurnsAreFeasible_iff (spaced : Spaced trajectory) (own : TrajectoryPoint ℝ)
    (rotMaxRadS : ℝ) :
    tailGateTurnsAreFeasible Windows.realFunctions trajectory own.psiRad rotMaxRadS = true ↔
      (0 < rotMaxRadS → (startPoint own trajectory :: trajectory).Pairwise fun earlier later =>
        circularHeadingDistance Windows.realFunctions later.psiRad earlier.psiRad ≤
          (rotMaxRadS + 1.0e-6) * (later.tS - earlier.tS)) := by
  cases trajectory with
  | nil => simp [tailGateTurnsAreFeasible, tailGateStepsAreFeasible]
  | cons first later =>
    have begins : (startPoint own (first :: later)).tS = -firstStepDt first later := rfl
    have triangle : ∀ first second third : ℝ,
        circularHeadingDistance Windows.realFunctions third first ≤
          circularHeadingDistance Windows.realFunctions second first +
            circularHeadingDistance Windows.realFunctions third second := by
      intro first second third
      simp only [Windows.circularHeadingDistance_eq_norm]
      rw [add_comm]
      exact norm_sub_le_norm_sub_add_norm_sub _ _ _
    exact tailGateStepsAreFeasible_iff triangle begins spaced

theorem tailGateDecelIsFeasible_iff (spaced : Spaced trajectory) (own : TrajectoryPoint ℝ)
    (decelMaxMps2 : ℝ) :
    tailGateDecelIsFeasible trajectory own.uMps decelMaxMps2 = true ↔
      (0 < decelMaxMps2 → (startPoint own trajectory :: trajectory).Pairwise fun earlier later =>
        earlier.uMps - later.uMps ≤ (decelMaxMps2 + 1.0e-6) * (later.tS - earlier.tS)) := by
  cases trajectory with
  | nil => simp [tailGateDecelIsFeasible, tailGateStepsAreFeasible]
  | cons first later =>
    have begins : (startPoint own (first :: later)).tS = -firstStepDt first later := rfl
    have triangle : ∀ first second third : ℝ,
        first - third ≤ (first - second) + (second - third) := fun first second third =>
      (sub_add_sub_cancel first second third).ge
    exact tailGateStepsAreFeasible_iff triangle begins spaced

theorem tailGateTerminalLateralFeasible_iff (last : solution.trajectory.getLast? = some terminal)
    (routeBrg : ℝ) (direction : ColregsPreferredDirection) (active : Bool) (lMin lMax : ℝ) :
    tailGateTerminalLateralFeasible Windows.realFunctions solution routeBrg direction active lMin
        lMax = true ↔
      (active = true → lMin ≤ signedPref direction *
          Windows.abeam routeBrg (terminal.xM, terminal.yM) ∧
        |Windows.abeam routeBrg (terminal.xM, terminal.yM)| ≤ lMax) := by
  unfold tailGateTerminalLateralFeasible
  rw [last, abs_le]
  simp only [lateralOffset_eq]
  cases active with
  | false => simp
  | true => grind

theorem standOnBiased_iff (routeBrg : ℝ) :
    standOnBiased Windows.realFunctions terminal routeBrg = false ↔
      StandsOn terminal routeBrg := by
  unfold standOnBiased StandsOn
  rw [lateralOffset_eq, Bool.or_eq_false_iff, decide_eq_false_iff_not, decide_eq_false_iff_not,
    not_lt, not_lt]
  rfl

/-- A solution passes a check, and what comes after it. -/
theorem accepted_guard {check : Bool} {reason : String} {next : TailGateAcceptance} :
    (if check = false then .rejected reason else next : TailGateAcceptance).accepted = true ↔
      check = true ∧ next.accepted = true := by
  cases check <;> simp [TailGateAcceptance.rejected]

theorem acceptGiveWay_accepted_iff (spaced : Spaced solution.trajectory)
    (last : solution.trajectory.getLast? = some terminal) :
    (acceptGiveWay Windows.realFunctions solution input terminal).accepted = true ↔
      GivesWay solution.trajectory input terminal := by
  have later : 0 ≤ terminal.tS := spaced.nonneg (List.mem_of_getLast? last)
  unfold acceptGiveWay
  simp only [accepted_guard, terminalOffsetMatchesM6Direction_iff, tailGateNoCrossingAhead_iff,
    tailGateCpaReleaseClear_iff last later, tailGateDecelIsFeasible_iff spaced,
    tailGateTurnsAreFeasible_iff spaced, tailGateTerminalLateralFeasible_iff last]
  constructor
  · rintro ⟨side, astern, clear, slows, turns, band, -⟩
    exact ⟨side, astern, clear, slows, turns, band⟩
  · rintro ⟨side, astern, clear, slows, turns, band⟩
    exact ⟨side, astern, clear, slows, turns, band, rfl⟩

/-- A solution is accepted by the checks for the role that the ship has. -/
theorem acceptTailGate_cases :
    (acceptTailGate Windows.realFunctions solution input).accepted = true ↔
      solution.status = .converged ∧ ∃ terminal ∈ solution.trajectory.getLast?,
        if input.colregsPrimaryRole = 0 then
          standOnBiased Windows.realFunctions terminal input.plannedRouteBearingRad = false
        else (acceptGiveWay Windows.realFunctions solution input terminal).accepted = true := by
  unfold acceptTailGate
  split
  · rename_i terminal converged last
    simp only [converged, last, Option.mem_some_iff, true_and, exists_eq_left']
    split_ifs with standOn biased
    · simp [biased, TailGateAcceptance.rejected]
    · simp [Bool.not_eq_true _ ▸ biased, TailGateAcceptance.passed]
    · rfl
  · rename_i otherwise
    refine iff_of_false (by simp [TailGateAcceptance.rejected]) ?_
    rintro ⟨converged, terminal, last, -⟩
    exact otherwise terminal converged last

/-- The gate accepts a solution just if the solver converged and the plan keeps its promises. -/
theorem acceptTailGate_accepted_iff (spaced : Spaced solution.trajectory) :
    (acceptTailGate Windows.realFunctions solution input).accepted = true ↔
      solution.status = .converged ∧ ∃ terminal ∈ solution.trajectory.getLast?,
        if input.colregsPrimaryRole = 0 then StandsOn terminal input.plannedRouteBearingRad
        else GivesWay solution.trajectory input terminal := by
  rw [acceptTailGate_cases]
  refine and_congr_right fun _ => exists_congr fun terminal => and_congr_right fun last => ?_
  split_ifs
  · exact standOnBiased_iff _
  · exact acceptGiveWay_accepted_iff spaced last

end Gate

/-! ### The plan of a decision -/

section Decision

variable (cfg : Config ℝ) (xOpt : List ℝ)

/-- The heading of a step. -/
noncomputable def heading (step : Nat) : ℝ := xOpt.getD step 0.0

/-- The speed of a step. -/
noncomputable def speed (step : Nat) : ℝ := xOpt.getD (cfg.nHorizon + step) 0.0

/-- Where the ship is after some steps. -/
noncomputable def reckoned (steps : Nat) : Vector2d ℝ where
  east := ∑ step ∈ Finset.range steps, speed cfg xOpt step * Real.sin (heading xOpt step) * cfg.dtS
  north := ∑ step ∈ Finset.range steps, speed cfg xOpt step * Real.cos (heading xOpt step) * cfg.dtS

noncomputable def plannedPoint (step : Nat) : TrajectoryPoint ℝ where
  xM := (reckoned cfg xOpt step).north
  yM := (reckoned cfg xOpt step).east
  psiRad := heading xOpt step
  uMps := speed cfg xOpt step
  rRadS := 0.0
  tS := step * cfg.dtS

/-- From a step on, the ship is where its commands have brought her. -/
theorem propagateTrajectoryPositions_eq (steps start : Nat) :
    propagateTrajectoryPositions Windows.realFunctions cfg.dtS (reckoned cfg xOpt start).north
        (reckoned cfg xOpt start).east
        ((List.range' start steps).map (decidedPoint Windows.realFunctions cfg xOpt)) =
      (List.range' start steps).map (plannedPoint cfg xOpt) := by
  induction steps generalizing start with
  | zero => rfl
  | succ steps inductionHypothesis =>
    have next := inductionHypothesis (start + 1)
    have north : (reckoned cfg xOpt (start + 1)).north = (reckoned cfg xOpt start).north +
        speed cfg xOpt start * Real.cos (heading xOpt start) * cfg.dtS :=
      Finset.sum_range_succ _ _
    have east : (reckoned cfg xOpt (start + 1)).east = (reckoned cfg xOpt start).east +
        speed cfg xOpt start * Real.sin (heading xOpt start) * cfg.dtS :=
      Finset.sum_range_succ _ _
    rw [north, east] at next
    rw [List.range'_succ, List.map_cons, List.map_cons, propagateTrajectoryPositions]
    exact congrArg₂ List.cons rfl next

variable {cfg xOpt}

/-- A solution that is any good has the points of its decision. -/
theorem unpackSolution_trajectory {returnStatus : Option String}
    (decided : (unpackSolution Windows.realFunctions cfg xOpt returnStatus).trajectory ≠ []) :
    (unpackSolution Windows.realFunctions cfg xOpt returnStatus).trajectory =
      (List.range cfg.nHorizon).map (plannedPoint cfg xOpt) := by
  have zero : (0.0 : ℝ) = 0 := by norm_num
  have origin := propagateTrajectoryPositions_eq cfg xOpt cfg.nHorizon 0
  simp only [reckoned, Finset.range_zero, Finset.sum_empty, ← List.range_eq_range'] at origin
  unfold unpackSolution at decided ⊢
  rw [zero] at decided ⊢
  dsimp only at decided ⊢
  split_ifs at decided ⊢ with wrongSize
  all_goals first | exact origin | exact absurd rfl decided

theorem spaced_planned (step : 1.0e-6 ≤ cfg.dtS) :
    Spaced ((List.range cfg.nHorizon).map (plannedPoint cfg xOpt)) := by
  constructor
  · intro first head
    obtain ⟨number, -, rfl⟩ := List.mem_map.mp (List.mem_of_mem_head? head)
    exact mul_nonneg number.cast_nonneg (le_trans (by norm_num) step)
  · rw [List.isChain_map, List.range_eq_range']
    refine (List.isChain_range' 0 cfg.nHorizon 1).imp fun earlier later next => ?_
    subst next
    unfold Apart plannedPoint
    push_cast
    linarith

/-- How far to starboard of the route the commands have brought her. -/
theorem abeam_reckoned (steps : Nat) (routeBrg : ℝ) :
    Windows.abeam routeBrg ((reckoned cfg xOpt steps).north, (reckoned cfg xOpt steps).east) =
      ∑ step ∈ Finset.range steps,
        speed cfg xOpt step * Real.sin (heading xOpt step - routeBrg) * cfg.dtS := by
  unfold Windows.abeam reckoned
  rw [neg_mul, Finset.sum_mul, Finset.sum_mul, ← Finset.sum_neg_distrib, ← Finset.sum_add_distrib]
  refine Finset.sum_congr rfl fun step _ => ?_
  rw [Real.sin_sub]
  ring

/-- What a plan keeps to whose last command is that of a step, said of the decision it is made
of. -/
structure KeepsPlan (cfg : Config ℝ) (xOpt : List ℝ) (input : MidMpcInput ℝ) (last : Nat) :
    Prop where
  side : OnSide input.colregsPreferredDirection (∑ step ∈ Finset.range last,
    speed cfg xOpt step * Real.sin (heading xOpt step - input.plannedRouteBearingRad) * cfg.dtS)
  astern : ∀ target ∈ primaryTailGateTarget input, ∀ step ≤ last,
    PassesAstern target input.plannedRouteBearingRad (plannedPoint cfg xOpt step)
  clear : ∀ target ∈ primaryTailGateTarget input, targetOpening input = true →
    ¬Standing target (plannedPoint cfg xOpt last) → ∀ time, last * cfg.dtS ≤ time →
      input.cpaHardM + 3.0 * max target.cpaSigmaM 0 ≤
        rangeTo (targetAt target time) (heldAt (plannedPoint cfg xOpt last) time)
  clearStanding : ∀ target ∈ primaryTailGateTarget input, targetOpening input = true →
    Standing target (plannedPoint cfg xOpt last) → ∀ time, last * cfg.dtS ≤ time →
      input.cpaHardM + 3.0 * max target.cpaSigmaM 0 - (time - last * cfg.dtS) / 30000.0 ≤
        rangeTo (targetAt target time) (heldAt (plannedPoint cfg xOpt last) time)
  slowsFromNow : 0 < input.decelMaxMps2 → ∀ step ≤ last,
    input.ownShip.uMps - speed cfg xOpt step ≤
      (input.decelMaxMps2 + 1.0e-6) * ((step + 1) * cfg.dtS)
  slows : 0 < input.decelMaxMps2 → ∀ earlier later, earlier < later → later ≤ last →
    speed cfg xOpt earlier - speed cfg xOpt later ≤
      (input.decelMaxMps2 + 1.0e-6) * ((later - earlier) * cfg.dtS)
  turnsFromNow : 0 < input.rotMaxRadS → ∀ step ≤ last,
    circularHeadingDistance Windows.realFunctions (heading xOpt step) input.ownShip.psiRad ≤
      (input.rotMaxRadS + 1.0e-6) * ((step + 1) * cfg.dtS)
  turns : 0 < input.rotMaxRadS → ∀ earlier later, earlier < later → later ≤ last →
    circularHeadingDistance Windows.realFunctions (heading xOpt later) (heading xOpt earlier) ≤
      (input.rotMaxRadS + 1.0e-6) * ((later - earlier) * cfg.dtS)

/-- The check of the steps begins at most one step before the plan. -/
theorem neg_le_startPoint (own : TrajectoryPoint ℝ) (step : 1.0e-6 ≤ cfg.dtS) (last : Nat) :
    -cfg.dtS ≤ (startPoint own ((List.range (last + 1)).map (plannedPoint cfg xOpt))).tS := by
  have tiny : (0 : ℝ) < 1.0e-6 := by norm_num
  rw [List.range_succ_eq_map, List.map_cons]
  refine neg_le_neg ?_
  cases last with
  | zero =>
    have now : firstStepDt (plannedPoint cfg xOpt 0) [] = 1.0e-6 := by
      unfold firstStepDt plannedPoint stdMax
      rw [Nat.cast_zero, zero_mul, if_pos tiny]
    exact now.trans_le step
  | succ last =>
    have held : ∀ later, firstStepDt (plannedPoint cfg xOpt 0) (plannedPoint cfg xOpt 1 :: later) =
        cfg.dtS := fun later => by
      unfold firstStepDt plannedPoint
      dsimp only
      rw [Nat.cast_zero, Nat.cast_one, zero_mul, one_mul, sub_zero, stdMax_eq_left step]
    rw [List.range_succ_eq_map, List.map_cons, List.map_cons]
    exact (held _).le

variable {limit : ℝ} {last : Nat} {own : TrajectoryPoint ℝ}
  {change : TrajectoryPoint ℝ → TrajectoryPoint ℝ → ℝ}

/-- A limit that is kept between any two points of the plan allows each step as much as it has time
for. -/
theorem limit_of_pairwise (step : 1.0e-6 ≤ cfg.dtS) (positive : 0 < limit)
    (kept : (startPoint own ((List.range (last + 1)).map (plannedPoint cfg xOpt)) ::
      (List.range (last + 1)).map (plannedPoint cfg xOpt)).Pairwise fun earlier later =>
        change earlier later ≤ (limit + 1.0e-6) * (later.tS - earlier.tS)) :
    (∀ number ≤ last, change (startPoint own
        ((List.range (last + 1)).map (plannedPoint cfg xOpt))) (plannedPoint cfg xOpt number) ≤
      (limit + 1.0e-6) * ((number + 1) * cfg.dtS)) ∧
    ∀ earlier later, earlier < later → later ≤ last →
      change (plannedPoint cfg xOpt earlier) (plannedPoint cfg xOpt later) ≤
        (limit + 1.0e-6) * ((later - earlier) * cfg.dtS) := by
  obtain ⟨fromNow, between⟩ := List.pairwise_cons.mp kept
  have rate : 0 ≤ limit + 1.0e-6 := add_nonneg positive.le (by norm_num)
  constructor
  · intro number within
    have member : plannedPoint cfg xOpt number ∈
        (List.range (last + 1)).map (plannedPoint cfg xOpt) :=
      List.mem_map_of_mem (List.mem_range.mpr (by omega))
    refine (fromNow _ member).trans (mul_le_mul_of_nonneg_left ?_ rate)
    have begins : -cfg.dtS ≤
        (startPoint own ((List.range (last + 1)).map (plannedPoint cfg xOpt))).tS :=
      neg_le_startPoint own step last
    change number * cfg.dtS - _ ≤ _
    linarith
  · intro earlier later ordered within
    have size : ((List.range (last + 1)).map (plannedPoint cfg xOpt)).length = last + 1 := by simp
    have pair := List.pairwise_iff_getElem.mp between earlier later (by omega) (by omega) ordered
    simp only [List.getElem_map, List.getElem_range] at pair
    rw [sub_mul]
    exact pair

/-- A decision that the gate accepts of a ship that gives way is a plan that keeps to what the gate
is for. -/
theorem keepsPlan_of_accepted {returnStatus : Option String} {input : MidMpcInput ℝ}
    (step : 1.0e-6 ≤ cfg.dtS) (givesWay : input.colregsPrimaryRole ≠ 0)
    (accepted : (acceptTailGate Windows.realFunctions
      (unpackSolution Windows.realFunctions cfg xOpt returnStatus) input).accepted = true) :
    ∃ last, cfg.nHorizon = last + 1 ∧ KeepsPlan cfg xOpt input last := by
  obtain ⟨-, terminal, found, kept⟩ := acceptTailGate_cases.mp accepted
  rw [if_neg givesWay] at kept
  have decided : (unpackSolution Windows.realFunctions cfg xOpt returnStatus).trajectory ≠ [] :=
    List.ne_nil_of_mem (List.mem_of_getLast? found)
  have points := unpackSolution_trajectory decided
  have spaced : Spaced (unpackSolution Windows.realFunctions cfg xOpt returnStatus).trajectory :=
    points ▸ spaced_planned step
  obtain ⟨side, astern, clear, slows, turns, -⟩ := (acceptGiveWay_accepted_iff spaced found).mp kept
  rw [points] at found astern slows turns
  obtain ⟨last, horizon⟩ : ∃ last, cfg.nHorizon = last + 1 := by
    refine Nat.exists_eq_succ_of_ne_zero fun none => ?_
    rw [none] at found
    cases found
  rw [horizon] at found astern slows turns
  rw [List.range_succ, List.map_append, List.map_singleton, Option.mem_def, List.getLast?_concat,
    Option.some.injEq] at found
  subst found
  refine ⟨last, horizon, ?_, ?_, ?_, ?_, ?_, ?_, ?_, ?_⟩
  · rw [← abeam_reckoned]
    exact side
  · intro target primary number within
    exact astern target primary _ (List.mem_map_of_mem (List.mem_range.mpr (by omega)))
  · exact fun target primary opening moving time after =>
      clear target primary opening time after (.inr moving)
  · intro target primary opening standing time after
    have thirty : (30000.0 : ℝ) = 30000 := by norm_num
    rw [thirty]
    exact (clear target primary opening).le_rangeTo standing after
  · intro limited number within
    have slowed := (limit_of_pairwise step limited (slows limited)).1 number within
    rw [startPoint_uMps] at slowed
    exact slowed
  · exact fun limited => (limit_of_pairwise step limited (slows limited)).2
  · intro limited number within
    have turned := (limit_of_pairwise step limited (turns limited)).1 number within
    rw [startPoint_psiRad] at turned
    exact turned
  · exact fun limited => (limit_of_pairwise step limited (turns limited)).2

end Decision

/-! ### A ship that gives way -/

section Evading

noncomputable def twoSteps : Config ℝ where
  nHorizon := 2
  dtS := 15.0
  cpaSlackEnabled := false

/-- The solver turns the ship to starboard, at her speed. -/
noncomputable def turnedAway : List ℝ := [Real.pi / 2.0, Real.pi / 2.0, 5.0, 5.0]

noncomputable def lyingAhead : TargetState ℝ where
  id := 7
  xM := 3000.0
  yM := 0
  cogRad := 0
  sogMps := 0
  cpaM := 0
  cpaSigmaM := 0

/-- A target lies still, ahead of a ship that has to keep out of its way to starboard. -/
noncomputable def evading : MidMpcInput ℝ where
  ownShip := { xM := 0, yM := 0, psiRad := 0, uMps := 5.0, rRadS := 0, tS := 0 }
  targets := [lyingAhead]
  tailGateTargets := []
  targetRisks := []
  plannedRouteBearingRad := 0
  colregsPrimaryRole := 1
  colregsPreferredDirection := .starboard
  decelMaxMps2 := 0.08
  rotMaxRadS := 0.2
  cpaHardM := 1852.0
  terminalLMinFeasibleM := 30.0
  terminalLMaxFeasibleM := 400.0

theorem plannedPoint_turnedAway_zero :
    plannedPoint twoSteps turnedAway 0 =
      { xM := 0, yM := 0, psiRad := Real.pi / 2, uMps := 5, rRadS := 0, tS := 0 } := by
  norm_num [plannedPoint, reckoned, heading, speed, twoSteps, turnedAway]

theorem plannedPoint_turnedAway_one :
    plannedPoint twoSteps turnedAway 1 =
      { xM := 0, yM := 75, psiRad := Real.pi / 2, uMps := 5, rRadS := 0, tS := 15 } := by
  norm_num [plannedPoint, reckoned, heading, speed, twoSteps, turnedAway]

theorem trajectory_turnedAway :
    (unpackSolution Windows.realFunctions twoSteps turnedAway
        (some "Solve_Succeeded")).trajectory =
      [{ xM := 0, yM := 0, psiRad := Real.pi / 2, uMps := 5, rRadS := 0, tS := 0 },
        { xM := 0, yM := 75, psiRad := Real.pi / 2, uMps := 5, rRadS := 0, tS := 15 }] := by
  rw [unpackSolution_trajectory, ← plannedPoint_turnedAway_zero, ← plannedPoint_turnedAway_one]
  · rfl
  · simp [unpackSolution, twoSteps, turnedAway, List.range_succ, propagateTrajectoryPositions]

theorem circularHeadingDistance_right :
    circularHeadingDistance Windows.realFunctions (Real.pi / 2) 0 ≤ 2 := by
  have positive := Real.pi_pos
  have small := Real.pi_le_four
  rw [Windows.circularHeadingDistance_eq_norm, ← AddCircle.coe_sub, sub_zero,
    Windows.norm_coe_of_short] <;> rw [abs_of_nonneg (by linarith)] <;> linarith

theorem keepsClear_lyingAhead :
    KeepsClear lyingAhead
      { xM := 0, yM := 75, psiRad := Real.pi / 2, uMps := 5, rRadS := 0, tS := 15 }
      (evading.cpaHardM + 3.0 * max lyingAhead.cpaSigmaM 0) := by
  intro time _ _
  unfold rangeTo
  refine Real.le_sqrt_of_sq_le ?_
  simp only [Vector2d.squaredNorm, Vector2d.dot, Vector2d.sub, targetAt, heldAt, lyingAhead,
    evading, Real.cos_pi_div_two, Real.sin_pi_div_two, max_self]
  norm_num
  nlinarith [mul_self_nonneg (75 + 5 * (time - 15))]

theorem givesWay_turnedAway :
    GivesWay
      [{ xM := 0, yM := 0, psiRad := Real.pi / 2, uMps := 5, rRadS := 0, tS := 0 },
        { xM := 0, yM := 75, psiRad := Real.pi / 2, uMps := 5, rRadS := 0, tS := 15 }]
      evading { xM := 0, yM := 75, psiRad := Real.pi / 2, uMps := 5, rRadS := 0, tS := 15 } where
  side := by
    norm_num [OnSide, evading, Windows.abeam]
  astern := by
    intro target primary point member
    obtain rfl := Option.some.inj primary
    refine .inl ?_
    rcases List.mem_pair.mp member with rfl | rfl <;>
      norm_num [Windows.ahead, targetAt, lyingAhead, evading]
  clear := by
    intro target primary _
    obtain rfl := Option.some.inj primary
    exact keepsClear_lyingAhead
  slows := by
    intro _
    norm_num [startPoint, firstStepDt, stdMax, evading]
  turns := by
    intro _
    have right := circularHeadingDistance_right
    norm_num [startPoint, firstStepDt, stdMax, evading,
      Windows.circularHeadingDistance_eq_norm] at right ⊢
    constructor <;> linarith
  band := by
    intro _
    norm_num [signedPref, evading, Windows.abeam]

theorem spaced_turnedAway :
    Spaced (unpackSolution Windows.realFunctions twoSteps turnedAway
      (some "Solve_Succeeded")).trajectory := by
  rw [trajectory_turnedAway]
  norm_num [Spaced, Apart]

theorem accepted_evading :
    (acceptTailGate Windows.realFunctions
      (unpackSolution Windows.realFunctions twoSteps turnedAway (some "Solve_Succeeded"))
      evading).accepted = true := by
  have last : (unpackSolution Windows.realFunctions twoSteps turnedAway
      (some "Solve_Succeeded")).trajectory.getLast? =
        some { xM := 0, yM := 75, psiRad := Real.pi / 2, uMps := 5, rRadS := 0, tS := 15 } := by
    rw [trajectory_turnedAway]
    rfl
  refine acceptTailGate_cases.mpr ⟨?_, _, last, ?_⟩
  · simp [unpackSolution, twoSteps, turnedAway, unpackStatus]
  · rw [if_neg (by decide), acceptGiveWay_accepted_iff spaced_turnedAway last,
      trajectory_turnedAway]
    exact givesWay_turnedAway

/-- The plan is accepted, so it keeps what the gate promises of it. -/
theorem acceptTailGate_accepted_iff_evading :
    ∃ terminal ∈ (unpackSolution Windows.realFunctions twoSteps turnedAway
        (some "Solve_Succeeded")).trajectory.getLast?,
      if evading.colregsPrimaryRole = 0 then StandsOn terminal evading.plannedRouteBearingRad
      else GivesWay (unpackSolution Windows.realFunctions twoSteps turnedAway
        (some "Solve_Succeeded")).trajectory evading terminal :=
  ((acceptTailGate_accepted_iff spaced_turnedAway).mp accepted_evading).2

theorem keepsPlan_of_accepted_evading :
    ∃ last, twoSteps.nHorizon = last + 1 ∧ KeepsPlan twoSteps turnedAway evading last := by
  have step : 1.0e-6 ≤ twoSteps.dtS := by
    unfold twoSteps
    norm_num
  exact keepsPlan_of_accepted step (by decide) accepted_evading

end Evading

end MassL3.M5.TailGate
