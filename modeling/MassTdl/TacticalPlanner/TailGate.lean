/-
This file is about the gate between the planner's solver and the ship. The solver decides on a
heading and a speed for each step. From these the planner reckons where the ship will be, and the
gate looks at the last point, at the primary target and at every step, before the plan may be
published. All of it is stated for any kind of number.

Over the reals two of the checks reach further than what they look at. A limit on the change from
each point to the next is one on the change between any two points of the plan. And the closest
approach that is computed at the last point bounds the range for all time to come.
-/

import MassTdl.Motions
import MassTdl.TacticalPlanner.FallbackTrack
import MassTdl.WorldModel.ClosestApproach

namespace MassL3.M5.TailGate

open Clamps
open M2.Scalars (IsClosest Vector2d isClosest_of_opening isClosest_of_vertex separationAt
  separationAt_ge)
open MidMpc (ColregsPreferredDirection SolveStatus)
open Windows (Functions TargetRiskSnapshot TrajectoryPoint circularHeadingDistance
  primaryTargetRisk)

/-! ### Plans for any kind of number -/

structure TargetState (Scalar : Type) where
  id : Int32
  xM : Scalar
  yM : Scalar
  cogRad : Scalar
  sogMps : Scalar
  cpaM : Scalar
  cpaSigmaM : Scalar

structure MidMpcInput (Scalar : Type) where
  ownShip : TrajectoryPoint Scalar
  targets : List (TargetState Scalar)
  tailGateTargets : List (TargetState Scalar)
  targetRisks : List (TargetRiskSnapshot Scalar)
  plannedRouteBearingRad : Scalar
  colregsPrimaryRole : UInt8
  colregsPreferredDirection : ColregsPreferredDirection
  decelMaxMps2 : Scalar
  rotMaxRadS : Scalar
  cpaHardM : Scalar
  terminalLMinFeasibleM : Scalar
  terminalLMaxFeasibleM : Scalar

structure MidMpcSolution (Scalar : Type) where
  status : SolveStatus := .notInitialized
  trajectory : List (TrajectoryPoint Scalar) := []

/-- What the formulation is configured with. -/
structure Config (Scalar : Type) where
  nHorizon : Nat
  dtS : Scalar
  cpaSlackEnabled : Bool

structure TailGateAcceptance where
  accepted : Bool := false
  nlpTailGateFailed : Bool := true
  reason : String := "not_evaluated"
  deriving DecidableEq, Repr

section Model

variable {Scalar : Type} [Add Scalar] [Sub Scalar] [Mul Scalar] [Div Scalar] [Neg Scalar]
  [OfScientific Scalar] [LE Scalar] [LT Scalar] [DecidableLE Scalar] [DecidableLT Scalar]

variable (lib : Functions Scalar)

/-- The loop of `propagate_trajectory_positions`, from a position. -/
def propagateTrajectoryPositions (dtS : Scalar) :
    Scalar → Scalar → List (TrajectoryPoint Scalar) → List (TrajectoryPoint Scalar)
  | _, _, [] => []
  | x, y, point :: later =>
      { point with xM := x, yM := y } ::
        propagateTrajectoryPositions dtS (x + point.uMps * lib.cos point.psiRad * dtS)
          (y + point.uMps * lib.sin point.psiRad * dtS) later

/-- The status by what the solver reports, if it reports anything. -/
def unpackStatus : Option String → SolveStatus
  | none => .notInitialized
  | some returnStatus =>
      if returnStatus = "Solve_Succeeded" ∨ returnStatus = "Feasible_Point_Found" ∨
          returnStatus = "Solved_To_Acceptable_Level" then .converged
      else if returnStatus = "Maximum_Iterations_Exceeded" ∨
          returnStatus = "Maximum_CpuTime_Exceeded" then .timeout
      else if returnStatus = "Infeasible_Problem_Detected" then .infeasible
      else .numericalFailure

/-- The point of a step: headings come first in the solver's vector, and then speeds. -/
def decidedPoint (cfg : Config Scalar) (xOpt : List Scalar) (step : Nat) :
    TrajectoryPoint Scalar where
  xM := 0.0
  yM := 0.0
  psiRad := xOpt.getD step 0.0
  uMps := xOpt.getD (cfg.nHorizon + step) 0.0
  rRadS := 0.0
  tS := lib.count step * cfg.dtS

def unpackSolution (cfg : Config Scalar) (xOpt : List Scalar) (returnStatus : Option String) :
    MidMpcSolution Scalar :=
  let expectedDim := if cfg.cpaSlackEnabled then 2 * cfg.nHorizon + 1 else 2 * cfg.nHorizon
  if xOpt.length ≠ expectedDim then { status := .numericalFailure }
  else
    { status := unpackStatus returnStatus
      trajectory := propagateTrajectoryPositions lib cfg.dtS 0.0 0.0
        ((List.range cfg.nHorizon).map (decidedPoint lib cfg xOpt)) }

/-! ### The checks -/

def trajectoryTerminalLateralOffsetM (point : TrajectoryPoint Scalar) (routeBrg : Scalar) :
    Scalar :=
  -lib.sin routeBrg * point.xM + lib.cos routeBrg * point.yM

def terminalOffsetMatchesM6Direction (terminal : TrajectoryPoint Scalar) (routeBrg : Scalar) :
    ColregsPreferredDirection → Bool
  | .starboard => trajectoryTerminalLateralOffsetM lib terminal routeBrg ≥ 25.0
  | .port => trajectoryTerminalLateralOffsetM lib terminal routeBrg ≤ -25.0
  | .hold | .reduceSpeed => true

/-- The target of the primary risk, or else the first. -/
def primaryTailGateTarget (input : MidMpcInput Scalar) : Option (TargetState Scalar) :=
  let candidates :=
    if input.tailGateTargets.isEmpty then input.targets else input.tailGateTargets
  match primaryTargetRisk input.targetRisks with
  | none => candidates.head?
  | some risk =>
      (candidates.find? fun target => toString target.id.toInt == risk.targetId).or
        candidates.head?

/-- The closest approach of a target to a ship that holds what she does at a point. -/
def terminalStateCpaM (term : TrajectoryPoint Scalar) (target : TargetState Scalar) : Scalar :=
  let tN := stdMax term.tS 0.0
  let ownVn := term.uMps * lib.cos term.psiRad
  let ownVe := term.uMps * lib.sin term.psiRad
  let tgtVn := target.sogMps * lib.cos target.cogRad
  let tgtVe := target.sogMps * lib.sin target.cogRad
  let rn := (target.xM + tgtVn * tN) - term.xM
  let re := (target.yM + tgtVe * tN) - term.yM
  let rvn := tgtVn - ownVn
  let rve := tgtVe - ownVe
  let rv2 := rvn * rvn + rve * rve
  let tcpa :=
    if rv2 > 1.0e-9 then
      let crossing := -((rn * rvn) + (re * rve)) / rv2
      if crossing < 0.0 then 0.0 else crossing
    else 0.0
  lib.hypot (rn + rvn * tcpa) (re + rve * tcpa)

def trajectoryTerminalStateCpaM (solution : MidMpcSolution Scalar) (target : TargetState Scalar) :
    Scalar :=
  match solution.trajectory.getLast? with
  | none => stdMax target.cpaM 0.0
  | some term => terminalStateCpaM lib term target

/-- `target_opening`. -/
def targetOpening (input : MidMpcInput Scalar) : Bool :=
  match primaryTargetRisk input.targetRisks with
  | none => true
  | some risk => risk.closingSpeedMps ≤ 0.0

def tailGateCpaReleaseClear (solution : MidMpcSolution Scalar) (input : MidMpcInput Scalar) :
    Bool :=
  match primaryTailGateTarget input with
  | none => true
  | some target =>
      -- While the target closes the maneuver is what opens the distance.
      if targetOpening input = false then true
      else
        let sigmaM := stdMax target.cpaSigmaM 0.0
        trajectoryTerminalStateCpaM lib solution target - 3.0 * sigmaM ≥ input.cpaHardM

/-- The loops over the steps: no change from one point to the next is faster than a limit. -/
def stepsAreFeasible (read : TrajectoryPoint Scalar → Scalar) (change : Scalar → Scalar → Scalar)
    (limit : Scalar) : Scalar → Scalar → List (TrajectoryPoint Scalar) → Bool
  | _, _, [] => true
  | prev, prevTime, cur :: later =>
      if change prev (read cur) / stdMax (cur.tS - prevTime) 1.0e-6 > limit + 1.0e-6 then false
      else stepsAreFeasible read change limit (read cur) cur.tS later

/-- How long the first command is held. -/
def firstStepDt (first : TrajectoryPoint Scalar) : List (TrajectoryPoint Scalar) → Scalar
  | [] => stdMax first.tS 1.0e-6
  | second :: _ => stdMax (second.tS - first.tS) 1.0e-6

/-- The two checks of the steps, which differ in what they read of a point. -/
def tailGateStepsAreFeasible (read : TrajectoryPoint Scalar → Scalar)
    (change : Scalar → Scalar → Scalar) (own limit : Scalar) :
    List (TrajectoryPoint Scalar) → Bool
  | [] => true
  | first :: later =>
      if limit ≤ 0.0 then true
      else stepsAreFeasible read change limit own (-firstStepDt first later) (first :: later)

def tailGateTurnsAreFeasible (trajectory : List (TrajectoryPoint Scalar))
    (ownShipPsiRad rotMaxRadS : Scalar) : Bool :=
  tailGateStepsAreFeasible (·.psiRad) (fun prev cur => circularHeadingDistance lib cur prev)
    ownShipPsiRad rotMaxRadS trajectory

def tailGateDecelIsFeasible (trajectory : List (TrajectoryPoint Scalar))
    (ownShipSpeedMps decelMaxMps2 : Scalar) : Bool :=
  tailGateStepsAreFeasible (·.uMps) (fun prev cur => prev - cur) ownShipSpeedMps decelMaxMps2
    trajectory

/-- The body of the loop of `trajectory_crosses_ahead_of_target`. -/
def pointIsAhead (target : TargetState Scalar) (routeBrg : Scalar)
    (own : TrajectoryPoint Scalar) : Bool :=
  let tgtX := target.xM + target.sogMps * own.tS * lib.cos target.cogRad
  let tgtY := target.yM + target.sogMps * own.tS * lib.sin target.cogRad
  let relX := own.xM - tgtX
  let relY := own.yM - tgtY
  let alongM := relX * lib.cos routeBrg + relY * lib.sin routeBrg
  let lateralM := relX * -lib.sin routeBrg + relY * lib.cos routeBrg
  alongM > 0.0 && lib.abs lateralM ≤ 100.0

def trajectoryCrossesAheadOfTarget (trajectory : List (TrajectoryPoint Scalar))
    (target : TargetState Scalar) (routeBrg : Scalar) : Bool :=
  trajectory.any (pointIsAhead lib target routeBrg)

def tailGateNoCrossingAhead (solution : MidMpcSolution Scalar) (input : MidMpcInput Scalar) :
    Bool :=
  match primaryTailGateTarget input with
  | none => true
  | some target =>
      !trajectoryCrossesAheadOfTarget lib solution.trajectory target input.plannedRouteBearingRad

def signedPref : ColregsPreferredDirection → Scalar
  | .starboard => 1.0
  | .port => -1.0
  | .hold | .reduceSpeed => 0.0

def tailGateTerminalLateralFeasible (solution : MidMpcSolution Scalar) (routeBrgRad : Scalar)
    (prefDir : ColregsPreferredDirection) (lateralColregActive : Bool)
    (lMinFeasibleM lMaxFeasibleM : Scalar) : Bool :=
  if lateralColregActive = false then true
  else
    match solution.trajectory.getLast? with
    | none => true
    | some terminal =>
        let lN := trajectoryTerminalLateralOffsetM lib terminal routeBrgRad
        if signedPref prefDir * lN < lMinFeasibleM then false
        else if lN < -lMaxFeasibleM ∨ lN > lMaxFeasibleM then false
        else true

/-- `lateral_colreg_active`. -/
def lateralColregActive (input : MidMpcInput Scalar) : Bool :=
  (input.colregsPrimaryRole == 1 || input.colregsPrimaryRole == 2) &&
    (input.colregsPreferredDirection == .starboard || input.colregsPreferredDirection == .port)

/-- A stand-on vessel may neither turn nor leave her route. -/
def standOnBiased (terminal : TrajectoryPoint Scalar) (routeBrg : Scalar) : Bool :=
  circularHeadingDistance lib terminal.psiRad routeBrg > 2.0 * (lib.pi / 180.0) ||
    lib.abs (trajectoryTerminalLateralOffsetM lib terminal routeBrg) > 10.0

def TailGateAcceptance.rejected (reason : String) : TailGateAcceptance where
  reason := reason

def TailGateAcceptance.passed : TailGateAcceptance where
  accepted := true
  nlpTailGateFailed := false
  reason := "accepted"

/-- What becomes of a solution that has a last point and does not stand on. -/
def acceptGiveWay (solution : MidMpcSolution Scalar) (input : MidMpcInput Scalar)
    (terminal : TrajectoryPoint Scalar) : TailGateAcceptance :=
  if terminalOffsetMatchesM6Direction lib terminal input.plannedRouteBearingRad
      input.colregsPreferredDirection = false then
    .rejected "wrong_m6_side"
  else if tailGateNoCrossingAhead lib solution input = false then
    .rejected "crossing_ahead"
  else if tailGateCpaReleaseClear lib solution input = false then
    .rejected "cpa_release_floor"
  else if tailGateDecelIsFeasible solution.trajectory input.ownShip.uMps
      input.decelMaxMps2 = false then
    .rejected "decel_infeasible"
  else if tailGateTurnsAreFeasible lib solution.trajectory input.ownShip.psiRad
      input.rotMaxRadS = false then
    .rejected "turn_radius_infeasible"
  else if tailGateTerminalLateralFeasible lib solution input.plannedRouteBearingRad
      input.colregsPreferredDirection (lateralColregActive input) input.terminalLMinFeasibleM
      input.terminalLMaxFeasibleM = false then
    .rejected "terminal_lateral_out_of_band"
  else .passed

def acceptTailGate (solution : MidMpcSolution Scalar) (input : MidMpcInput Scalar) :
    TailGateAcceptance :=
  match solution.status, solution.trajectory.getLast? with
  | .converged, some terminal =>
      if input.colregsPrimaryRole = 0 then
        if standOnBiased lib terminal input.plannedRouteBearingRad = true then
          .rejected "stand_on_heading_violation"
        else .passed
      else acceptGiveWay lib solution input terminal
  | _, _ => .rejected "solver_not_converged"

end Model

/-! ### Steps of a plan -/

section Steps

/-- Two points of a plan are no closer in time than the checks can tell. -/
def Apart (earlier later : TrajectoryPoint ℝ) : Prop := earlier.tS + 1.0e-6 ≤ later.tS

/-- No point of a plan is before the plan is made, and no two of them are at one time. -/
def Spaced (trajectory : List (TrajectoryPoint ℝ)) : Prop :=
  (∀ first ∈ trajectory.head?, 0 ≤ first.tS) ∧ trajectory.IsChain Apart

/-- From one point to another no more changes, of what is read of them, than a limit allows. -/
def WithinLimit (read : TrajectoryPoint ℝ → ℝ) (change : ℝ → ℝ → ℝ) (limit : ℝ) :
    TrajectoryPoint ℝ → TrajectoryPoint ℝ → Prop :=
  Motions.WithinRate (·.tS) (fun earlier later => change (read earlier) (read later))
    (limit + 1.0e-6)

variable {read : TrajectoryPoint ℝ → ℝ} {change : ℝ → ℝ → ℝ} {limit : ℝ}

/-- The loop compares each point with the one before. -/
theorem stepsAreFeasible_iff {prev : TrajectoryPoint ℝ} {later : List (TrajectoryPoint ℝ)}
    (spaced : (prev :: later).IsChain Apart) :
    stepsAreFeasible read change limit (read prev) prev.tS later = true ↔
      (prev :: later).IsChain (WithinLimit read change limit) := by
  induction later generalizing prev with
  | nil => simp [stepsAreFeasible]
  | cons cur later inductionHypothesis =>
    obtain ⟨apart, spacedLater⟩ := List.isChain_cons_cons.mp spaced
    have step : 1.0e-6 ≤ cur.tS - prev.tS := by
      unfold Apart at apart
      linarith
    have positive : 0 < cur.tS - prev.tS := lt_of_lt_of_le (by norm_num) step
    rw [List.isChain_cons_cons, ← inductionHypothesis spacedLater, stepsAreFeasible,
      stdMax_eq_left step]
    unfold WithinLimit Motions.WithinRate
    dsimp only
    rw [← div_le_iff₀ positive]
    split_ifs with fast
    · simp [not_le.mpr fast]
    · simp [not_lt.mp fast]

theorem apart_start {start first : TrajectoryPoint ℝ} {later : List (TrajectoryPoint ℝ)}
    (begins : start.tS = -firstStepDt first later) (nonneg : 0 ≤ first.tS) :
    Apart start first := by
  have held : 1.0e-6 ≤ firstStepDt first later := by
    unfold firstStepDt
    split <;> exact le_stdMax_right _ _
  unfold Apart
  rw [begins]
  linarith

/-- A limit that is kept by every step is kept between any two points, the ship herself, one step
before the plan, being the first. -/
theorem tailGateStepsAreFeasible_iff
    (triangle : ∀ first second third,
      change first third ≤ change first second + change second third)
    {start first : TrajectoryPoint ℝ} {later : List (TrajectoryPoint ℝ)}
    (begins : start.tS = -firstStepDt first later) (spaced : Spaced (first :: later)) :
    tailGateStepsAreFeasible read change (read start) limit (first :: later) = true ↔
      (0 < limit → (start :: first :: later).Pairwise (WithinLimit read change limit)) := by
  have zero : (0.0 : ℝ) = 0 := by norm_num
  obtain ⟨nonneg, apart⟩ := spaced
  have chained : (start :: first :: later).IsChain Apart :=
    List.isChain_cons_cons.mpr ⟨apart_start begins (nonneg first rfl), apart⟩
  have steps : stepsAreFeasible read change limit (read start) start.tS (first :: later) = true ↔
      (start :: first :: later).IsChain (WithinLimit read change limit) :=
    stepsAreFeasible_iff chained
  have pairs : (start :: first :: later).IsChain (WithinLimit read change limit) ↔
      (start :: first :: later).Pairwise (WithinLimit read change limit) :=
    Motions.isChain_withinRate_iff
      (fun first second third => triangle (read first) (read second) (read third)) _
  rw [begins, pairs] at steps
  unfold tailGateStepsAreFeasible
  rw [zero]
  split_ifs with unlimited
  · exact iff_of_true rfl fun limited => absurd unlimited (not_le.mpr limited)
  · rw [steps, imp_iff_right (not_le.mp unlimited)]

end Steps

/-! ### Clearances -/

section Clearances

/-- Where a target is at a time. -/
noncomputable def targetAt (target : TargetState ℝ) (time : ℝ) : Vector2d ℝ where
  east := target.yM + target.sogMps * time * Real.sin target.cogRad
  north := target.xM + target.sogMps * time * Real.cos target.cogRad

/-- Where a ship is at a time that holds the heading and the speed of a point. -/
noncomputable def heldAt (point : TrajectoryPoint ℝ) (time : ℝ) : Vector2d ℝ where
  east := point.yM + point.uMps * (time - point.tS) * Real.sin point.psiRad
  north := point.xM + point.uMps * (time - point.tS) * Real.cos point.psiRad

/-- How far two places are from each other. -/
noncomputable def rangeTo (first second : Vector2d ℝ) : ℝ := √(first.sub second).squaredNorm

/-- Where the target is, seen from the ship at a point. -/
noncomputable def offset (target : TargetState ℝ) (point : TrajectoryPoint ℝ) : Vector2d ℝ where
  east := (targetAt target point.tS).east - point.yM
  north := (targetAt target point.tS).north - point.xM

/-- How the target moves, seen from the ship that holds what she does at the point. -/
noncomputable def drift (target : TargetState ℝ) (point : TrajectoryPoint ℝ) : Vector2d ℝ where
  east := target.sogMps * Real.sin target.cogRad - point.uMps * Real.sin point.psiRad
  north := target.sogMps * Real.cos target.cogRad - point.uMps * Real.cos point.psiRad

/-- The target and the ship hardly move against each other. -/
def Standing (target : TargetState ℝ) (point : TrajectoryPoint ℝ) : Prop :=
  (drift target point).squaredNorm ≤ 1.0e-9

variable (target : TargetState ℝ) (point : TrajectoryPoint ℝ)

theorem rangeTo_heldAt (time : ℝ) :
    rangeTo (targetAt target time) (heldAt point time) =
      separationAt (offset target point) (drift target point) (time - point.tS) := by
  unfold rangeTo separationAt
  congr 1
  simp only [Vector2d.squaredNorm, Vector2d.dot, Vector2d.sub, Vector2d.add, Vector2d.scale, offset,
    drift, targetAt, heldAt]
  ring

/-- How long the computation lets the two hold on. -/
noncomputable def terminalWait : ℝ :=
  let relPos := offset target point
  let relVel := drift target point
  if relVel.squaredNorm > 1.0e-9 then
    let crossing := -relPos.dot relVel / relVel.squaredNorm
    if crossing < 0 then 0 else crossing
  else 0

theorem terminalStateCpaM_eq (later : 0 ≤ point.tS) :
    terminalStateCpaM Windows.realFunctions point target =
      separationAt (offset target point) (drift target point) (terminalWait target point) := by
  have zero : (0.0 : ℝ) = 0 := by norm_num
  have now : stdMax point.tS 0.0 = point.tS := stdMax_eq_left (by rwa [zero])
  have norm : (drift target point).squaredNorm =
      (drift target point).north * (drift target point).north +
        (drift target point).east * (drift target point).east := add_comm _ _
  have product : (offset target point).dot (drift target point) =
      (offset target point).north * (drift target point).north +
        (offset target point).east * (drift target point).east := add_comm _ _
  have driftNorth : target.sogMps * Real.cos target.cogRad - point.uMps * Real.cos point.psiRad =
      (drift target point).north := rfl
  have driftEast : target.sogMps * Real.sin target.cogRad - point.uMps * Real.sin point.psiRad =
      (drift target point).east := rfl
  have north : target.xM + target.sogMps * Real.cos target.cogRad * point.tS - point.xM =
      (offset target point).north := by
    simp only [offset, targetAt]
    ring
  have east : target.yM + target.sogMps * Real.sin target.cogRad * point.tS - point.yM =
      (offset target point).east := by
    simp only [offset, targetAt]
    ring
  unfold terminalStateCpaM terminalWait
  dsimp only [Windows.realFunctions]
  rw [now, zero, driftNorth, driftEast, north, east, ← norm, ← product]
  unfold separationAt
  congr 1
  simp only [Vector2d.squaredNorm, Vector2d.dot, Vector2d.add, Vector2d.scale]
  ring

/-- Unless the two are standing, they are closest at the time that is computed. -/
theorem isClosest_terminalWait (moving : ¬Standing target point) :
    IsClosest (offset target point) (drift target point) (terminalWait target point) := by
  have fast : (drift target point).squaredNorm > 1.0e-9 := not_le.mp moving
  have positive : 0 < (drift target point).squaredNorm := lt_trans (by norm_num) fast
  unfold terminalWait
  dsimp only
  rw [if_pos fast]
  split_ifs with past
  · rw [div_lt_iff₀ positive, zero_mul, neg_lt_zero] at past
    exact isClosest_of_opening past.le
  · exact isClosest_of_vertex (not_lt.mp past) (div_mul_cancel₀ _ positive.ne')

theorem terminalWait_of_standing (standing : Standing target point) :
    terminalWait target point = 0 :=
  if_neg (not_lt.mpr standing)

/-- The ship that holds what she does at a point stays off the target: from then on, or only at
that point where the two are standing. -/
def KeepsClear (distance : ℝ) : Prop :=
  ∀ time, point.tS ≤ time → time = point.tS ∨ ¬Standing target point →
    distance ≤ rangeTo (targetAt target time) (heldAt point time)

variable {target point}

/-- A bound on the computed approach is one on the range at all times. -/
theorem le_terminalStateCpaM_iff {distance : ℝ} (later : 0 ≤ point.tS) :
    distance ≤ terminalStateCpaM Windows.realFunctions point target ↔
      KeepsClear target point distance := by
  rw [terminalStateCpaM_eq target point later]
  unfold KeepsClear
  simp only [rangeTo_heldAt]
  by_cases standing : Standing target point
  · rw [terminalWait_of_standing target point standing]
    constructor
    · rintro far time - (rfl | moving)
      · rwa [sub_self]
      · exact absurd standing moving
    · intro clear
      have now := clear point.tS le_rfl (.inl rfl)
      rwa [sub_self] at now
  · obtain ⟨nonneg, least⟩ := isClosest_terminalWait target point standing
    constructor
    · intro far time after _
      exact far.trans (least _ (sub_nonneg.mpr after))
    · intro clear
      have closest := clear (point.tS + terminalWait target point) (by linarith) (.inr standing)
      rwa [add_sub_cancel_left] at closest

/-- Of two that are standing the range shrinks by a metre in eight hours at most. -/
theorem KeepsClear.le_rangeTo {distance : ℝ} (clear : KeepsClear target point distance)
    (standing : Standing target point) {time : ℝ} (after : point.tS ≤ time) :
    distance - (time - point.tS) / 30000 ≤ rangeTo (targetAt target time) (heldAt point time) := by
  have waited : 0 ≤ time - point.tS := sub_nonneg.mpr after
  have now := clear point.tS le_rfl (.inl rfl)
  have slow : √(drift target point).squaredNorm ≤ 1 / 30000 := by
    refine (Real.sqrt_le_left (by norm_num)).mpr (le_trans standing ?_)
    norm_num
  have shrinks : separationAt (offset target point) (drift target point) 0 -
      1 / 30000 * (time - point.tS) ≤
        separationAt (offset target point) (drift target point) (time - point.tS) :=
    separationAt_ge slow waited
  rw [rangeTo_heldAt, sub_self] at now
  rw [rangeTo_heldAt]
  linarith

end Clearances

end MassL3.M5.TailGate
