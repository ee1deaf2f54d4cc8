/-
This file translates BC-MPC's evaluation of a situation: the candidate headings around the
current one, the dead reckoning of the ship and of each target over a short horizon, the worst
separation of a branch, and the choice of the branch whose worst separation is largest. A branch
family without members, and a heading that the loop into `[-π, π)` does not reach in the given
number of turns, have no evaluation.

It also says what the verdict is about. The evaluation reduces the branches to the one whose worst
separation is largest, so Resolved means that some branch keeps every target away, not that the
current heading does.
-/

import MassTdl.Binary64.Extrema
import MassTdl.CommittedRoute.CandidateGeometry

namespace MassL3.M5.BcMpc

open Binary64
open CommittedRoute (kPi kRadPerDeg)

/-- The functions of the C++ library that `Float` does not compute. -/
structure MathLibrary where
  cos : Float → Float
  sin : Float → Float
  round : Float → Float

/-! ### Data -/

/-- `BcMpcBranchFormulation::Config`. -/
structure BranchConfig where
  kHigh : Nat := 7
  kLow : Nat := 5
  kCritical : Nat := 13
  deltaPsiRad : Float := 10.0 * kRadPerDeg
  dtS : Float := 2.0
  horizonS : Float := 20.0
  urgencyThreshold : Float := 0.8
  overrideCpaMultiplier : Float := 0.8

structure OwnShip where
  xM : Float := 0.0
  yM : Float := 0.0
  psiRad : Float
  uMps : Float

structure TargetState where
  xM : Float
  yM : Float
  cogRad : Float
  sogMps : Float
  /-- The closest approach M2 computed. -/
  cpaM : Float

structure BcMpcInput where
  ownShip : OwnShip
  targets : List TargetState
  cpaSafeM : Float := 1852.0
  midMpcConsecutiveFailures : Int32 := 0
  predictedShortHorizonCpaM : Float := 1.0e6

inductive Status where
  | override
  | resolved
  | notInitialized
  deriving DecidableEq, Repr

structure BcMpcSolution where
  status : Status := .notInitialized
  headingCmdRad : Float := 0.0
  worstCaseCpaM : Float := 0.0
  selectedBranchIdx : Nat := 0
  validityS : Float := 1.0
  triggerReason : String := ""
  confidence : Float := 0.0
  optimalSpeedMps : Float := 0.0

/-! ### Branches -/

variable (lib : MathLibrary) (config : BranchConfig)

/-- The two loops into `[-π, π)`, each with at most `turns` iterations. -/
def normalizeDown : Nat → Float → Option Float
  | 0, psi => if psi ≥ kPi then none else some psi
  | turns + 1, psi => if psi ≥ kPi then normalizeDown turns (psi - 2.0 * kPi) else some psi

def normalizeUp : Nat → Float → Option Float
  | 0, psi => if psi < -kPi then none else some psi
  | turns + 1, psi => if psi < -kPi then normalizeUp turns (psi + 2.0 * kPi) else some psi

def normalizeHeading (turns : Nat) (psi : Float) : Option Float :=
  (normalizeDown turns psi).bind (normalizeUp turns)

/-- The number of branches grows with the urgency. -/
def branchCount (urgencyLevel : Float) : Nat :=
  if urgencyLevel > 0.95 then config.kCritical
  else if urgencyLevel > config.urgencyThreshold then config.kHigh
  else config.kLow

/-- `candidate_headings`. -/
def candidateHeadings (turns : Nat) (currentHeadingRad urgencyLevel : Float) :
    Option (List Float) :=
  let k := branchCount config urgencyLevel
  (List.range k).mapM fun i =>
    normalizeHeading turns
      (currentHeadingRad + Float.ofInt ((i : Int) - (k / 2 : Nat)) * config.deltaPsiRad)

/-- `num_steps_`. A negative count runs no step either. -/
def numSteps : Nat := (lib.round (config.horizonS / config.dtS)).toUInt32.toNat

/-- A start and `steps` displacements from it. -/
def deadReckon (dx dy : Float) : Nat → Float × Float → List (Float × Float)
  | 0, position => [position]
  | steps + 1, position =>
      position :: deadReckon dx dy steps (position.1 + dx, position.2 + dy)

def predictOwnPositions (x0M y0M psiRad uMps : Float) : List (Float × Float) :=
  deadReckon (uMps * config.dtS * lib.cos psiRad) (uMps * config.dtS * lib.sin psiRad)
    (numSteps lib config) (x0M, y0M)

def predictTargetPositions (target : TargetState) : List (Float × Float) :=
  deadReckon (target.sogMps * config.dtS * lib.cos target.cogRad)
    (target.sogMps * config.dtS * lib.sin target.cogRad) (numSteps lib config)
    (target.xM, target.yM)

/-! ### Separations -/

/-- The Euclidean norm of the difference of two positions. -/
def distance (own target : Float × Float) : Float :=
  Float.sqrt ((own.1 - target.1) * (own.1 - target.1) + (own.2 - target.2) * (own.2 - target.2))

/-- `std::numeric_limits<double>::max()`. -/
def doubleMax : Float := 1.7976931348623157e308

/-- `CpaCalculator::compute_trajectory`. Trajectories that do not match count as a collision. -/
def computeTrajectory (own target : List (Float × Float)) : Float :=
  if own.isEmpty || target.isEmpty || own.length != target.length then 0.0
  else runningMin doubleMax (List.zipWith distance own target)

/-- `worst_case_cpa_m_`. -/
def worstCaseCpaM (psiRad : Float) (input : BcMpcInput) : Float :=
  runningMin 1.0e9 (input.targets.map fun target =>
    computeTrajectory
      (predictOwnPositions lib config input.ownShip.xM input.ownShip.yM psiRad
        input.ownShip.uMps)
      (predictTargetPositions lib config target))

/-! ### The evaluation -/

/-- `kConsecutiveFailureUrgencyThreshold`. -/
def consecutiveFailureUrgencyThreshold : Int32 := 2

/-- `compute_urgency_`. -/
def computeUrgency (input : BcMpcInput) : Float :=
  if consecutiveFailureUrgencyThreshold < input.midMpcConsecutiveFailures then 1.0
  else if input.cpaSafeM ≤ 0.0 then 1.0
  else
    let raw := 1.0 - input.predictedShortHorizonCpaM / input.cpaSafeM
    if raw < 0.0 then 0.0 else if raw > 1.0 then 1.0 else raw

/-- The separation below which the ship is overridden. -/
def overrideThreshold (input : BcMpcInput) : Float :=
  input.cpaSafeM * config.overrideCpaMultiplier

/-- `BcMpcCollisionDetector::evaluate`. -/
def evaluate (turns : Nat) (input : BcMpcInput) : Option BcMpcSolution := do
  let candidates ← candidateHeadings config turns input.ownShip.psiRad (computeUrgency input)
  match candidates.map fun psi => worstCaseCpaM lib config psi input with
  | [] => none
  | first :: later =>
      let best := maxElement (first, 0) 1 later
      let headingCmdRad ← candidates[best.2]?
      let confidence := best.1 / input.cpaSafeM
      some
        { status :=
            if best.1 ≥ overrideThreshold config input then .resolved else .override
          headingCmdRad := headingCmdRad
          worstCaseCpaM := best.1
          selectedBranchIdx := best.2
          validityS := 1.0
          triggerReason := "CONDITION_A"
          confidence :=
            if confidence < 0.0 then 0.0 else if confidence > 1.0 then 1.0 else confidence }

/-- `BcMpcSolver::Config`. -/
structure SolverConfig where
  decelTriggerRatio : Float := 0.7
  decelFactor : Float := 0.5

/-- `BcMpcSolver::solve`, with the command it adds. -/
def solve (solver : SolverConfig) (turns : Nat) (input : BcMpcInput) : Option BcMpcSolution :=
  (evaluate lib config turns input).map fun sol =>
    if sol.status = .override ∧ sol.worstCaseCpaM < input.cpaSafeM * solver.decelTriggerRatio then
      { sol with
        optimalSpeedMps := input.ownShip.uMps * solver.decelFactor
        triggerReason := "CONDITION_A_DECEL" }
    else { sol with optimalSpeedMps := input.ownShip.uMps }

variable {lib : MathLibrary} {config : BranchConfig} {turns : Nat} {input : BcMpcInput}
  {sol : BcMpcSolution}

/-! ### The worst separation of a branch -/

/-- The worst separation of a branch is a number, whatever the positions are. -/
theorem worstCaseCpaM_number (psiRad : Float) :
    (worstCaseCpaM lib config psiRad input).isNaN = false :=
  runningMin_number (by decide) _

theorem length_deadReckon (dx dy : Float) (steps : Nat) (position : Float × Float) :
    (deadReckon dx dy steps position).length = steps + 1 := by
  induction steps generalizing position with
  | zero => rfl
  | succ steps inductionHypothesis =>
    rw [deadReckon, List.length_cons, inductionHypothesis]

/-- The two trajectories of a branch always match. -/
theorem computeTrajectory_predicted (x0M y0M psiRad uMps : Float) (target : TargetState) :
    computeTrajectory (predictOwnPositions lib config x0M y0M psiRad uMps)
        (predictTargetPositions lib config target) =
      runningMin doubleMax (List.zipWith distance
        (predictOwnPositions lib config x0M y0M psiRad uMps)
        (predictTargetPositions lib config target)) := by
  have ownLength : (predictOwnPositions lib config x0M y0M psiRad uMps).length =
      numSteps lib config + 1 := length_deadReckon _ _ _ _
  have targetLength : (predictTargetPositions lib config target).length =
      numSteps lib config + 1 := length_deadReckon _ _ _ _
  unfold computeTrajectory
  rw [if_neg]
  simp [← List.length_eq_zero_iff, ownLength, targetLength]

theorem distance_mem_zipWith {own target : List (Float × Float)} {sample : (Float × Float) × _}
    (sampled : sample ∈ List.zip own target) :
    distance sample.1 sample.2 ∈ List.zipWith distance own target := by
  rw [← List.map_uncurry_zip_eq_zipWith]
  exact List.mem_map_of_mem sampled

/-- The separation of a branch from one target is at least its worst one. -/
theorem worstCaseCpaM_le {psiRad : Float} {target : TargetState}
    (member : target ∈ input.targets) :
    worstCaseCpaM lib config psiRad input ≤
      runningMin doubleMax (List.zipWith distance
        (predictOwnPositions lib config input.ownShip.xM input.ownShip.yM psiRad
          input.ownShip.uMps)
        (predictTargetPositions lib config target)) := by
  have maxNumber : doubleMax.isNaN = false := by decide +kernel
  have startNumber : (1.0e9 : Float).isNaN = false := by decide
  apply le_of_not_lt (worstCaseCpaM_number psiRad) (runningMin_number maxNumber _)
  rw [← computeTrajectory_predicted]
  apply not_lt_runningMin startNumber
  exact List.mem_map.mpr ⟨target, member, rfl⟩

/-- No predicted separation from any target is below a bound on the worst one. -/
theorem not_distance_lt {psiRad bound : Float}
    (safe : bound ≤ worstCaseCpaM lib config psiRad input) {target : TargetState}
    (member : target ∈ input.targets) {sample : (Float × Float) × _}
    (sampled : sample ∈ List.zip
      (predictOwnPositions lib config input.ownShip.xM input.ownShip.yM psiRad
        input.ownShip.uMps)
      (predictTargetPositions lib config target)) :
    ¬ distance sample.1 sample.2 < bound := by
  intro near
  have maxNumber : doubleMax.isNaN = false := by decide +kernel
  have least := chain_le safe (worstCaseCpaM_le member)
  refine not_lt_runningMin maxNumber (distance_mem_zipWith sampled) ?_
  exact (lt_iff _ _).mpr ⟨(number_of_lt near).1, runningMin_number maxNumber _,
    lt_of_lt_of_le ((lt_iff _ _).mp near).2.2 ((le_iff _ _).mp least).2.2⟩

/-! ### The selected branch -/

/-- The selected branch is a candidate, its worst separation is the solution's, no candidate
has a larger one, and the verdict compares it with the threshold. -/
theorem evaluate_selects (evaluated : evaluate lib config turns input = some sol) :
    ∃ candidates,
      candidateHeadings config turns input.ownShip.psiRad (computeUrgency input) =
        some candidates ∧
      sol.headingCmdRad ∈ candidates ∧
      sol.worstCaseCpaM = worstCaseCpaM lib config sol.headingCmdRad input ∧
      (∀ psiRad ∈ candidates,
        worstCaseCpaM lib config psiRad input ≤ sol.worstCaseCpaM) ∧
      sol.status =
        if sol.worstCaseCpaM ≥ overrideThreshold config input then .resolved
        else .override := by
  obtain ⟨candidates, found, rest⟩ := Option.bind_eq_some_iff.mp evaluated
  refine ⟨candidates, found, ?_⟩
  cases worsts : candidates.map fun psiRad => worstCaseCpaM lib config psiRad input with
  | nil => simp [worsts] at rest
  | cons first later =>
    rw [worsts] at rest
    obtain ⟨heading, selected, answer⟩ := Option.bind_eq_some_iff.mp rest
    obtain rfl := Option.some.inj answer
    have largest := getElem?_maxElement first later
    rw [← worsts, List.getElem?_map, selected, Option.map_some, Option.some.injEq] at largest
    have numbers : ∀ value ∈ first :: later, value.isNaN = false := by
      rw [← worsts]
      intro value member
      obtain ⟨psiRad, _, rfl⟩ := List.mem_map.mp member
      exact worstCaseCpaM_number psiRad
    obtain ⟨firstBound, laterBound⟩ := le_maxElement 1
      (show (first, 0).1.isNaN = false from numbers first List.mem_cons_self)
      fun value member => numbers value (List.mem_cons_of_mem first member)
    refine ⟨List.mem_of_getElem? selected, largest.symm, fun psiRad member => ?_, rfl⟩
    have passed := List.mem_map_of_mem (f := fun psiRad => worstCaseCpaM lib config psiRad input)
      member
    rw [worsts] at passed
    rcases List.mem_cons.mp passed with isFirst | inLater
    · simpa [isFirst] using firstBound
    · exact laterBound _ inLater

/-- Resolved means that a branch at the current speed keeps the worst separation from all
targets at the threshold: the selected one, which no other candidate beats. -/
theorem resolved_branch_safe (evaluated : evaluate lib config turns input = some sol)
    (resolved : sol.status = .resolved) :
    ∃ candidates,
      candidateHeadings config turns input.ownShip.psiRad (computeUrgency input) =
        some candidates ∧
      sol.headingCmdRad ∈ candidates ∧
      overrideThreshold config input ≤ worstCaseCpaM lib config sol.headingCmdRad input ∧
      (∀ psiRad ∈ candidates, worstCaseCpaM lib config psiRad input ≤
        worstCaseCpaM lib config sol.headingCmdRad input) ∧
      ∀ target ∈ input.targets, ∀ sample ∈ List.zip
          (predictOwnPositions lib config input.ownShip.xM input.ownShip.yM sol.headingCmdRad
            input.ownShip.uMps)
          (predictTargetPositions lib config target),
        ¬ distance sample.1 sample.2 < overrideThreshold config input := by
  obtain ⟨candidates, found, member, worst, largest, verdict⟩ := evaluate_selects evaluated
  have safe : overrideThreshold config input ≤ sol.worstCaseCpaM := by
    by_contra below
    rw [if_neg below, resolved] at verdict
    exact Status.noConfusion verdict
  rw [worst] at safe largest
  exact ⟨candidates, found, member, safe, largest,
    fun target targetMember sample sampled => not_distance_lt safe targetMember sampled⟩

/-- The cosine and the sine at the headings that are up to 20° from north. -/
def northernLibrary : MathLibrary where
  cos psiRad :=
    if psiRad.abs < 0.1 then 1.0
    else if psiRad.abs < 0.2 then 0.984807753012208
    else 0.9396926207859084
  sin psiRad :=
    if psiRad.abs < 0.1 then 0.0
    else
      let magnitude := if psiRad.abs < 0.2 then 0.17364817766693033 else 0.3420201433256687
      if psiRad < 0.0 then -magnitude else magnitude
  round value := value

/-- A ship that heads north for a target 1577 m away that does not move. -/
def stationaryAhead : BcMpcInput where
  ownShip := { psiRad := 0.0, uMps := 5.0 }
  targets := [{ xM := 1577.0, yM := 0.0, cogRad := 0.0, sogMps := 0.0, cpaM := 0.0 }]

theorem stationaryAhead_resolved :
    ((evaluate northernLibrary {} 0 stationaryAhead).map fun sol => sol.status) =
      some .resolved := by
  decide +kernel

theorem resolved_branch_safe_stationaryAhead :
    ∃ sol, evaluate northernLibrary {} 0 stationaryAhead = some sol ∧
      overrideThreshold {} stationaryAhead ≤
        worstCaseCpaM northernLibrary {} sol.headingCmdRad stationaryAhead := by
  obtain ⟨sol, evaluated, resolved⟩ := Option.map_eq_some_iff.mp stationaryAhead_resolved
  obtain ⟨_, _, _, safe, _⟩ := resolved_branch_safe evaluated resolved
  exact ⟨sol, evaluated, safe⟩

/-- Turning by 20° keeps 1483 m, so the ship is not overridden, but its own heading takes it
to 1477 m, and the threshold is 1481.6 m. -/
theorem resolved_while_course_unsafe :
    ∃ sol, evaluate northernLibrary {} 0 stationaryAhead = some sol ∧
      sol.status = .resolved ∧
      ¬ overrideThreshold {} stationaryAhead ≤
        worstCaseCpaM northernLibrary {} stationaryAhead.ownShip.psiRad stationaryAhead := by
  obtain ⟨sol, evaluated, resolved⟩ := Option.map_eq_some_iff.mp stationaryAhead_resolved
  refine ⟨sol, evaluated, resolved, ?_⟩
  decide +kernel

end MassL3.M5.BcMpc
