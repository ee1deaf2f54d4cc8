/-
This file is about what the interval programming solver returns. While the time lasts, there
is a solution exactly when a feasible cell reaches a utility of zero, and its margin is the
greatest utility. The headings of its interval are those close to the optimum, as long as the
arc they form does not pass north.
-/

import MassTdl.Arbiter.Ivp
import MassTdl.Binary64.Truncation
import MassTdl.Colregs.Targets

namespace MassL3.M4

open Binary64
open MassL3.M6.Colregs (doubleMax)
open MassL3.Risk

/-! ### The grid -/

/-- A grid heading is a finite number from zero on. -/
theorem IvPHeadingDomain.heading_between (domain : IvPHeadingDomain) {heading : Float}
    (member : heading ∈ domain.headings) : 0.0 ≤ heading ∧ heading ≤ doubleMax := by
  obtain ⟨index, rfl⟩ := List.mem_ofFn.mp member
  have circle : toReal 360.0 ≤ 2 ^ 64 := by
    have below : (360.0 : Float) ≤ powerOfTwo 64 := by decide
    rw [← toReal_powerOfTwo_64]
    exact toReal_le_toReal (by decide) (by decide) below
  obtain ⟨above, below⟩ := multiple_between (by decide) circle domain.positive index.isLt
  exact ⟨above, chain_le below (by decide +kernel)⟩

namespace IvPSolver

variable (solver : IvPSolver) (functions : List WeightedFunction)
  (constraints : IvPHardConstraints) (expired : Nat → Bool)

theorem heading_of_feasibleCell {cell : Float × Float}
    (member : cell ∈ solver.feasibleCells constraints) :
    cell.1 ∈ solver.headingDomain.headings :=
  (List.mem_product.mp (List.mem_filter.mp member).1).1

/-! ### The search -/

/-- The time is not up before any cell. -/
def InTime : Prop := ∀ index < (solver.feasibleCells constraints).length, expired index = false

variable {expired}

/-- In time the search is the running maximum. -/
theorem searchBest_of_inTime (evaluated : Nat) (best : Float) (utilities : List Float)
    (inTime : ∀ index < utilities.length, expired (evaluated + index) = false) :
    searchBest expired evaluated best utilities = runningMax best utilities := by
  induction utilities generalizing evaluated best with
  | nil => rfl
  | cons util later inductionHypothesis =>
    have running : expired evaluated = false := inTime 0 (Nat.succ_pos _)
    unfold searchBest
    rw [if_neg (Bool.eq_false_iff.mp running), runningMax_cons]
    refine inductionHypothesis _ _ fun index below => ?_
    rw [Nat.add_right_comm, Nat.add_assoc]
    exact inTime (index + 1) (Nat.succ_lt_succ below)

/-- The greatest utility of a feasible cell, if one exceeds the start. -/
def greatestUtility : Float :=
  runningMax (-1.0) ((solver.feasibleCells constraints).map (solver.utility functions))

theorem findBestUtility_of_inTime (inTime : solver.InTime constraints expired) :
    solver.findBestUtility functions constraints expired =
      solver.greatestUtility functions constraints := by
  refine searchBest_of_inTime 0 (-1.0) _ fun index below => ?_
  rw [Nat.zero_add]
  exact inTime index (by rwa [List.length_map] at below)

theorem greatestUtility_number : (solver.greatestUtility functions constraints).isNaN = false :=
  runningMax_number (by decide) _

/-- No feasible cell exceeds the greatest utility. -/
theorem not_greatestUtility_lt {cell : Float × Float}
    (member : cell ∈ solver.feasibleCells constraints) :
    ¬ solver.greatestUtility functions constraints < solver.utility functions cell :=
  not_runningMax_lt (by decide) (List.mem_map_of_mem member)

/-- A utility from zero on is one of a feasible cell. -/
theorem exists_greatestUtility
    (nonneg : ¬ solver.greatestUtility functions constraints < 0.0) :
    ∃ cell ∈ solver.feasibleCells constraints,
      solver.utility functions cell = solver.greatestUtility functions constraints := by
  rcases runningMax_found (-1.0)
    ((solver.feasibleCells constraints).map (solver.utility functions)) with start | found
  · refine absurd ?_ nonneg
    unfold greatestUtility
    rw [start]
    decide
  · exact List.mem_map.mp found

theorem solve_of_inTime (inTime : solver.InTime constraints expired)
    (nonempty : functions ≠ []) :
    solver.solve functions constraints expired =
      if constraints.speedMinKn > constraints.speedMaxKn ∨
          solver.greatestUtility functions constraints < 0.0 then none
      else some (solver.collectInterval functions constraints
        (solver.greatestUtility functions constraints)) := by
  unfold solve
  rw [if_neg (by simpa using nonempty), findBestUtility_of_inTime solver functions _ inTime]
  split_ifs <;> simp_all

/-! ### The interval -/

/-- A heading whose utility comes close to the best, at some feasible speed. -/
def NearOptimal (bestUtility heading : Float) : Prop :=
  heading ∈ (solver.nearOptimalCells functions constraints bestUtility).map Prod.fst

theorem collectInterval_headingMinDeg (bestUtility : Float) :
    (solver.collectInterval functions constraints bestUtility).headingMinDeg =
      runningMin doubleMax
        ((solver.nearOptimalCells functions constraints bestUtility).map Prod.fst) := by
  simp only [collectInterval]

theorem collectInterval_headingMaxDeg (bestUtility : Float) :
    (solver.collectInterval functions constraints bestUtility).headingMaxDeg =
      runningMax (-1.0)
        ((solver.nearOptimalCells functions constraints bestUtility).map Prod.fst) := by
  simp only [collectInterval]

theorem collectInterval_optimalityMargin (bestUtility : Float) :
    (solver.collectInterval functions constraints bestUtility).optimalityMargin =
      bestUtility := by
  simp only [collectInterval]

/-- The headings form one arc of the grid that does not pass north: what lies between two of
them belongs to them. -/
def IsArc (grid : List Float) (arc : Float → Prop) : Prop :=
  ∀ first ∈ grid, ∀ middle ∈ grid, ∀ last ∈ grid,
    arc first → arc last → first ≤ middle → middle ≤ last → arc middle

variable {solver functions constraints}

theorem NearOptimal.grid {bestUtility heading : Float}
    (near : solver.NearOptimal functions constraints bestUtility heading) :
    heading ∈ solver.headingDomain.headings := by
  obtain ⟨cell, member, rfl⟩ := List.mem_map.mp near
  exact solver.heading_of_feasibleCell constraints (List.mem_filter.mp member).1

/-- The interval reaches over every heading close to the best. -/
theorem NearOptimal.between {bestUtility heading : Float}
    (near : solver.NearOptimal functions constraints bestUtility heading) :
    (solver.collectInterval functions constraints bestUtility).headingMinDeg ≤ heading ∧
      heading ≤ (solver.collectInterval functions constraints bestUtility).headingMaxDeg := by
  have number := (number_of_le (solver.headingDomain.heading_between near.grid).1).2
  rw [collectInterval_headingMinDeg, collectInterval_headingMaxDeg]
  refine ⟨le_of_not_lt (runningMin_number (by decide +kernel) _) number ?_,
    le_of_not_lt number (runningMax_number (by decide) _) ?_⟩
  · exact not_lt_runningMin (by decide +kernel) near
  · exact not_runningMax_lt (by decide) near

/-- A grid heading inside the interval lies between two headings close to the best. -/
theorem between_of_interval {bestUtility heading : Float}
    (member : heading ∈ solver.headingDomain.headings)
    (lower : (solver.collectInterval functions constraints bestUtility).headingMinDeg ≤ heading)
    (upper : heading ≤ (solver.collectInterval functions constraints bestUtility).headingMaxDeg) :
    ∃ first last, solver.NearOptimal functions constraints bestUtility first ∧
      solver.NearOptimal functions constraints bestUtility last ∧
      first ≤ heading ∧ heading ≤ last := by
  obtain ⟨nonneg, bounded⟩ := solver.headingDomain.heading_between member
  rw [collectInterval_headingMinDeg] at lower
  rw [collectInterval_headingMaxDeg] at upper
  have upperMember : solver.NearOptimal functions constraints bestUtility
      (runningMax (-1.0)
        ((solver.nearOptimalCells functions constraints bestUtility).map Prod.fst)) := by
    refine (runningMax_found (-1.0) _).resolve_left fun start => ?_
    rw [start] at upper
    exact absurd (chain_le nonneg upper) (by decide)
  rcases runningMin_found doubleMax
    ((solver.nearOptimalCells functions constraints bestUtility).map Prod.fst)
    with start | lowerMember
  · rw [start] at lower
    refine ⟨_, _, upperMember, upperMember, ?_, upper⟩
    exact chain_le (solver.headingDomain.heading_between upperMember.grid).2 lower
  · exact ⟨_, _, lowerMember, upperMember, lower, upper⟩

/-- The headings of an arc are those of the interval. -/
theorem mem_interval_iff {bestUtility : Float}
    (arc : IsArc solver.headingDomain.headings
      (solver.NearOptimal functions constraints bestUtility)) {heading : Float}
    (member : heading ∈ solver.headingDomain.headings) :
    ((solver.collectInterval functions constraints bestUtility).headingMinDeg ≤ heading ∧
      heading ≤ (solver.collectInterval functions constraints bestUtility).headingMaxDeg) ↔
      solver.NearOptimal functions constraints bestUtility heading := by
  refine ⟨fun inside => ?_, NearOptimal.between⟩
  obtain ⟨first, last, firstNear, lastNear, below, above⟩ :=
    between_of_interval member inside.1 inside.2
  exact arc first firstNear.grid heading member last lastNear.grid firstNear lastNear below above

/-! ### The solution -/

variable (solver functions constraints)

/-- The value is the utility of a feasible cell, and no feasible cell exceeds it. -/
def IsGreatestUtility (value : Float) : Prop :=
  (∃ cell ∈ solver.feasibleCells constraints, solver.utility functions cell = value) ∧
    ∀ cell ∈ solver.feasibleCells constraints, ¬ value < solver.utility functions cell

/-- The sentinel of the search stays exactly when no feasible cell reaches zero. -/
theorem greatestUtility_neg_iff :
    solver.greatestUtility functions constraints < 0.0 ↔
      ¬ ∃ cell ∈ solver.feasibleCells constraints, solver.utility functions cell ≥ 0.0 := by
  refine ⟨fun negative => ?_, fun none => by_contra fun nonneg => none ?_⟩
  · rintro ⟨cell, member, reached⟩
    refine solver.not_greatestUtility_lt functions constraints member ?_
    have upper := ((le_iff _ _).mp reached).2
    have lower := ((lt_iff _ _).mp negative).2
    exact (lt_iff _ _).mpr ⟨solver.greatestUtility_number functions constraints, upper.1,
      lower.2.trans_le upper.2⟩
  · obtain ⟨cell, member, same⟩ := solver.exists_greatestUtility functions constraints nonneg
    refine ⟨cell, member, ?_⟩
    rw [same]
    exact le_of_not_lt (by decide) (solver.greatestUtility_number functions constraints)
      nonneg

/-- In time the solver finds the greatest utility, if one reaches zero, and the arc of
headings close to it, if that arc does not pass north. -/
theorem solve_finds_optimum (nonempty : functions ≠ [])
    (inTime : solver.InTime constraints expired) :
    ((solver.solve functions constraints expired).isSome = true ↔
      ¬ constraints.speedMinKn > constraints.speedMaxKn ∧
        ∃ cell ∈ solver.feasibleCells constraints, solver.utility functions cell ≥ 0.0) ∧
    ∀ solution, solver.solve functions constraints expired = some solution →
      solver.IsGreatestUtility functions constraints solution.optimalityMargin ∧
      (IsArc solver.headingDomain.headings
          (solver.NearOptimal functions constraints solution.optimalityMargin) →
        ∀ heading ∈ solver.headingDomain.headings,
          (solution.headingMinDeg ≤ heading ∧ heading ≤ solution.headingMaxDeg) ↔
            solver.NearOptimal functions constraints solution.optimalityMargin heading) := by
  rw [solver.solve_of_inTime functions constraints inTime nonempty]
  split_ifs with refused
  · refine ⟨iff_of_false Bool.false_ne_true ?_, fun solution found => nomatch found⟩
    rintro ⟨ordered, reached⟩
    exact refused.elim ordered fun negative =>
      (solver.greatestUtility_neg_iff functions constraints).mp negative reached
  · obtain ⟨ordered, nonneg⟩ := not_or.mp refused
    refine ⟨iff_of_true rfl ⟨ordered, ?_⟩, ?_⟩
    · exact not_not.mp (mt (solver.greatestUtility_neg_iff functions constraints).mpr nonneg)
    · intro solution found
      rw [← Option.some.inj found, collectInterval_optimalityMargin]
      refine ⟨⟨solver.exists_greatestUtility functions constraints nonneg, fun cell member =>
        solver.not_greatestUtility_lt functions constraints member⟩, fun arc heading member => ?_⟩
      exact mem_interval_iff arc member

end IvPSolver

/-! ### A grid of four headings -/

/-- The library of the reasoner at multiples of a right angle; the other functions are given
at zero. -/
def meridianLibrary : MathLibrary where
  toMathLibrary := M6.Colregs.meridianLibrary
  asin value := value
  pow base _ := base
  exp _ := 1.0
  ceilToInt _ := 0

def quarterSolver : IvPSolver where
  headingDomain := ⟨90.0, by decide⟩
  speedDomain := ⟨0.0, 10.0, 10.0, by decide, by decide, by decide⟩
  combine := weightedSumCombination meridianLibrary

/-- A function that prefers one range of headings. -/
def preferring (headingMinDeg headingMaxDeg : Float) : IvPFunction :=
  (({} : IvPFunction).setPieces [⟨headingMinDeg, headingMaxDeg, 0.0, 20.0, 1.0⟩]).1

def freeConstraints : IvPHardConstraints where
  speedMinKn := 0.0
  speedMaxKn := 20.0

/-- A solver that is given time. -/
def unhurried : Nat → Bool := fun _ => false

theorem solve_finds_optimum_eastward :
    (quarterSolver.solve [⟨1.0, preferring 80.0 190.0⟩] freeConstraints unhurried).isSome =
      true := by
  have inTime : quarterSolver.InTime freeConstraints unhurried := fun _ _ => rfl
  exact (quarterSolver.solve_finds_optimum [⟨1.0, preferring 80.0 190.0⟩] freeConstraints
    (List.cons_ne_nil _ _) inTime).1.mpr ⟨by decide, by decide⟩

/-- A constraint to the heading east. -/
def eastward : IvPHardConstraints :=
  { freeConstraints with headingAllowedRangesDeg := [(80.0, 100.0)] }

/-- A free grid without functions has no solution, a grid on which the only function has a
negative weight has none, and an optimum on both sides of north has an interval that reaches
over the east. -/
theorem grid_without_arc :
    (quarterSolver.InTime freeConstraints unhurried ∧
      quarterSolver.feasibleCells freeConstraints ≠ [] ∧
      (quarterSolver.solve [] freeConstraints unhurried).isNone) ∧
    (quarterSolver.InTime eastward unhurried ∧
      quarterSolver.feasibleCells eastward = [(90.0, 0.0), (90.0, 10.0)] ∧
      (quarterSolver.solve [⟨-0.5, preferring 80.0 190.0⟩] eastward unhurried).isNone) ∧
    (quarterSolver.InTime freeConstraints unhurried ∧
      (quarterSolver.nearOptimalCells [⟨1.0, preferring 260.0 10.0⟩] freeConstraints 1.0).map
        Prod.fst = [0.0, 0.0, 270.0, 270.0] ∧
      (quarterSolver.solve [⟨1.0, preferring 260.0 10.0⟩] freeConstraints unhurried).any
        fun solution => solution.optimalityMargin == 1.0 && solution.headingMinDeg ≤ 90.0 &&
          90.0 ≤ solution.headingMaxDeg) := by
  refine ⟨⟨fun _ _ => rfl, ?_, ?_⟩, ⟨fun _ _ => rfl, ?_, ?_⟩, fun _ _ => rfl, ?_, ?_⟩
  all_goals decide +kernel

end MassL3.M4
