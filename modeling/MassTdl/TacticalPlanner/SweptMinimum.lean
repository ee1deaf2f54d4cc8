/-
This file is about what the swept check finds, over the reals. Each segment is judged by its
nearest point, so the least distance that is found is the least one at any time, and a segment is
taken for a violation exactly if own ship comes below the floor on it. Which of the violations is
named depends on the ids.
-/

import Mathlib.Analysis.Real.Sqrt
import Mathlib.Analysis.SpecialFunctions.Trigonometric.Basic
import MassTdl.TacticalPlanner.SweptVisits

namespace MassL3.M5.ContinuousCpa

open Clamps
open Motions

/-! ### Distances over time -/

noncomputable def realFunctions : Functions ℝ := ⟨Real.cos, Real.sin, Real.sqrt⟩

def TrajectoryPoint.toNode (point : TrajectoryPoint ℝ) : Node ℝ := ⟨point.tS, (point.xM, point.yM)⟩

/-- Own ship goes straight from node to node. -/
noncomputable def ownAt (trajectory : List (TrajectoryPoint ℝ)) (time : ℝ) : ℝ × ℝ :=
  placeAt (trajectory.map TrajectoryPoint.toNode) time

/-- A target keeps its velocity. -/
noncomputable def targetAt (target : TargetState ℝ) (time : ℝ) : ℝ × ℝ :=
  (target.xM + target.sogMps * Real.cos target.cogRad * time,
    target.yM + target.sogMps * Real.sin target.cogRad * time)

noncomputable def distanceAt (trajectory : List (TrajectoryPoint ℝ)) (target : TargetState ℝ)
    (time : ℝ) : ℝ :=
  √(normSq (ownAt trajectory time - targetAt target time))

/-- The times from the first node to the last. -/
def during (trajectory : List (TrajectoryPoint ℝ)) : Set ℝ :=
  {time | (∀ first ∈ trajectory.head?, first.tS ≤ time) ∧
    ∀ last ∈ trajectory.getLast?, time ≤ last.tS}

/-- The distances to all targets at all times. -/
def distances (trajectory : List (TrajectoryPoint ℝ)) (targets : List (TargetState ℝ)) : Set ℝ :=
  {distance | ∃ target ∈ targets, ∃ time ∈ during trajectory,
    distance = distanceAt trajectory target time}

/-- The times of a leg. -/
def legTimes (leg : TrajectoryPoint ℝ × TrajectoryPoint ℝ) : Set ℝ := Set.Icc leg.1.tS leg.2.tS

open Classical in
/-- The targets and segments with a distance below the floor, in the order of the lists. -/
noncomputable def violations (trajectory : List (TrajectoryPoint ℝ))
    (targets : List (TargetState ℝ)) (cpaHardM : ℝ) : List (Int32 × Int) :=
  targets.flatMap fun target =>
    ((legs trajectory).zipIdx.filter fun leg =>
      ∃ time ∈ legTimes leg.1, distanceAt trajectory target time < cpaHardM).map
      fun leg => (target.id, (leg.2 : Int))

/-- How far own ship moves on a leg, seen from a target. -/
noncomputable def displacement (target : TargetState ℝ)
    (leg : TrajectoryPoint ℝ × TrajectoryPoint ℝ) : ℝ × ℝ :=
  relative realFunctions target leg.2 - relative realFunctions target leg.1

/-- What is found is what there is: the least distance, whether it is below the floor, and the
first violation by name. -/
structure Exact (trajectory : List (TrajectoryPoint ℝ)) (targets : List (TargetState ℝ))
    (cpaHardM : ℝ) (result : ContinuousCpaResult ℝ) : Prop where
  least : ∃ least, result.minSweptCpaM = some least ∧
    IsLeast (distances trajectory targets) least ∧
    (result.intervalCrossingDetected = true ↔ least < cpaHardM)
  first : ∀ first ∈ (violations trajectory targets cpaHardM).head?, result.name = first

/-! ### One segment -/

theorem segmentDistSq_apart {start finish : ℝ × ℝ}
    (apart : 1.0e-12 < normSq (finish - start)) :
    segmentDistSq start finish =
      normSq (between start finish (max 0 (min (nearestRatio start finish) 1))) := by
  rw [← stdClamp_eq (nearestRatio start finish) zero_le_one]
  exact if_pos apart

theorem segmentDistSq_self (start : ℝ × ℝ) : segmentDistSq start start = normSq start := by
  unfold segmentDistSq
  norm_num [normSq]

/-- A displacement that is long enough is told from none. -/
theorem normSq_of_long {point : ℝ × ℝ} (long : 1e-6 < √(normSq point)) :
    1.0e-12 < normSq point := by
  have square := Real.sq_sqrt (normSq_nonneg point)
  nlinarith

/-- On the times of a leg, the squared distance is least at the nearest point. -/
theorem isLeast_segmentDistSq {start finish : ℝ × ℝ} {first last : ℝ} (moves : first < last)
    (told : finish - start = 0 ∨ 1e-6 < √(normSq (finish - start))) :
    IsLeast ((fun time => normSq (between start finish ((time - first) / (last - first)))) ''
      Set.Icc first last) (segmentDistSq start finish) := by
  have takes : 0 < last - first := sub_pos.mpr moves
  rcases told with rest | long
  · obtain rfl := sub_eq_zero.mp rest
    have still (ratio : ℝ) : between finish finish ratio = finish := by simp [between]
    simp only [still, segmentDistSq_self]
    exact ⟨⟨first, ⟨le_rfl, moves.le⟩, rfl⟩, by rintro _ ⟨time, -, rfl⟩; exact le_rfl⟩
  · have apart : start ≠ finish := by
      rintro rfl
      rw [sub_self, normSq_eq_zero.mpr rfl, Real.sqrt_zero] at long
      norm_num at long
    rw [segmentDistSq_apart (normSq_of_long long)]
    constructor
    · -- the time at which the nearest point is passed
      generalize nearest : max 0 (min (nearestRatio start finish) 1) = ratio
      have nonneg : 0 ≤ ratio := nearest ▸ le_max_left _ _
      have atMost : ratio ≤ 1 := nearest ▸ max_le zero_le_one (min_le_right _ _)
      refine ⟨first + ratio * (last - first), ⟨?_, ?_⟩, ?_⟩
      · linarith [mul_nonneg nonneg takes.le]
      · linarith [mul_le_of_le_one_left takes.le atMost]
      · dsimp only
        rw [add_sub_cancel_left, mul_div_cancel_right₀ _ takes.ne']
    · rintro _ ⟨time, ⟨fromFirst, toLast⟩, rfl⟩
      exact normSq_between_nearest_le apart (div_nonneg (by linarith) takes.le)
        ((div_le_one takes).mpr (by linarith))

/-! ### One leg -/

section Legs

variable {trajectory : List (TrajectoryPoint ℝ)} {targets : List (TargetState ℝ)}
  {target : TargetState ℝ} {leg : TrajectoryPoint ℝ × TrajectoryPoint ℝ} {cpaHardM : ℝ}

/-- Every displacement is none, or long enough to be told from none. -/
def Told (trajectory : List (TrajectoryPoint ℝ)) (targets : List (TargetState ℝ)) : Prop :=
  ∀ target ∈ targets, ∀ leg ∈ legs trajectory,
    displacement target leg = 0 ∨ 1e-6 < √(normSq (displacement target leg))

/-- The times of the nodes increase. -/
def Increasing (trajectory : List (TrajectoryPoint ℝ)) : Prop :=
  trajectory.Pairwise fun earlier later => earlier.tS < later.tS

theorem Increasing.ordered (increasing : Increasing trajectory) :
    Ordered (trajectory.map TrajectoryPoint.toNode) :=
  List.pairwise_map.mpr increasing

theorem legs_toNode (trajectory : List (TrajectoryPoint ℝ)) :
    legs (trajectory.map TrajectoryPoint.toNode) =
      (legs trajectory).map (Prod.map TrajectoryPoint.toNode TrajectoryPoint.toNode) := by
  rw [legs, ← List.map_tail, List.zip_map]
  rfl

theorem mem_legs_toNode (member : leg ∈ legs trajectory) :
    (leg.1.toNode, leg.2.toNode) ∈ legs (trajectory.map TrajectoryPoint.toNode) := by
  rw [legs_toNode]
  exact List.mem_map_of_mem member

section

variable (increasing : Increasing trajectory)
include increasing

/-- The times of a leg are times of the trajectory. -/
theorem Increasing.legTimes_subset (member : leg ∈ legs trajectory) :
    legTimes leg ⊆ during trajectory := by
  obtain ⟨startMember, finishMember⟩ := mem_of_mem_legs member
  rintro time ⟨fromStart, toFinish⟩
  constructor
  · intro first isFirst
    obtain ⟨later, rfl⟩ := List.head?_eq_some_iff.mp isFirst
    rcases List.mem_cons.mp startMember with same | inLater
    · exact same ▸ fromStart
    · exact ((List.pairwise_cons.mp increasing).1 _ inLater).le.trans fromStart
  · intro last isLast
    obtain ⟨earlier, rfl⟩ := List.getLast?_eq_some_iff.mp isLast
    rcases List.mem_append.mp finishMember with inEarlier | same
    · exact toFinish.trans
        ((List.pairwise_append.mp increasing).2.2 _ inEarlier _ List.mem_cons_self).le
    · exact List.mem_singleton.mp same ▸ toFinish

/-- Seen from a target, own ship goes straight on a leg. -/
theorem ownAt_sub_targetAt (member : leg ∈ legs trajectory) {time : ℝ}
    (onLeg : time ∈ legTimes leg) :
    ownAt trajectory time - targetAt target time =
      between (relative realFunctions target leg.1) (relative realFunctions target leg.2)
        ((time - leg.1.tS) / (leg.2.tS - leg.1.tS)) := by
  have inNodes := mem_legs_toNode member
  have moves : leg.1.tS < leg.2.tS := increasing.ordered.of_mem_legs inNodes
  have takes : leg.2.tS - leg.1.tS ≠ 0 := (sub_pos.mpr moves).ne'
  have own : ownAt trajectory time = placeOnLeg leg.1.toNode leg.2.toNode time :=
    increasing.ordered.placeAt_eq inNodes onLeg.1 onLeg.2
  have share := div_mul_cancel₀ (time - leg.1.tS) takes
  rw [own]
  unfold placeOnLeg between targetAt relative
  dsimp only [TrajectoryPoint.toNode, realFunctions, Prod.fst_sub, Prod.snd_sub]
  generalize (time - leg.1.tS) / (leg.2.tS - leg.1.tS) = ratio at share ⊢
  refine Prod.ext ?_ ?_
  · dsimp only [Prod.fst_sub]
    linear_combination (target.sogMps * Real.cos target.cogRad) * share
  · dsimp only [Prod.snd_sub]
    linear_combination (target.sogMps * Real.sin target.cogRad) * share

/-- The distance that is computed for a segment is the least one on its leg. -/
theorem isLeast_distanceAt (told : Told trajectory targets) (among : target ∈ targets)
    (member : leg ∈ legs trajectory) (segment : Nat) :
    IsLeast (distanceAt trajectory target '' legTimes leg)
      √(visit realFunctions target leg segment).distSq := by
  have moves : leg.1.tS < leg.2.tS := increasing.ordered.of_mem_legs (mem_legs_toNode member)
  have least := isLeast_segmentDistSq moves (told target among leg member)
  have squares : distanceAt trajectory target '' legTimes leg =
      Real.sqrt '' ((fun time => normSq (between (relative realFunctions target leg.1)
        (relative realFunctions target leg.2) ((time - leg.1.tS) / (leg.2.tS - leg.1.tS)))) ''
          Set.Icc leg.1.tS leg.2.tS) := by
    rw [Set.image_image]
    exact Set.image_congr fun time onLeg => by
      rw [distanceAt, ownAt_sub_targetAt increasing member onLeg]
  rw [squares]
  exact Real.sqrt_monotone.map_isLeast least

/-- A leg is below the floor at some time exactly if the distance of its segment is. -/
theorem below_iff (told : Told trajectory targets) (positive : 0 < cpaHardM)
    (among : target ∈ targets) (member : leg ∈ legs trajectory) (segment : Nat) :
    (∃ time ∈ legTimes leg, distanceAt trajectory target time < cpaHardM) ↔
      (visit realFunctions target leg segment).distSq < cpaHardM * cpaHardM := by
  obtain ⟨⟨nearest, onLeg, attained⟩, lowest⟩ :=
    isLeast_distanceAt increasing told among member segment
  rw [← sq, ← Real.sqrt_lt' positive, ← attained]
  constructor
  · rintro ⟨time, within, below⟩
    exact lt_of_le_of_lt (attained ▸ lowest ⟨time, within, rfl⟩) below
  · exact fun below => ⟨nearest, onLeg, below⟩

end

end Legs

/-! ### The whole check -/

section Check

variable {trajectory : List (TrajectoryPoint ℝ)} {targets : List (TargetState ℝ)} {cpaHardM : ℝ}

/-- The violations are the visits below the floor. -/
theorem violations_eq (increasing : Increasing trajectory) (told : Told trajectory targets)
    (positive : 0 < cpaHardM) :
    violations trajectory targets cpaHardM =
      ((visits realFunctions trajectory targets).filter fun visit =>
        visit.distSq < cpaHardM * cpaHardM).map Visit.name := by
  unfold violations visits
  rw [List.filter_flatMap, List.map_flatMap]
  refine List.flatMap_congr fun target among => ?_
  rw [List.filter_map, List.map_map]
  refine congrArg (List.map _) (List.filter_congr fun leg member => ?_)
  exact decide_eq_decide.mpr
    (below_iff increasing told positive among (List.fst_mem_of_mem_zipIdx member) leg.2)

section

variable (two : 2 ≤ trajectory.length)
include two

/-- A time of the trajectory is one of a leg. -/
theorem exists_legTimes {time : ℝ} (within : time ∈ during trajectory) :
    ∃ leg ∈ legs trajectory, time ∈ legTimes leg := by
  obtain ⟨first, second, later, rfl⟩ : ∃ first second later,
      trajectory = first :: second :: later := by
    match trajectory, two with
    | first :: second :: later, _ => exact ⟨first, second, later, rfl⟩
  obtain ⟨fromFirst, toLast⟩ := within
  have toLastNode : ∀ last ∈ ((second :: later).map TrajectoryPoint.toNode).getLast?,
      time ≤ last.time := by
    intro last isLast
    rw [List.getLast?_map] at isLast
    obtain ⟨point, isPoint, rfl⟩ := Option.map_eq_some_iff.mp isLast
    exact toLast point (by rw [List.getLast?_cons_cons]; exact isPoint)
  have several : (second :: later).map TrajectoryPoint.toNode ≠ [] := List.cons_ne_nil _ _
  have afterFirst : first.toNode.time ≤ time := fromFirst first rfl
  obtain ⟨leg, member, onLeg⟩ := exists_leg several afterFirst toLastNode
  rw [← List.map_cons, legs_toNode] at member
  obtain ⟨points, among, rfl⟩ := List.mem_map.mp member
  exact ⟨points, among, onLeg⟩

theorem visits_ne_nil (some : targets ≠ []) :
    visits realFunctions trajectory targets ≠ [] := by
  obtain ⟨target, others, rfl⟩ := List.exists_cons_of_ne_nil some
  match trajectory, two with
  | first :: second :: later, _ => simp [visits, List.zipIdx_cons]

/-- The least distance of a visit is the least one at any time. -/
theorem isLeast_distances (increasing : Increasing trajectory) (told : Told trajectory targets)
    {least : ℝ}
    (attained : ∃ visit ∈ visits realFunctions trajectory targets, √visit.distSq = least)
    (lowest : ∀ visit ∈ visits realFunctions trajectory targets, least ≤ √visit.distSq) :
    IsLeast (distances trajectory targets) least := by
  have visited {target leg} (among : target ∈ targets) (member : leg ∈ legs trajectory) :
      ∃ segment, visit realFunctions target leg segment ∈
        visits realFunctions trajectory targets := by
    obtain ⟨segment, found⟩ := List.mem_iff_getElem?.mp member
    have numbered := List.mk_mem_zipIdx_iff_getElem?.mpr found
    exact ⟨segment, List.mem_flatMap.mpr ⟨target, among, List.mem_map_of_mem numbered⟩⟩
  constructor
  · obtain ⟨visit, visited, rfl⟩ := attained
    obtain ⟨target, among, ofTarget⟩ := List.mem_flatMap.mp visited
    obtain ⟨leg, found, rfl⟩ := List.mem_map.mp ofTarget
    have member := List.fst_mem_of_mem_zipIdx found
    obtain ⟨⟨time, onLeg, nearest⟩, -⟩ := isLeast_distanceAt increasing told among member leg.2
    exact ⟨target, among, time, increasing.legTimes_subset member onLeg, nearest.symm⟩
  · rintro _ ⟨target, among, time, within, rfl⟩
    obtain ⟨leg, member, onLeg⟩ := exists_legTimes two within
    obtain ⟨segment, found⟩ := visited among member
    exact (lowest _ found).trans
      ((isLeast_distanceAt increasing told among member segment).2 ⟨time, onLeg, rfl⟩)

/-- The least distance that is recorded is the least one at any time, and a violation is detected
exactly if it is below the floor. -/
theorem computeContinuousCpa_least (increasing : Increasing trajectory) (some : targets ≠ [])
    (positive : 0 < cpaHardM) (told : Told trajectory targets) :
    ∃ least, (computeContinuousCpa realFunctions trajectory targets cpaHardM).minSweptCpaM =
        .some least ∧ IsLeast (distances trajectory targets) least ∧
      ((computeContinuousCpa realFunctions trajectory targets
        cpaHardM).intervalCrossingDetected = true ↔ least < cpaHardM) := by
  rw [computeContinuousCpa_eq two some positive, foldl_minSweptCpaM, foldl_crossing]
  have notNone : (visits realFunctions trajectory targets).map
      (fun visit => realFunctions.sqrt visit.distSq) ≠ [] := by
    simpa using visits_ne_nil two some
  obtain ⟨least, among, held, highest⟩ :=
    Registers.holdsMaximum_raises OrderDual.toDual _ notNone
  obtain ⟨nearest, visited, attained⟩ := List.mem_map.mp among
  have lowest : ∀ visit ∈ visits realFunctions trajectory targets, least ≤ √visit.distSq :=
    fun visit member => OrderDual.toDual_le_toDual.mp (highest _ (List.mem_map_of_mem member))
  refine ⟨least, held, isLeast_distances two increasing told ⟨nearest, visited, attained⟩ lowest,
    ?_⟩
  simp only [Bool.false_or, List.any_eq_true, decide_eq_true_eq]
  have below (visit : Visit ℝ) : visit.distSq < cpaHardM * cpaHardM ↔ √visit.distSq < cpaHardM := by
    rw [← sq, ← Real.sqrt_lt' positive]
  simp only [below]
  constructor
  · rintro ⟨visit, member, crosses⟩
    exact (lowest visit member).trans_lt crosses
  · exact fun crosses => ⟨nearest, visited, attained.trans_lt crosses⟩

/-- The names of the violations are written one over the other. -/
theorem computeContinuousCpa_name (increasing : Increasing trajectory) (some : targets ≠ [])
    (positive : 0 < cpaHardM) (told : Told trajectory targets) :
    (computeContinuousCpa realFunctions trajectory targets cpaHardM).name =
      (violations trajectory targets cpaHardM).foldl rename (0, -1) := by
  rw [computeContinuousCpa_eq two some positive, foldl_name,
    violations_eq increasing told positive]
  rfl

end

/-- The check is exact if and only if the first violation is not written over. -/
theorem computeContinuousCpa_exact_iff (two : 2 ≤ trajectory.length)
    (increasing : Increasing trajectory) (some : targets ≠ []) (positive : 0 < cpaHardM)
    (told : Told trajectory targets) :
    Exact trajectory targets cpaHardM
        (computeContinuousCpa realFunctions trajectory targets cpaHardM) ↔
      Unhidden (violations trajectory targets cpaHardM) := by
  rw [← foldl_rename_eq_head_iff,
    ← computeContinuousCpa_name two increasing some positive told]
  exact ⟨fun exact => exact.first, fun first =>
    ⟨computeContinuousCpa_least two increasing some positive told, first⟩⟩

end Check

/-! ### A target with the id zero -/

/-- Own ship goes straight over the origin. -/
def overOrigin : List (TrajectoryPoint ℝ) := [⟨-10.0, 0, 0⟩, ⟨10.0, 0, 20.0⟩]

/-- A target at rest in the origin. -/
def atOrigin (id : Int32) : TargetState ℝ := ⟨id, 0, 0, 0, 0⟩

theorem overOrigin_increasing : Increasing overOrigin := by
  norm_num [Increasing, overOrigin]

theorem overOrigin_told (ids : List Int32) : Told overOrigin (ids.map atOrigin) := by
  intro target among leg member
  obtain ⟨id, -, rfl⟩ := List.mem_map.mp among
  obtain rfl : leg = (⟨-10.0, 0, 0⟩, ⟨10.0, 0, 20.0⟩) := by simpa [overOrigin, legs] using member
  refine .inr (Real.lt_sqrt_of_sq_lt ?_)
  norm_num [displacement, relative, realFunctions, atOrigin, normSq]

theorem overOrigin_below (id : Int32) :
    ∃ time ∈ legTimes (⟨-10.0, 0, 0⟩, ⟨10.0, 0, 20.0⟩),
      distanceAt overOrigin (atOrigin id) time < 1 := by
  refine ⟨10, by norm_num [legTimes], ?_⟩
  norm_num [distanceAt, ownAt, targetAt, overOrigin, TrajectoryPoint.toNode, placeAt, placeOnLeg,
    between, atOrigin, normSq]

theorem violations_overOrigin (ids : List Int32) :
    violations overOrigin (ids.map atOrigin) 1 = ids.map fun id => (id, 0) := by
  unfold violations
  rw [List.flatMap_map, List.map_eq_flatMap]
  refine List.flatMap_congr fun id _ => ?_
  rw [show (legs overOrigin).zipIdx = [((⟨-10.0, 0, 0⟩, ⟨10.0, 0, 20.0⟩), 0)] from rfl,
    List.filter_cons_of_pos (by simpa using overOrigin_below id)]
  rfl

/-- Own ship turns to port after the origin. -/
def turning : List (TrajectoryPoint ℝ) := [⟨-10.0, 0, 0⟩, ⟨10.0, 0, 20.0⟩, ⟨10.0, 20.0, 40.0⟩]

/-- One target lies in the origin, and another one keeps abeam of own ship until the turn. -/
def encountered : List (TargetState ℝ) := [atOrigin 7, ⟨9, -10.0, 100.0, 0, 1⟩]

theorem turning_told : Told turning encountered := by
  intro target among leg member
  have isLeg : leg = (⟨-10.0, 0, 0⟩, ⟨10.0, 0, 20.0⟩) ∨
      leg = (⟨10.0, 0, 20.0⟩, ⟨10.0, 20.0, 40.0⟩) := by
    simpa [turning, legs] using member
  rcases List.mem_pair.mp among with rfl | rfl
  · refine .inr (Real.lt_sqrt_of_sq_lt ?_)
    rcases isLeg with rfl | rfl <;>
      norm_num [displacement, relative, realFunctions, atOrigin, normSq]
  · rcases isLeg with rfl | rfl
    · exact .inl (by norm_num [displacement, relative, realFunctions])
    · refine .inr (Real.lt_sqrt_of_sq_lt ?_)
      norm_num [displacement, relative, realFunctions, normSq]

theorem computeContinuousCpa_exact_iff_named :
    Exact turning encountered 1 (computeContinuousCpa realFunctions turning encountered 1) ↔
      Unhidden (violations turning encountered 1) :=
  computeContinuousCpa_exact_iff (by decide) (by norm_num [Increasing, turning])
    (List.cons_ne_nil _ _) one_pos turning_told

/-- A target with the id zero comes below the floor first, and another one is named. -/
theorem zero_id_written_over :
    2 ≤ overOrigin.length ∧ Increasing overOrigin ∧ Told overOrigin ([0, 7].map atOrigin) ∧
      ¬ Exact overOrigin ([0, 7].map atOrigin) 1
        (computeContinuousCpa realFunctions overOrigin ([0, 7].map atOrigin) 1) := by
  refine ⟨le_refl 2, overOrigin_increasing, overOrigin_told [0, 7], fun exact => ?_⟩
  have named := exact.first (0, 0) (by rw [violations_overOrigin]; rfl)
  have some : [0, 7].map atOrigin ≠ [] := List.cons_ne_nil _ _
  rw [computeContinuousCpa_name (le_refl 2) overOrigin_increasing some one_pos
    (overOrigin_told [0, 7]), violations_overOrigin] at named
  exact absurd named (by decide)

end MassL3.M5.ContinuousCpa
