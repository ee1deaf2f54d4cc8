/-
This file is about the coordinates of a point that a route gives it, over the reals. They are
faithful: the station is on the route, the route has no point nearer than the one at that station,
and where that point lies inside the leg that was found, the offset is the whole distance and
sampling finds the point again. The leg that is found is the first of the nearest ones. If it ends
where a later leg passes, the offset is taken against the one that ends.
-/

import MassTdl.TacticalPlanner.RouteFrame

namespace MassL3.M5.Frame

open Motions (legs between normSq nearestRatio)

noncomputable section

/-! ### The nearest point of the route -/

section Nearest

variable {waypoints : List (GeoWP ℝ)} {point : GeoWP ℝ} {earlier later : List Leg} {leg : Leg}

/-- Where some leg has a length, each leg begins at an end of such a leg. -/
theorem exists_long_at {walked : List Leg}
    (chain : walked.IsChain fun first second => first.2 = second.1)
    (apart : ∀ leg ∈ walked, leg.1.place = leg.2.place ∨ Long leg)
    (some : ∃ leg ∈ walked, Long leg) :
    ∀ leg ∈ walked, ∃ other ∈ walked, Long other ∧
      (other.1.place = leg.1.place ∨ other.2.place = leg.1.place) := by
  induction walked with
  | nil => exact fun _ none => by cases none
  | cons first rest inductionHypothesis =>
    intro leg member
    by_cases restLong : ∃ leg ∈ rest, Long leg
    · have below := inductionHypothesis chain.tail
        (fun other member => apart other (List.mem_cons_of_mem _ member)) restLong
      rcases List.mem_cons.mp member with rfl | behind
      · rcases apart leg List.mem_cons_self with same | long
        · -- the leg has no length: it ends where it begins, and there the next one begins
          cases rest with
          | nil =>
            obtain ⟨_, none, -⟩ := restLong
            cases none
          | cons second rest =>
            obtain ⟨meet, -⟩ := List.isChain_cons_cons.mp chain
            obtain ⟨other, inRest, long, ends⟩ := below second List.mem_cons_self
            rw [same, meet]
            exact ⟨other, List.mem_cons_of_mem _ inRest, long, ends⟩
        · exact ⟨leg, List.mem_cons_self, long, .inl rfl⟩
      · obtain ⟨other, inRest, long, ends⟩ := below leg behind
        exact ⟨other, List.mem_cons_of_mem _ inRest, long, ends⟩
    · have idle {other : Leg} (inRest : other ∈ rest) : other.1.place = other.2.place :=
        (apart other (List.mem_cons_of_mem _ inRest)).resolve_right
          fun long => restLong ⟨other, inRest, long⟩
      have firstLong : Long first := by
        obtain ⟨other, inWalked, long⟩ := some
        rcases List.mem_cons.mp inWalked with rfl | inRest
        · exact long
        · exact absurd ⟨other, inRest, long⟩ restLong
      rcases List.mem_cons.mp member with rfl | inRest
      · exact ⟨leg, List.mem_cons_self, firstLong, .inl rfl⟩
      · obtain ⟨before, behind, split⟩ := List.append_of_mem inRest
        refine ⟨first, List.mem_cons_self, firstLong, .inr ?_⟩
        rw [split, ← List.cons_append] at chain
        exact place_of_idle (List.isChain_split.mp chain).1 fun other inBefore =>
          idle (split ▸ List.mem_append_left _ inBefore)

/-- No point of the route is nearer than the one found. -/
theorem FirstNearest.le_distance (first : FirstNearest point (legs waypoints) earlier leg later)
    (apart : Apart waypoints) {place : ℝ × ℝ} (on : OnPolyline waypoints place) :
    distOn hypotenuse point leg ≤ distance point.place place := by
  obtain ⟨passing, member, ratio, nonneg, atMost, rfl⟩ := on
  rcases apart passing member with same | long
  · have some : ∃ leg ∈ legs waypoints, Long leg :=
      ⟨leg, first.split ▸ List.mem_append_right _ List.mem_cons_self, first.long⟩
    have stays : pointOn passing ratio = passing.1.place := by
      unfold pointOn between
      rw [← same, sub_self, sub_self, mul_zero, add_zero, add_zero]
    obtain ⟨other, inRoute, long, starts | ends⟩ :=
      exists_long_at (legs_chain waypoints) apart some passing member
    · rw [stays, ← starts, ← Motions.between_zero other.1.place other.2.place]
      exact (first.le inRoute long).trans (long.distOn_le le_rfl zero_le_one)
    · rw [stays, ← ends, ← Motions.between_one other.1.place other.2.place]
      exact (first.le inRoute long).trans (long.distOn_le zero_le_one le_rfl)
  · exact (first.le member long).trans (long.distOn_le nonneg atMost)

/-- Only one leg is the first of the nearest ones. -/
theorem FirstNearest.unique {walked otherEarlier otherLater : List Leg} {other : Leg}
    (first : FirstNearest point walked earlier leg later)
    (again : FirstNearest point walked otherEarlier other otherLater) :
    otherEarlier = earlier ∧ other = leg := by
  have splits := first.split.symm.trans again.split
  rcases List.append_eq_append_iff.mp splits with ⟨between, before, rest⟩ | ⟨between, before, rest⟩
  · cases between with
    | nil =>
      obtain ⟨rfl, -⟩ := List.cons.inj rest
      exact ⟨before.trans (List.append_nil _), rfl⟩
    | cons next between =>
      -- the leg stands before the other one, which would have to be nearer
      obtain ⟨rfl, behind⟩ := List.cons.inj rest
      have nearer := again.before leg (before ▸ List.mem_append_right _ List.mem_cons_self)
        first.long
      have further := first.behind other (behind ▸ List.mem_append_right _ List.mem_cons_self)
        again.long
      exact absurd nearer further.not_gt
  · cases between with
    | nil =>
      obtain ⟨rfl, -⟩ := List.cons.inj rest
      exact ⟨((List.append_nil _).symm.trans before.symm), rfl⟩
    | cons next between =>
      obtain ⟨rfl, behind⟩ := List.cons.inj rest
      have nearer := first.before other (before ▸ List.mem_append_right _ List.mem_cons_self)
        again.long
      have further := again.behind leg (behind ▸ List.mem_append_right _ List.mem_cons_self)
        first.long
      exact absurd nearer further.not_gt

end Nearest

/-! ### The side -/

section Side

variable {leg : Leg} (point : GeoWP ℝ)

theorem distOn_sq (leg : Leg) :
    distOn hypotenuse point leg ^ 2 = normSq (offsetOn hypotenuse point leg) :=
  Real.sq_sqrt (Motions.normSq_nonneg _)

theorem distOn_nonneg (leg : Leg) : 0 ≤ distOn hypotenuse point leg :=
  Real.sqrt_nonneg _

/-- The way along the leg that is left in the offset. -/
def along (leg : Leg) : ℝ :=
  (leg.2.xM - leg.1.xM) * (offsetOn hypotenuse point leg).1 +
    (leg.2.yM - leg.1.yM) * (offsetOn hypotenuse point leg).2

section

variable (long : Long leg)
include long

theorem Long.lM_mul (stationBase : ℝ) :
    (projectionOn hypotenuse stationBase point leg).lM * legLength hypotenuse leg =
      (leg.2.xM - leg.1.xM) * (offsetOn hypotenuse point leg).2 -
        (leg.2.yM - leg.1.yM) * (offsetOn hypotenuse point leg).1 :=
  div_mul_cancel₀ _ long.pos.ne'

/-- The way to the point is made of its parts along the leg and to its side. -/
theorem Long.lM_sq_add (stationBase : ℝ) :
    ((projectionOn hypotenuse stationBase point leg).lM * legLength hypotenuse leg) ^ 2 +
        along point leg ^ 2 =
      (distOn hypotenuse point leg * legLength hypotenuse leg) ^ 2 := by
  rw [long.lM_mul point, mul_pow, distOn_sq, sq (legLength hypotenuse leg), legLength_sq]
  unfold along normSq GeoWP.place
  simp only [Prod.fst_sub, Prod.snd_sub]
  ring

/-- The offset to the side is at most the distance. -/
theorem Long.abs_lM_le (stationBase : ℝ) :
    |(projectionOn hypotenuse stationBase point leg).lM| ≤ distOn hypotenuse point leg := by
  have squares := long.lM_sq_add point stationBase
  have product : |(projectionOn hypotenuse stationBase point leg).lM * legLength hypotenuse leg| ≤
      distOn hypotenuse point leg * legLength hypotenuse leg :=
    abs_le_of_sq_le_sq (by nlinarith [sq_nonneg (along point leg)])
      (mul_nonneg (distOn_nonneg point leg) (legLength_nonneg leg))
  rw [abs_mul, abs_of_pos long.pos] at product
  exact le_of_mul_le_mul_right product long.pos

/-- Inside a leg the ratio is not cut off. -/
theorem Long.ratioOn_mul (positive : 0 < ratioOn hypotenuse point leg)
    (below : ratioOn hypotenuse point leg < 1) :
    ratioOn hypotenuse point leg * normSq (leg.2.place - leg.1.place) =
      (point.xM - leg.1.xM) * (leg.2.xM - leg.1.xM) +
        (point.yM - leg.1.yM) * (leg.2.yM - leg.1.yM) := by
  have lengthSq : normSq (leg.2.place - leg.1.place) ≠ 0 := fun zero =>
    long.apart (sub_eq_zero.mp (Motions.normSq_eq_zero.mp zero)).symm
  rw [ratioOn_eq] at positive below ⊢
  have nearest := (lt_max_iff.mp positive).resolve_left (lt_irrefl 0)
  have cut : min (nearestRatio (leg.1.place - point.place) (leg.2.place - point.place)) 1 < 1 :=
    (le_max_right _ _).trans_lt below
  have atMost := ((min_lt_iff.mp cut).resolve_right (lt_irrefl 1)).le
  rw [max_eq_right nearest.le, min_eq_left atMost, nearestRatio, sub_sub_sub_cancel_right,
    div_mul_cancel₀ _ lengthSq]
  unfold GeoWP.place
  simp only [Prod.fst_sub, Prod.snd_sub]
  ring

/-- Inside a leg nothing is left along it. -/
theorem Long.along_eq_zero (positive : 0 < ratioOn hypotenuse point leg)
    (below : ratioOn hypotenuse point leg < 1) : along point leg = 0 := by
  have ratio := long.ratioOn_mul point positive below
  have expanded : along point leg =
      (point.xM - leg.1.xM) * (leg.2.xM - leg.1.xM) +
          (point.yM - leg.1.yM) * (leg.2.yM - leg.1.yM) -
        ratioOn hypotenuse point leg * normSq (leg.2.place - leg.1.place) := by
    unfold along normSq
    rw [offsetOn_eq]
    unfold pointOn between GeoWP.place
    simp only [Prod.fst_sub, Prod.snd_sub]
    ring
  rw [expanded, ratio, sub_self]

/-- Inside a leg the offset is the whole distance. -/
theorem Long.abs_lM_eq (positive : 0 < ratioOn hypotenuse point leg)
    (below : ratioOn hypotenuse point leg < 1) (stationBase : ℝ) :
    |(projectionOn hypotenuse stationBase point leg).lM| = distOn hypotenuse point leg := by
  have squares := long.lM_sq_add point stationBase
  rw [long.along_eq_zero point positive below, zero_pow two_ne_zero, add_zero] at squares
  have product := (sq_eq_sq_iff_abs_eq_abs _ _).mp squares
  rw [abs_mul, abs_mul, abs_of_nonneg (distOn_nonneg point leg)] at product
  exact mul_right_cancel₀ (abs_pos.mpr long.pos.ne').ne' product

/-- Inside a leg the offset to the side makes up the way to the point. -/
theorem Long.side (positive : 0 < ratioOn hypotenuse point leg)
    (below : ratioOn hypotenuse point leg < 1) (stationBase : ℝ) :
    (projectionOn hypotenuse stationBase point leg).lM *
          (-(leg.2.yM - leg.1.yM) / legLength hypotenuse leg) =
        (offsetOn hypotenuse point leg).1 ∧
      (projectionOn hypotenuse stationBase point leg).lM *
          ((leg.2.xM - leg.1.xM) / legLength hypotenuse leg) =
        (offsetOn hypotenuse point leg).2 := by
  have square : legLength hypotenuse leg * legLength hypotenuse leg =
      (leg.2.xM - leg.1.xM) * (leg.2.xM - leg.1.xM) +
        (leg.2.yM - leg.1.yM) * (leg.2.yM - leg.1.yM) := legLength_sq leg
  have upright : (leg.2.xM - leg.1.xM) * (offsetOn hypotenuse point leg).1 +
      (leg.2.yM - leg.1.yM) * (offsetOn hypotenuse point leg).2 = 0 :=
    long.along_eq_zero point positive below
  have cross := long.lM_mul point stationBase
  constructor
  · rw [← mul_div_assoc, div_eq_iff long.pos.ne']
    refine mul_right_cancel₀ long.pos.ne' ?_
    linear_combination -(leg.2.yM - leg.1.yM) * cross - (leg.2.xM - leg.1.xM) * upright -
      (offsetOn hypotenuse point leg).1 * square
  · rw [← mul_div_assoc, div_eq_iff long.pos.ne']
    refine mul_right_cancel₀ long.pos.ne' ?_
    linear_combination (leg.2.xM - leg.1.xM) * cross - (leg.2.yM - leg.1.yM) * upright -
      (offsetOn hypotenuse point leg).2 * square

/-- Inside a leg the ratio and the offset lead back to the point. -/
theorem Long.aside_lM (positive : 0 < ratioOn hypotenuse point leg)
    (below : ratioOn hypotenuse point leg < 1) (stationBase speedMps : ℝ) :
    (aside leg (ratioOn hypotenuse point leg)
      (projectionOn hypotenuse stationBase point leg).lM speedMps).place = point.place := by
  obtain ⟨sideX, sideY⟩ := long.side point positive below stationBase
  unfold aside GeoWP.place
  rw [sideX, sideY]
  exact Prod.ext (add_sub_cancel _ _) (add_sub_cancel _ _)

end

end Side

/-! ### Faithful coordinates -/

section Law

variable {waypoints : List (GeoWP ℝ)} {point : GeoWP ℝ} {earlier later : List Leg} {leg : Leg}

/-- What makes the coordinates of a point faithful. -/
structure Faithful (waypoints : List (GeoWP ℝ)) (point : GeoWP ℝ) : Prop where
  station : 0 ≤ (project hypotenuse waypoints point).sM ∧
    (project hypotenuse waypoints point).sM ≤ lengthM hypotenuse waypoints
  on (speedMps : ℝ) : OnPolyline waypoints
    (sample hypotenuse (project hypotenuse waypoints point).sM 0 speedMps waypoints).place
  nearest (speedMps : ℝ) : ∀ place, OnPolyline waypoints place →
    distance point.place
        (sample hypotenuse (project hypotenuse waypoints point).sM 0 speedMps waypoints).place ≤
      distance point.place place
  lateral (speedMps : ℝ) : |(project hypotenuse waypoints point).lM| ≤
    distance point.place
      (sample hypotenuse (project hypotenuse waypoints point).sM 0 speedMps waypoints).place
  inside (speedMps : ℝ) : ∀ earlier leg later,
    FirstNearest point (legs waypoints) earlier leg later → ∀ ratio, 0 < ratio → ratio < 1 →
    (sample hypotenuse (project hypotenuse waypoints point).sM 0 speedMps waypoints).place =
      pointOn leg ratio →
    |(project hypotenuse waypoints point).lM| = distance point.place (pointOn leg ratio) ∧
      (sample hypotenuse (project hypotenuse waypoints point).sM
        (project hypotenuse waypoints point).lM speedMps waypoints).place = point.place

/-- A long leg has each of its points at one ratio. -/
theorem Long.pointOn_injective (long : Long leg) : Function.Injective (pointOn leg) := by
  intro first second same
  by_contra different
  have sameX : leg.1.xM + first * (leg.2.xM - leg.1.xM) =
      leg.1.xM + second * (leg.2.xM - leg.1.xM) := congrArg Prod.fst same
  have sameY : leg.1.yM + first * (leg.2.yM - leg.1.yM) =
      leg.1.yM + second * (leg.2.yM - leg.1.yM) := congrArg Prod.snd same
  have apart := sub_ne_zero.mpr different
  have zeroX : leg.2.xM - leg.1.xM = 0 :=
    (mul_eq_zero.mp (by linear_combination sameX :
      (first - second) * (leg.2.xM - leg.1.xM) = 0)).resolve_left apart
  have zeroY : leg.2.yM - leg.1.yM = 0 :=
    (mul_eq_zero.mp (by linear_combination sameY :
      (first - second) * (leg.2.yM - leg.1.yM) = 0)).resolve_left apart
  exact long.apart (Prod.ext (sub_eq_zero.mp zeroX).symm (sub_eq_zero.mp zeroY).symm)

/-- The station of a leg's ratio lies on the route. -/
theorem FirstNearest.station_mem (first : FirstNearest point (legs waypoints) earlier leg later) :
    0 ≤ total earlier + ratioOn hypotenuse point leg * legLength hypotenuse leg ∧
      total earlier + ratioOn hypotenuse point leg * legLength hypotenuse leg ≤
        lengthM hypotenuse waypoints := by
  obtain ⟨nonneg, atMost⟩ := ratioOn_mem point leg
  have part : ratioOn hypotenuse point leg * legLength hypotenuse leg ≤ legLength hypotenuse leg :=
    mul_le_of_le_one_left (legLength_nonneg leg) atMost
  refine ⟨add_nonneg (total_nonneg earlier) (mul_nonneg nonneg (legLength_nonneg leg)), ?_⟩
  rw [lengthM_eq, first.split, total_append, total_cons]
  linarith [total_nonneg later]

/-- The station leads to the nearest point of the leg. -/
theorem FirstNearest.sample_place (several : 2 ≤ waypoints.length) (apart : Apart waypoints)
    (first : FirstNearest point (legs waypoints) earlier leg later) (speedMps : ℝ) :
    (sample hypotenuse
        (total earlier + ratioOn hypotenuse point leg * legLength hypotenuse leg) 0 speedMps
        waypoints).place =
      pointOn leg (ratioOn hypotenuse point leg) := by
  obtain ⟨nonneg, atMost⟩ := ratioOn_mem point leg
  obtain ⟨sampled, found, place⟩ :=
    sampleFrom_place speedMps apart first.split first.long nonneg atMost
  rw [sample_eq several first.station_mem.1 first.station_mem.2 found, place]

/-- The station and the offset lead back to the point from inside the leg. -/
theorem FirstNearest.sample_aside (several : 2 ≤ waypoints.length) (apart : Apart waypoints)
    (first : FirstNearest point (legs waypoints) earlier leg later)
    (positive : 0 < ratioOn hypotenuse point leg) (below : ratioOn hypotenuse point leg < 1)
    (speedMps : ℝ) :
    (sample hypotenuse
        (total earlier + ratioOn hypotenuse point leg * legLength hypotenuse leg)
        (projectionOn hypotenuse (total earlier) point leg).lM speedMps waypoints).place =
      point.place := by
  have earlierApart : ∀ other ∈ earlier, other.1.place = other.2.place ∨ Long other :=
    fun other member => apart other (first.split ▸ List.mem_append_left _ member)
  have found : sampleFrom hypotenuse
      (total earlier + ratioOn hypotenuse point leg * legLength hypotenuse leg)
      (projectionOn hypotenuse (total earlier) point leg).lM speedMps (legs waypoints) =
      some (aside leg (ratioOn hypotenuse point leg)
        (projectionOn hypotenuse (total earlier) point leg).lM speedMps) := by
    rw [first.split]
    exact sampleFrom_inside earlierApart first.long positive below.le
  rw [sample_eq several first.station_mem.1 first.station_mem.2 found]
  exact first.long.aside_lM point positive below (total earlier) speedMps

/-- The coordinates of a valid projection are faithful. -/
theorem project_faithful {waypoints : List (GeoWP ℝ)} {point : GeoWP ℝ}
    (several : 2 ≤ waypoints.length) (apart : Apart waypoints)
    (valid : (project hypotenuse waypoints point).valid = true) : Faithful waypoints point := by
  obtain ⟨earlier, leg, later, first, projected⟩ := exists_firstNearest apart valid
  have station : (project hypotenuse waypoints point).sM =
      total earlier + ratioOn hypotenuse point leg * legLength hypotenuse leg := by
    rw [projected]
    rfl
  have found := first.sample_place several apart
  refine ⟨?_, fun speedMps => ?_, fun speedMps place on => ?_, fun speedMps => ?_, ?_⟩
  · rw [station]
    exact first.station_mem
  · obtain ⟨nonneg, atMost⟩ := ratioOn_mem point leg
    rw [station, found]
    exact ⟨leg, first.split ▸ List.mem_append_right _ List.mem_cons_self, _, nonneg, atMost, rfl⟩
  · rw [station, found, ← distOn_eq]
    exact first.le_distance apart on
  · rw [station, found, ← distOn_eq, projected]
    exact first.long.abs_lM_le point (total earlier)
  · intro speedMps otherEarlier other otherLater again ratio positive below inside
    obtain ⟨rfl, rfl⟩ := first.unique again
    rw [station, found] at inside
    obtain rfl := first.long.pointOn_injective inside
    rw [station, projected]
    refine ⟨?_, first.sample_aside several apart positive below speedMps⟩
    rw [first.long.abs_lM_eq point positive below, distOn_eq]

/-! ### A route that comes back over its own waypoint -/

def waypointAt (xM yM : ℝ) : GeoWP ℝ := ⟨xM, yM, 0, ""⟩

/-- The first leg ends where the last one passes. -/
def comingBack : List (GeoWP ℝ) :=
  [waypointAt (-1) (-1), waypointAt 0 0, waypointAt 1 0, waypointAt (-1) 0]

def endingLeg : Leg := (waypointAt (-1) (-1), waypointAt 0 0)

def leavingLeg : Leg := (waypointAt 0 0, waypointAt 1 0)

def passingLeg : Leg := (waypointAt 1 0, waypointAt (-1) 0)

theorem legs_comingBack : legs comingBack = [endingLeg, leavingLeg, passingLeg] := rfl

theorem mem_legs_comingBack {leg : Leg} : leg ∈ legs comingBack ↔
    leg = endingLeg ∨ leg = leavingLeg ∨ leg = passingLeg := by
  rw [legs_comingBack, List.mem_cons, List.mem_cons, List.mem_singleton]

theorem long_of_one_le {leg : Leg} (one : 1 ≤ normSq (leg.2.place - leg.1.place)) : Long leg :=
  lt_of_lt_of_le (by norm_num) (Real.one_le_sqrt.mpr one)

theorem long_comingBack {leg : Leg} (member : leg ∈ legs comingBack) : Long leg := by
  refine long_of_one_le ?_
  rcases mem_legs_comingBack.mp member with rfl | rfl | rfl
  · norm_num [endingLeg, waypointAt, GeoWP.place, normSq]
  · norm_num [leavingLeg, waypointAt, GeoWP.place, normSq]
  · norm_num [passingLeg, waypointAt, GeoWP.place, normSq]

theorem apart_comingBack : Apart comingBack := fun _ member => .inr (long_comingBack member)

/-- Above the route every place of it is at least one metre away. -/
theorem one_le_distance {place : ℝ × ℝ} (below : place.2 ≤ 0) :
    1 ≤ distance (waypointAt 0 1).place place := by
  refine Real.one_le_sqrt.mpr ?_
  show 1 ≤ (place.1 - 0) * (place.1 - 0) + (place.2 - 1) * (place.2 - 1)
  nlinarith [mul_self_nonneg (place.1 - 0)]

theorem one_le_distOn {leg : Leg} (member : leg ∈ legs comingBack) :
    1 ≤ distOn hypotenuse (waypointAt 0 1) leg := by
  obtain ⟨nonneg, atMost⟩ := ratioOn_mem (waypointAt 0 1) leg
  rw [distOn_eq]
  refine one_le_distance ?_
  show leg.1.yM + ratioOn hypotenuse (waypointAt 0 1) leg * (leg.2.yM - leg.1.yM) ≤ 0
  rcases mem_legs_comingBack.mp member with rfl | rfl | rfl
  · show (-1 : ℝ) + _ * (0 - -1) ≤ 0
    linarith
  · show (0 : ℝ) + _ * (0 - 0) ≤ 0
    linarith
  · show (0 : ℝ) + _ * (0 - 0) ≤ 0
    linarith

/-- The first leg ends one metre below the point. -/
theorem distOn_endingLeg : distOn hypotenuse (waypointAt 0 1) endingLeg = 1 := by
  have member : endingLeg ∈ legs comingBack := List.mem_cons_self
  refine le_antisymm ?_ (one_le_distOn member)
  refine ((long_comingBack member).distOn_le zero_le_one le_rfl).trans (le_of_eq ?_)
  norm_num [distance, pointOn, between, endingLeg, waypointAt, GeoWP.place, normSq]

theorem firstNearest_endingLeg :
    FirstNearest (waypointAt 0 1) (legs comingBack) [] endingLeg [leavingLeg, passingLeg] where
  split := legs_comingBack
  long := long_comingBack List.mem_cons_self
  before _ none := by cases none
  behind other member _ :=
    distOn_endingLeg.trans_le (one_le_distOn (List.mem_cons_of_mem endingLeg member))

theorem valid_comingBack : (project hypotenuse comingBack (waypointAt 0 1)).valid = true := by
  refine project_valid apart_comingBack List.mem_cons_self
    (long_comingBack List.mem_cons_self) ?_
  exact distOn_endingLeg.trans_lt (by norm_num [kMaxDouble])

theorem coming_back_faithful : Faithful comingBack (waypointAt 0 1) :=
  project_faithful (by decide) apart_comingBack valid_comingBack

/-- The end of the first leg is inside the last one, but the offset is taken against the first. -/
theorem not_whole_distance_of_comingBack :
    ¬ ∀ (waypoints : List (GeoWP ℝ)) (point : GeoWP ℝ), 2 ≤ waypoints.length → Apart waypoints →
      (project hypotenuse waypoints point).valid = true → ∀ leg ∈ legs waypoints, ∀ ratio : ℝ,
      0 < ratio → ratio < 1 →
      (sample hypotenuse (project hypotenuse waypoints point).sM 0 0 waypoints).place =
        pointOn leg ratio →
      |(project hypotenuse waypoints point).lM| = distance point.place (pointOn leg ratio) := by
  intro always
  obtain ⟨earlier, leg, later, first, projected⟩ :=
    exists_firstNearest apart_comingBack valid_comingBack
  obtain ⟨rfl, rfl⟩ := firstNearest_endingLeg.unique first
  have long : Long endingLeg := long_comingBack List.mem_cons_self
  have ratio : ratioOn hypotenuse (waypointAt 0 1) endingLeg = 1 := by
    rw [ratioOn_eq]
    norm_num [nearestRatio, endingLeg, waypointAt, GeoWP.place, normSq]
  have place : (sample hypotenuse (project hypotenuse comingBack (waypointAt 0 1)).sM 0 0
      comingBack).place = pointOn passingLeg (1 / 2) := by
    rw [projected]
    refine (firstNearest_endingLeg.sample_place (by decide) apart_comingBack 0).trans ?_
    rw [ratio]
    norm_num [pointOn, between, endingLeg, passingLeg, waypointAt, GeoWP.place]
  have met := always comingBack (waypointAt 0 1) (by decide) apart_comingBack valid_comingBack
    passingLeg (mem_legs_comingBack.mpr (.inr (.inr rfl))) (1 / 2) (by norm_num) (by norm_num) place
  have whole : distance (waypointAt 0 1).place (pointOn passingLeg (1 / 2)) = 1 := by
    norm_num [distance, pointOn, between, passingLeg, waypointAt, GeoWP.place, normSq]
  have offset : (projectionOn hypotenuse (total []) (waypointAt 0 1) endingLeg).lM *
      legLength hypotenuse endingLeg = 1 := by
    rw [long.lM_mul]
    unfold offsetOn
    dsimp only
    rw [ratio]
    norm_num [endingLeg, waypointAt]
  have length : 1 < legLength hypotenuse endingLeg := by
    refine Real.lt_sqrt_of_sq_lt ?_
    norm_num [endingLeg, waypointAt, normSq]
  rw [projected, whole] at met
  have product := congrArg abs offset
  rw [abs_mul, met, one_mul, abs_one, abs_of_pos long.pos] at product
  exact absurd product length.ne'

end Law

end

end MassL3.M5.Frame