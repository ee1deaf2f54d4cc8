/-
This file is about the coordinates along a route: the projection of a point, which finds its station
and its offset to the side, and the sampling of a station and an offset, which goes back. Both walk
the same legs and pass over those that have no length. They are stated for any kind of number. On
machine numbers the projection is the one that the assembly of routes uses. Over the reals this is
what either walk finds.
-/

import MassTdl.TacticalPlanner.RouteAssembly
import Mathlib.Analysis.Real.Sqrt

namespace MassL3.M5.Frame

open Clamps
open Motions (legs between normSq nearestRatio)

/-! ### The frame for any kind of number -/

structure GeoWP (Scalar : Type) where
  xM : Scalar
  yM : Scalar
  speedMps : Scalar
  navMode : String

structure RouteProjection (Scalar : Type) where
  sM : Scalar
  lM : Scalar
  valid : Bool

/-- The loop of the projection: the best one so far, its distance, and the station at which the
next leg begins. -/
structure Search (Scalar : Type) where
  best : RouteProjection Scalar
  bestDist : Scalar
  stationBase : Scalar

section Model

variable {Scalar : Type} [Add Scalar] [Sub Scalar] [Mul Scalar] [Div Scalar] [Neg Scalar]
  [OfScientific Scalar] [LE Scalar] [LT Scalar] [DecidableLE Scalar] [DecidableLT Scalar]

/-- `std::numeric_limits<double>::max()`. -/
def kMaxDouble : Scalar := 1.7976931348623157e308

variable (hypot : Scalar → Scalar → Scalar)

def legLength (leg : GeoWP Scalar × GeoWP Scalar) : Scalar :=
  hypot (leg.2.xM - leg.1.xM) (leg.2.yM - leg.1.yM)

/-- `RouteFrame::length_m`. -/
def lengthM (waypoints : List (GeoWP Scalar)) : Scalar :=
  (legs waypoints).foldl (fun total leg => total + legLength hypot leg) 0.0

/-- The ratio at which a leg is nearest to a point. -/
def ratioOn (point : GeoWP Scalar) (leg : GeoWP Scalar × GeoWP Scalar) : Scalar :=
  let vx := leg.2.xM - leg.1.xM
  let vy := leg.2.yM - leg.1.yM
  let len := legLength hypot leg
  let px := point.xM - leg.1.xM
  let py := point.yM - leg.1.yM
  stdClamp ((px * vx + py * vy) / (len * len)) 0.0 1.0

/-- The way to the point from the nearest one of a leg. -/
def offsetOn (point : GeoWP Scalar) (leg : GeoWP Scalar × GeoWP Scalar) : Scalar × Scalar :=
  let vx := leg.2.xM - leg.1.xM
  let vy := leg.2.yM - leg.1.yM
  let t := ratioOn hypot point leg
  let qx := leg.1.xM + t * vx
  let qy := leg.1.yM + t * vy
  (point.xM - qx, point.yM - qy)

def distOn (point : GeoWP Scalar) (leg : GeoWP Scalar × GeoWP Scalar) : Scalar :=
  hypot (offsetOn hypot point leg).1 (offsetOn hypot point leg).2

/-- The projection onto one leg that begins at a station. -/
def projectionOn (stationBase : Scalar) (point : GeoWP Scalar)
    (leg : GeoWP Scalar × GeoWP Scalar) : RouteProjection Scalar :=
  let vx := leg.2.xM - leg.1.xM
  let vy := leg.2.yM - leg.1.yM
  let len := legLength hypot leg
  let offset := offsetOn hypot point leg
  { sM := stationBase + ratioOn hypot point leg * len
    lM := (vx * offset.2 - vy * offset.1) / len
    valid := true }

def Search.step (point : GeoWP Scalar) (search : Search Scalar)
    (leg : GeoWP Scalar × GeoWP Scalar) : Search Scalar :=
  if legLength hypot leg ≤ 1.0e-6 then search
  else
    let search :=
      if distOn hypot point leg < search.bestDist then
        { search with
          bestDist := distOn hypot point leg
          best := projectionOn hypot search.stationBase point leg }
      else search
    { search with stationBase := search.stationBase + legLength hypot leg }

def noProjection : RouteProjection Scalar where
  sM := 0.0
  lM := 0.0
  valid := false

def startSearch : Search Scalar where
  best := noProjection
  bestDist := kMaxDouble
  stationBase := 0.0

/-- `RouteFrame::project`. -/
def project (waypoints : List (GeoWP Scalar)) (point : GeoWP Scalar) : RouteProjection Scalar :=
  if waypoints.length < 2 then noProjection
  else ((legs waypoints).foldl (Search.step hypot point) startSearch).best

/-- The loop of the sampling, over the legs that are left. -/
def sampleFrom (remaining lateralM speedMps : Scalar) :
    List (GeoWP Scalar × GeoWP Scalar) → Option (GeoWP Scalar)
  | [] => none
  | leg :: later =>
      let vx := leg.2.xM - leg.1.xM
      let vy := leg.2.yM - leg.1.yM
      let len := legLength hypot leg
      if len ≤ 1.0e-6 then sampleFrom remaining lateralM speedMps later
      else if remaining ≤ len ∨ later = [] then
        let t := stdClamp (remaining / len) 0.0 1.0
        let nx := -vy / len
        let ny := vx / len
        some
          { xM := leg.1.xM + t * vx + lateralM * nx
            yM := leg.1.yM + t * vy + lateralM * ny
            speedMps
            navMode := "tail_builder" }
      else sampleFrom (remaining - len) lateralM speedMps later

/-- `RouteFrame::sample`. -/
def sample (sM lateralM speedMps : Scalar) : List (GeoWP Scalar) → GeoWP Scalar
  | [] => { xM := 0.0, yM := lateralM, speedMps, navMode := "tail_builder" }
  | [point] => { point with yM := point.yM + lateralM, speedMps }
  | first :: second :: later =>
      let waypoints := first :: second :: later
      (sampleFrom hypot (stdClamp sM 0.0 (lengthM hypot waypoints)) lateralM speedMps
        (legs waypoints)).getD
          { waypoints.getLast (List.cons_ne_nil first _) with speedMps }

end Model

/-! ### Machine numbers -/

/-- What the assembly of routes keeps of a waypoint. -/
def forget (waypoint : GeoWP Float) : Assembly.GeoWP := ⟨waypoint.xM, waypoint.yM⟩

def forgetProjection (projection : RouteProjection Float) : Assembly.RouteProjection where
  sM := projection.sM
  lM := projection.lM
  valid := projection.valid

def forgetSearch (search : Search Float) : Assembly.ProjectionSearch where
  best := forgetProjection search.best
  bestDist := search.bestDist
  stationBase := search.stationBase

theorem forgetSearch_step (lib : Assembly.MathLibrary) (point : GeoWP Float)
    (search : Search Float) (leg : GeoWP Float × GeoWP Float) :
    (forgetSearch search).step lib (forget point) (Prod.map forget forget leg) =
      forgetSearch (search.step lib.hypot point leg) := by
  by_cases short : legLength lib.hypot leg ≤ 1.0e-6
  · exact (if_pos short).trans (congrArg forgetSearch (if_pos short)).symm
  refine (if_neg short).trans (Eq.trans ?_ (congrArg forgetSearch (if_neg short)).symm)
  by_cases nearer : distOn lib.hypot point leg < search.bestDist
  · rw [if_pos nearer]
    exact congrArg (fun search : Assembly.ProjectionSearch =>
      { search with stationBase := search.stationBase + legLength lib.hypot leg }) (if_pos nearer)
  · rw [if_neg nearer]
    exact congrArg (fun search : Assembly.ProjectionSearch =>
      { search with stationBase := search.stationBase + legLength lib.hypot leg }) (if_neg nearer)

/-- On machine numbers this is the projection of the assembly. -/
theorem forgetProjection_project (lib : Assembly.MathLibrary) (waypoints : List (GeoWP Float))
    (point : GeoWP Float) :
    Assembly.project lib (waypoints.map forget) (forget point) =
      forgetProjection (project lib.hypot waypoints point) := by
  unfold Assembly.project project
  rw [List.length_map]
  split_ifs
  · rfl
  · rw [Motions.legs_map, List.foldl_map]
    have walked : (legs waypoints).foldl (fun search leg =>
          Assembly.ProjectionSearch.step lib (forget point) search (Prod.map forget forget leg))
        (forgetSearch startSearch) =
        forgetSearch ((legs waypoints).foldl (Search.step lib.hypot point) startSearch) :=
      List.foldl_hom forgetSearch fun search leg => forgetSearch_step lib point search leg
    exact congrArg Assembly.ProjectionSearch.best walked

/-! ### Polylines -/

noncomputable section

abbrev Leg : Type := GeoWP ℝ × GeoWP ℝ

/-- `std::hypot` of the reals. -/
def hypotenuse (first second : ℝ) : ℝ := √(normSq (first, second))

def GeoWP.place (waypoint : GeoWP ℝ) : ℝ × ℝ := (waypoint.xM, waypoint.yM)

/-- The point of a leg that divides it in a ratio. -/
def pointOn (leg : Leg) (ratio : ℝ) : ℝ × ℝ := between leg.1.place leg.2.place ratio

def distance (first second : ℝ × ℝ) : ℝ := √(normSq (second - first))

/-- Some leg of the polyline passes there. -/
def OnPolyline (waypoints : List (GeoWP ℝ)) (place : ℝ × ℝ) : Prop :=
  ∃ leg ∈ legs waypoints, ∃ ratio, 0 ≤ ratio ∧ ratio ≤ 1 ∧ pointOn leg ratio = place

/-- The leg is not passed over. -/
def Long (leg : Leg) : Prop := 1.0e-6 < legLength hypotenuse leg

/-- Waypoints that follow each other are equal or more than a millionth of a metre apart. -/
def Apart (waypoints : List (GeoWP ℝ)) : Prop :=
  ∀ leg ∈ legs waypoints, leg.1.place = leg.2.place ∨ Long leg

section Legs

variable {leg : Leg} {point : GeoWP ℝ}

theorem legLength_eq (leg : Leg) :
    legLength hypotenuse leg = distance leg.1.place leg.2.place := rfl

theorem legLength_nonneg (leg : Leg) : 0 ≤ legLength hypotenuse leg := Real.sqrt_nonneg _

theorem Long.pos (long : Long leg) : 0 < legLength hypotenuse leg :=
  lt_trans (by norm_num) long

theorem Long.apart (long : Long leg) : leg.1.place ≠ leg.2.place := by
  intro same
  have zero : legLength hypotenuse leg = 0 := by
    rw [legLength_eq, distance, same, sub_self, Motions.normSq_eq_zero.mpr rfl, Real.sqrt_zero]
  exact long.pos.ne' zero

theorem not_long_of_same (same : leg.1.place = leg.2.place) : ¬ Long leg :=
  fun long => long.apart same

theorem legLength_of_same (same : leg.1.place = leg.2.place) : legLength hypotenuse leg = 0 := by
  rw [legLength_eq, distance, same, sub_self, Motions.normSq_eq_zero.mpr rfl, Real.sqrt_zero]

theorem legLength_sq (leg : Leg) : legLength hypotenuse leg * legLength hypotenuse leg =
    normSq (leg.2.place - leg.1.place) :=
  Real.mul_self_sqrt (Motions.normSq_nonneg _)

/-- The ratio is that of the nearest point, seen from the point. -/
theorem ratioOn_eq (point : GeoWP ℝ) (leg : Leg) : ratioOn hypotenuse point leg =
    max 0 (min (nearestRatio (leg.1.place - point.place) (leg.2.place - point.place)) 1) := by
  have zero : (0.0 : ℝ) = 0 := by norm_num
  have one : (1.0 : ℝ) = 1 := by norm_num
  unfold ratioOn
  dsimp only
  rw [legLength_sq, zero, one, stdClamp_eq _ zero_le_one]
  congr 2
  unfold nearestRatio
  rw [sub_sub_sub_cancel_right]
  congr 1
  unfold GeoWP.place
  simp only [Prod.fst_sub, Prod.snd_sub]
  ring

theorem ratioOn_mem (point : GeoWP ℝ) (leg : Leg) :
    0 ≤ ratioOn hypotenuse point leg ∧ ratioOn hypotenuse point leg ≤ 1 := by
  rw [ratioOn_eq]
  exact ⟨le_max_left _ _, max_le zero_le_one (min_le_right _ _)⟩

theorem distance_pointOn (point : GeoWP ℝ) (leg : Leg) (ratio : ℝ) :
    distance point.place (pointOn leg ratio) =
      √(normSq (between (leg.1.place - point.place) (leg.2.place - point.place) ratio)) := by
  unfold distance pointOn between
  simp only [Prod.fst_sub, Prod.snd_sub, sub_sub_sub_cancel_right]
  congr 2
  ext
  · show _ - _ = _
    ring
  · show _ - _ = _
    ring

/-- The offset is the way from the nearest point. -/
theorem offsetOn_eq (point : GeoWP ℝ) (leg : Leg) :
    offsetOn hypotenuse point leg = point.place - pointOn leg (ratioOn hypotenuse point leg) := rfl

theorem distOn_eq (point : GeoWP ℝ) (leg : Leg) : distOn hypotenuse point leg =
    distance point.place (pointOn leg (ratioOn hypotenuse point leg)) := by
  show √(normSq (offsetOn hypotenuse point leg)) = √(normSq (pointOn leg _ - point.place))
  rw [offsetOn_eq, ← neg_sub]
  congr 1
  unfold normSq
  simp only [Prod.fst_neg, Prod.snd_neg, neg_mul_neg]

/-- No point of a long leg is nearer. -/
theorem Long.distOn_le (long : Long leg) {ratio : ℝ} (nonneg : 0 ≤ ratio) (atMost : ratio ≤ 1) :
    distOn hypotenuse point leg ≤ distance point.place (pointOn leg ratio) := by
  have apart : leg.1.place - point.place ≠ leg.2.place - point.place := fun same =>
    long.apart (sub_left_inj.mp same)
  rw [distOn_eq, distance_pointOn, distance_pointOn, ratioOn_eq]
  exact Real.sqrt_le_sqrt (Motions.normSq_between_nearest_le apart nonneg atMost)

end Legs

/-! ### The search -/

variable {waypoints : List (GeoWP ℝ)}

section Search

variable {point : GeoWP ℝ} {walked : List Leg}

/-- The length of the legs together. -/
def total (walked : List Leg) : ℝ := (walked.map (legLength hypotenuse)).sum

theorem total_nonneg (walked : List Leg) : 0 ≤ total walked :=
  List.sum_nonneg fun _ member => by
    obtain ⟨leg, -, rfl⟩ := List.mem_map.mp member
    exact legLength_nonneg leg

theorem total_append (first second : List Leg) :
    total (first ++ second) = total first + total second := by
  unfold total
  rw [List.map_append, List.sum_append]

theorem total_cons (leg : Leg) (later : List Leg) :
    total (leg :: later) = legLength hypotenuse leg + total later := rfl

theorem lengthM_eq (waypoints : List (GeoWP ℝ)) :
    lengthM hypotenuse waypoints = total (legs waypoints) := by
  have folded (walked : List Leg) (start : ℝ) :
      walked.foldl (fun sum leg => sum + legLength hypotenuse leg) start =
        start + total walked := by
    induction walked generalizing start with
    | nil => exact (add_zero start).symm
    | cons leg later inductionHypothesis =>
      rw [List.foldl_cons, inductionHypothesis, total_cons, add_assoc]
  unfold lengthM
  rw [folded]
  norm_num

/-- The first leg of the nearest ones, between those before and those behind it. -/
structure FirstNearest (point : GeoWP ℝ) (walked earlier : List Leg) (leg : Leg)
    (later : List Leg) : Prop where
  split : walked = earlier ++ leg :: later
  long : Long leg
  before : ∀ other ∈ earlier, Long other →
    distOn hypotenuse point leg < distOn hypotenuse point other
  behind : ∀ other ∈ later, Long other →
    distOn hypotenuse point leg ≤ distOn hypotenuse point other

variable {leg : Leg}

theorem FirstNearest.le {earlier later : List Leg}
    (first : FirstNearest point walked earlier leg later) {other : Leg} (member : other ∈ walked)
    (long : Long other) : distOn hypotenuse point leg ≤ distOn hypotenuse point other := by
  rw [first.split] at member
  rcases List.mem_append.mp member with before | rest
  · exact (first.before other before long).le
  rcases List.mem_cons.mp rest with rfl | behind
  · exact le_rfl
  · exact first.behind other behind long

/-- Where a search stands after some legs. -/
structure Walked (point : GeoWP ℝ) (walked : List Leg) (search : Search ℝ) : Prop where
  base : search.stationBase = total walked
  least : ∀ other ∈ walked, Long other → search.bestDist ≤ distOn hypotenuse point other
  found : search.best.valid = true → ∃ earlier leg later,
    FirstNearest point walked earlier leg later ∧
      search.best = projectionOn hypotenuse (total earlier) point leg ∧
      search.bestDist = distOn hypotenuse point leg
  none : search.best.valid = false → search.bestDist = kMaxDouble

theorem walked_start (point : GeoWP ℝ) : Walked point [] startSearch where
  base := by
    show (0.0 : ℝ) = 0
    norm_num
  least _ none := by cases none
  found invalid := by cases invalid
  none _ := rfl

/-- A leg that is passed over has no length and changes nothing. -/
theorem Walked.skip {search : Search ℝ} (before : Walked point walked search)
    (same : leg.1.place = leg.2.place) :
    Walked point (walked ++ [leg]) (search.step hypotenuse point leg) := by
  have short : legLength hypotenuse leg ≤ 1.0e-6 := not_lt.mp (not_long_of_same same)
  have other {other : Leg} (member : other ∈ walked ++ [leg]) (long : Long other) :
      other ∈ walked := by
    rcases List.mem_append.mp member with earlier | last
    · exact earlier
    · rw [List.mem_singleton.mp last] at long
      exact absurd long (not_long_of_same same)
  unfold Search.step
  rw [if_pos short]
  refine ⟨?_, fun _ member long => before.least _ (other member long) long, fun valid => ?_,
    before.none⟩
  · rw [before.base, total_append, total_cons, legLength_of_same same]
    exact (add_zero _).symm.trans (congrArg _ (add_zero (0 : ℝ)).symm)
  · obtain ⟨earlier, found, later, first, best, dist⟩ := before.found valid
    refine ⟨earlier, found, later ++ [leg], ⟨?_, first.long, first.before, ?_⟩, best, dist⟩
    · rw [first.split, List.append_assoc, List.cons_append]
    · intro passed member long
      rcases List.mem_append.mp member with behind | last
      · exact first.behind passed behind long
      · rw [List.mem_singleton.mp last] at long
        exact absurd long (not_long_of_same same)

/-- A long leg is taken where it is nearer than all before it. -/
theorem Walked.take {search : Search ℝ} (before : Walked point walked search) (long : Long leg) :
    Walked point (walked ++ [leg]) (search.step hypotenuse point leg) := by
  have base : search.stationBase + legLength hypotenuse leg = total (walked ++ [leg]) := by
    rw [before.base, total_append, total_cons]
    exact congrArg _ (add_zero _).symm
  unfold Search.step
  rw [if_neg (not_le.mpr long)]
  dsimp only
  by_cases nearer : distOn hypotenuse point leg < search.bestDist
  · rw [if_pos nearer]
    refine ⟨base, fun other member otherLong => ?_, fun _ => ?_, fun invalid => by cases invalid⟩
    · rcases List.mem_append.mp member with earlier | last
      · exact nearer.le.trans (before.least other earlier otherLong)
      · rw [List.mem_singleton.mp last]
    · refine ⟨walked, leg, [], ⟨rfl, long, fun other member otherLong => ?_, ?_⟩, ?_, rfl⟩
      · exact nearer.trans_le (before.least other member otherLong)
      · exact fun _ none => by cases none
      · exact congrArg (projectionOn hypotenuse · point leg) before.base
  · rw [if_neg nearer]
    refine ⟨base, fun other member otherLong => ?_, fun valid => ?_, before.none⟩
    · rcases List.mem_append.mp member with earlier | last
      · exact before.least other earlier otherLong
      · rw [List.mem_singleton.mp last]
        exact not_lt.mp nearer
    · obtain ⟨earlier, found, later, first, best, dist⟩ := before.found valid
      refine ⟨earlier, found, later ++ [leg], ⟨?_, first.long, first.before, ?_⟩, best, dist⟩
      · rw [first.split, List.append_assoc, List.cons_append]
      · intro other member otherLong
        rcases List.mem_append.mp member with behind | last
        · exact first.behind other behind otherLong
        · rw [List.mem_singleton.mp last, ← dist]
          exact not_lt.mp nearer

theorem walked_foldl (point : GeoWP ℝ) (walked : List Leg)
    (apart : ∀ leg ∈ walked, leg.1.place = leg.2.place ∨ Long leg) :
    Walked point walked (walked.foldl (Search.step hypotenuse point) startSearch) := by
  induction walked using List.reverseRecOn with
  | nil => exact walked_start point
  | append_singleton earlier leg inductionHypothesis =>
    have before := inductionHypothesis fun other member =>
      apart other (List.mem_append_left _ member)
    rw [List.foldl_append, List.foldl_cons, List.foldl_nil]
    rcases apart leg (List.mem_append_right _ (List.mem_singleton_self leg)) with same | long
    · exact before.skip same
    · exact before.take long

/-- A valid projection is the one onto the first nearest leg. -/
theorem exists_firstNearest (apart : Apart waypoints)
    (valid : (project hypotenuse waypoints point).valid = true) :
    ∃ earlier leg later, FirstNearest point (legs waypoints) earlier leg later ∧
      project hypotenuse waypoints point = projectionOn hypotenuse (total earlier) point leg := by
  unfold project at valid ⊢
  split_ifs at valid ⊢ with few
  · cases valid
  · obtain ⟨earlier, leg, later, first, best, -⟩ := (walked_foldl point _ apart).found valid
    exact ⟨earlier, leg, later, first, best⟩

/-- A projection is valid where a leg with a length is nearer than the largest number. -/
theorem project_valid (apart : Apart waypoints) (member : leg ∈ legs waypoints) (long : Long leg)
    (near : distOn hypotenuse point leg < kMaxDouble) :
    (project hypotenuse waypoints point).valid = true := by
  have several : ¬ waypoints.length < 2 := by
    match waypoints, member with
    | first :: second :: later, _ => exact Nat.not_lt.mpr (Nat.le_add_left 2 later.length)
  have walked := walked_foldl point (legs waypoints) apart
  unfold project
  rw [if_neg several]
  by_contra invalid
  have none := walked.none (Bool.eq_false_of_not_eq_true invalid)
  exact absurd near (none ▸ walked.least leg member long).not_gt

end Search

/-! ### The sampling -/

section Sampling

variable {lateralM speedMps : ℝ} {leg : Leg} {earlier later : List Leg}

/-- To the side of a point of a leg. -/
def aside (leg : Leg) (ratio lateralM speedMps : ℝ) : GeoWP ℝ where
  xM := leg.1.xM + ratio * (leg.2.xM - leg.1.xM) +
    lateralM * (-(leg.2.yM - leg.1.yM) / legLength hypotenuse leg)
  yM := leg.1.yM + ratio * (leg.2.yM - leg.1.yM) +
    lateralM * ((leg.2.xM - leg.1.xM) / legLength hypotenuse leg)
  speedMps := speedMps
  navMode := "tail_builder"

theorem aside_zero (leg : Leg) (ratio speedMps : ℝ) :
    (aside leg ratio 0 speedMps).place = pointOn leg ratio := by
  unfold aside GeoWP.place
  rw [zero_mul, zero_mul, add_zero, add_zero]
  rfl

variable {ratio : ℝ}

/-- A station on the next leg is sampled there. -/
theorem sampleFrom_here (long : Long leg) (nonneg : 0 ≤ ratio) (atMost : ratio ≤ 1) :
    sampleFrom hypotenuse (ratio * legLength hypotenuse leg) lateralM speedMps (leg :: later) =
      some (aside leg ratio lateralM speedMps) := by
  have within : ratio * legLength hypotenuse leg ≤ legLength hypotenuse leg :=
    mul_le_of_le_one_left long.pos.le atMost
  have kept : stdClamp (ratio * legLength hypotenuse leg / legLength hypotenuse leg) 0.0 1.0 =
      ratio := by
    rw [mul_div_cancel_right₀ _ long.pos.ne']
    exact stdClamp_of_mem (le_of_eq_of_le (by norm_num) nonneg)
      (atMost.trans (le_of_eq (by norm_num)))
  rw [sampleFrom]
  dsimp only
  rw [if_neg (not_le.mpr long), if_pos (.inl within), kept]
  rfl

/-- Legs without a length are passed over. -/
theorem sampleFrom_skip (idle : ∀ other ∈ earlier, other.1.place = other.2.place)
    (remaining : ℝ) :
    sampleFrom hypotenuse remaining lateralM speedMps (earlier ++ leg :: later) =
      sampleFrom hypotenuse remaining lateralM speedMps (leg :: later) := by
  induction earlier with
  | nil => rfl
  | cons other rest inductionHypothesis =>
    have short : legLength hypotenuse other ≤ 1.0e-6 :=
      not_lt.mp (not_long_of_same (idle other List.mem_cons_self))
    rw [List.cons_append, sampleFrom]
    dsimp only
    rw [if_pos short]
    exact inductionHypothesis fun other member => idle other (List.mem_cons_of_mem _ member)

/-- A station past the beginning of a leg is sampled on that leg, whatever comes before it. -/
theorem sampleFrom_inside (apart : ∀ other ∈ earlier, other.1.place = other.2.place ∨ Long other)
    (long : Long leg) (positive : 0 < ratio) (atMost : ratio ≤ 1) :
    sampleFrom hypotenuse (total earlier + ratio * legLength hypotenuse leg) lateralM speedMps
      (earlier ++ leg :: later) = some (aside leg ratio lateralM speedMps) := by
  have onLeg := mul_pos positive long.pos
  induction earlier with
  | nil =>
    rw [show total [] = 0 from rfl, zero_add]
    exact sampleFrom_here long positive.le atMost
  | cons other rest inductionHypothesis =>
    have below := inductionHypothesis fun other member =>
      apart other (List.mem_cons_of_mem _ member)
    rw [List.cons_append, sampleFrom]
    dsimp only
    rcases apart other List.mem_cons_self with same | otherLong
    · rw [if_pos (not_lt.mp (not_long_of_same same)), total_cons, legLength_of_same same, zero_add]
      exact below
    · have beyond : ¬ (total (other :: rest) + ratio * legLength hypotenuse leg ≤
          legLength hypotenuse other ∨ rest ++ leg :: later = []) := by
        rintro (within | none)
        · have behind := total_nonneg rest
          rw [total_cons] at within
          linarith
        · exact absurd none (List.append_ne_nil_of_right_ne_nil _ (List.cons_ne_nil _ _))
      rw [if_neg (not_le.mpr otherLong), if_neg beyond, total_cons, add_assoc, add_sub_cancel_left]
      exact below

/-! ### Legs that meet -/

/-- A leg begins where the one before it ends. -/
theorem legs_chain (waypoints : List (GeoWP ℝ)) :
    (legs waypoints).IsChain fun first second => first.2 = second.1 := by
  induction waypoints with
  | nil => exact .nil
  | cons first rest inductionHypothesis =>
    cases rest with
    | nil => exact .nil
    | cons second rest =>
      cases rest with
      | nil => exact .singleton _
      | cons third rest => exact .cons_cons rfl inductionHypothesis

/-- Between legs that meet over some without a length lies one point. -/
theorem place_of_idle {first last : Leg} {idle : List Leg}
    (chain : (first :: (idle ++ [last])).IsChain fun first second => first.2 = second.1)
    (same : ∀ other ∈ idle, other.1.place = other.2.place) :
    first.2.place = last.1.place := by
  induction idle generalizing first with
  | nil =>
    obtain ⟨meet, -⟩ := List.isChain_cons_cons.mp chain
    rw [meet]
  | cons other rest inductionHypothesis =>
    obtain ⟨meet, later⟩ := List.isChain_cons_cons.mp chain
    rw [meet, same other List.mem_cons_self]
    exact inductionHypothesis later fun other member => same other (List.mem_cons_of_mem _ member)

/-- Either no leg of a list has a length, or there is a last one that has. -/
theorem exists_last_long (walked : List Leg)
    (apart : ∀ leg ∈ walked, leg.1.place = leg.2.place ∨ Long leg) :
    (∀ leg ∈ walked, leg.1.place = leg.2.place) ∨
      ∃ earlier leg idle, walked = earlier ++ leg :: idle ∧ Long leg ∧
        ∀ other ∈ idle, other.1.place = other.2.place := by
  induction walked using List.reverseRecOn with
  | nil => exact .inl fun _ none => by cases none
  | append_singleton before last inductionHypothesis =>
    rcases apart last (List.mem_append_right _ (List.mem_singleton_self last)) with same | long
    · have atLast {other : Leg} (member : other ∈ [last]) : other.1.place = other.2.place := by
        rw [List.mem_singleton.mp member, same]
      rcases inductionHypothesis fun other member => apart other (List.mem_append_left _ member)
        with idle | ⟨earlier, leg, idle, split, long, after⟩
      · exact .inl fun other member => (List.mem_append.mp member).elim (idle other) atLast
      · refine .inr ⟨earlier, leg, idle ++ [last], ?_, long, fun other member => ?_⟩
        · rw [split, List.append_assoc, List.cons_append]
        · exact (List.mem_append.mp member).elim (after other) atLast
    · exact .inr ⟨before, last, [], rfl, long, fun _ none => by cases none⟩

/-- A station of a leg is sampled at that point of it, also where the leg before it ends there. -/
theorem sampleFrom_place (speedMps : ℝ) (apart : Apart waypoints)
    (split : legs waypoints = earlier ++ leg :: later) (long : Long leg) (nonneg : 0 ≤ ratio)
    (atMost : ratio ≤ 1) :
    ∃ sampled, sampleFrom hypotenuse (total earlier + ratio * legLength hypotenuse leg) 0 speedMps
        (legs waypoints) = some sampled ∧ sampled.place = pointOn leg ratio := by
  have earlierApart : ∀ other ∈ earlier, other.1.place = other.2.place ∨ Long other :=
    fun other member => apart other (split ▸ List.mem_append_left _ member)
  rcases nonneg.eq_or_lt with zero | positive
  · rcases exists_last_long earlier earlierApart with idle |
      ⟨before, last, idle, splitEarlier, lastLong, same⟩
    · have none : total earlier = 0 := List.sum_eq_zero fun _ member => by
        obtain ⟨other, inEarlier, rfl⟩ := List.mem_map.mp member
        exact legLength_of_same (idle other inEarlier)
      refine ⟨aside leg ratio 0 speedMps, ?_, aside_zero leg ratio speedMps⟩
      rw [split, sampleFrom_skip idle, none, zero_add]
      exact sampleFrom_here long nonneg atMost
    · -- the station is the end of the last leg that has a length
      have beforeApart : ∀ other ∈ before, other.1.place = other.2.place ∨ Long other :=
        fun other member => earlierApart other (splitEarlier ▸ List.mem_append_left _ member)
      have idleTotal : total idle = 0 := List.sum_eq_zero fun _ member => by
        obtain ⟨other, inIdle, rfl⟩ := List.mem_map.mp member
        exact legLength_of_same (same other inIdle)
      refine ⟨aside last 1 0 speedMps, ?_, ?_⟩
      · rw [split, ← zero, zero_mul, add_zero, splitEarlier, total_append, total_cons, idleTotal,
          add_zero, List.append_assoc, List.cons_append, ← one_mul (legLength hypotenuse last)]
        exact sampleFrom_inside beforeApart lastLong zero_lt_one le_rfl
      · have chain := legs_chain waypoints
        rw [split, splitEarlier, List.append_assoc, List.cons_append] at chain
        have tail := (List.isChain_append.mp chain).2.1
        rw [← List.cons_append] at tail
        have meet := place_of_idle (List.isChain_split.mp tail).1 same
        rw [aside_zero, ← zero]
        unfold pointOn
        rw [Motions.between_one, Motions.between_zero, meet]
  · refine ⟨aside leg ratio 0 speedMps, ?_, aside_zero leg ratio speedMps⟩
    rw [split]
    exact sampleFrom_inside earlierApart long positive atMost

theorem sample_eq (several : 2 ≤ waypoints.length) {sM : ℝ} {sampled : GeoWP ℝ} (nonneg : 0 ≤ sM)
    (atMost : sM ≤ lengthM hypotenuse waypoints)
    (found : sampleFrom hypotenuse sM lateralM speedMps (legs waypoints) = some sampled) :
    sample hypotenuse sM lateralM speedMps waypoints = sampled := by
  match waypoints, several with
  | first :: second :: later, _ =>
    have kept : stdClamp sM 0.0 (lengthM hypotenuse (first :: second :: later)) = sM :=
      stdClamp_of_mem (le_of_eq_of_le (by norm_num) nonneg) atMost
    unfold sample
    dsimp only
    rw [kept, found, Option.getD_some]

end Sampling

end

end MassL3.M5.Frame
