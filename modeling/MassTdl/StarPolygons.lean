/-
This file continues the library about polygons. If all triangles of a fan turn to the left, the
polygon is star-shaped, and their union is the closed polygon. A convex polygon is star-shaped
around the mean of its vertices, and it is also the intersection of the half-planes to the left of
its edges. Neither depends on the way the polygon is walked.
-/

import Mathlib.Algebra.Order.BigOperators.Group.List
import MassTdl.Polygons

namespace Polygons

variable {K : Type} [Field K] [LinearOrder K]

/-! ### Star-shaped polygons -/

section Stars

variable {vertices : List (K × K)} {center point : K × K}

/-- All triangles of the fan from a center turn to the left. -/
def StarShaped (center : K × K) (vertices : List (K × K)) : Prop :=
  ∀ edge ∈ edges vertices, 0 < fanArea center edge

/-- Some vertices are above the center, and some are not. -/
structure Amid (center : K × K) (vertices : List (K × K)) : Prop where
  above : ∃ vertex ∈ vertices, center.2 < vertex.2
  notAbove : ∃ vertex ∈ vertices, vertex.2 ≤ center.2

/-- A point lies in one of the triangles of a fan. -/
def InFan (center : K × K) (vertices : List (K × K)) (point : K × K) : Prop :=
  ∃ edge ∈ edges vertices, InTriangle center edge point

variable [IsStrictOrderedRing K]

/-- A point that a polygon winds around to the left lies in a triangle of any fan. -/
theorem inFan_of_winding_pos (center : K × K) (winds : 0 < winding vertices point) :
    ∃ edge ∈ edges vertices, 0 < fanArea center edge ∧ InTriangle center edge point := by
  rw [winding_eq_sum_fanWinding center] at winds
  obtain ⟨edge, member, positive⟩ : ∃ edge ∈ edges vertices, 0 < fanWinding center point edge := by
    refine List.exists_lt_of_sum_lt (fun _ => 0) _ ?_
    rwa [List.map_const', List.sum_replicate, smul_zero]
  have left : 0 < fanArea center edge := by
    by_contra right
    exact absurd positive (not_lt.mpr (fanWinding_of_nonpos (not_lt.mp right)))
  exact ⟨edge, member, left, (fanWinding_of_pos left).2 positive.ne'⟩

theorem StarShaped.winding_ne_zero_iff (star : StarShaped center vertices) :
    winding vertices point ≠ 0 ↔ ∃ edge ∈ edges vertices, fanWinding center point edge ≠ 0 := by
  rw [winding_eq_sum_fanWinding center]
  have nonneg : ∀ turn ∈ (edges vertices).map (fanWinding center point), 0 ≤ turn := by
    intro turn among
    obtain ⟨edge, member, rfl⟩ := List.mem_map.mp among
    exact (fanWinding_of_pos (star edge member)).1
  constructor
  · intro winds
    by_contra none
    refine winds (List.sum_eq_zero fun turn among => ?_)
    obtain ⟨edge, member, rfl⟩ := List.mem_map.mp among
    by_contra some
    exact none ⟨edge, member, some⟩
  · rintro ⟨edge, member, some⟩ none
    exact some
      (List.all_zero_of_le_zero_le_of_sum_eq_zero nonneg none (List.mem_map_of_mem member))

/-- The center itself is wound around. -/
theorem StarShaped.winding_center (star : StarShaped center vertices)
    (amid : Amid center vertices) : winding vertices center ≠ 0 := by
  have lacks : ∃ vertex ∈ vertices, ¬ vertex.2 ≤ center.2 :=
    amid.above.imp fun vertex high => ⟨high.1, not_le.mpr high.2⟩
  obtain ⟨edge, member, below, above⟩ := exists_edge_of_change amid.notAbove lacks
  refine star.winding_ne_zero_iff.mpr ⟨edge, member, ?_⟩
  have level : cross (edge.2, center) center = 0 := by
    unfold cross
    ring
  rw [fanWinding_eq_turns, turns_lone_high (sub_self _).le (sub_nonpos.mpr below)
    (sub_pos.mpr (not_le.mp above)), level, if_neg (lt_irrefl 0), add_zero]
  exact (if_pos (star edge member)).trans_ne one_ne_zero

/-- A point of an edge is to neither side of it. -/
theorem cross_of_mem_segment {edge : Edge K} {point : K × K}
    (onEdge : point ∈ segment K edge.1 edge.2) : cross edge point = 0 := by
  obtain ⟨first, second, -, -, whole, rfl⟩ := onEdge
  obtain rfl : first = 1 - second := by linarith
  unfold cross
  simp only [Prod.fst_add, Prod.snd_add, Prod.smul_fst, Prod.smul_snd, smul_eq_mul]
  ring

/-- In a triangle and on the line of the edge, a point is on the edge. -/
theorem InTriangle.on_edge {edge : Edge K} (inside : InTriangle center edge point)
    (left : 0 < fanArea center edge) (onLine : cross edge point = 0) :
    point ∈ segment K edge.1 edge.2 := by
  obtain ⟨first, -, third⟩ := inside
  have area := fanArea_eq_add center point edge
  rw [onLine, add_zero] at area
  refine ⟨cross (edge.2, center) point / fanArea center edge,
    cross (center, edge.1) point / fanArea center edge, div_nonneg third left.le,
    div_nonneg first left.le, ?_, ?_⟩
  · rw [← add_div, area, add_comm, div_self (area ▸ left).ne']
  · have weights := fanArea_smul_point center point edge
    rw [onLine, zero_smul, zero_add] at weights
    rw [div_eq_inv_mul, div_eq_inv_mul, mul_smul, mul_smul, ← smul_add, ← weights,
      inv_smul_smul₀ left.ne']

/-- The closed triangle has its edge. -/
theorem inTriangle_of_on_edge {edge : Edge K} (left : 0 ≤ fanArea center edge)
    (onEdge : point ∈ segment K edge.1 edge.2) : InTriangle center edge point := by
  have line := cross_of_mem_segment onEdge
  obtain ⟨first, second, firstNonneg, secondNonneg, whole, rfl⟩ := onEdge
  have start : cross (center, edge.1) (first • edge.1 + second • edge.2) =
      second * fanArea center edge := by
    obtain rfl : first = 1 - second := by linarith
    unfold fanArea cross
    simp only [Prod.fst_add, Prod.snd_add, Prod.smul_fst, Prod.smul_snd, smul_eq_mul]
    ring
  have finish : cross (edge.2, center) (first • edge.1 + second • edge.2) =
      first * fanArea center edge := by
    obtain rfl : second = 1 - first := by linarith
    unfold fanArea cross
    simp only [Prod.fst_add, Prod.snd_add, Prod.smul_fst, Prod.smul_snd, smul_eq_mul]
    ring
  exact ⟨start ▸ mul_nonneg secondNonneg left, line.ge, finish ▸ mul_nonneg firstNonneg left⟩

omit [Field K] [LinearOrder K] [IsStrictOrderedRing K] in
/-- Every edge is followed by one, and follows one. -/
theorem exists_adjacent_edges {edge : Edge K} (member : edge ∈ edges vertices) :
    (∃ after, (edge.2, after) ∈ edges vertices) ∧ ∃ before, (before, edge.1) ∈ edges vertices := by
  obtain ⟨starts, finishes⟩ := mem_of_mem_edges member
  constructor
  · rw [← map_fst_edges vertices] at finishes
    obtain ⟨next, among, starting⟩ := List.mem_map.mp finishes
    exact ⟨next.2, starting ▸ among⟩
  · rw [← List.mem_rotate (n := 1), ← map_snd_edges vertices] at starts
    obtain ⟨previous, among, finishing⟩ := List.mem_map.mp starts
    exact ⟨previous.1, finishing ▸ among⟩

/-- A point of the spoke in which two triangles meet lies off the two other sides of the later one
if it does so of the earlier one. -/
theorem off_sides_of_spoke {first corner after : K × K} (left : 0 < fanArea center (first, corner))
    (leftNext : 0 < fanArea center (corner, after)) (onSpoke : cross (corner, center) point = 0)
    (offStart : 0 < cross (center, first) point) (offEdge : 0 < cross (first, corner) point) :
    0 < cross (corner, after) point ∧ 0 < cross (after, center) point := by
  have beyond := fanArea_mul_cross center point (first, corner) (corner, after)
  have short := fanArea_mul_cross center point (first, corner) (after, center)
  have atCorner : cross (corner, after) corner = 0 := by
    unfold cross
    ring
  have atCenter : cross (after, center) center = 0 := by
    unfold cross
    ring
  have turned : cross (after, center) corner = fanArea center (corner, after) := by
    unfold fanArea cross
    ring
  rw [onSpoke, zero_mul, add_zero, atCorner, mul_zero, add_zero] at beyond
  rw [onSpoke, zero_mul, add_zero, atCenter, mul_zero, zero_add, turned] at short
  exact ⟨(mul_pos_iff_of_pos_left left).mp (beyond ▸ mul_pos offEdge leftNext),
    (mul_pos_iff_of_pos_left left).mp (short ▸ mul_pos offStart leftNext)⟩

omit [IsStrictOrderedRing K] in
/-- A point on both spokes of a triangle is the center. -/
theorem eq_center_of_on_spokes {edge : Edge K} (left : 0 < fanArea center edge)
    (onStart : cross (center, edge.1) point = 0) (onEnd : cross (edge.2, center) point = 0) :
    point = center := by
  have weights := fanArea_smul_point center point edge
  have area := fanArea_eq_add center point edge
  rw [onStart, onEnd, zero_add, add_zero] at area
  rw [onStart, onEnd, zero_smul, zero_smul, add_zero, add_zero, ← area] at weights
  exact smul_right_injective _ left.ne' weights

/-- The closed polygon has the triangles of its fan. -/
theorem StarShaped.inClosed_of_inTriangle {edge : Edge K} (star : StarShaped center vertices)
    (amid : Amid center vertices) (member : edge ∈ edges vertices)
    (inside : InTriangle center edge point) : InClosed point vertices := by
  by_contra outside
  obtain ⟨offBoundary, unwound⟩ := not_or.mp outside
  have unturned : ∀ other ∈ edges vertices, fanWinding center point other = 0 := by
    intro other among
    by_contra turned
    exact unwound (star.winding_ne_zero_iff.mpr ⟨other, among, turned⟩)
  have left := star edge member
  obtain ⟨⟨after, next⟩, before, previous⟩ := exists_adjacent_edges member
  obtain ⟨first, second, third⟩ := inside
  have offEdge : 0 < cross edge point :=
    lt_of_le_of_ne second fun onLine => offBoundary
      ⟨edge, member, InTriangle.on_edge ⟨first, second, third⟩ left onLine.symm⟩
  rcases first.eq_or_lt with onStart | offStart <;> rcases third.eq_or_lt with onEnd | offEnd
  · obtain rfl := eq_center_of_on_spokes left onStart.symm onEnd.symm
    exact unwound (star.winding_center amid)
  · exact (fanWinding_of_spoke (star _ previous) left onStart.symm offEdge offEnd).elim
      (· (unturned _ previous)) (· (unturned _ member))
  · obtain ⟨beyond, short⟩ :=
      off_sides_of_spoke left (star _ next) onEnd.symm offStart offEdge
    exact (fanWinding_of_spoke left (star _ next) (cross_swap_eq_zero onEnd.symm) beyond
      short).elim (· (unturned _ member)) (· (unturned _ next))
  · exact fanWinding_of_within offStart offEdge offEnd (unturned edge member)

/-- A star-shaped polygon is the union of the triangles of its fan. -/
theorem StarShaped.inFan_iff (star : StarShaped center vertices) (amid : Amid center vertices) :
    InFan center vertices point ↔ InClosed point vertices := by
  constructor
  · rintro ⟨edge, member, inside⟩
    exact star.inClosed_of_inTriangle amid member inside
  · rintro (⟨edge, member, onEdge⟩ | winds)
    · exact ⟨edge, member, inTriangle_of_on_edge (star edge member).le onEdge⟩
    · obtain ⟨edge, member, turned⟩ := star.winding_ne_zero_iff.mp winds
      exact ⟨edge, member, (fanWinding_of_pos (star edge member)).2 turned⟩

end Stars

/-! ### Means -/

section Means

variable {vertices : List (K × K)} {point : K × K}

/-- The mean of some vertices. -/
def mean (vertices : List (K × K)) : K × K := (vertices.length : K)⁻¹ • vertices.sum

variable [IsStrictOrderedRing K]

theorem length_smul_mean (some : vertices ≠ []) :
    (vertices.length : K) • mean vertices = vertices.sum := by
  have length : (vertices.length : K) ≠ 0 :=
    Nat.cast_ne_zero.mpr (List.length_pos_iff.mpr some).ne'
  rw [mean, smul_inv_smul₀ length]

omit [LinearOrder K] [IsStrictOrderedRing K] in
theorem sum_affine (first second constant : K) (vertices : List (K × K)) :
    (vertices.map fun vertex => first * vertex.1 + second * vertex.2 + constant).sum =
      first * vertices.sum.1 + second * vertices.sum.2 + vertices.length * constant := by
  induction vertices with
  | nil => simp
  | cons vertex later inductionHypothesis =>
    rw [List.map_cons, List.sum_cons, inductionHypothesis, List.sum_cons, List.length_cons]
    simp only [Prod.fst_add, Prod.snd_add]
    push_cast
    ring

/-- What is affine takes its mean value at the mean. -/
theorem sum_affine_mean (some : vertices ≠ []) (first second constant : K) :
    (vertices.map fun vertex => first * vertex.1 + second * vertex.2 + constant).sum =
      vertices.length *
        (first * (mean vertices).1 + second * (mean vertices).2 + constant) := by
  rw [sum_affine, ← length_smul_mean some]
  simp only [Prod.smul_fst, Prod.smul_snd, smul_eq_mul]
  ring

theorem sum_cross (some : vertices ≠ []) (edge : Edge K) :
    (vertices.map (cross edge)).sum = vertices.length * cross edge (mean vertices) := by
  have affine : cross edge = fun vertex =>
      -(edge.2.2 - edge.1.2) * vertex.1 + (edge.2.1 - edge.1.1) * vertex.2 +
        ((edge.2.2 - edge.1.2) * edge.1.1 - (edge.2.1 - edge.1.1) * edge.1.2) := by
    funext vertex
    unfold cross
    ring
  rw [affine, sum_affine_mean some]

/-- Seen from the mean, the vertices are to both sides of a point. -/
theorem sum_cross_spoke (some : vertices ≠ []) (point : K × K) :
    (vertices.map fun vertex => cross (mean vertices, vertex) point).sum = 0 := by
  have affine : (fun vertex => cross (mean vertices, vertex) point) = fun vertex =>
      (point.2 - (mean vertices).2) * vertex.1 + -(point.1 - (mean vertices).1) * vertex.2 +
        ((point.1 - (mean vertices).1) * (mean vertices).2 -
          (point.2 - (mean vertices).2) * (mean vertices).1) := by
    funext vertex
    unfold cross
    ring
  rw [affine, sum_affine_mean some]
  ring

/-- Of some terms that add up to nothing, one is not negative. -/
theorem exists_nonneg_of_sum_eq_zero {Item : Type} {items : List Item} {term : Item → K}
    (some : items ≠ []) (total : (items.map term).sum = 0) : ∃ item ∈ items, 0 ≤ term item := by
  have least : (items.map fun _ => (0 : K)).sum ≤ (items.map term).sum := by
    rw [total, List.map_const', List.sum_replicate, smul_zero]
  exact List.exists_le_of_sum_le some (fun _ => 0) term least

/-- If no term is negative, all of them are nothing. -/
theorem eq_zero_of_sum_eq_zero {Item : Type} {items : List Item} {term : Item → K}
    (nonneg : ∀ item ∈ items, 0 ≤ term item) (total : (items.map term).sum = 0) {item : Item}
    (member : item ∈ items) : term item = 0 :=
  List.all_zero_of_le_zero_le_of_sum_eq_zero (List.forall_mem_map.mpr nonneg) total
    (List.mem_map_of_mem member)

omit [Field K] [LinearOrder K] [IsStrictOrderedRing K] in
theorem exists_mem_edges (some : vertices ≠ []) : ∃ edge, edge ∈ edges vertices := by
  obtain ⟨vertex, later, rfl⟩ := List.exists_cons_of_ne_nil some
  have first : vertex ∈ (edges (vertex :: later)).map Prod.fst := by
    rw [map_fst_edges]
    exact List.mem_cons_self
  obtain ⟨edge, member, -⟩ := List.mem_map.mp first
  exact ⟨edge, member⟩

theorem StarShaped.amid (star : StarShaped (mean vertices) vertices) (some : vertices ≠ []) :
    Amid (mean vertices) vertices := by
  have heights : (vertices.map fun vertex => (mean vertices).2 - vertex.2).sum = 0 := by
    have affine : (fun vertex : K × K => (mean vertices).2 - vertex.2) = fun vertex =>
        0 * vertex.1 + -1 * vertex.2 + (mean vertices).2 := by
      funext vertex
      ring
    rw [affine, sum_affine_mean some]
    ring
  constructor
  · by_contra none
    have level {vertex : K × K} (member : vertex ∈ vertices) :
        (mean vertices).2 - vertex.2 = 0 :=
      eq_zero_of_sum_eq_zero (fun other among => sub_nonneg.mpr
        (not_lt.mp fun above => none ⟨other, among, above⟩)) heights member
    obtain ⟨edge, member⟩ := exists_mem_edges some
    obtain ⟨starts, finishes⟩ := mem_of_mem_edges member
    have flat : fanArea (mean vertices) edge = 0 := by
      unfold fanArea cross
      linear_combination (edge.2.1 - (mean vertices).1) * level starts -
        (edge.1.1 - (mean vertices).1) * level finishes
    exact (star edge member).ne' flat
  · obtain ⟨vertex, member, nonneg⟩ := exists_nonneg_of_sum_eq_zero some heights
    exact ⟨vertex, member, sub_nonneg.mp nonneg⟩

/-- A polygon that is fanned out from its mean, all to the left, is the union of the triangles. -/
theorem StarShaped.inFan_mean_iff (star : StarShaped (mean vertices) vertices)
    (some : vertices ≠ []) : InFan (mean vertices) vertices point ↔ InClosed point vertices :=
  star.inFan_iff (star.amid some)

end Means

/-! ### Convex polygons -/

section Convex

variable {vertices : List (K × K)} {point : K × K}

/-- No vertex is to the right of an edge, and not all are on its line. -/
structure ConvexPolygon (vertices : List (K × K)) : Prop where
  left : ∀ edge ∈ edges vertices, ∀ vertex ∈ vertices, 0 ≤ cross edge vertex
  wide : ∀ edge ∈ edges vertices, ∃ vertex ∈ vertices, cross edge vertex ≠ 0

/-- A point is in all half-planes to the left of the edges. -/
def InHalfPlanes (point : K × K) (vertices : List (K × K)) : Prop :=
  ∀ edge ∈ edges vertices, 0 ≤ cross edge point

variable [IsStrictOrderedRing K]

/-- A convex polygon is star-shaped around its mean. -/
theorem ConvexPolygon.starShaped (convex : ConvexPolygon vertices) (some : vertices ≠ []) :
    StarShaped (mean vertices) vertices := by
  intro edge member
  have length : (0 : K) < vertices.length :=
    Nat.cast_pos.mpr (List.length_pos_iff.mpr some)
  have total := sum_cross some edge
  have nonneg : 0 ≤ (vertices.map (cross edge)).sum :=
    List.sum_nonneg (List.forall_mem_map.mpr (convex.left edge member))
  have notZero : (vertices.map (cross edge)).sum ≠ 0 := by
    intro zero
    obtain ⟨vertex, among, apart⟩ := convex.wide edge member
    exact apart (eq_zero_of_sum_eq_zero (convex.left edge member) zero among)
  have positive := lt_of_le_of_ne nonneg notZero.symm
  rw [total] at positive
  exact (mul_pos_iff_of_pos_left length).mp positive

/-- It is the intersection of the half-planes, since the fan around the mean covers all sides. -/
theorem ConvexPolygon.inHalfPlanes_iff_inFan (convex : ConvexPolygon vertices)
    (some : vertices ≠ []) :
    InHalfPlanes point vertices ↔ InFan (mean vertices) vertices point := by
  have star := convex.starShaped some
  constructor
  · intro within
    have spokes := sum_cross_spoke some point
    obtain ⟨edge, member, first, third⟩ : ∃ edge ∈ edges vertices,
        0 ≤ cross (mean vertices, edge.1) point ∧ cross (mean vertices, edge.2) point ≤ 0 := by
      by_cases nonneg : ∀ vertex ∈ vertices, 0 ≤ cross (mean vertices, vertex) point
      · obtain ⟨edge, member⟩ := exists_mem_edges some
        obtain ⟨starts, finishes⟩ := mem_of_mem_edges member
        exact ⟨edge, member, nonneg _ starts, (eq_zero_of_sum_eq_zero nonneg spokes finishes).le⟩
      · have lacks : ∃ vertex ∈ vertices, ¬ 0 ≤ cross (mean vertices, vertex) point := by
          by_contra all
          exact nonneg fun vertex among => by
            by_contra negative
            exact all ⟨vertex, among, negative⟩
        obtain ⟨edge, member, before, after⟩ :=
          exists_edge_of_change (exists_nonneg_of_sum_eq_zero some spokes) lacks
        exact ⟨edge, member, before, (not_le.mp after).le⟩
    refine ⟨edge, member, first, within edge member, ?_⟩
    rw [show (edge.2, mean vertices) = (mean vertices, edge.2).swap from rfl, cross_swap]
    exact neg_nonneg.mpr third
  · rintro ⟨edge, member, first, second, third⟩ other among
    obtain ⟨starts, finishes⟩ := mem_of_mem_edges member
    have weights := fanArea_mul_cross (mean vertices) point edge other
    refine nonneg_of_mul_nonneg_right ?_ (star edge member)
    rw [weights]
    exact add_nonneg (add_nonneg (mul_nonneg second (star other among).le)
      (mul_nonneg third (convex.left other among _ starts)))
      (mul_nonneg first (convex.left other among _ finishes))

/-- The half-planes of a convex polygon meet in the closed polygon. -/
theorem ConvexPolygon.inHalfPlanes_iff (convex : ConvexPolygon vertices) (some : vertices ≠ []) :
    InHalfPlanes point vertices ↔ InClosed point vertices :=
  (convex.inHalfPlanes_iff_inFan some).trans ((convex.starShaped some).inFan_mean_iff some)

end Convex

/-! ### Orientation -/

section Orientation

variable {vertices : List (K × K)} {point : K × K}

omit [Field K] [LinearOrder K] in
theorem rotate_back (vertices : List (K × K)) :
    vertices.rotate (1 + (vertices.length - 1 % vertices.length)) = vertices := by
  obtain short | long := Nat.lt_or_ge vertices.length 2
  · obtain none | ⟨vertex, rfl⟩ : vertices = [] ∨ ∃ vertex, vertices = [vertex] := by
      rcases vertices with - | ⟨vertex, - | ⟨second, later⟩⟩
      · exact .inl rfl
      · exact .inr ⟨vertex, rfl⟩
      · exact absurd short (by simp)
    · rw [none, List.rotate_nil]
    · exact List.rotate_singleton vertex _
  · rw [Nat.mod_eq_of_lt long, Nat.add_sub_cancel' (by omega), List.rotate_length]

omit [Field K] [LinearOrder K] in
/-- Walked the other way, a polygon has the same edges, the other way. -/
theorem edges_reverse_perm (vertices : List (K × K)) :
    (edges vertices.reverse).Perm ((edges vertices).map Prod.swap) := by
  let back := vertices.length - 1 % vertices.length
  have turned : (edges vertices).rotate back = (vertices.rotate back).zip vertices := by
    rw [edges, List.zip, List.zipWith_rotate_distrib _ _ _ _ (by simp), List.rotate_rotate,
      rotate_back, ← List.zip]
  have reversed : edges vertices.reverse = (vertices.zip (vertices.rotate back)).reverse := by
    rw [edges, List.rotate_reverse]
    exact (List.reverse_zipWith (by simp)).symm
  rw [reversed]
  refine (List.reverse_perm _).trans ?_
  rw [← List.zip_swap, ← turned]
  exact (List.rotate_perm _ _).map _

variable [IsStrictOrderedRing K]

theorem winding_reverse (vertices : List (K × K)) (point : K × K) :
    winding vertices.reverse point = -winding vertices point := by
  have other : crossing point ∘ Prod.swap = fun edge => -crossing point edge :=
    funext (crossing_swap point)
  rw [winding, ((edges_reverse_perm vertices).map (crossing point)).sum_eq, List.map_map, other,
    winding, List.sum_neg, List.map_map]
  rfl

/-- The closed polygon does not depend on the way it is walked. -/
theorem inClosed_reverse : InClosed point vertices.reverse ↔ InClosed point vertices := by
  unfold InClosed OnBoundary
  rw [winding_reverse, neg_ne_zero]
  refine or_congr_left ?_
  constructor
  · rintro ⟨edge, member, onEdge⟩
    obtain ⟨other, among, rfl⟩ :=
      List.mem_map.mp ((edges_reverse_perm vertices).mem_iff.mp member)
    exact ⟨other, among, segment_symm K other.2 other.1 ▸ onEdge⟩
  · rintro ⟨edge, member, onEdge⟩
    refine ⟨edge.swap, (edges_reverse_perm vertices).mem_iff.mpr (List.mem_map_of_mem member), ?_⟩
    exact segment_symm K edge.1 edge.2 ▸ onEdge

end Orientation

/-! ### Simple polygons -/

section Simple

variable {vertices : List (K × K)}

/-- Two edges have no point in common but a corner, where one ends and the other one starts. -/
def MeetInCorner (first second : Edge K) : Prop :=
  ∀ point, point ∈ segment K first.1 first.2 → point ∈ segment K second.1 second.2 →
    point = first.2 ∧ point = second.1 ∨ point = first.1 ∧ point = second.2

/-- A polygon that does not touch itself. -/
structure Simple (vertices : List (K × K)) : Prop where
  long : 3 ≤ vertices.length
  distinct : vertices.Nodup
  apart : ∀ first ∈ edges vertices, ∀ second ∈ edges vertices, first ≠ second →
    MeetInCorner first second

/-- What is common to the ranges of two edges in one coordinate is no more than a value. -/
def RangesMeetAt (first second : K × K) (value : K) : Prop :=
  min (max first.1 first.2) (max second.1 second.2) ≤ value ∧
    value ≤ max (min first.1 first.2) (min second.1 second.2)

/-- The ranges of two edges in one coordinate have nothing in common. -/
def RangesApart (first second : K × K) : Prop :=
  max first.1 first.2 < min second.1 second.2 ∨ max second.1 second.2 < min first.1 first.2

/-- The bounding boxes of two edges meet at a point. -/
def BoxesMeetAt (first second : Edge K) (point : K × K) : Prop :=
  RangesMeetAt (first.1.1, first.2.1) (second.1.1, second.2.1) point.1 ∧
    RangesMeetAt (first.1.2, first.2.2) (second.1.2, second.2.2) point.2

/-- The bounding boxes of two edges have no point in common, or only the corner in which they
meet. -/
def BoxesAllow (first second : Edge K) : Prop :=
  RangesApart (first.1.1, first.2.1) (second.1.1, second.2.1) ∨
    RangesApart (first.1.2, first.2.2) (second.1.2, second.2.2) ∨
    first.2 = second.1 ∧ BoxesMeetAt first second first.2 ∨
    first.1 = second.2 ∧ BoxesMeetAt first second first.1

instance (first second : Edge K) : Decidable (BoxesAllow first second) :=
  inferInstanceAs (Decidable ((_ ∨ _) ∨ (_ ∨ _) ∨ _ ∧ (_ ∧ _) ∧ (_ ∧ _) ∨ _ ∧ (_ ∧ _) ∧ (_ ∧ _)))

variable [IsStrictOrderedRing K]

/-- A point of an edge is in the ranges of the edge. -/
theorem range_of_mem_segment {edge : Edge K} {point : K × K}
    (onEdge : point ∈ segment K edge.1 edge.2) :
    (min edge.1.1 edge.2.1 ≤ point.1 ∧ point.1 ≤ max edge.1.1 edge.2.1) ∧
      (min edge.1.2 edge.2.2 ≤ point.2 ∧ point.2 ≤ max edge.1.2 edge.2.2) := by
  obtain ⟨first, second, firstNonneg, secondNonneg, whole, rfl⟩ := onEdge
  exact ⟨⟨Convex.min_le_combo _ _ firstNonneg secondNonneg whole,
      Convex.combo_le_max _ _ firstNonneg secondNonneg whole⟩,
    ⟨Convex.min_le_combo _ _ firstNonneg secondNonneg whole,
      Convex.combo_le_max _ _ firstNonneg secondNonneg whole⟩⟩

omit [Field K] [IsStrictOrderedRing K] in
theorem RangesMeetAt.eq {first second : K × K} {value common : K}
    (meet : RangesMeetAt first second value)
    (inFirst : min first.1 first.2 ≤ common ∧ common ≤ max first.1 first.2)
    (inSecond : min second.1 second.2 ≤ common ∧ common ≤ max second.1 second.2) :
    common = value :=
  le_antisymm ((le_min inFirst.2 inSecond.2).trans meet.1)
    (meet.2.trans (max_le inFirst.1 inSecond.1))

omit [Field K] [IsStrictOrderedRing K] in
theorem RangesApart.elim {first second : K × K} {common : K} (apart : RangesApart first second)
    (inFirst : min first.1 first.2 ≤ common ∧ common ≤ max first.1 first.2)
    (inSecond : min second.1 second.2 ≤ common ∧ common ≤ max second.1 second.2) : False := by
  rcases apart with before | behind
  · exact absurd (inSecond.1.trans inFirst.2) (not_le.mpr before)
  · exact absurd (inFirst.1.trans inSecond.2) (not_le.mpr behind)

/-- Where the bounding boxes allow it, the edges meet in a corner at most. -/
theorem BoxesAllow.meetInCorner {first second : Edge K} (allow : BoxesAllow first second) :
    MeetInCorner first second := by
  intro point onFirst onSecond
  obtain ⟨firstNorth, firstEast⟩ := range_of_mem_segment onFirst
  obtain ⟨secondNorth, secondEast⟩ := range_of_mem_segment onSecond
  obtain apart | apart | ⟨corner, meetNorth, meetEast⟩ | ⟨corner, meetNorth, meetEast⟩ := allow
  · exact (apart.elim firstNorth secondNorth).elim
  · exact (apart.elim firstEast secondEast).elim
  · have same := Prod.ext (meetNorth.eq firstNorth secondNorth) (meetEast.eq firstEast secondEast)
    exact .inl ⟨same, same.trans corner⟩
  · have same := Prod.ext (meetNorth.eq firstNorth secondNorth) (meetEast.eq firstEast secondEast)
    exact .inr ⟨same, same.trans corner⟩

end Simple

end Polygons
