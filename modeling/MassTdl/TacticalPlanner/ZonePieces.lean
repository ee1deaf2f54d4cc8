/-
This file compares the pieces of a zone with its polygon. The half-planes of a convex polygon meet
in it, and the triangles of a fan from the mean of the vertices make it up as long as all of them
turn to the left. Whatever the polygon, the pieces of a fan leave no point out that it winds around
to the left.
-/

import MassTdl.Registers
import MassTdl.StarPolygons
import MassTdl.TacticalPlanner.Constraints

namespace MassL3.M5.Constraints

open Polygons

variable {K : Type} [Field K] [LinearOrder K]

/-! ### Edges -/

omit [LinearOrder K] in
/-- The loop over the vertices is one over the edges. -/
theorem map_range_eq_edges (polygon : Polygon2D K) :
    (List.range polygon.length).map (fun i => (vertexAt polygon i, vertexAt polygon (i + 1))) =
      edges polygon := by
  have lengths : (edges polygon).length = polygon.length := by simp [edges]
  refine List.ext_getElem (by simp [lengths]) fun i inRange _ => ?_
  have below : i < polygon.length := by simpa using inRange
  have around : (i + 1) % polygon.length < polygon.length := Nat.mod_lt _ (by omega)
  simp [edges, vertexAt, List.getElem_rotate, Nat.mod_eq_of_lt below, below, around]

variable {polygon : Polygon2D K}

omit [LinearOrder K] in
theorem vertexAt_mem (some : polygon ≠ []) (index : Nat) :
    vertexAt polygon index ∈ polygon := by
  have below : index % polygon.length < polygon.length :=
    Nat.mod_lt _ (List.length_pos_iff.mpr some)
  rw [vertexAt, List.getD_eq_getElem?_getD, List.getElem?_eq_getElem below]
  exact List.getElem_mem below

omit [LinearOrder K] in
theorem centroid_eq_mean (polygon : Polygon2D K) : centroid polygon = mean polygon := by
  unfold centroid mean
  refine Prod.ext ?_ ?_
  · simp only [Prod.smul_fst, smul_eq_mul, div_eq_inv_mul]
  · simp only [Prod.smul_snd, smul_eq_mul, div_eq_inv_mul]

/-! ### Extrema -/

omit [Field K] in
theorem fmin_eq_raise (result : Option K) (value : K) :
    fmin result value = (Registers.Write.raise value).apply OrderDual.toDual result := by
  unfold fmin Registers.Write.apply
  cases result with
  | none => rfl
  | some least =>
    dsimp only
    split_ifs with above
    · rw [min_eq_right (OrderDual.toDual_le_toDual.mp above)]
    · rw [min_eq_left (le_of_not_ge fun below => above (OrderDual.toDual_le_toDual.mpr below))]

omit [Field K] in
theorem fmax_eq_raise (result : Option K) (value : K) :
    fmax result value = (Registers.Write.raise value).apply id result := by
  unfold fmax Registers.Write.apply
  cases result with
  | none => rfl
  | some greatest =>
    dsimp only [id]
    split_ifs with above
    · rw [max_eq_right above]
    · rw [max_eq_left (le_of_not_ge above)]

/-! ### Tests -/

/-- A polygon is passed if all half-planes are. -/
theorem pointInsideConvex_nonneg_iff (long : 3 ≤ polygon.length) (point : K × K) :
    0 ≤ pointInsideConvex point polygon ↔ InHalfPlanes point polygon := by
  have tests : (List.range polygon.length).foldl (fun result i =>
      fmin result (cross (vertexAt polygon i, vertexAt polygon (i + 1)) point)) none =
        ((edges polygon).map fun edge => cross edge point).foldl fmin none := by
    rw [← map_range_eq_edges, List.map_map, List.foldl_map]
    rfl
  have some : ((edges polygon).map fun edge => cross edge point) ≠ [] := by
    rw [← map_range_eq_edges]
    simp only [ne_eq, List.map_eq_nil_iff, List.range_eq_nil]
    omega
  obtain ⟨least, member, held, lowest⟩ := Registers.holdsMaximum_foldl fmin_eq_raise _ some
  have value : pointInsideConvex point polygon = least := by
    rw [pointInsideConvex, if_neg (Nat.not_lt.mpr long)]
    exact (congrArg (Option.getD · 0) (tests.trans held))
  rw [value]
  constructor
  · exact fun nonneg edge among => nonneg.trans
      (OrderDual.toDual_le_toDual.mp (lowest _ (List.mem_map_of_mem among)))
  · intro within
    obtain ⟨edge, among, rfl⟩ := List.mem_map.mp member
    exact within edge among

/-- A point passes the tests of at least one piece. -/
def PassesSome (point : K × K) (subPolygons : List (Polygon2D K)) : Prop :=
  ∃ sub ∈ subPolygons, 0 ≤ pointInsideConvex point sub

/-- The best piece is passed if some piece is. -/
theorem bestInside_nonneg_iff {subPolygons : List (Polygon2D K)} (some : subPolygons ≠ [])
    (point : K × K) : 0 ≤ bestInside point subPolygons ↔ PassesSome point subPolygons := by
  have notNone : subPolygons.map (pointInsideConvex point) ≠ [] := by simpa using some
  obtain ⟨greatest, member, held, highest⟩ :=
    Registers.holdsMaximum_foldl fmax_eq_raise _ notNone
  rw [List.foldl_map] at held
  rw [bestInside, held, Option.getD_some]
  constructor
  · intro nonneg
    obtain ⟨sub, among, rfl⟩ := List.mem_map.mp member
    exact ⟨sub, among, nonneg⟩
  · rintro ⟨sub, among, passes⟩
    exact passes.trans (highest _ (List.mem_map_of_mem among))

/-! ### Pieces -/

/-- The triangle of a fan has the half-planes of its three sides. -/
theorem inHalfPlanes_triangle (center point : K × K) (edge : Edge K) :
    InHalfPlanes point [center, edge.1, edge.2] ↔ InTriangle center edge point := by
  have sides : edges [center, edge.1, edge.2] = [(center, edge.1), edge, (edge.2, center)] := rfl
  rw [InHalfPlanes, sides]
  simp only [List.forall_mem_cons, List.not_mem_nil, false_implies, implies_true, and_true]
  rfl

theorem length_normalizeCcw (polygon : Polygon2D K) :
    (normalizeCcw polygon).length = polygon.length := by
  unfold normalizeCcw
  split_ifs
  exacts [List.length_reverse, rfl]

theorem decomposePolygon_ne_nil (polygon : Polygon2D K) : decomposePolygon polygon ≠ [] := by
  unfold decomposePolygon
  dsimp only
  split_ifs with short convex
  · exact List.cons_ne_nil _ _
  · exact List.cons_ne_nil _ _
  · rw [length_normalizeCcw, ne_eq, List.map_eq_nil_iff, List.range_eq_nil]
    omega

/-- A polygon that passes for convex is its only piece. -/
theorem passesSome_of_convex (long : 3 ≤ polygon.length)
    (convex : isConvex2d (normalizeCcw polygon) = true) (point : K × K) :
    PassesSome point (decomposePolygon polygon) ↔ InHalfPlanes point (normalizeCcw polygon) := by
  have pieces : decomposePolygon polygon = [normalizeCcw polygon] := by
    rw [decomposePolygon, if_neg (Nat.not_lt.mpr long)]
    exact if_pos convex
  rw [PassesSome, pieces, ← pointInsideConvex_nonneg_iff (by rwa [length_normalizeCcw])]
  simp

/-- Any other polygon has the triangles of a fan for its pieces. -/
theorem passesSome_of_not_convex (long : 3 ≤ polygon.length)
    (notConvex : isConvex2d (normalizeCcw polygon) = false) (point : K × K) :
    PassesSome point (decomposePolygon polygon) ↔
      InFan (mean (normalizeCcw polygon)) (normalizeCcw polygon) point := by
  have pieces : decomposePolygon polygon = (edges (normalizeCcw polygon)).map fun edge =>
      [mean (normalizeCcw polygon), edge.1, edge.2] := by
    rw [decomposePolygon, if_neg (Nat.not_lt.mpr long), ← map_range_eq_edges, List.map_map,
      ← centroid_eq_mean]
    exact if_neg (by rw [notConvex]; exact Bool.false_ne_true)
  rw [PassesSome, pieces, InFan]
  constructor
  · rintro ⟨sub, among, passes⟩
    obtain ⟨edge, member, rfl⟩ := List.mem_map.mp among
    rw [pointInsideConvex_nonneg_iff le_rfl, inHalfPlanes_triangle] at passes
    exact ⟨edge, member, passes⟩
  · rintro ⟨edge, member, inside⟩
    refine ⟨_, List.mem_map_of_mem member, ?_⟩
    rw [pointInsideConvex_nonneg_iff le_rfl, inHalfPlanes_triangle]
    exact inside

variable [IsStrictOrderedRing K]

/-- Turning a polygon to the left does not change where it is. -/
theorem inClosed_normalizeCcw {point : K × K} :
    InClosed point (normalizeCcw polygon) ↔ InClosed point polygon := by
  unfold normalizeCcw
  split_ifs
  exacts [inClosed_reverse, Iff.rfl]

theorem isConvex2d_of_convex (convex : ConvexPolygon polygon) :
    isConvex2d polygon = true := by
  unfold isConvex2d
  split_ifs with short
  · rfl
  · have some : polygon ≠ [] := by
      rintro rfl
      exact short (Nat.zero_lt_succ 3)
    rw [List.all_eq_true]
    intro i inRange
    have member : (vertexAt polygon i, vertexAt polygon (i + 1)) ∈ edges polygon := by
      rw [← map_range_eq_edges]
      exact List.mem_map_of_mem inRange
    have nonneg := convex.left _ member _ (vertexAt_mem some (i + 2))
    refine decide_eq_true (not_lt.mpr ?_)
    unfold cross at nonneg
    norm_num
    linarith

/-! ### Zones -/

/-- The polygon is convex, or it does not pass for it and is star-shaped around the mean of its
vertices. -/
def Decomposable (polygon : Polygon2D K) : Prop :=
  ConvexPolygon polygon ∨ isConvex2d polygon = false ∧ StarShaped (mean polygon) polygon

/-- The pieces of a zone make up its polygon, and so a position meets the constraint of the zone
where it should. -/
structure ExactZone (zone : ZoneConstraint K) : Prop where
  pieces : ∀ point, PassesSome point (decomposePolygon zone.polygon) ↔ InClosed point zone.polygon
  inside : zone.mustStayInside = true → ∀ point,
    0 ≤ zoneValue zone (decomposePolygon zone.polygon) point ↔ InClosed point zone.polygon
  outside : zone.mustStayInside = false → ∀ point, ¬ InClosed point zone.polygon →
    0 ≤ zoneValue zone (decomposePolygon zone.polygon) point

theorem passesSome_iff_inClosed (long : 3 ≤ polygon.length)
    (decomposable : Decomposable (normalizeCcw polygon)) (point : K × K) :
    PassesSome point (decomposePolygon polygon) ↔ InClosed point polygon := by
  have some : normalizeCcw polygon ≠ [] := by
    rw [← List.length_pos_iff, length_normalizeCcw]
    omega
  rw [← inClosed_normalizeCcw]
  obtain convex | ⟨notConvex, star⟩ := decomposable
  · rw [passesSome_of_convex long (isConvex2d_of_convex convex), convex.inHalfPlanes_iff some]
  · rw [passesSome_of_not_convex long notConvex, star.inFan_mean_iff some]

theorem exactZone_of_decomposable {zone : ZoneConstraint K} (long : 3 ≤ zone.polygon.length)
    (decomposable : Decomposable (normalizeCcw zone.polygon)) : ExactZone zone := by
  have pieces := passesSome_iff_inClosed long decomposable
  have best := bestInside_nonneg_iff (decomposePolygon_ne_nil zone.polygon)
  refine ⟨pieces, fun stayInside point => ?_, fun stayOutside point outside => ?_⟩
  · rw [← pieces, ← best, zoneValue, stayInside]
    rfl
  · rw [← pieces, ← best, not_le] at outside
    rw [zoneValue, stayOutside]
    exact (neg_pos.mpr outside).le

omit [IsStrictOrderedRing K] in
/-- The rows of a zone are what it makes of the positions. -/
theorem g_mem_compileZoneConstraints_iff (lib : Functions K) (controls : List (K × K))
    (zones : List (ZoneConstraint K)) (dtS value : K) :
    value ∈ (compileZoneConstraints lib controls zones dtS).map ConstraintRow.g ↔
      ∃ zone ∈ zones, ∃ point ∈ positions lib dtS 0 controls,
        zoneValue zone (decomposePolygon zone.polygon) point = value := by
  have rows (zone : ZoneConstraint K) :
      (buildZoneSteps lib controls zone (decomposePolygon zone.polygon) dtS).map
          ConstraintRow.g =
        (positions lib dtS 0 controls).map
          (zoneValue zone (decomposePolygon zone.polygon)) := by
    rw [buildZoneSteps, List.map_map]
    conv_rhs => rw [← List.zipIdx_map_fst 0 (positions lib dtS 0 controls), List.map_map]
    rfl
  simp only [compileZoneConstraints, List.map_flatMap, rows, List.mem_flatMap, List.mem_map]

omit [IsStrictOrderedRing K] in
/-- Where every zone is made up of its pieces and is one to stay inside of, the trajectories that
meet the rows are those that never leave a zone. -/
theorem rows_met_iff {zones : List (ZoneConstraint K)} (exact : ∀ zone ∈ zones, ExactZone zone)
    (stayInside : ∀ zone ∈ zones, zone.mustStayInside = true) (lib : Functions K)
    (controls : List (K × K)) (dtS : K) :
    (∀ row ∈ compileZoneConstraints lib controls zones dtS, 0 ≤ row.g) ↔
      ∀ zone ∈ zones, ∀ point ∈ positions lib dtS 0 controls, InClosed point zone.polygon := by
  have values : (∀ row ∈ compileZoneConstraints lib controls zones dtS, 0 ≤ row.g) ↔
      ∀ value ∈ (compileZoneConstraints lib controls zones dtS).map ConstraintRow.g,
        0 ≤ value := List.forall_mem_map.symm
  rw [values]
  constructor
  · intro met zone among point passed
    refine ((exact zone among).inside (stayInside zone among) point).mp (met _ ?_)
    exact (g_mem_compileZoneConstraints_iff ..).mpr ⟨zone, among, point, passed, rfl⟩
  · intro within value row
    obtain ⟨zone, among, point, passed, rfl⟩ := (g_mem_compileZoneConstraints_iff ..).mp row
    exact ((exact zone among).inside (stayInside zone among) point).mpr
      (within zone among point passed)

/-- A zone that is convex, or star-shaped around the mean of its vertices, is made up of its pieces
exactly. The pieces of any zone that does not pass for convex leave no point out that its polygon
winds around to the left. -/
theorem decomposePolygon_exact (zone : ZoneConstraint K) (long : 3 ≤ zone.polygon.length) :
    (Decomposable (normalizeCcw zone.polygon) → ExactZone zone) ∧
      (isConvex2d (normalizeCcw zone.polygon) = false → ∀ point,
        0 < winding (normalizeCcw zone.polygon) point →
          PassesSome point (decomposePolygon zone.polygon)) := by
  refine ⟨exactZone_of_decomposable long, fun notConvex point winds => ?_⟩
  rw [passesSome_of_not_convex long notConvex]
  obtain ⟨edge, member, -, inside⟩ := inFan_of_winding_pos (mean (normalizeCcw zone.polygon)) winds
  exact ⟨edge, member, inside⟩

/-- A field with a notch in one side. -/
def notched : ZoneConstraint ℚ where
  polygon := [(0, 0), (6, 0), (6, 6), (3, 5), (0, 6)]
  mustStayInside := true
  name := "notched"

theorem decomposable_notched : Decomposable (normalizeCcw notched.polygon) := by
  have turned : normalizeCcw notched.polygon = notched.polygon := by decide +kernel
  have center : mean notched.polygon = (3, 17 / 5) := by norm_num [mean, notched]
  rw [turned]
  refine .inr ⟨by decide +kernel, ?_⟩
  rw [center]
  unfold StarShaped
  decide +kernel

theorem decomposePolygon_exact_notched : ExactZone notched ∧ ∀ point,
    0 < winding (normalizeCcw notched.polygon) point →
      PassesSome point (decomposePolygon notched.polygon) :=
  have ⟨exact, covers⟩ := decomposePolygon_exact notched (by decide)
  ⟨exact decomposable_notched, covers (by decide +kernel)⟩

/-! ### A polygon that is not star-shaped -/

/-- Two arms with a gap between them. The mean of the vertices is in the gap. -/
def twoArms : Polygon2D ℚ := [(0, 0), (6, 0), (6, 6), (4, 6), (4, 2), (2, 2), (2, 6), (0, 6)]

theorem twoArms_simple : Simple twoArms where
  long := by decide
  distinct := by decide
  apart := by
    have allowed : ∀ first ∈ edges twoArms, ∀ second ∈ edges twoArms, first ≠ second →
        BoxesAllow first second := by decide +kernel
    exact fun first member second among different =>
      (allowed first member second among different).meetInCorner

/-- A point in the gap passes the tests of a piece, and is not in the polygon. -/
theorem gap_passes : Simple twoArms ∧ PassesSome (7 / 2, 3) (decomposePolygon twoArms) ∧
    ¬ InClosed (7 / 2, 3) twoArms := by
  refine ⟨twoArms_simple, ?_, ?_⟩
  · have turned : normalizeCcw twoArms = twoArms := by decide +kernel
    have notConvex : isConvex2d twoArms = false := by decide +kernel
    have center : mean twoArms = (3, 7 / 2) := by norm_num [mean, twoArms]
    rw [passesSome_of_not_convex (by decide) (by rw [turned]; exact notConvex), turned, center]
    exact ⟨((6, 0), (6, 6)), by decide, by norm_num [InTriangle, cross]⟩
  · have unwound : winding twoArms (7 / 2, 3) = 0 := by decide +kernel
    have offLines : ∀ edge ∈ edges twoArms, cross edge ((7 / 2, 3) : ℚ × ℚ) ≠ 0 := by
      decide +kernel
    rintro (⟨edge, member, onEdge⟩ | winds)
    · exact offLines edge member (cross_of_mem_segment onEdge)
    · exact winds unwound

end MassL3.M5.Constraints
