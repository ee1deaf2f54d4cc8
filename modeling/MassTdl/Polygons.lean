/-
This file is a small library about polygons in the plane. A polygon is the list of its vertices in
their order, the last of which is joined to the first. A point lies inside if the ray from it to
the right crosses an odd number of edges, and on the boundary if it lies on an edge.

The winding number of a polygon around a point is the sum of the winding numbers of the triangles
that the polygon is fanned out into from any center. A triangle that turns to the left winds around
the points within, and around some points of its sides, so that two triangles with a common side
leave none out.

Nothing in it names a particular system of coordinates.
-/

import Mathlib.Algebra.BigOperators.Group.List.Basic
import Mathlib.Algebra.Order.Field.Basic
import Mathlib.Algebra.Order.Ring.Int
import Mathlib.Algebra.Ring.Parity
import Mathlib.Analysis.Convex.Segment
import Mathlib.Data.List.Rotate
import Mathlib.Tactic.Common
import Mathlib.Tactic.FieldSimp
import Mathlib.Tactic.Linarith
import Mathlib.Tactic.LinearCombination

namespace Polygons

variable {K : Type} [Field K] [LinearOrder K]

/-! ### Edges -/

/-- The edges of a polygon, from each vertex to the next. -/
def edges (vertices : List (K × K)) : List ((K × K) × (K × K)) :=
  vertices.zip (vertices.rotate 1)

/-- The ray from a point to the right crosses an edge: one end lies above the point and the other
does not, and the edge passes to its right. -/
def Crosses (point : K × K) (edge : (K × K) × (K × K)) : Prop :=
  (point.2 < edge.1.2 ∧ edge.2.2 ≤ point.2 ∨ edge.1.2 ≤ point.2 ∧ point.2 < edge.2.2) ∧
    point.1 <
      edge.1.1 + (point.2 - edge.1.2) / (edge.2.2 - edge.1.2) * (edge.2.1 - edge.1.1)

instance (point : K × K) (edge : (K × K) × (K × K)) : Decidable (Crosses point edge) :=
  inferInstanceAs (Decidable ((_ ∨ _) ∧ _))

/-- The even-odd rule. -/
def Inside (point : K × K) (vertices : List (K × K)) : Prop :=
  Odd ((edges vertices).countP (Crosses point ·))

def OnBoundary (point : K × K) (vertices : List (K × K)) : Prop :=
  ∃ edge ∈ edges vertices, point ∈ segment K edge.1 edge.2

/-! ### Rectangles -/

/-- The rectangle between two corners. -/
def rectangle (low high : K × K) : List (K × K) :=
  [(low.1, low.2), (high.1, low.2), (high.1, high.2), (low.1, high.2)]

/-- Only the right side of a rectangle is crossed from within. -/
theorem inside_rectangle {low high point : K × K} (right : low.1 < point.1)
    (left : point.1 < high.1) (above : low.2 < point.2) (below : point.2 < high.2) :
    Inside point (rectangle low high) := by
  have bottomFree : ¬ Crosses point ((low.1, low.2), (high.1, low.2)) := by
    rintro ⟨⟨up, -⟩ | ⟨-, up⟩, -⟩
    · exact lt_asymm above up
    · exact lt_asymm above up
  have rightCrossed : Crosses point ((high.1, low.2), (high.1, high.2)) := by
    refine ⟨.inr ⟨above.le, below⟩, ?_⟩
    simpa using left
  have topFree : ¬ Crosses point ((high.1, high.2), (low.1, high.2)) := by
    rintro ⟨⟨-, down⟩ | ⟨down, -⟩, -⟩
    · exact not_lt.mpr down below
    · exact not_lt.mpr down below
  have leftFree : ¬ Crosses point ((low.1, high.2), (low.1, low.2)) := by
    rintro ⟨-, beyond⟩
    refine lt_asymm right ?_
    simpa using beyond
  have once : (edges (rectangle low high)).countP (Crosses point ·) = 1 := by
    simp [edges, rectangle, bottomFree, rightCrossed, topFree, leftFree]
  rw [Inside, once]
  exact odd_one

/-! ### Sides and crossings -/

/-- A directed edge. -/
abbrev Edge (K : Type) := (K × K) × (K × K)

/-- Twice the signed area between an edge and a point. It is positive to the left of the edge. -/
def cross (edge : Edge K) (point : K × K) : K :=
  (edge.2.1 - edge.1.1) * (point.2 - edge.1.2) - (edge.2.2 - edge.1.2) * (point.1 - edge.1.1)

/-- How an edge crosses the ray from a point to the right: upward, downward, or not. Of its ends
the edge has the lower one only. -/
def crossing (point : K × K) (edge : Edge K) : Int :=
  if edge.1.2 ≤ point.2 ∧ point.2 < edge.2.2 ∧ 0 < cross edge point then 1
  else if edge.2.2 ≤ point.2 ∧ point.2 < edge.1.2 ∧ cross edge point < 0 then -1
  else 0

/-- How often a polygon winds around a point, to the left. -/
def winding (vertices : List (K × K)) (point : K × K) : Int :=
  ((edges vertices).map (crossing point)).sum

/-- The closed polygon: its boundary, and the points it winds around. -/
def InClosed (point : K × K) (vertices : List (K × K)) : Prop :=
  OnBoundary point vertices ∨ winding vertices point ≠ 0

section Sides

variable [IsStrictOrderedRing K]

omit [LinearOrder K] [IsStrictOrderedRing K] in
theorem cross_swap (edge : Edge K) (point : K × K) : cross edge.swap point = -cross edge point := by
  simp only [cross, Prod.fst_swap, Prod.snd_swap]
  ring

/-- An edge that is walked the other way is crossed the other way. -/
theorem crossing_swap (point : K × K) (edge : Edge K) :
    crossing point edge.swap = -crossing point edge := by
  unfold crossing
  rw [cross_swap]
  simp only [Prod.fst_swap, Prod.snd_swap, Left.neg_pos_iff, Left.neg_neg_iff]
  by_cases up : edge.1.2 ≤ point.2 ∧ point.2 < edge.2.2 ∧ 0 < cross edge point
  · have notDown : ¬ (edge.2.2 ≤ point.2 ∧ point.2 < edge.1.2 ∧ cross edge point < 0) :=
      fun down => not_lt.mpr down.1 up.2.1
    rw [if_neg notDown, if_pos up, if_pos up]
  · rw [if_neg up, if_neg up]
    split_ifs <;> rfl

end Sides

/-! ### The edges of a polygon -/

omit [Field K] [LinearOrder K] in
theorem map_fst_edges (vertices : List (K × K)) : (edges vertices).map Prod.fst = vertices :=
  List.map_fst_zip (by simp)

omit [Field K] [LinearOrder K] in
theorem map_snd_edges (vertices : List (K × K)) :
    (edges vertices).map Prod.snd = vertices.rotate 1 :=
  List.map_snd_zip (by simp)

omit [Field K] [LinearOrder K] in
theorem mem_of_mem_edges {vertices : List (K × K)} {edge : Edge K}
    (member : edge ∈ edges vertices) : edge.1 ∈ vertices ∧ edge.2 ∈ vertices :=
  ⟨(List.of_mem_zip member).1, List.mem_rotate.mp (List.of_mem_zip member).2⟩

omit [Field K] [LinearOrder K] in
/-- What is the difference of its ends adds up to nothing over all edges. -/
theorem sum_edges_sub {Sum : Type} [AddCommGroup Sum] (value : K × K → Sum)
    (vertices : List (K × K)) :
    ((edges vertices).map fun edge => value edge.1 - value edge.2).sum = 0 := by
  have firsts : ((edges vertices).map fun edge => value edge.1) = vertices.map value := by
    rw [← map_fst_edges vertices, List.map_map, map_fst_edges]
    rfl
  have seconds : ((edges vertices).map fun edge => value edge.2) =
      (vertices.rotate 1).map value := by
    rw [← map_snd_edges vertices, List.map_map]
    rfl
  have difference : ((edges vertices).map fun edge => value edge.1 - value edge.2).sum =
      ((edges vertices).map fun edge => value edge.1).sum -
        ((edges vertices).map fun edge => value edge.2).sum :=
    Multiset.sum_map_sub (m := (edges vertices : Multiset (Edge K)))
  rw [difference, firsts, seconds, sub_eq_zero]
  exact ((List.rotate_perm vertices 1).map value).sum_eq.symm

omit [Field K] [LinearOrder K] in
theorem mem_edges_of_getElem? {vertices : List (K × K)} {i : Nat} {start finish : K × K}
    (starts : vertices[i]? = some start)
    (finishes : vertices[(i + 1) % vertices.length]? = some finish) :
    (start, finish) ∈ edges vertices := by
  have inRange := (List.getElem?_eq_some_iff.mp starts).1
  refine List.mem_iff_getElem?.mpr ⟨i, ?_⟩
  rw [edges, List.getElem?_zip_eq_some, List.getElem?_rotate inRange]
  exact ⟨starts, finishes⟩

omit [Field K] [LinearOrder K] in
/-- Where some vertices have a property and some have not, it is lost along an edge. -/
theorem exists_edge_of_change {vertices : List (K × K)} {property : K × K → Prop}
    (has : ∃ vertex ∈ vertices, property vertex) (lacks : ∃ vertex ∈ vertices, ¬ property vertex) :
    ∃ edge ∈ edges vertices, property edge.1 ∧ ¬ property edge.2 := by
  by_contra kept
  obtain ⟨holder, hasMember, holds⟩ := has
  obtain ⟨lacker, lacksMember, fails⟩ := lacks
  obtain ⟨i, atI⟩ := List.mem_iff_getElem?.mp hasMember
  obtain ⟨j, atJ⟩ := List.mem_iff_getElem?.mp lacksMember
  have inRange := (List.getElem?_eq_some_iff.mp atI).1
  have jInRange := (List.getElem?_eq_some_iff.mp atJ).1
  have onward (k : Nat) : ∃ vertex, vertices[(i + k) % vertices.length]? = some vertex ∧
      property vertex := by
    induction k with
    | zero => exact ⟨holder, by rw [Nat.add_zero, Nat.mod_eq_of_lt inRange, atI], holds⟩
    | succ k inductionHypothesis =>
      obtain ⟨start, starts, startHolds⟩ := inductionHypothesis
      have below : (i + (k + 1)) % vertices.length < vertices.length := Nat.mod_lt _ (by omega)
      obtain ⟨finish, finishes⟩ : ∃ finish, vertices[(i + (k + 1)) % vertices.length]? =
          some finish := ⟨_, List.getElem?_eq_getElem below⟩
      refine ⟨finish, finishes, ?_⟩
      by_contra lost
      refine kept ⟨(start, finish), mem_edges_of_getElem? starts ?_, startHolds, lost⟩
      rw [Nat.mod_add_mod, Nat.add_assoc]
      exact finishes
  obtain ⟨vertex, atIndex, holdsThere⟩ := onward (j + vertices.length - i)
  have index : (i + (j + vertices.length - i)) % vertices.length = j := by
    rw [show i + (j + vertices.length - i) = j + vertices.length by omega, Nat.add_mod_right,
      Nat.mod_eq_of_lt jInRange]
  rw [index, atJ] at atIndex
  exact fails (Option.some.inj atIndex ▸ holdsThere)

/-! ### Fans -/

section Fans

variable (center point : K × K)

/-- The turns of the triangle of a center and an edge around a point. -/
def fanWinding (edge : Edge K) : Int :=
  crossing point (center, edge.1) + crossing point edge + crossing point (edge.2, center)

variable [IsStrictOrderedRing K]

/-- The winding number of a polygon is the sum of those of the triangles of a fan. -/
theorem winding_eq_sum_fanWinding (vertices : List (K × K)) :
    winding vertices point = ((edges vertices).map (fanWinding center point)).sum := by
  have spokes := sum_edges_sub (fun vertex => crossing point (center, vertex)) vertices
  have triangle (edge : Edge K) : fanWinding center point edge =
      crossing point edge +
        (crossing point (center, edge.1) - crossing point (center, edge.2)) := by
    have back : crossing point (edge.2, center) = -crossing point (center, edge.2) :=
      crossing_swap point (center, edge.2)
    rw [fanWinding, back]
    ring
  rw [funext triangle, List.sum_map_add, spokes, add_zero, winding]

end Fans

/-! ### Triangles -/

section Turns

/-- A crossing by the heights of both ends over the point, and the side the point is on. -/
def rise (low high side : K) : Int :=
  if low ≤ 0 ∧ 0 < high ∧ 0 < side then 1 else if high ≤ 0 ∧ 0 < low ∧ side < 0 then -1 else 0

/-- The turns of a triangle around a point, by the heights of its corners and the sides of its
edges. -/
def turns (c a b x y z : K) : Int := rise c a x + rise a b y + rise b c z

variable {c a b x y z low high : K}

theorem rise_up (lowBelow : low ≤ 0) (highAbove : 0 < high) (side : K) :
    rise low high side = if 0 < side then 1 else 0 := by
  unfold rise
  simp [lowBelow, highAbove, not_lt.mpr lowBelow]

theorem rise_down (lowAbove : 0 < low) (highBelow : high ≤ 0) (side : K) :
    rise low high side = if side < 0 then -1 else 0 := by
  unfold rise
  simp [lowAbove, highBelow, not_le.mpr lowAbove]

theorem rise_below (lowBelow : low ≤ 0) (highBelow : high ≤ 0) (side : K) :
    rise low high side = 0 := by
  unfold rise
  simp [not_lt.mpr lowBelow, not_lt.mpr highBelow]

theorem rise_above (lowAbove : 0 < low) (highAbove : 0 < high) (side : K) :
    rise low high side = 0 := by
  unfold rise
  simp [not_le.mpr lowAbove, not_le.mpr highAbove]

theorem turns_rotate (c a b x y z : K) : turns c a b x y z = turns a b c y z x := by
  unfold turns
  ring

/-- One corner is above the point. -/
theorem turns_lone_high (cBelow : c ≤ 0) (aBelow : a ≤ 0) (bAbove : 0 < b) (x y z : K) :
    turns c a b x y z = (if 0 < y then 1 else 0) + if z < 0 then -1 else 0 := by
  rw [turns, rise_below cBelow aBelow, rise_up aBelow bAbove, rise_down bAbove cBelow, zero_add]

/-- One corner is not above the point. -/
theorem turns_lone_low (cBelow : c ≤ 0) (aAbove : 0 < a) (bAbove : 0 < b) (x y z : K) :
    turns c a b x y z = (if 0 < x then 1 else 0) + if z < 0 then -1 else 0 := by
  rw [turns, rise_up cBelow aAbove, rise_above aAbove bAbove, rise_down bAbove cBelow, add_zero]

/-- How a triangle can turn around a point, which is where the corners have the weights `y`, `z`
and `x`. -/
def Sound (c a b x y z : K) : Prop :=
  turns c a b x y z = 0 ∧ (0 < x → 0 < y → 0 < z → c = 0 ∧ a = 0 ∧ b = 0) ∨
    turns c a b x y z = 1 ∧ 0 ≤ x ∧ 0 ≤ y ∧ 0 ≤ z ∧ 0 < x + y + z ∨
    turns c a b x y z = -1 ∧ x + y + z < 0

variable [IsStrictOrderedRing K]

theorem Sound.rotate (sound : Sound a b c y z x) : Sound c a b x y z := by
  unfold Sound at sound ⊢
  rw [turns_rotate]
  obtain ⟨none, flat⟩ | ⟨left, yNonneg, zNonneg, xNonneg, area⟩ | ⟨right, area⟩ := sound
  · exact .inl ⟨none, fun xPos yPos zPos =>
      have ⟨aZero, bZero, cZero⟩ := flat yPos zPos xPos
      ⟨cZero, aZero, bZero⟩⟩
  · exact .inr (.inl ⟨left, xNonneg, yNonneg, zNonneg, by linarith⟩)
  · exact .inr (.inr ⟨right, by linarith⟩)

/-- With two corners on one side of the ray and the third one, `b`, on the other. -/
theorem sound_lone_high (balance : y * c + z * a + x * b = 0) (cBelow : c ≤ 0) (aBelow : a ≤ 0)
    (bAbove : 0 < b) : Sound c a b x y z := by
  unfold Sound
  rw [turns_lone_high cBelow aBelow bAbove]
  split_ifs with yPos zNeg zNeg
  · exact .inl ⟨rfl, fun _ _ zPos => absurd zPos zNeg.le.not_gt⟩
  · have zNonneg := not_lt.mp zNeg
    have xNonneg : 0 ≤ x := by
      refine nonneg_of_mul_nonneg_left ?_ bAbove
      nlinarith [mul_nonneg yPos.le (neg_nonneg.mpr cBelow),
        mul_nonneg zNonneg (neg_nonneg.mpr aBelow)]
    exact .inr (.inl ⟨rfl, xNonneg, yPos.le, zNonneg, by linarith⟩)
  · have yNonpos := not_lt.mp yPos
    have xNonpos : x ≤ 0 := by
      refine nonpos_of_mul_nonpos_left ?_ bAbove
      nlinarith [mul_nonneg_of_nonpos_of_nonpos yNonpos cBelow,
        mul_nonneg_of_nonpos_of_nonpos zNeg.le aBelow]
    exact .inr (.inr ⟨rfl, by linarith⟩)
  · exact .inl ⟨rfl, fun _ yPos' => absurd yPos' yPos⟩

theorem sound_lone_low (balance : y * c + z * a + x * b = 0) (cBelow : c ≤ 0) (aAbove : 0 < a)
    (bAbove : 0 < b) : Sound c a b x y z := by
  unfold Sound
  rw [turns_lone_low cBelow aAbove bAbove]
  split_ifs with xPos zNeg zNeg
  · exact .inl ⟨rfl, fun _ _ zPos => absurd zPos zNeg.le.not_gt⟩
  · have zNonneg := not_lt.mp zNeg
    have yNonneg : 0 ≤ y := by
      by_contra yNeg
      nlinarith [mul_nonneg_of_nonpos_of_nonpos (not_le.mp yNeg).le cBelow,
        mul_nonneg zNonneg aAbove.le, mul_pos xPos bAbove]
    exact .inr (.inl ⟨rfl, xPos.le, yNonneg, zNonneg, by linarith⟩)
  · have xNonpos := not_lt.mp xPos
    have yNonpos : y ≤ 0 := by
      by_contra yPos
      nlinarith [mul_nonneg (not_le.mp yPos).le (neg_nonneg.mpr cBelow),
        mul_pos (neg_pos.mpr zNeg) aAbove, mul_nonneg (neg_nonneg.mpr xNonpos) bAbove.le]
    exact .inr (.inr ⟨rfl, by linarith⟩)
  · exact .inl ⟨rfl, fun xPos' => absurd xPos' xPos⟩

/-- A triangle turns around the points within, to the side to which its corners turn. -/
theorem sound_of_balance (balance : y * c + z * a + x * b = 0) : Sound c a b x y z := by
  have first : z * a + x * b + y * c = 0 := by linarith
  have second : x * b + y * c + z * a = 0 := by linarith
  obtain cBelow | cAbove := le_or_gt c 0 <;> obtain aBelow | aAbove := le_or_gt a 0 <;>
    obtain bBelow | bAbove := le_or_gt b 0
  · -- no corner is above the point, so a point within is on the level of all of them
    refine .inl ⟨?_, fun xPos yPos zPos => ?_⟩
    · rw [turns, rise_below cBelow aBelow, rise_below aBelow bBelow, rise_below bBelow cBelow]
      rfl
    · have cTerm := mul_nonneg yPos.le (neg_nonneg.mpr cBelow)
      have aTerm := mul_nonneg zPos.le (neg_nonneg.mpr aBelow)
      have bTerm := mul_nonneg xPos.le (neg_nonneg.mpr bBelow)
      refine ⟨?_, ?_, ?_⟩
      · exact (mul_eq_zero.mp (by linarith : y * c = 0)).resolve_left yPos.ne'
      · exact (mul_eq_zero.mp (by linarith : z * a = 0)).resolve_left zPos.ne'
      · exact (mul_eq_zero.mp (by linarith : x * b = 0)).resolve_left xPos.ne'
  · exact sound_lone_high balance cBelow aBelow bAbove
  · exact (sound_lone_high second bBelow cBelow aAbove).rotate.rotate
  · exact sound_lone_low balance cBelow aAbove bAbove
  · exact (sound_lone_high first aBelow bBelow cAbove).rotate
  · exact (sound_lone_low first aBelow bAbove cAbove).rotate
  · exact (sound_lone_low second bBelow cAbove aAbove).rotate.rotate
  · refine .inl ⟨?_, fun xPos yPos zPos => ?_⟩
    · rw [turns, rise_above cAbove aAbove, rise_above aAbove bAbove, rise_above bAbove cAbove]
      rfl
    · linarith [mul_pos yPos cAbove, mul_pos zPos aAbove, mul_pos xPos bAbove]

/-- A point between two corners `c` and `a` of two triangles, on either side of the line through
them. At least one of them turns around it. -/
theorem turns_spoke {h x' y' : K} (balance : y * c + z * a = 0) (yPos : 0 < y) (zPos : 0 < z)
    (xPos' : 0 < x') (yPos' : 0 < y') (apart : c = 0 → a = 0 → b ≤ 0 → 0 < h) :
    turns c h a x' y' 0 ≠ 0 ∨ turns c a b 0 y z ≠ 0 := by
  obtain cBelow | cLevel | cAbove := lt_trichotomy c 0
  · -- the spoke goes up, so the triangle before it has the point
    have aAbove : 0 < a := by
      by_contra aBelow
      nlinarith [mul_pos yPos (neg_pos.mpr cBelow),
        mul_nonneg zPos.le (neg_nonneg.mpr (not_lt.mp aBelow))]
    refine .inl ?_
    obtain hBelow | hAbove := le_or_gt h 0
    · rw [turns_lone_high cBelow.le hBelow aAbove, if_pos yPos', if_neg (lt_irrefl 0)]
      exact one_ne_zero
    · rw [turns_lone_low cBelow.le hAbove aAbove, if_pos xPos', if_neg (lt_irrefl 0)]
      exact one_ne_zero
  · have aLevel : a = 0 := by
      rw [cLevel, mul_zero, zero_add] at balance
      exact (mul_eq_zero.mp balance).resolve_left zPos.ne'
    obtain bBelow | bAbove := le_or_gt b 0
    · refine .inl ?_
      rw [turns_rotate, turns_rotate,
        turns_lone_high aLevel.le cLevel.le (apart cLevel aLevel bBelow),
        if_pos xPos', if_neg yPos'.not_gt]
      exact one_ne_zero
    · refine .inr ?_
      rw [turns_lone_high cLevel.le aLevel.le bAbove, if_pos yPos, if_neg zPos.not_gt]
      exact one_ne_zero
  · -- the spoke goes down, so the triangle after it has the point
    have aBelow : a < 0 := by
      by_contra aAbove
      nlinarith [mul_pos yPos cAbove, mul_nonneg zPos.le (not_lt.mp aAbove)]
    refine .inr ?_
    rw [turns_rotate]
    obtain bBelow | bAbove := le_or_gt b 0
    · rw [turns_lone_high aBelow.le bBelow cAbove, if_pos zPos, if_neg (lt_irrefl 0)]
      exact one_ne_zero
    · rw [turns_lone_low aBelow.le bAbove cAbove, if_pos yPos, if_neg (lt_irrefl 0)]
      exact one_ne_zero

end Turns

section Fans

variable [IsStrictOrderedRing K] {center point : K × K} {edge : Edge K}

theorem crossing_eq_rise (point : K × K) (edge : Edge K) :
    crossing point edge =
      rise (edge.1.2 - point.2) (edge.2.2 - point.2) (cross edge point) := by
  unfold crossing rise
  simp only [sub_nonpos, sub_pos]

theorem fanWinding_eq_turns (center point : K × K) (edge : Edge K) :
    fanWinding center point edge =
      turns (center.2 - point.2) (edge.1.2 - point.2) (edge.2.2 - point.2)
        (cross (center, edge.1) point) (cross edge point) (cross (edge.2, center) point) := by
  unfold fanWinding turns
  simp only [crossing_eq_rise]

/-- Twice the signed area of the triangle of a center and an edge. -/
def fanArea (center : K × K) (edge : Edge K) : K := cross edge center

/-- A point lies in the closed triangle of a center and an edge, if that turns to the left. -/
def InTriangle (center : K × K) (edge : Edge K) (point : K × K) : Prop :=
  0 ≤ cross (center, edge.1) point ∧ 0 ≤ cross edge point ∧ 0 ≤ cross (edge.2, center) point

omit [LinearOrder K] [IsStrictOrderedRing K] in
theorem fanArea_eq_add (center point : K × K) (edge : Edge K) :
    fanArea center edge =
      cross (center, edge.1) point + cross edge point + cross (edge.2, center) point := by
  unfold fanArea cross
  ring

omit [LinearOrder K] [IsStrictOrderedRing K] in
/-- A point is where the corners of a triangle have the opposite sides for their weights, as far
as another edge can tell. -/
theorem fanArea_mul_cross (center point : K × K) (edge other : Edge K) :
    fanArea center edge * cross other point =
      cross edge point * cross other center +
        cross (edge.2, center) point * cross other edge.1 +
        cross (center, edge.1) point * cross other edge.2 := by
  unfold fanArea cross
  ring

omit [LinearOrder K] [IsStrictOrderedRing K] in
theorem fanArea_smul_point (center point : K × K) (edge : Edge K) :
    fanArea center edge • point =
      cross edge point • center + cross (edge.2, center) point • edge.1 +
        cross (center, edge.1) point • edge.2 := by
  unfold fanArea cross
  refine Prod.ext ?_ ?_
  · simp only [Prod.fst_add, Prod.smul_fst, smul_eq_mul]
    ring
  · simp only [Prod.snd_add, Prod.smul_snd, smul_eq_mul]
    ring

theorem fan_sound (center point : K × K) (edge : Edge K) :
    Sound (center.2 - point.2) (edge.1.2 - point.2) (edge.2.2 - point.2)
      (cross (center, edge.1) point) (cross edge point) (cross (edge.2, center) point) := by
  refine sound_of_balance ?_
  unfold cross
  ring

/-- A triangle that turns to the left winds around points that lie in it, and around no other. -/
theorem fanWinding_of_pos (left : 0 < fanArea center edge) :
    0 ≤ fanWinding center point edge ∧
      (fanWinding center point edge ≠ 0 → InTriangle center edge point) := by
  have area := fanArea_eq_add center point edge
  rw [fanWinding_eq_turns]
  obtain ⟨none, -⟩ | ⟨once, first, second, third, -⟩ | ⟨-, right⟩ := fan_sound center point edge
  · rw [none]
    exact ⟨le_rfl, fun some => absurd rfl some⟩
  · rw [once]
    exact ⟨zero_le_one, fun _ => ⟨first, second, third⟩⟩
  · linarith

theorem fanWinding_of_nonpos (right : fanArea center edge ≤ 0) :
    fanWinding center point edge ≤ 0 := by
  have area := fanArea_eq_add center point edge
  rw [fanWinding_eq_turns]
  obtain ⟨none, -⟩ | ⟨-, -, -, -, left⟩ | ⟨once, -⟩ := fan_sound center point edge
  · rw [none]
  · linarith
  · rw [once]
    decide

/-- It winds once around a point strictly within. -/
theorem fanWinding_of_within (first : 0 < cross (center, edge.1) point)
    (second : 0 < cross edge point) (third : 0 < cross (edge.2, center) point) :
    fanWinding center point edge ≠ 0 := by
  rw [fanWinding_eq_turns]
  obtain ⟨-, flat⟩ | ⟨once, -⟩ | ⟨once, -⟩ := fan_sound center point edge
  · -- with all corners on the level of the point, it would be on all edges
    obtain ⟨centerLevel, firstLevel, -⟩ := flat first second third
    have level : edge.1.2 - center.2 = 0 := by linarith
    unfold cross at first
    dsimp only at first
    rw [level, show point.2 - center.2 = 0 by linarith] at first
    simp at first
  · rw [once]
    exact one_ne_zero
  · rw [once]
    decide

omit [LinearOrder K] [IsStrictOrderedRing K] in
/-- A point on a line is on it both ways. -/
theorem cross_swap_eq_zero {first second : K × K} (onLine : cross (first, second) point = 0) :
    cross (second, first) point = 0 :=
  (cross_swap (first, second) point).trans (neg_eq_zero.mpr onLine)

/-- Of two triangles that turn to the left and meet in a level spoke, one has its third corner
above. -/
theorem above_of_level_spoke {before corner after : K × K}
    (leftBefore : 0 < fanArea center (before, corner))
    (leftAfter : 0 < fanArea center (corner, after)) (centerLevel : center.2 - point.2 = 0)
    (cornerLevel : corner.2 - point.2 = 0) (below : after.2 - point.2 ≤ 0) :
    0 < before.2 - point.2 := by
  have afterHeight : fanArea center (corner, after) =
      (after.2 - point.2) * (corner.1 - center.1) := by
    unfold fanArea cross
    linear_combination (after.1 - corner.1) * centerLevel - (after.1 - center.1) * cornerLevel
  have beforeHeight : fanArea center (before, corner) =
      -(before.2 - point.2) * (corner.1 - center.1) := by
    unfold fanArea cross
    linear_combination (corner.1 - before.1) * centerLevel - (center.1 - before.1) * cornerLevel
  rw [afterHeight] at leftAfter
  rw [beforeHeight] at leftBefore
  have westward : corner.1 - center.1 < 0 := by
    by_contra eastward
    nlinarith [mul_nonneg (neg_nonneg.mpr below) (not_lt.mp eastward)]
  by_contra notAbove
  nlinarith [mul_nonneg (neg_nonneg.mpr (not_lt.mp notAbove)) (neg_nonneg.mpr westward.le)]

/-- Two triangles that meet in a spoke wind around a point of the spoke at least once. -/
theorem fanWinding_of_spoke {before corner after : K × K}
    (leftBefore : 0 < fanArea center (before, corner))
    (leftAfter : 0 < fanArea center (corner, after)) (onLine : cross (center, corner) point = 0)
    (beyond : 0 < cross (corner, after) point) (short : 0 < cross (after, center) point) :
    fanWinding center point (before, corner) ≠ 0 ∨
      fanWinding center point (corner, after) ≠ 0 := by
  have balance : cross (corner, after) point * (center.2 - point.2) +
      cross (after, center) point * (corner.2 - point.2) = 0 := by
    unfold cross at onLine ⊢
    linear_combination (-(after.2 - point.2)) * onLine
  have spoke : fanArea center (corner, after) * cross (center, before) point =
      cross (after, center) point * fanArea center (before, corner) := by
    rw [fanArea_mul_cross center point (corner, after), onLine]
    unfold fanArea cross
    ring
  have side : fanArea center (corner, after) * cross (before, corner) point =
      cross (corner, after) point * fanArea center (before, corner) := by
    rw [fanArea_mul_cross center point (corner, after), onLine]
    unfold fanArea cross
    ring
  have spokePos : 0 < cross (center, before) point :=
    (mul_pos_iff_of_pos_left leftAfter).mp (spoke ▸ mul_pos short leftBefore)
  have sidePos : 0 < cross (before, corner) point :=
    (mul_pos_iff_of_pos_left leftAfter).mp (side ▸ mul_pos beyond leftBefore)
  rw [fanWinding_eq_turns, fanWinding_eq_turns, cross_swap_eq_zero onLine, onLine]
  exact turns_spoke balance beyond short spokePos sidePos
    (above_of_level_spoke leftBefore leftAfter)

end Fans

end Polygons
