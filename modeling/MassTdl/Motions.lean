/-
This file is a small library about points that move in a plane from node to node, straight and at a
constant speed between two nodes. It says where such a point is at a time, and which point of a
segment is nearest to the origin. Of anything that changes from node to node it says that a rate
kept by every step is kept over the whole way.

Nothing in it names a particular component.
-/

import Mathlib.Algebra.Group.Prod
import Mathlib.Algebra.Order.Field.Basic
import Mathlib.Tactic.Linarith
import Mathlib.Tactic.LinearCombination
import Mathlib.Tactic.FieldSimp

namespace Motions

/-! ### Segments -/

section Segments

variable {Scalar : Type} [Field Scalar]

/-- The point of a segment that divides it in a given ratio. -/
def between (start finish : Scalar × Scalar) (ratio : Scalar) : Scalar × Scalar :=
  (start.1 + ratio * (finish.1 - start.1), start.2 + ratio * (finish.2 - start.2))

@[simp]
theorem between_zero (start finish : Scalar × Scalar) : between start finish 0 = start := by
  simp [between]

@[simp]
theorem between_one (start finish : Scalar × Scalar) : between start finish 1 = finish := by
  simp [between]

def normSq (point : Scalar × Scalar) : Scalar := point.1 * point.1 + point.2 * point.2

/-- The ratio at which the line through a segment is nearest to the origin. -/
def nearestRatio (start finish : Scalar × Scalar) : Scalar :=
  -(start.1 * (finish.1 - start.1) + start.2 * (finish.2 - start.2)) / normSq (finish - start)

variable [LinearOrder Scalar] [IsStrictOrderedRing Scalar]

theorem normSq_nonneg (point : Scalar × Scalar) : 0 ≤ normSq point :=
  add_nonneg (mul_self_nonneg _) (mul_self_nonneg _)

theorem normSq_eq_zero {point : Scalar × Scalar} : normSq point = 0 ↔ point = 0 := by
  unfold normSq
  constructor
  · intro zero
    have first : point.1 * point.1 = 0 :=
      le_antisymm (by linarith [mul_self_nonneg point.2]) (mul_self_nonneg _)
    have second : point.2 * point.2 = 0 := by linarith
    exact Prod.ext (mul_self_eq_zero.mp first) (mul_self_eq_zero.mp second)
  · rintro rfl
    simp

/-- The distances to the origin of two points of a segment, compared. -/
theorem normSq_between_sub {start finish : Scalar × Scalar} (apart : start ≠ finish)
    (first second : Scalar) :
    normSq (between start finish first) - normSq (between start finish second) =
      normSq (finish - start) *
        ((first - second) * (first + second - 2 * nearestRatio start finish)) := by
  have lengthSq : normSq (finish - start) ≠ 0 := fun zero =>
    apart (sub_eq_zero.mp (normSq_eq_zero.mp zero)).symm
  have ratio : nearestRatio start finish * normSq (finish - start) =
      -(start.1 * (finish.1 - start.1) + start.2 * (finish.2 - start.2)) :=
    div_mul_cancel₀ _ lengthSq
  simp only [normSq, between, Prod.fst_sub, Prod.snd_sub] at ratio ⊢
  linear_combination (2 * (first - second)) * ratio

/-- Clamped to the segment, the ratio is that of its nearest point. -/
theorem normSq_between_nearest_le {start finish : Scalar × Scalar} (apart : start ≠ finish)
    {ratio : Scalar} (nonneg : 0 ≤ ratio) (atMost : ratio ≤ 1) :
    normSq (between start finish (max 0 (min (nearestRatio start finish) 1))) ≤
      normSq (between start finish ratio) := by
  rw [← sub_nonneg, normSq_between_sub apart]
  refine mul_nonneg (normSq_nonneg _) ?_
  obtain before | within := lt_or_ge (nearestRatio start finish) 0
  · rw [min_eq_left (by linarith), max_eq_left before.le]
    exact mul_nonneg (by linarith) (by linarith)
  · obtain inside | beyond := le_or_gt (nearestRatio start finish) 1
    · rw [min_eq_left inside, max_eq_right within]
      nlinarith [mul_self_nonneg (ratio - nearestRatio start finish)]
    · rw [min_eq_right beyond.le, max_eq_right zero_le_one]
      exact mul_nonneg_of_nonpos_of_nonpos (by linarith) (by linarith)

end Segments

/-! ### Nodes -/

/-- The legs of a motion, in their order. -/
def legs {Point : Type} (nodes : List Point) : List (Point × Point) := nodes.zip nodes.tail

@[simp]
theorem legs_cons_cons {Point : Type} (start finish : Point) (later : List Point) :
    legs (start :: finish :: later) = (start, finish) :: legs (finish :: later) := rfl

theorem legs_map {Point Other : Type} (read : Point → Other) (nodes : List Point) :
    legs (nodes.map read) = (legs nodes).map (Prod.map read read) := by
  unfold legs
  rw [← List.map_tail, List.zip_map]

theorem mem_of_mem_legs {Point : Type} {nodes : List Point} {leg : Point × Point}
    (member : leg ∈ legs nodes) : leg.1 ∈ nodes ∧ leg.2 ∈ nodes :=
  ⟨(List.of_mem_zip member).1, List.mem_of_mem_tail (List.of_mem_zip member).2⟩

/-- A time, and where the point is then. -/
structure Node (Scalar : Type) where
  time : Scalar
  place : Scalar × Scalar

section Places

variable {Scalar : Type} [Field Scalar]

/-- The place between two nodes at a time. -/
def placeOnLeg (start finish : Node Scalar) (time : Scalar) : Scalar × Scalar :=
  between start.place finish.place ((time - start.time) / (finish.time - start.time))

theorem placeOnLeg_start (start finish : Node Scalar) :
    placeOnLeg start finish start.time = start.place := by
  rw [placeOnLeg, sub_self, zero_div, between_zero]

theorem placeOnLeg_finish {start finish : Node Scalar} (moves : start.time ≠ finish.time) :
    placeOnLeg start finish finish.time = finish.place := by
  rw [placeOnLeg, div_self (sub_ne_zero.mpr moves.symm), between_one]

end Places

section Motion

variable {Scalar : Type} [LinearOrder Scalar]

/-- One node comes after the other. -/
def Ordered (nodes : List (Node Scalar)) : Prop :=
  nodes.Pairwise fun earlier later => earlier.time < later.time

/-- A leg takes time. -/
theorem Ordered.of_mem_legs {nodes : List (Node Scalar)} (ordered : Ordered nodes)
    {leg : Node Scalar × Node Scalar} (member : leg ∈ legs nodes) :
    leg.1.time < leg.2.time := by
  induction nodes with
  | nil => cases member
  | cons start rest inductionHypothesis =>
    cases rest with
    | nil => cases member
    | cons finish later =>
      obtain ⟨before, behind⟩ := List.pairwise_cons.mp ordered
      rcases List.mem_cons.mp member with rfl | inLater
      · exact before finish List.mem_cons_self
      · exact inductionHypothesis behind inLater

/-- No leg begins before the first node. -/
theorem Ordered.first_le {first : Node Scalar} {later : List (Node Scalar)}
    (ordered : Ordered (first :: later)) {node : Node Scalar} (member : node ∈ first :: later) :
    node = first ∨ first.time < node.time :=
  (List.mem_cons.mp member).imp_right ((List.pairwise_cons.mp ordered).1 node)

/-- Every time from the first node to the last is one of some leg. -/
theorem exists_leg {first : Node Scalar} {later : List (Node Scalar)} (several : later ≠ [])
    {time : Scalar} (fromFirst : first.time ≤ time)
    (toLast : ∀ last ∈ later.getLast?, time ≤ last.time) :
    ∃ leg ∈ legs (first :: later), leg.1.time ≤ time ∧ time ≤ leg.2.time := by
  induction later generalizing first with
  | nil => exact absurd rfl several
  | cons second rest inductionHypothesis =>
    rw [legs_cons_cons]
    by_cases onFirst : time ≤ second.time
    · exact ⟨(first, second), List.mem_cons_self, fromFirst, onFirst⟩
    · cases rest with
      | nil => exact absurd (toLast second rfl) onFirst
      | cons third rest =>
        obtain ⟨leg, member, within⟩ := inductionHypothesis (List.cons_ne_nil third rest)
          (le_of_not_ge onFirst) toLast
        exact ⟨leg, List.mem_cons_of_mem _ member, within⟩

variable [Field Scalar]

/-- The place at a time. Past the last node the point rests. -/
def placeAt : List (Node Scalar) → Scalar → Scalar × Scalar
  | [], _ => 0
  | [node], _ => node.place
  | start :: finish :: later, time =>
      if time ≤ finish.time then placeOnLeg start finish time else placeAt (finish :: later) time

/-- At a time of a leg, the point is on that leg. -/
theorem Ordered.placeAt_eq {nodes : List (Node Scalar)} (ordered : Ordered nodes)
    {leg : Node Scalar × Node Scalar} (member : leg ∈ legs nodes) {time : Scalar}
    (fromStart : leg.1.time ≤ time) (toFinish : time ≤ leg.2.time) :
    placeAt nodes time = placeOnLeg leg.1 leg.2 time := by
  induction nodes with
  | nil => cases member
  | cons start rest inductionHypothesis =>
    cases rest with
    | nil => cases member
    | cons finish later =>
      obtain ⟨before, behind⟩ := List.pairwise_cons.mp ordered
      rw [placeAt]
      rcases List.mem_cons.mp member with rfl | inLater
      · rw [if_pos toFinish]
      · split_ifs with onFirst
        · -- the time is that of the node between the two legs
          obtain same | after := Ordered.first_le behind (mem_of_mem_legs inLater).1
          · have now : time = finish.time := le_antisymm onFirst (same ▸ fromStart)
            rw [now, placeOnLeg_finish (before finish List.mem_cons_self).ne, ← same,
              placeOnLeg_start]
          · exact absurd (after.trans_le fromStart) (not_lt.mpr onFirst)
        · exact inductionHypothesis behind inLater

end Motion

/-! ### Rates -/

section Rates

variable {Scalar State : Type} [Field Scalar] [LinearOrder Scalar] [IsStrictOrderedRing Scalar]

/-- From one state to another there is no more change than a rate allows for the time between. -/
def WithinRate (time : State → Scalar) (change : State → State → Scalar) (rate : Scalar)
    (first second : State) : Prop :=
  change first second ≤ rate * (time second - time first)

variable {time : State → Scalar} {change : State → State → Scalar} {rate : Scalar}

section Triangle

variable (triangle : ∀ first second third,
  change first third ≤ change first second + change second third)

include triangle

theorem WithinRate.trans {first second third : State}
    (early : WithinRate time change rate first second)
    (late : WithinRate time change rate second third) :
    WithinRate time change rate first third := by
  unfold WithinRate at early late ⊢
  calc change first third ≤ change first second + change second third := triangle _ _ _
    _ ≤ rate * (time second - time first) + rate * (time third - time second) :=
      add_le_add early late
    _ = rate * (time third - time first) := by
      rw [← mul_add, add_comm, sub_add_sub_cancel]

/-- Changes add up to no less than the whole change, so a rate that is kept from each state to the
next is kept between any two. -/
theorem isChain_withinRate_iff (states : List State) :
    states.IsChain (WithinRate time change rate) ↔
      states.Pairwise (WithinRate time change rate) := by
  have composed : Trans (WithinRate time change rate) (WithinRate time change rate)
      (WithinRate time change rate) := ⟨WithinRate.trans triangle⟩
  exact List.isChain_iff_pairwise

end Triangle

end Rates

end Motions
