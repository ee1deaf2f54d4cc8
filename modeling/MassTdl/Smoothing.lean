/-
This file is a small library about exponential smoothing. A mean is carried along a list of
samples, and each of them moves it by a fixed share of the way to itself, to a value between the
two. For a share strictly between zero and one the mean tells lists apart of which one is nowhere
smaller than the other.

Nothing in it names a particular mean.
-/

import Mathlib.Analysis.Convex.Segment
import Mathlib.LinearAlgebra.AffineSpace.Ordered

namespace Smoothing

open AffineMap

variable {Number : Type} [Field Number] {share : Number}

/-- The share of the sample and the rest of the mean. -/
theorem lineMap_eq_weighted (mean sample share : Number) :
    lineMap mean sample share = share * sample + (1 - share) * mean := by
  rw [lineMap_apply_ring, add_comm]

/-- The mean after a list of samples. -/
def smoothed (share start : Number) (samples : List Number) : Number :=
  samples.foldl (fun mean sample => lineMap mean sample share) start

variable [LinearOrder Number] [IsStrictOrderedRing Number]

/-- A share moves a mean to between it and the sample. -/
theorem lineMap_mem_uIcc (mean sample : Number) (nonneg : 0 ≤ share) (atMost : share ≤ 1) :
    lineMap mean sample share ∈ Set.uIcc mean sample :=
  segment_eq_uIcc mean sample ▸ lineMap_mem_segment Number mean sample ⟨nonneg, atMost⟩

variable {start other : Number} {samples greater : List Number}

/-- Greater samples have the same mean only if they are the same. -/
theorem smoothed_eq_iff (positive : 0 < share) (below : share < 1) (order : start ≤ other)
    (pointwise : List.Forall₂ (· ≤ ·) samples greater) :
    smoothed share start samples = smoothed share other greater ↔
      start = other ∧ samples = greater := by
  refine ⟨fun same => ?_, fun ⟨starts, lists⟩ => starts ▸ lists ▸ rfl⟩
  induction pointwise generalizing start other with
  | nil => exact ⟨same, rfl⟩
  | @cons sample great _ _ first _ inductionHypothesis =>
    obtain ⟨moved, rest⟩ := inductionHypothesis
      (lineMap_mono_endpoints order first positive.le below.le) same
    have starts : start = other := by
      by_contra differ
      have less := (lineMap_strict_mono_left (lt_of_le_of_ne order differ) below).trans_le
        (lineMap_mono_right first positive.le)
      exact absurd moved less.ne
    have samples : sample = great := by
      by_contra differ
      have less := (lineMap_mono_left order below.le).trans_lt
        (lineMap_strict_mono_right (lt_of_le_of_ne first differ) positive)
      exact absurd moved less.ne
    exact ⟨starts, by rw [samples, rest]⟩

end Smoothing
