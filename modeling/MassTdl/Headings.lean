/-
This file is a small library about headings in degrees. A heading stands for all that differ from
it by whole turns. An arc is what a needle sweeps clockwise from a heading, and the turn from one
heading to another is the short way round, at most half a turn to either side. The two are
connected: a turn is the shortest way to a heading, so how far the middle of an arc is decides
whether the arc is met within reach, and how far its end is decides how far along it a turn can go,
unless the arc passes dead astern.

Nothing in it names a particular program.
-/

import Mathlib.Algebra.Order.Archimedean.Real.Basic
import Mathlib.Algebra.Order.ToIntervalMod
import Mathlib.Tactic.Linarith
import Mathlib.Tactic.Ring

namespace Headings

open AddCommGroup

noncomputable section

/-! ### Headings that differ by whole turns -/

variable {first second : ℝ}

theorem same_iff : first ≡ second [PMOD 360] ↔ ∃ turns : ℤ, second = first + turns * 360 := by
  rw [modEq_iff_zsmul]
  refine exists_congr fun turns => ?_
  rw [zsmul_eq_mul, eq_sub_iff_add_eq, eq_comm, add_comm]

/-- Less than a turn apart they are equal. -/
theorem eq_of_near (same : first ≡ second [PMOD 360]) (near : |second - first| < 360) :
    second = first := by
  obtain ⟨turns, equal⟩ := same_iff.mp same
  have none : turns = 0 := by
    rw [equal, add_sub_cancel_left, abs_mul, abs_of_pos (by norm_num : (0 : ℝ) < 360)] at near
    have small : |(turns : ℝ)| < 1 := by linarith
    rw [← Int.cast_abs] at small
    exact Int.abs_lt_one_iff.mp (by exact_mod_cast small)
  rw [equal, none, Int.cast_zero, zero_mul, add_zero]

/-- A turn of at most half a turn is the shortest of those that lead to the same heading. -/
theorem abs_le_of_same (short : |first| ≤ 180) (same : first ≡ second [PMOD 360]) :
    |first| ≤ |second| := by
  by_contra longer
  have equal : second = first := by
    refine eq_of_near same ?_
    have apart := abs_sub second first
    linarith
  exact longer (le_of_eq (congrArg abs equal.symm))

/-! ### The remainder of a division -/

/-- What is left of a number when its quotient is cut off towards zero. -/
def remainder (value modulus : ℝ) : ℝ :=
  value - modulus * (if 0 ≤ value / modulus then ⌊value / modulus⌋ else ⌈value / modulus⌉ : ℤ)

theorem remainder_same (value : ℝ) : remainder value 360 ≡ value [PMOD 360] :=
  same_iff.mpr ⟨if 0 ≤ value / 360 then ⌊value / 360⌋ else ⌈value / 360⌉, by
    unfold remainder
    ring⟩

theorem remainder_of_nonneg {value : ℝ} (nonneg : 0 ≤ value) :
    0 ≤ remainder value 360 ∧ remainder value 360 < 360 := by
  unfold remainder
  rw [if_pos (by positivity)]
  have below := Int.floor_le (value / 360)
  have above := Int.lt_floor_add_one (value / 360)
  constructor <;> linarith

theorem remainder_of_neg {value : ℝ} (negative : value < 0) :
    -360 < remainder value 360 ∧ remainder value 360 ≤ 0 := by
  unfold remainder
  rw [if_neg (not_le.mpr (div_neg_of_neg_of_pos negative (by norm_num)))]
  have below := Int.le_ceil (value / 360)
  have above := Int.ceil_lt_add_one (value / 360)
  constructor <;> linarith

/-! ### Sweeps -/

/-- How far a needle turns clockwise from one heading to another: at most a full turn, which is
what two headings span that differ by whole turns only. -/
def sweep (start last : ℝ) : ℝ :=
  if start = last then 0 else toIocMod (by norm_num : (0 : ℝ) < 360) 0 (last - start)

variable {start last : ℝ}

theorem sweep_bounds (start last : ℝ) : 0 ≤ sweep start last ∧ sweep start last ≤ 360 := by
  unfold sweep
  split_ifs with equal
  · norm_num
  · have within := toIocMod_mem_Ioc (by norm_num : (0 : ℝ) < 360) 0 (last - start)
    rw [zero_add] at within
    exact ⟨within.1.le, within.2⟩

/-- A sweep ends where it should. -/
theorem sweep_same (start last : ℝ) : start + sweep start last ≡ last [PMOD 360] := by
  unfold sweep
  split_ifs with equal
  · rw [add_zero, equal]
  · refine same_iff.mpr ⟨toIocDiv (by norm_num : (0 : ℝ) < 360) 0 (last - start), ?_⟩
    have split := toIocMod_add_toIocDiv_zsmul (by norm_num : (0 : ℝ) < 360) 0 (last - start)
    rw [zsmul_eq_mul] at split
    linarith

/-- Within a turn a sweep is a difference. -/
theorem sweep_of_le (ordered : start ≤ last) (near : last < start + 360) :
    sweep start last = last - start := by
  unfold sweep
  split_ifs with equal
  · rw [equal, sub_self]
  · refine (toIocMod_eq_self _).mpr ⟨?_, by linarith⟩
    exact sub_pos.mpr (lt_of_le_of_ne ordered equal)

/-! ### Arcs -/

/-- On the arc that a needle sweeps clockwise from a heading. -/
def OnArc (start width heading : ℝ) : Prop :=
  ∃ along, 0 ≤ along ∧ along ≤ width ∧ start + along ≡ heading [PMOD 360]

variable {width heading own : ℝ}

theorem onArc_start (nonneg : 0 ≤ width) : OnArc start width start :=
  ⟨0, le_refl 0, nonneg, by rw [add_zero]⟩

theorem onArc_last (nonneg : 0 ≤ width) : OnArc start width (start + width) :=
  ⟨width, nonneg, le_refl width, modEq_rfl⟩

theorem OnArc.congr {again other : ℝ} (on : OnArc start width heading)
    (sameStart : start ≡ again [PMOD 360]) (same : heading ≡ other [PMOD 360]) :
    OnArc again width other := by
  obtain ⟨along, nonneg, within, reached⟩ := on
  exact ⟨along, nonneg, within, ((sameStart.add_right along).symm.trans reached).trans same⟩

theorem onArc_congr {again other : ℝ} (sameStart : start ≡ again [PMOD 360])
    (same : heading ≡ other [PMOD 360]) :
    OnArc start width heading ↔ OnArc again width other :=
  ⟨fun on => on.congr sameStart same, fun on => on.congr sameStart.symm same.symm⟩

/-- Both ends of a sweep are on its arc. -/
theorem onArc_sweep (start last : ℝ) :
    OnArc start (sweep start last) start ∧ OnArc start (sweep start last) last :=
  ⟨onArc_start (sweep_bounds start last).1,
    (onArc_last (sweep_bounds start last).1).congr modEq_rfl (sweep_same start last)⟩

/-- Seen in a mirror an arc runs the other way. -/
theorem onArc_neg (start width heading : ℝ) :
    OnArc (-(start + width)) width (-heading) ↔ OnArc start width heading := by
  have mirror : ∀ {first last swept : ℝ}, OnArc first width swept →
      first + width + last ≡ 0 [PMOD 360] → OnArc last width (-swept) := by
    rintro first last swept ⟨along, nonneg, within, reached⟩ opposite
    refine ⟨width - along, by linarith, by linarith, ?_⟩
    obtain ⟨turns, equal⟩ := same_iff.mp (opposite.sub reached)
    exact same_iff.mpr ⟨turns, by linarith⟩
  constructor
  · intro on
    rw [← neg_neg heading]
    exact mirror on (by rw [show -(start + width) + width + start = 0 by ring])
  · intro on
    exact mirror on (by rw [show start + width + -(start + width) = 0 by ring])

/-- Nothing lies off a full circle. -/
theorem onArc_full (start heading : ℝ) : OnArc start 360 heading := by
  refine ⟨toIocMod (by norm_num : (0 : ℝ) < 360) 0 (heading - start), ?_, ?_, ?_⟩
  · exact (toIocMod_mem_Ioc _ _ _).1.le
  · exact (toIocMod_mem_Ioc (by norm_num : (0 : ℝ) < 360) 0 _).2.trans (by norm_num)
  · refine same_iff.mpr ⟨toIocDiv (by norm_num : (0 : ℝ) < 360) 0 (heading - start), ?_⟩
    have split := toIocMod_add_toIocDiv_zsmul (by norm_num : (0 : ℝ) < 360) 0 (heading - start)
    rw [zsmul_eq_mul] at split
    linarith

/-! ### Reach -/

/-- Some heading within reach of the own one is on the arc. -/
def MeetsArc (start width own reach : ℝ) : Prop :=
  ∃ turn, |turn| ≤ reach ∧ OnArc start width (own + turn)

theorem MeetsArc.mono {reach wider farther : ℝ} (meets : MeetsArc start width own reach)
    (width_le : width ≤ wider) (reach_le : reach ≤ farther) :
    MeetsArc start wider own farther := by
  obtain ⟨turn, within, along, low, high, reached⟩ := meets
  exact ⟨turn, within.trans reach_le, along, low, high.trans width_le, reached⟩

/-- An arc is within reach when its middle is, with half its width to spare. -/
theorem meetsArc_iff {centre reach : ℝ} (nonneg : 0 ≤ width) (reaching : 0 ≤ reach)
    (short : |centre| ≤ 180) (middle : start + width / 2 ≡ own + centre [PMOD 360]) :
    MeetsArc start width own reach ↔ |centre| ≤ width / 2 + reach := by
  constructor
  · rintro ⟨turn, within, along, low, high, reached⟩
    have same : centre ≡ turn + (width / 2 - along) [PMOD 360] := by
      obtain ⟨turns, equal⟩ := same_iff.mp (middle.symm.sub reached.symm)
      exact same_iff.mpr ⟨turns, by linarith⟩
    refine (abs_le_of_same short same).trans ((abs_add_le _ _).trans ?_)
    have halfway : |width / 2 - along| ≤ width / 2 := abs_le.mpr ⟨by linarith, by linarith⟩
    linarith
  · intro within
    have reached : ∀ turn along, 0 ≤ along → along ≤ width → along = turn - centre + width / 2 →
        OnArc start width (own + turn) := by
      rintro turn along low high rfl
      refine ⟨_, low, high, ?_⟩
      obtain ⟨turns, equal⟩ := same_iff.mp middle
      exact same_iff.mpr ⟨turns, by linarith⟩
    rcases abs_cases centre with ⟨isCentre, side⟩ | ⟨isCentre, side⟩ <;> rw [isCentre] at within
    · by_cases inside : centre ≤ width / 2
      · exact ⟨0, by rwa [abs_zero], reached 0 (width / 2 - centre) (by linarith)
          (by linarith) (by ring)⟩
      · exact ⟨centre - width / 2, by rw [abs_of_pos (by linarith)]; linarith,
          reached _ 0 le_rfl nonneg (by ring)⟩
    · by_cases inside : -centre ≤ width / 2
      · exact ⟨0, by rwa [abs_zero], reached 0 (width / 2 - centre) (by linarith)
          (by linarith) (by ring)⟩
      · exact ⟨centre + width / 2, by rw [abs_of_neg (by linarith)]; linarith,
          reached _ width nonneg le_rfl (by ring)⟩

/-! ### Sides -/

inductive Side where
  | starboard
  | port
  deriving DecidableEq

/-- Clockwise, or the other way. -/
def Side.sign : Side → ℝ
  | .starboard => 1
  | .port => -1

theorem Side.abs_sign_mul (side : Side) (turn : ℝ) : |side.sign * turn| = |turn| := by
  cases side
  · rw [Side.sign, one_mul]
  · rw [Side.sign, neg_mul, one_mul, abs_neg]

/-- At most half a turn to one side of the own heading. -/
def OnSide (side : Side) (own heading : ℝ) : Prop := OnArc 0 180 (side.sign * (heading - own))

theorem OnSide.congr {side : Side} {other : ℝ} (on : OnSide side own heading)
    (same : heading ≡ other [PMOD 360]) : OnSide side own other := by
  refine OnArc.congr on modEq_rfl ?_
  obtain ⟨turns, equal⟩ := same_iff.mp same
  cases side with
  | starboard => exact same_iff.mpr ⟨turns, by simp only [Side.sign]; linarith⟩
  | port => exact same_iff.mpr ⟨-turns, by simp only [Side.sign]; push_cast; linarith⟩

/-- Less than a full turn to one side lies on that side up to half a turn, and on the other from
there on. -/
theorem onSide_iff {side towards : Side} {turn : ℝ} (positive : 0 < turn) (within : turn < 360) :
    OnSide side own (own + towards.sign * turn) ↔
      side = towards ∧ turn ≤ 180 ∨ side ≠ towards ∧ 180 ≤ turn := by
  have near : ∀ {along other : ℝ}, 0 ≤ along → along ≤ 180 → 0 < other → other < 360 →
      0 + along ≡ other [PMOD 360] → other = 0 + along := fun low high above below same =>
    eq_of_near same (abs_lt.mpr ⟨by linarith, by linarith⟩)
  have same : ∀ {value : ℝ}, OnArc 0 180 value ↔ OnArc 0 180 (value + 360) := fun {value} =>
    onArc_congr modEq_rfl (same_iff.mpr ⟨1, by rw [Int.cast_one, one_mul]⟩)
  unfold OnSide
  cases side <;> cases towards <;>
    simp only [Side.sign, ne_eq, not_true_eq_false, reduceCtorEq, not_false_eq_true, true_and,
      false_and, or_false, false_or, one_mul, neg_mul, neg_neg, add_sub_cancel_left]
  case starboard.starboard | port.port =>
    constructor
    · rintro ⟨along, low, high, reached⟩
      linarith [near low high positive within reached]
    · exact fun upTo => ⟨turn, positive.le, upTo, by rw [zero_add]⟩
  case starboard.port | port.starboard =>
    rw [same]
    constructor
    · rintro ⟨along, low, high, reached⟩
      linarith [near low high (by linarith) (by linarith) reached]
    · exact fun beyond => ⟨-turn + 360, by linarith, by linarith, by rw [zero_add]⟩

/-! ### How far a turn can go along an arc -/

/-- The turns to one side, up to half a turn, that end on the arc. -/
def turnsOnto (side : Side) (start width own : ℝ) : Set ℝ :=
  {turn | 0 ≤ turn ∧ turn ≤ 180 ∧ OnArc start width (own + side.sign * turn)}

/-- The greatest of some turns, or none at all. -/
def IsFarthest (turns : Set ℝ) (turn : ℝ) : Prop :=
  IsGreatest turns turn ∨ turns = ∅ ∧ turn = 0

/-- An arc that is met beyond its end has been met dead astern. -/
theorem onArc_astern {turn farther : ℝ} (short : -180 ≤ turn)
    (ends : start + width ≡ own + turn [PMOD 360]) (beyond : turn < farther)
    (upTo : farther ≤ 180) (on : OnArc start width (own + farther)) :
    OnArc start width (own + 180) := by
  obtain ⟨along, low, high, reached⟩ := on
  obtain ⟨turns, equal⟩ := same_iff.mp (ends.sub reached)
  -- from there on the arc goes round to its end
  have round : turns ≤ -1 := by
    by_contra early
    have whole : (0 : ℝ) ≤ turns := by exact_mod_cast Int.not_lt.mp (by omega : ¬ turns < 0)
    linarith
  have wide : (turns : ℝ) ≤ -1 := by exact_mod_cast round
  refine ⟨along + (180 - farther), by linarith, by linarith, ?_⟩
  obtain ⟨more, again⟩ := same_iff.mp reached
  exact same_iff.mpr ⟨more, by linarith⟩

/-- The turn to the end of an arc is the farthest to starboard on it, unless the arc passes dead
astern before. -/
theorem isFarthest_starboard_iff {turn : ℝ} (nonneg : 0 ≤ width) (short : |turn| ≤ 180)
    (ends : start + width ≡ own + turn [PMOD 360]) :
    IsFarthest (turnsOnto .starboard start width own) (if turn > 0 then turn else 0) ↔
      ¬ OnArc start width (own + 180) ∨ turn = 180 := by
  obtain ⟨low, high⟩ := abs_le.mp short
  have member : ∀ other, other ∈ turnsOnto .starboard start width own ↔
      0 ≤ other ∧ other ≤ 180 ∧ OnArc start width (own + other) := fun other => by
    simp only [turnsOnto, Side.sign, one_mul, Set.mem_ofPred_eq]
  have endsOn : OnArc start width (own + turn) := (onArc_last nonneg).congr modEq_rfl ends
  have notFarther : ¬ OnArc start width (own + 180) →
      ∀ farther ∈ turnsOnto .starboard start width own, farther ≤ turn := by
    intro notAstern farther isTurn
    obtain ⟨-, upTo, on⟩ := (member farther).mp isTurn
    exact not_lt.mp fun beyond => notAstern (onArc_astern low ends beyond upTo on)
  constructor
  · intro farthest
    refine Classical.or_iff_not_imp_left.mpr fun astern => ?_
    rw [not_not] at astern
    have half : (180 : ℝ) ∈ turnsOnto .starboard start width own :=
      (member 180).mpr ⟨by norm_num, le_rfl, astern⟩
    obtain greatest | ⟨none, -⟩ := farthest
    · have atLeast := greatest.2 half
      split_ifs at atLeast <;> linarith
    · exact absurd half (none ▸ Set.notMem_empty 180)
  · intro free
    by_cases positive : turn > 0
    · rw [if_pos positive]
      refine .inl ⟨(member turn).mpr ⟨positive.le, high, endsOn⟩, fun farther isTurn => ?_⟩
      obtain notAstern | isHalf := free
      · exact notFarther notAstern farther isTurn
      · exact isHalf ▸ ((member farther).mp isTurn).2.1
    · rw [if_neg positive]
      have notAstern : ¬ OnArc start width (own + 180) :=
        free.resolve_right fun isHalf => positive (isHalf ▸ by norm_num)
      have onlyAhead : ∀ farther ∈ turnsOnto .starboard start width own, farther ≤ 0 :=
        fun farther isTurn => (notFarther notAstern farther isTurn).trans (not_lt.mp positive)
      by_cases ahead : (0 : ℝ) ∈ turnsOnto .starboard start width own
      · exact .inl ⟨ahead, onlyAhead⟩
      · refine .inr ⟨Set.eq_empty_of_forall_notMem fun farther isTurn => ahead ?_, rfl⟩
        exact le_antisymm (onlyAhead farther isTurn) ((member farther).mp isTurn).1 ▸ isTurn

/-- What is to port is to starboard in a mirror. -/
theorem turnsOnto_port (start width own : ℝ) :
    turnsOnto .port start width own = turnsOnto .starboard (-(start + width)) width (-own) := by
  ext turn
  simp only [turnsOnto, Side.sign, Set.mem_ofPred_eq, one_mul, neg_mul]
  rw [← onArc_neg start, show -(own + -turn) = -own + turn by ring]

end

end Headings
