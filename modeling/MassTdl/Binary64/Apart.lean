/-
This file is about floats that lie apart by more than a tolerance, as a rounded difference tells.
Rounding treats both signs alike, so it does not matter which of the two is subtracted, and it
keeps the order, so what lies beyond the one is apart from the other as well.
-/

import MassTdl.Binary64.Nearest
import Mathlib.Order.Comparable

namespace Binary64

open Float.Model Float.Model.UnpackedFloat

variable {spec : Format}

/-! ### Both signs alike -/

theorem clamp_abs (value : UnpackedFloat) : (clamp spec value).abs = clamp spec value.abs := by
  cases value with
  | finite sign mantissa exponent positive =>
    change (clamp spec _).abs = clamp spec (.finite .positive mantissa exponent positive)
    rw [clamp_finite, clamp_finite]
    by_cases inRange : exponent ≤ maxExponent spec
    · rw [if_pos inRange, if_pos inRange]
      rfl
    · rw [if_neg inRange, if_neg inRange]
      rfl
  | infinity | notANumber | zero => rfl

theorem abs_finished (sign : Sign) (mantissa : ℕ) (exponent : ℤ) :
    (if isZero : mantissa = 0 then UnpackedFloat.zero sign
      else .finite sign mantissa exponent (Nat.pos_of_ne_zero isZero)).abs =
    (if isZero : mantissa = 0 then UnpackedFloat.zero .positive
      else .finite .positive mantissa exponent (Nat.pos_of_ne_zero isZero)).abs := by
  by_cases isZero : mantissa = 0
  · rw [dif_pos isZero, dif_pos isZero]
    rfl
  · rw [dif_neg isZero, dif_neg isZero]
    rfl

/-- The magnitude does not depend on the sign. -/
theorem abs_round (sign : Sign) (mantissa : ℕ) (exponent : ℤ) :
    (UnpackedFloat.round spec sign mantissa exponent).abs =
      (UnpackedFloat.round spec .positive mantissa exponent).abs :=
  abs_finished sign _ _

theorem abs_normalize_neg (mantissa exponent : ℤ) (zeroSign otherZeroSign : Sign) :
    (UnpackedFloat.normalize spec (-mantissa) exponent zeroSign).abs =
      (UnpackedFloat.normalize spec mantissa exponent otherZeroSign).abs := by
  unfold UnpackedFloat.normalize
  rcases lt_trichotomy mantissa 0 with negative | rfl | positive
  · rw [compare_lt_iff_lt.mpr negative, compare_gt_iff_gt.mpr (Int.neg_pos_of_neg negative)]
    exact (abs_round _ _ _).symm
  · rfl
  · rw [compare_gt_iff_gt.mpr positive, compare_lt_iff_lt.mpr (Int.neg_neg_of_pos positive)]
    dsimp only
    rw [neg_neg]
    exact abs_round _ _ _

theorem abs_sub_comm_unpacked (first second : UnpackedFloat) :
    (UnpackedFloat.sub spec first second).abs = (UnpackedFloat.sub spec second first).abs := by
  cases first with
  | notANumber => cases second <;> rfl
  | infinity sign =>
    cases second with
    | infinity otherSign => cases sign <;> cases otherSign <;> rfl
    | notANumber | zero | finite => rfl
  | zero sign =>
    cases second with
    | zero otherSign => cases sign <;> cases otherSign <;> rfl
    | notANumber | infinity | finite => rfl
  | finite sign mantissa exponent positive =>
    cases second with
    | notANumber | infinity | zero => rfl
    | finite otherSign otherMantissa otherExponent otherPositive =>
      let aligned (sign : Sign) (mantissa : ℕ) (exponent low : ℤ) : ℤ :=
        sign.apply (mantissa <<< (exponent - low).toNat : ℕ)
      have flipped (low : ℤ) : (UnpackedFloat.normalize spec
            (aligned sign mantissa exponent low - aligned otherSign otherMantissa otherExponent low)
            low .positive).abs = (UnpackedFloat.normalize spec
            (aligned otherSign otherMantissa otherExponent low - aligned sign mantissa exponent low)
            low .positive).abs := by
        rw [← neg_sub]
        exact abs_normalize_neg _ _ _ _
      refine (flipped (min exponent otherExponent)).trans ?_
      rw [min_comm]
      rfl

theorem sub_form {first second : UnpackedFloat} (firstForm : CanonicalForm spec first)
    (secondForm : CanonicalForm spec second) :
    CanonicalForm spec (UnpackedFloat.sub spec first second) := by
  by_cases firstFinite : first.isFinite = true
  · by_cases secondFinite : second.isFinite = true
    · exact (rounded_sub firstFinite secondFinite firstForm secondForm).form
    cases first with
    | infinity | notANumber => cases firstFinite
    | zero | finite =>
      cases second with
      | infinity | notANumber => trivial
      | zero | finite => exact absurd rfl secondFinite
  · cases first with
    | zero | finite => exact absurd rfl firstFinite
    | notANumber => cases second <;> trivial
    | infinity sign =>
      cases second with
      | infinity otherSign => cases sign <;> cases otherSign <;> trivial
      | notANumber | zero | finite => trivial

/-- It does not matter which of the two is subtracted. -/
theorem unpacked_abs_sub_comm (first second : Float) :
    unpacked (first - second).abs = unpacked (second - first).abs := by
  have computed (first second : Float) : unpacked (first - second).abs = clamp .binary64
      (UnpackedFloat.sub .binary64 (unpacked first) (unpacked second)).abs := by
    rw [unpacked_abs, ← clamp_abs]
    exact congrArg UnpackedFloat.abs (unpacked_ofModel_pack
      (sub_form (unpacked_inFormat first).canonical (unpacked_inFormat second).canonical))
  rw [computed, computed, abs_sub_comm_unpacked]

/-! ### Clearly smaller -/

/-- Smaller, by more than a tolerance. -/
def ClearlyLess (tolerance first second : Float) : Prop :=
  (first - second).abs > tolerance ∧ first < second

instance (tolerance : Float) : DecidableRel (ClearlyLess tolerance) := fun _ _ =>
  inferInstanceAs (Decidable (_ ∧ _))

theorem apart_comm (tolerance first second : Float) :
    (first - second).abs > tolerance ↔ (second - first).abs > tolerance := by
  show tolerance < _ ↔ tolerance < _
  rw [lt_iff, lt_iff, isNaN_eq (first - second).abs, isNaN_eq (second - first).abs, toEReal,
    toEReal, toEReal, unpacked_abs_sub_comm]

/-- The difference to something greater is a number that is not positive. -/
theorem sub_of_lt {first second : Float} (order : first < second) :
    (first - second).isNaN = false ∧ toEReal (first - second) ≤ 0 := by
  obtain ⟨firstNumber, secondNumber, less⟩ := (lt_iff _ _).mp order
  rw [sub_eq_add_neg_float]
  rcases finite_or_infinity firstNumber with firstFinite | isTop | isBottom
  · rcases finite_or_infinity secondNumber with secondFinite | isTop | isBottom
    · rw [toEReal_of_finite firstFinite, toEReal_of_finite secondFinite,
        EReal.coe_lt_coe_iff] at less
      have rounded := sub_roundedFrom firstFinite secondFinite
      rw [sub_eq_add_neg_float] at rounded
      refine ⟨rounded.number, ?_⟩
      rw [← toEReal_zero]
      exact rounded.below 0.0 rfl (by rw [toReal_zero]; linarith)
    · have opposite : unpacked (-second) = .infinity .negative :=
        (unpacked_neg second).trans (congrArg UnpackedFloat.neg isTop)
      have infinite := unpacked_add_infinity_left opposite firstFinite
      rw [add_comm_float, isNaN_eq, toEReal_of_negative infinite, infinite]
      exact ⟨rfl, bot_le⟩
    · rw [toEReal_of_negative isBottom] at less
      exact absurd less not_lt_bot
  · rw [toEReal_of_positive isTop] at less
    exact absurd less not_top_lt
  · have computed : UnpackedFloat.add .binary64 (unpacked first) (unpacked (-second)) =
        .infinity .negative := by
      rw [unpacked_neg]
      refine (congrArg (UnpackedFloat.add .binary64 · _) isBottom).trans ?_
      rcases finite_or_infinity secondNumber with secondFinite | isTop | isBottom
      · have finite : (unpacked second).isFinite = true := secondFinite
        cases form : unpacked second with
        | infinity | notANumber =>
          rw [form] at finite
          cases finite
        | zero | finite => rfl
      · exact congrArg (fun other => UnpackedFloat.add .binary64 _ other.neg) isTop
      · rw [toEReal_of_negative isBottom] at less
        exact absurd less not_lt_bot
    have infinite := unpacked_add computed trivial
    rw [isNaN_eq, toEReal_of_negative infinite, infinite]
    exact ⟨rfl, bot_le⟩

/-- The difference of two infinities of one sign is not a number. -/
theorem isNaN_sub_infinity {first second : Float} {sign : Sign}
    (firstInfinite : unpacked first = .infinity sign)
    (secondInfinite : unpacked second = .infinity sign) : (first - second).isNaN = true := by
  have computed : UnpackedFloat.add .binary64 (unpacked first) (unpacked (-second)) =
      .notANumber := by
    rw [unpacked_neg, firstInfinite, secondInfinite]
    cases sign <;> rfl
  rw [sub_eq_add_neg_float, isNaN_eq, unpacked_add computed trivial]
  rfl

/-- Numbers of the same value are not apart. -/
theorem not_apart_of_eq {tolerance first second : Float} (positive : 0.0 < tolerance)
    (firstNumber : first.isNaN = false) (secondNumber : second.isNaN = false)
    (same : toEReal first = toEReal second) : ¬ (first - second).abs > tolerance := by
  intro apart
  obtain ⟨-, number, -⟩ := (lt_iff _ _).mp apart
  rw [isNaN_abs] at number
  rcases finite_or_infinity firstNumber with firstFinite | isTop | isBottom
  · have secondFinite : second.isFinite = true := by
      rcases finite_or_infinity secondNumber with finite | isTop | isBottom
      · exact finite
      · rw [toEReal_of_positive isTop, toEReal_of_finite firstFinite] at same
        exact absurd same (EReal.coe_ne_top _)
      · rw [toEReal_of_negative isBottom, toEReal_of_finite firstFinite] at same
        exact absurd same (EReal.coe_ne_bot _)
    rw [toEReal_of_finite firstFinite, toEReal_of_finite secondFinite,
      EReal.coe_eq_coe_iff] at same
    have rounded := sub_roundedFrom firstFinite secondFinite
    rw [same, sub_self] at rounded
    exact not_le_of_lt (abs_lt_of_zero rounded.zero.1 rounded.zero.2 positive) (le_of_lt apart)
  · have secondTop := unpacked_of_lowered_top
      ((lowered_of_number secondNumber).trans (same.symm.trans (toEReal_of_positive isTop)))
    rw [isNaN_sub_infinity isTop secondTop] at number
    cases number
  · have secondBottom := (unpacked_of_lowered_bot ((lowered_of_number secondNumber).trans
      (same.symm.trans (toEReal_of_negative isBottom)))).resolve_left fun undefined => by
        rw [isNaN_eq, undefined] at secondNumber
        cases secondNumber
    rw [isNaN_sub_infinity isBottom secondBottom] at number
    cases number

/-- Numbers that are apart are ordered. -/
theorem clearlyLess_or {tolerance first second : Float} (positive : 0.0 < tolerance)
    (firstNumber : first.isNaN = false) (secondNumber : second.isNaN = false)
    (apart : (first - second).abs > tolerance) :
    ClearlyLess tolerance first second ∨ ClearlyLess tolerance second first := by
  by_cases below : first < second
  · exact .inl ⟨apart, below⟩
  by_cases above : second < first
  · exact .inr ⟨(apart_comm _ _ _).mp apart, above⟩
  have same : toEReal first = toEReal second := le_antisymm
    ((le_iff _ _).mp (le_of_not_lt firstNumber secondNumber above)).2.2
    ((le_iff _ _).mp (le_of_not_lt secondNumber firstNumber below)).2.2
  exact absurd apart (not_apart_of_eq positive firstNumber secondNumber same)

/-- What lies beyond something clearly greater is clearly greater. -/
theorem clearlyLess_trans {tolerance first second third : Float}
    (lower : ClearlyLess tolerance first second) (upper : ClearlyLess tolerance second third) :
    ClearlyLess tolerance first third := by
  have order := chain_lt lower.2 upper.2
  refine ⟨?_, order⟩
  obtain ⟨differenceNumber, notPositive⟩ := sub_of_lt lower.2
  obtain ⟨number, -⟩ := sub_of_lt order
  obtain ⟨toleranceNumber, -, far⟩ := (lt_iff _ _).mp lower.1
  have farther : toEReal (first - third) ≤ toEReal (first - second) := by
    rw [← lowered_of_number number, ← lowered_of_number differenceNumber, sub_eq_add_neg_float,
      sub_eq_add_neg_float]
    refine lowered_add_mono le_rfl ?_
    obtain ⟨secondNumber, thirdNumber, less⟩ := (lt_iff _ _).mp upper.2
    rw [lowered_of_number (by rwa [isNaN_neg]), lowered_of_number (by rwa [isNaN_neg]),
      toEReal_neg, toEReal_neg]
    exact EReal.neg_le_neg_iff.mpr less.le
  rw [toEReal_abs, max_eq_right (notPositive.trans (EReal.neg_nonneg.mpr notPositive))] at far
  refine (lt_iff _ _).mpr ⟨toleranceNumber, by rwa [isNaN_abs], ?_⟩
  rw [toEReal_abs]
  exact lt_max_of_lt_right (far.trans_le (EReal.neg_le_neg_iff.mpr farther))

instance (tolerance : Float) : IsStrictOrder Float (ClearlyLess tolerance) where
  irrefl value less := lt_irrefl value less.2
  trans _ _ _ := clearlyLess_trans

/-- Numbers that are tied are not apart. -/
theorem incompRel_clearlyLess_iff {tolerance first second : Float} (positive : 0.0 < tolerance)
    (firstNumber : first.isNaN = false) (secondNumber : second.isNaN = false) :
    IncompRel (ClearlyLess tolerance) first second ↔ ¬ (first - second).abs > tolerance := by
  constructor
  · rintro ⟨notLess, notGreater⟩ apart
    exact (clearlyLess_or positive firstNumber secondNumber apart).elim notLess notGreater
  · exact fun near => ⟨fun less => near less.1, fun less => near ((apart_comm _ _ _).mp less.1)⟩

/-- A comparison that looks at the order only of what is apart. -/
theorem ite_apart_iff {tolerance first second : Float} {rest : Bool} (positive : 0.0 < tolerance)
    (firstNumber : first.isNaN = false) (secondNumber : second.isNaN = false) :
    (if (first - second).abs > tolerance then decide (first < second) else rest) = true ↔
      ClearlyLess tolerance first second ∨
        IncompRel (ClearlyLess tolerance) first second ∧ rest = true := by
  rw [incompRel_clearlyLess_iff positive firstNumber secondNumber]
  split_ifs with apart
  · rw [decide_eq_true_iff, or_iff_left fun tied => tied.1 apart]
    exact (and_iff_right apart).symm
  · rw [and_iff_right apart, or_iff_right fun less => apart less.1]

end Binary64
