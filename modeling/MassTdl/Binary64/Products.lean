/-
This file adds products and quotients to the arithmetic of floats. The product of two finite
floats is the exact product rounded once, so it stays between the products that bound it:
two factors between zero and one have such a product, and a factor of at most one does not
make a positive float larger.
-/

import MassTdl.Binary64.Arithmetic
import MassTdl.Binary64.Extrema
import Mathlib.Tactic.NormNum
import Mathlib.Tactic.GCongr

namespace Binary64

open Float.Model Float.Model.UnpackedFloat

variable {spec : Format}

/-! ### Products of canonical numbers -/

theorem minExponent_nonpos (spec : Format) : spec.minExponent ≤ 0 := by
  have wide := spec.hm
  rw [minExponent_eq]
  unfold exponentOffset
  omega

variable {mantissa otherMantissa : ℕ}

/-- The exponent of a product is one the format rounds from. -/
theorem Canonical.product_small {exponent otherExponent : ℤ} (positive : 0 < mantissa)
    (otherPositive : 0 < otherMantissa) (canonical : Canonical spec mantissa exponent)
    (otherCanonical : Canonical spec otherMantissa otherExponent) :
    exponent + otherExponent ≤ spec.targetExponent
      (totalExponent (mantissa * otherMantissa) (exponent + otherExponent)) := by
  have nonzero : mantissa * otherMantissa ≠ 0 := (Nat.mul_pos positive otherPositive).ne'
  have full : 2 ^ (spec.mantissaBits - 1) ≤ mantissa * otherMantissa →
      exponent + otherExponent ≤ spec.targetExponent
        (totalExponent (mantissa * otherMantissa) (exponent + otherExponent)) := by
    intro large
    have log := (Nat.le_log2 nonzero).mpr large
    refine le_trans ?_ (le_max_left _ _)
    unfold totalExponent
    omega
  cases canonical.full with
  | inr large => exact full (large.trans (Nat.le_mul_of_pos_right _ otherPositive))
  | inl least =>
    cases otherCanonical.full with
    | inr large => exact full (large.trans (Nat.le_mul_of_pos_left _ positive))
    | inl otherLeast =>
      have low := minExponent_nonpos spec
      refine le_trans ?_ (le_max_right _ _)
      omega

theorem scaled_mul (mantissa otherMantissa : ℕ) (exponent otherExponent : ℤ) :
    scaled (mantissa * otherMantissa) (exponent + otherExponent) =
      scaled mantissa exponent * scaled otherMantissa otherExponent := by
  unfold scaled
  rw [zpow_add₀ two_ne_zero]
  push_cast
  ring

theorem applySign_mul (sign otherSign : Sign) (magnitude otherMagnitude : ℝ) :
    applySign (sign * otherSign) (magnitude * otherMagnitude) =
      applySign sign magnitude * applySign otherSign otherMagnitude := by
  cases sign <;> cases otherSign
  · exact (neg_mul_neg _ _).symm
  · exact (neg_mul _ _).symm
  · exact (mul_neg _ _).symm
  · rfl

variable {exact : ℝ}

theorem RoundsTo.computes {sign : Sign} {result : UnpackedFloat}
    (rounds : RoundsTo spec sign exact result) (positive : 0 < exact) :
    Computes spec (applySign sign exact) result := by
  obtain ⟨finite, form, magnitude, value, nonneg, between⟩ := rounds
  have faithful := between.faithful positive.le nonneg fun zero => absurd zero positive.ne'
  refine ⟨finite, form, ?_⟩
  rw [value]
  cases sign
  · exact faithful.neg
  · exact faithful

variable {first second : UnpackedFloat}

theorem rounded_mul (firstFinite : first.isFinite = true) (secondFinite : second.isFinite = true)
    (firstForm : CanonicalForm spec first) (secondForm : CanonicalForm spec second) :
    Rounded spec (realValue first * realValue second)
      (UnpackedFloat.mul spec first second) := by
  cases first with
  | infinity | notANumber => cases firstFinite
  | zero firstSign =>
    cases second with
    | infinity | notANumber => cases secondFinite
    | zero | finite => exact rounded_self rfl trivial (zero_mul _).symm
  | finite firstSign firstMantissa firstExponent firstPositive =>
    cases second with
    | infinity | notANumber => cases secondFinite
    | zero secondSign => exact rounded_self rfl trivial (mul_zero _).symm
    | finite secondSign secondMantissa secondExponent secondPositive =>
      have small := Canonical.product_small firstPositive secondPositive firstForm secondForm
      rw [realValue_finite, realValue_finite, ← applySign_mul, ← scaled_mul]
      exact rounded_roundWithAccuracy (firstSign * secondSign) small

theorem mul_roundedFrom {first second : Float} (firstFinite : first.isFinite = true)
    (secondFinite : second.isFinite = true) :
    RoundedFrom (toReal first * toReal second) (first * second) :=
  (rounded_mul firstFinite secondFinite (unpacked_inFormat first).canonical
    (unpacked_inFormat second).canonical).computes.roundedFrom

/-! ### Rounded results between bounds -/

theorem number_of_finite {value : Float} (finite : value.isFinite = true) :
    value.isNaN = false := by
  rw [isFinite_eq] at finite
  rw [isNaN_eq]
  cases form : unpacked value with
  | notANumber | infinity =>
    rw [form] at finite
    cases finite
  | zero | finite => rfl

theorem RoundedFrom.le {result bound : Float} (rounded : RoundedFrom exact result)
    (finite : bound.isFinite = true) (above : exact ≤ toReal bound) : result ≤ bound :=
  (le_iff _ _).mpr ⟨rounded.number, number_of_finite finite, rounded.below bound finite above⟩

theorem RoundedFrom.ge {result bound : Float} (rounded : RoundedFrom exact result)
    (finite : bound.isFinite = true) (below : toReal bound ≤ exact) : bound ≤ result :=
  (le_iff _ _).mpr ⟨number_of_finite finite, rounded.number, rounded.above bound finite below⟩

theorem toReal_le_toReal {first second : Float} (firstFinite : first.isFinite = true)
    (secondFinite : second.isFinite = true) (order : first ≤ second) :
    toReal first ≤ toReal second := by
  have extendedOrder := ((le_iff _ _).mp order).2.2
  rwa [toEReal_of_finite firstFinite, toEReal_of_finite secondFinite,
    EReal.coe_le_coe_iff] at extendedOrder

/-- What lies between finite floats is finite. -/
theorem finite_of_between {lower value upper : Float} (lowerFinite : lower.isFinite = true)
    (upperFinite : upper.isFinite = true) (above : lower ≤ value) (below : value ≤ upper) :
    value.isFinite = true := by
  obtain ⟨-, number, lowerOrder⟩ := (le_iff _ _).mp above
  obtain ⟨-, -, upperOrder⟩ := (le_iff _ _).mp below
  rw [toEReal_of_finite lowerFinite] at lowerOrder
  rw [toEReal_of_finite upperFinite] at upperOrder
  rw [isFinite_eq]
  cases form : unpacked value with
  | zero | finite => rfl
  | notANumber =>
    rw [isNaN_eq, form] at number
    cases number
  | infinity sign =>
    cases sign with
    | positive =>
      rw [toEReal_of_positive form] at upperOrder
      exact absurd upperOrder (not_le.mpr (EReal.coe_lt_top _))
    | negative =>
      rw [toEReal_of_negative form] at lowerOrder
      exact absurd lowerOrder (not_le.mpr (EReal.bot_lt_coe _))

/-- Positive floats of one value are one number. -/
theorem unpacked_eq_of_toEReal_eq {first second : Float} (positive : 0 < toEReal first)
    (same : toEReal first = toEReal second) : unpacked first = unpacked second := by
  have otherPositive : 0 < toEReal second := same ▸ positive
  have firstForm := (unpacked_inFormat first).canonical
  have secondForm := (unpacked_inFormat second).canonical
  unfold toEReal at positive otherPositive same
  have shapes : ∀ value : UnpackedFloat, 0 < extended value →
      value = .infinity .positive ∨ ∃ mantissa exponent nonzero,
        value = .finite .positive mantissa exponent nonzero := by
    intro value above
    cases value with
    | zero | notANumber => exact (ne_of_lt above rfl).elim
    | infinity sign =>
      cases sign with
      | positive => exact .inl rfl
      | negative => exact absurd above not_lt_bot
    | finite sign mantissa exponent nonzero =>
      cases sign with
      | positive => exact .inr ⟨_, _, _, rfl⟩
      | negative =>
        rw [extended_of_finite rfl] at above
        have scale := scaled_pos exponent nonzero
        exact absurd (EReal.coe_pos.mp above) (not_lt.mpr (neg_nonpos.mpr scale.le))
  rcases shapes _ positive with infinite | ⟨mantissa, exponent, nonzero, form⟩
  · rcases shapes _ otherPositive with otherInfinite | ⟨_, _, _, otherForm⟩
    · rw [infinite, otherInfinite]
    · rw [infinite, otherForm] at same
      exact absurd same (EReal.coe_ne_top (realValue _)).symm
  · rcases shapes _ otherPositive with otherInfinite | ⟨_, _, _, otherForm⟩
    · rw [form, otherInfinite] at same
      exact absurd same (EReal.coe_ne_top (realValue _))
    · rw [form] at firstForm
      rw [otherForm] at secondForm
      rw [form, otherForm, extended_of_finite rfl, extended_of_finite rfl,
        EReal.coe_eq_coe_iff] at same
      obtain ⟨rfl, rfl⟩ := Canonical.eq_of_scaled_eq firstForm secondForm same
      rw [form, otherForm]

/-! ### The unit interval -/

theorem toReal_zero : toReal 0.0 = 0 := rfl

theorem toReal_one : toReal 1.0 = 1 := by
  have form : unpacked 1.0 = .finite .positive (2 ^ 52) (-52) (by decide) := rfl
  unfold toReal
  rw [form, realValue_finite]
  unfold applySign scaled
  norm_num

/-- A float between zero and one. -/
structure InUnit (value : Float) : Prop where
  nonneg : 0.0 ≤ value
  le_one : value ≤ 1.0

theorem inUnit_one : InUnit 1.0 := ⟨by decide, by decide⟩

theorem inUnit_zero : InUnit 0.0 := ⟨by decide, by decide⟩

section InUnit

variable {first second : Float} (firstUnit : InUnit first) (secondUnit : InUnit second)

include firstUnit

theorem InUnit.finite : first.isFinite = true :=
  finite_of_between (by decide) (by decide) firstUnit.nonneg firstUnit.le_one

theorem InUnit.toReal_nonneg : 0 ≤ toReal first :=
  toReal_zero ▸ toReal_le_toReal (by decide) firstUnit.finite firstUnit.nonneg

theorem InUnit.toReal_le_one : toReal first ≤ 1 :=
  toReal_one ▸ toReal_le_toReal firstUnit.finite (by decide) firstUnit.le_one

theorem InUnit.one_sub : InUnit (1.0 - first) := by
  have rounded : RoundedFrom (toReal 1.0 - toReal first) (1.0 - first) :=
    sub_roundedFrom (by decide) firstUnit.finite
  have nonneg := firstUnit.toReal_nonneg
  have bounded := firstUnit.toReal_le_one
  rw [toReal_one] at rounded
  refine ⟨rounded.ge (by decide) ?_, rounded.le (by decide) ?_⟩
  · rw [toReal_zero]
    exact sub_nonneg.mpr bounded
  · rw [toReal_one]
    exact sub_le_self 1 nonneg

include secondUnit

theorem InUnit.mul : InUnit (first * second) := by
  have rounded := mul_roundedFrom firstUnit.finite secondUnit.finite
  refine ⟨rounded.ge (by decide) ?_, rounded.le (by decide) ?_⟩
  · rw [toReal_zero]
    exact mul_nonneg firstUnit.toReal_nonneg secondUnit.toReal_nonneg
  · rw [toReal_one]
    exact mul_le_one₀ firstUnit.toReal_le_one secondUnit.toReal_nonneg secondUnit.toReal_le_one

end InUnit

/-- A share of a float that is not negative does not exceed it. -/
theorem mul_le_self {value factor : Float} (nonneg : 0.0 ≤ value) (unit : InUnit factor)
    (number : (value * factor).isNaN = false) : value * factor ≤ value := by
  obtain ⟨-, valueNumber, above⟩ := (le_iff _ _).mp nonneg
  by_cases finite : value.isFinite = true
  · refine (mul_roundedFrom finite unit.finite).le finite ?_
    have valueNonneg : 0 ≤ toReal value :=
      toReal_zero ▸ toReal_le_toReal (by decide) finite nonneg
    exact mul_le_of_le_one_right valueNonneg unit.toReal_le_one
  · refine (le_iff _ _).mpr ⟨number, valueNumber, ?_⟩
    rcases finite_or_infinity valueNumber with isFinite | infinite | infinite
    · exact absurd isFinite finite
    · rw [toEReal_of_positive infinite]
      exact le_top
    · rw [toEReal_of_negative infinite, toEReal_zero] at above
      exact absurd above (not_le.mpr EReal.bot_lt_zero)

/-! ### Quotients -/

theorem applySign_div (sign otherSign : Sign) (magnitude otherMagnitude : ℝ) :
    applySign (sign / otherSign) (magnitude / otherMagnitude) =
      applySign sign magnitude / applySign otherSign otherMagnitude := by
  cases sign <;> cases otherSign
  · exact (neg_div_neg_eq _ _).symm
  · exact (neg_div _ _).symm
  · exact (div_neg _).symm
  · rfl

/-- What a division leaves out of the last place. -/
theorem residue_of_remainder {dividend divisor : ℕ} (positive : 0 < divisor) :
    Residue (accuracyOfFraction (dividend % divisor) divisor)
      ((dividend % divisor : ℕ) / (divisor : ℝ)) := by
  have divisorPositive : (0 : ℝ) < divisor := by exact_mod_cast positive
  refine ⟨by positivity, ?_, fun zero => ?_⟩
  · rw [div_lt_one divisorPositive]
    exact_mod_cast Nat.mod_lt _ positive
  · have none : dividend % divisor = 0 := by
      exact_mod_cast (div_eq_zero_iff.mp zero).resolve_right divisorPositive.ne'
    rw [none]
    rfl

theorem measured_of_remainder {dividend divisor : ℕ} (positive : 0 < divisor) :
    Measured (accuracyOfFraction (dividend % divisor) divisor)
      ((dividend % divisor : ℕ) / (divisor : ℝ)) := by
  have divisorPositive : (0 : ℝ) < divisor := by exact_mod_cast positive
  have spelled : accuracyOfFraction (dividend % divisor) divisor =
      if dividend % divisor = 0 then .exact
      else .inexact (compare (2 * (dividend % divisor)) divisor) := rfl
  rw [spelled]
  have half (order : Ordering) (accuracy : (if dividend % divisor = 0 then Accuracy.exact
      else .inexact (compare (2 * (dividend % divisor)) divisor)) = .inexact order) :
      compare (2 * (dividend % divisor)) divisor = order := by
    split_ifs at accuracy with none
    exact Accuracy.inexact.inj accuracy
  refine
    { toResidue := residue_of_remainder positive
      none := fun accuracy => ?_
      below := fun accuracy => ?_
      middle := fun accuracy => ?_
      above := fun accuracy => ?_ }
  · split_ifs at accuracy with none
    rw [none, Nat.cast_zero, zero_div]
  · have less := compare_lt_iff_lt.mp (half _ accuracy)
    rw [← mul_div_assoc, div_le_one divisorPositive]
    exact_mod_cast less.le
  · have same := compare_eq_iff_eq.mp (half _ accuracy)
    rw [← mul_div_assoc, div_eq_one_iff_eq divisorPositive.ne']
    exact_mod_cast same
  · have greater := compare_gt_iff_gt.mp (half _ accuracy)
    rw [← mul_div_assoc, one_le_div divisorPositive]
    exact_mod_cast greater.le

/-- The whole part of a quotient has at least the exponent of the quotient of the leading
bits. -/
theorem totalExponent_div (exponent otherExponent : ℤ) (shift : ℕ) (positive : 0 < mantissa)
    (otherPositive : 0 < otherMantissa) :
    totalExponent mantissa exponent - totalExponent otherMantissa otherExponent ≤
      totalExponent (mantissa * 2 ^ shift / otherMantissa) (exponent - otherExponent - shift) := by
  have log : mantissa.log2 + shift ≤
      (mantissa * 2 ^ shift / otherMantissa).log2 + (otherMantissa.log2 + 1) := by
    rcases Nat.lt_or_ge (mantissa.log2 + shift) (otherMantissa.log2 + 1) with short | long
    · omega
    · obtain ⟨count, same⟩ := Nat.exists_eq_add_of_le long
      have reached : 2 ^ count * otherMantissa ≤ mantissa * 2 ^ shift := by
        calc 2 ^ count * otherMantissa
            ≤ 2 ^ count * 2 ^ (otherMantissa.log2 + 1) :=
              Nat.mul_le_mul_left _ Nat.lt_log2_self.le
          _ = 2 ^ mantissa.log2 * 2 ^ shift := by
              rw [← pow_add, ← pow_add, same, add_comm]
          _ ≤ mantissa * 2 ^ shift :=
              Nat.mul_le_mul_right _ (Nat.log2_self_le positive.ne')
      have bound := (Nat.le_div_iff_mul_le otherPositive).mpr reached
      have nonzero : mantissa * 2 ^ shift / otherMantissa ≠ 0 :=
        (lt_of_lt_of_le (by positivity) bound).ne'
      have countLog := (Nat.le_log2 nonzero).mpr bound
      omega
  unfold totalExponent
  omega

/-- The quotient of two shifted mantissas, with what it leaves out. -/
theorem scaledUp_div (exponent otherExponent : ℤ) (shift : ℕ) (otherPositive : 0 < otherMantissa) :
    scaledUp (mantissa * 2 ^ shift / otherMantissa)
        ((mantissa * 2 ^ shift % otherMantissa : ℕ) / (otherMantissa : ℝ))
        (exponent - otherExponent - shift) =
      scaled mantissa exponent / scaled otherMantissa otherExponent := by
  have nonzero : (otherMantissa : ℝ) ≠ 0 := by exact_mod_cast otherPositive.ne'
  have whole : ((mantissa * 2 ^ shift / otherMantissa : ℕ) : ℝ) +
      (mantissa * 2 ^ shift % otherMantissa : ℕ) / (otherMantissa : ℝ) =
      mantissa * 2 ^ shift / otherMantissa := by
    rw [eq_div_iff nonzero, add_mul, div_mul_cancel₀ _ nonzero]
    exact_mod_cast Nat.div_add_mod' (mantissa * 2 ^ shift) otherMantissa
  unfold scaledUp scaled
  rw [whole, zpow_sub₀ two_ne_zero, zpow_sub₀ two_ne_zero, zpow_natCast]
  field_simp

theorem rounded_div (firstFinite : first.isFinite = true) (secondFinite : second.isFinite = true)
    (nonzero : realValue second ≠ 0) :
    Rounded spec (realValue first / realValue second)
      (UnpackedFloat.div spec first second) := by
  cases second with
  | infinity | notANumber => cases secondFinite
  | zero => exact absurd rfl nonzero
  | finite secondSign secondMantissa secondExponent secondPositive =>
    cases first with
    | infinity | notANumber => cases firstFinite
    | zero firstSign => exact rounded_self rfl trivial (zero_div _).symm
    | finite firstSign firstMantissa firstExponent firstPositive =>
      show Rounded spec _ (roundWithAccuracy spec _
        ((firstMantissa <<< Int.toNat _) / secondMantissa) _ _)
      rw [Nat.shiftLeft_eq]
      generalize targetEq : min (firstExponent - secondExponent) (spec.targetExponent
        (totalExponent firstMantissa firstExponent -
          totalExponent secondMantissa secondExponent)) = target
      obtain ⟨shift, rfl⟩ : ∃ shift : ℕ, target = firstExponent - secondExponent - shift :=
        ⟨(firstExponent - secondExponent - target).toNat, by omega⟩
      have leading := totalExponent_div firstExponent secondExponent shift firstPositive
        secondPositive
      have small : firstExponent - secondExponent - shift ≤ spec.targetExponent
          (totalExponent (firstMantissa * 2 ^ shift / secondMantissa)
            (firstExponent - secondExponent - shift)) := by
        rw [← targetEq] at leading ⊢
        exact (min_le_right _ _).trans (max_le_max_right _ (sub_le_sub_right leading _))
      rw [sub_sub_cancel, Int.toNat_natCast, realValue_finite, realValue_finite,
        ← applySign_div, ← scaledUp_div _ _ shift secondPositive]
      exact (measured_of_remainder secondPositive).rounded _ small

theorem computes_div (firstFinite : first.isFinite = true) (secondFinite : second.isFinite = true)
    (nonzero : realValue second ≠ 0) :
    Computes spec (realValue first / realValue second)
      (UnpackedFloat.div spec first second) :=
  (rounded_div firstFinite secondFinite nonzero).computes

theorem div_roundedFrom {dividend divisor : Float} (finite : dividend.isFinite = true)
    (divisorFinite : divisor.isFinite = true) (nonzero : toReal divisor ≠ 0) :
    RoundedFrom (toReal dividend / toReal divisor) (dividend / divisor) :=
  (computes_div finite divisorFinite nonzero).roundedFrom

/-- Only the exponent of infinities and NaN unpacks to one of them. -/
theorem unpack_packComponents_isNaN (sign : Sign) {exponent : BitVec spec.exponentBits}
    (mantissa : BitVec spec.mantissaBitsWithoutImplicit)
    (ordinary : exponent ≠ -BitVec.ofNat spec.exponentBits 1) :
    (unpack spec (packComponents spec sign exponent mantissa)).isNaN = false := by
  show (if unpackExponent (packComponents spec sign exponent mantissa) = -1#_ then _
    else if _ then dite _ _ _ else _ : UnpackedFloat).isNaN = false
  rw [if_neg fun full => ordinary (unpackExponent_packComponents.symm.trans full)]
  by_cases empty : unpackExponent (packComponents spec sign exponent mantissa) = 0#_
  · rw [if_pos empty]
    by_cases isZero : unpackMantissa (packComponents spec sign exponent mantissa) = 0#_
    · rw [dif_pos isZero]
      rfl
    · rw [dif_neg isZero]
      rfl
  · rw [if_neg empty]
    rfl

/-- Packing keeps a number a number, whether or not it is spelled canonically. -/
theorem unpack_pack_isNaN {number : UnpackedFloat} (defined : number.isNaN = false) :
    (unpack spec (pack spec number)).isNaN = false := by
  cases number with
  | notANumber => cases defined
  | infinity sign =>
    show (unpack spec (packedInfinity spec sign)).isNaN = false
    rw [unpack_packedInfinity]
    rfl
  | zero sign =>
    show (unpack spec (packedZero spec sign)).isNaN = false
    rw [unpack_packedZero]
    rfl
  | finite sign mantissa exponent positive =>
    unfold UnpackedFloat.pack
    simp only
    split
    · rw [unpack_packedInfinity]
      rfl
    · next inRange =>
      have ordinary := ofNat_exponent_ne_neg_one (not_le.mp inRange)
      split
      · exact unpack_packComponents_isNaN sign _ ordinary
      · exact unpack_packComponents_isNaN sign _ (zero_ne_neg_one spec)

theorem roundWithAccuracy_isNaN (sign : Sign) (mantissa : ℕ) (exponent : ℤ)
    (accuracy : Accuracy) :
    (roundWithAccuracy spec sign mantissa exponent accuracy).isNaN = false := by
  have either {final : ℕ} {finalExponent : ℤ} : (if isZero : final = 0 then .zero sign
      else .finite sign final finalExponent (Nat.pos_of_ne_zero isZero) :
      UnpackedFloat).isNaN = false := by
    by_cases isZero : final = 0
    · rw [dif_pos isZero]
      rfl
    · rw [dif_neg isZero]
      rfl
  exact either

/-- A finite float divided by a positive number is a number. -/
theorem div_number {dividend divisor : Float} (finite : dividend.isFinite = true)
    (positive : 0.0 < divisor) : (dividend / divisor).isNaN = false := by
  have number := (number_of_lt positive).2
  have nonzero := ((lt_iff _ _).mp positive).2.2
  suffices defined : (UnpackedFloat.div .binary64 (unpacked dividend)
      (unpacked divisor)).isNaN = false from unpack_pack_isNaN defined
  rw [isFinite_eq] at finite
  rw [isNaN_eq] at number
  unfold toEReal at nonzero
  cases dividendForm : unpacked dividend with
  | infinity | notANumber =>
    rw [dividendForm] at finite
    cases finite
  | zero dividendSign =>
    cases divisorForm : unpacked divisor with
    | infinity | finite => rfl
    | notANumber =>
      rw [divisorForm] at number
      cases number
    | zero =>
      rw [divisorForm] at nonzero
      exact (ne_of_lt nonzero rfl).elim
  | finite dividendSign dividendMantissa dividendExponent dividendPositive =>
    cases divisorForm : unpacked divisor with
    | infinity | zero => rfl
    | notANumber =>
      rw [divisorForm] at number
      cases number
    | finite => exact roundWithAccuracy_isNaN _ _ _ _

/-- What is not a number makes no number. -/
theorem number_of_sub {first second : Float} (number : (first - second).isNaN = false) :
    first.isNaN = false := by
  by_contra undefined
  rw [Bool.not_eq_false, isNaN_eq] at undefined
  have computed : UnpackedFloat.sub .binary64 (unpacked first) (unpacked second) =
      .notANumber := by
    rw [eq_notANumber undefined]
    rfl
  have result : (Float.ofModel (Float.Model.pack (UnpackedFloat.sub .binary64 (unpacked first)
      (unpacked second)))).isNaN = false := number
  rw [computed] at result
  exact absurd result (by decide)

theorem number_of_div {first second : Float} (number : (first / second).isNaN = false) :
    first.isNaN = false := by
  by_contra undefined
  rw [Bool.not_eq_false, isNaN_eq] at undefined
  have computed : UnpackedFloat.div .binary64 (unpacked first) (unpacked second) =
      .notANumber := by
    rw [eq_notANumber undefined]
    rfl
  have result : (Float.ofModel (Float.Model.pack (UnpackedFloat.div .binary64 (unpacked first)
      (unpacked second)))).isNaN = false := number
  rw [computed] at result
  exact absurd result (by decide)

end Binary64
