/-
This file orders computed results by their operands. Sums and products of finite floats are
rounded to a nearest number, so of two exact results the smaller one does not round to more, and
an operation that is monotone over the reals is monotone on floats. Infinities keep the order, and
so do sums that are not numbers, if these are counted as lowest.

A nearest number is at most half of the last place away, which bounds what an operation loses.
-/

import MassTdl.Binary64.Truncation
import Mathlib.Algebra.Order.Round

namespace Binary64

open Float.Model Float.Model.UnpackedFloat

variable {spec : Format}

/-! ### The order of rounded results -/

/-- The nearer of two numbers lies on its own side of the middle. -/
theorem middle_le_of_nearer {near far exact : ℝ} (nearer : |near - exact| ≤ |far - exact|)
    (less : far < near) : near + far ≤ 2 * exact := by
  by_contra below
  have farther : |far - exact| < near - exact := abs_lt.mpr ⟨by linarith, by linarith⟩
  linarith [le_abs_self (near - exact)]

theorem le_middle_of_nearer {near far exact : ℝ} (nearer : |near - exact| ≤ |far - exact|)
    (greater : near < far) : 2 * exact ≤ near + far := by
  by_contra above
  have farther : |far - exact| < exact - near := abs_lt.mpr ⟨by linarith, by linarith⟩
  linarith [neg_abs_le (near - exact)]

/-- Of two exact numbers the smaller one does not round to more. -/
theorem Rounded.le_of_lt {exact otherExact : ℝ} {result other : UnpackedFloat}
    (rounded : Rounded spec exact result) (otherRounded : Rounded spec otherExact other)
    (order : exact < otherExact) : realValue result ≤ realValue other := by
  by_contra greater
  have above := middle_le_of_nearer (rounded.nearest other otherRounded.form) (not_le.mp greater)
  have below := le_middle_of_nearer (otherRounded.nearest result rounded.form) (not_le.mp greater)
  linarith

variable {result : UnpackedFloat}

/-- A canonical number that is too large for the format is clamped to an infinity. -/
theorem clamp_of_not_inFormat (form : CanonicalForm spec result)
    (tooLarge : ¬ InFormat spec result) :
    ∃ sign mantissa exponent positive, result = .finite sign mantissa exponent positive ∧
      clamp spec result = .infinity sign := by
  cases result with
  | infinity | notANumber | zero =>
    exact absurd ⟨trivial, fun _ _ _ _ same => by cases same⟩ tooLarge
  | finite sign mantissa exponent positive =>
    refine ⟨sign, mantissa, exponent, positive, rfl, ?_⟩
    rw [clamp_finite, if_neg fun inRange => tooLarge (.finite form inRange)]

/-- Clamping keeps the order. -/
theorem clamp_mono {first second : UnpackedFloat} (firstFinite : first.isFinite = true)
    (secondFinite : second.isFinite = true) (firstForm : CanonicalForm spec first)
    (secondForm : CanonicalForm spec second) (order : realValue first ≤ realValue second) :
    extended (clamp spec first) ≤ extended (clamp spec second) := by
  by_cases firstIn : InFormat spec first
  · rw [clamp_of_inFormat firstIn]
    exact extended_le_clamp firstFinite firstIn secondFinite secondForm order
  by_cases secondIn : InFormat spec second
  · rw [clamp_of_inFormat secondIn]
    exact clamp_le_extended secondFinite secondIn firstFinite firstForm order
  obtain ⟨sign, mantissa, exponent, positive, rfl, clamped⟩ :=
    clamp_of_not_inFormat firstForm firstIn
  obtain ⟨otherSign, otherMantissa, otherExponent, otherPositive, rfl, otherClamped⟩ :=
    clamp_of_not_inFormat secondForm secondIn
  rw [clamped, otherClamped]
  cases sign with
  | negative => exact bot_le
  | positive =>
    cases otherSign with
    | positive => exact le_top
    | negative =>
      have above := scaled_pos exponent positive
      have below := scaled_pos otherExponent otherPositive
      rw [realValue_finite, realValue_finite, applySign, applySign] at order
      linarith

/-- What two results are packed into keeps the order of the exact numbers. -/
theorem Rounded.pack_le {exact otherExact : ℝ} {result other : UnpackedFloat}
    (rounded : Rounded .binary64 exact result) (otherRounded : Rounded .binary64 otherExact other)
    (order : exact < otherExact) :
    Float.ofModel (Float.Model.pack result) ≤ .ofModel (Float.Model.pack other) := by
  refine (le_iff _ _).mpr ⟨rounded.computes.roundedFrom.number,
    otherRounded.computes.roundedFrom.number, ?_⟩
  unfold toEReal
  rw [unpacked_ofModel_pack rounded.form, unpacked_ofModel_pack otherRounded.form]
  exact clamp_mono rounded.finite otherRounded.finite rounded.form otherRounded.form
    (rounded.le_of_lt otherRounded order)

/-! ### Operands of one value -/

/-- A canonical number other than zero is told by its value. -/
theorem CanonicalForm.eq_of_realValue_eq {first second : UnpackedFloat}
    (firstForm : CanonicalForm spec first) (secondForm : CanonicalForm spec second)
    (nonzero : realValue first ≠ 0) (same : realValue first = realValue second) :
    first = second := by
  have otherNonzero : realValue second ≠ 0 := same ▸ nonzero
  cases first with
  | infinity | notANumber | zero => exact absurd rfl nonzero
  | finite sign mantissa exponent positive =>
    cases second with
    | infinity | notANumber | zero => exact absurd rfl otherNonzero
    | finite otherSign otherMantissa otherExponent otherPositive =>
      rw [realValue_finite, realValue_finite] at same
      have above := scaled_pos exponent positive
      have otherAbove := scaled_pos otherExponent otherPositive
      have magnitudes : sign = otherSign ∧
          scaled mantissa exponent = scaled otherMantissa otherExponent := by
        cases sign <;> cases otherSign <;> simp only [applySign] at same
        · exact ⟨rfl, neg_injective same⟩
        · linarith
        · linarith
        · exact ⟨rfl, same⟩
      obtain ⟨rfl, rfl⟩ := Canonical.eq_of_scaled_eq firstForm secondForm magnitudes.2
      obtain ⟨rfl, -⟩ := magnitudes
      rfl

variable {first second : Float}

theorem unpacked_eq_of_toReal_eq (nonzero : toReal first ≠ 0) (same : toReal first = toReal second)
    : unpacked first = unpacked second :=
  (unpacked_inFormat first).canonical.eq_of_realValue_eq (unpacked_inFormat second).canonical
    nonzero same

theorem RoundedFrom.toEReal_eq {result bound : Float} (rounded : RoundedFrom (toReal bound) result)
    (finite : bound.isFinite = true) : toEReal result = toEReal bound :=
  le_antisymm (rounded.below bound finite le_rfl) (rounded.above bound finite le_rfl)

/-! ### Sums and products of finite floats -/

theorem add_unpacked {first second other otherSecond : Float}
    (same : unpacked first = unpacked other) (sameSecond : unpacked second = unpacked otherSecond) :
    first + second = other + otherSecond := by
  have sums : UnpackedFloat.add .binary64 (unpacked first) (unpacked second) =
      UnpackedFloat.add .binary64 (unpacked other) (unpacked otherSecond) := by
    rw [same, sameSecond]
  exact congrArg (fun sum => Float.ofModel (Float.Model.pack sum)) sums

theorem mul_unpacked {factor first second : Float} (same : unpacked first = unpacked second) :
    factor * first = factor * second := by
  have products : UnpackedFloat.mul .binary64 (unpacked factor) (unpacked first) =
      UnpackedFloat.mul .binary64 (unpacked factor) (unpacked second) := by rw [same]
  exact congrArg (fun product => Float.ofModel (Float.Model.pack product)) products

theorem mul_self_unpacked (same : unpacked first = unpacked second) :
    first * first = second * second := by
  have products : UnpackedFloat.mul .binary64 (unpacked first) (unpacked first) =
      UnpackedFloat.mul .binary64 (unpacked second) (unpacked second) := by rw [same]
  exact congrArg (fun product => Float.ofModel (Float.Model.pack product)) products

theorem sub_zero_eq (value : UnpackedFloat) :
    UnpackedFloat.sub .binary64 value (.zero .positive) = value := by
  cases value with
  | notANumber | infinity | finite => rfl
  | zero sign => cases sign <;> rfl

/-- Taking away zero changes nothing. -/
theorem unpacked_sub_zero (value : Float) : unpacked (value - 0.0) = unpacked value := by
  have difference : UnpackedFloat.sub .binary64 (unpacked value) (unpacked 0.0) =
      unpacked value := sub_zero_eq (unpacked value)
  have packed : unpacked (value - 0.0) =
      unpacked (.ofModel (Float.Model.pack (unpacked value))) :=
    congrArg (fun result => unpacked (.ofModel (Float.Model.pack result))) difference
  rw [packed, unpacked_of_inFormat (unpacked_inFormat value)]

section Finite

variable {first second other otherSecond factor : Float} (firstFinite : first.isFinite = true)
  (secondFinite : second.isFinite = true)

include firstFinite secondFinite

theorem add_rounded : Rounded .binary64 (toReal first + toReal second)
    (UnpackedFloat.add .binary64 (unpacked first) (unpacked second)) :=
  rounded_add firstFinite secondFinite (unpacked_inFormat first).canonical
    (unpacked_inFormat second).canonical

theorem sub_rounded : Rounded .binary64 (toReal first - toReal second)
    (UnpackedFloat.sub .binary64 (unpacked first) (unpacked second)) :=
  rounded_sub firstFinite secondFinite (unpacked_inFormat first).canonical
    (unpacked_inFormat second).canonical

theorem mul_rounded : Rounded .binary64 (toReal first * toReal second)
    (UnpackedFloat.mul .binary64 (unpacked first) (unpacked second)) :=
  rounded_mul firstFinite secondFinite (unpacked_inFormat first).canonical
    (unpacked_inFormat second).canonical

/-- Sums of equal floats are equal. -/
theorem toEReal_add_congr (otherFinite : other.isFinite = true)
    (otherSecondFinite : otherSecond.isFinite = true) (same : toReal first = toReal other)
    (sameSecond : toReal second = toReal otherSecond) :
    toEReal (first + second) = toEReal (other + otherSecond) := by
  have sum := add_roundedFrom firstFinite secondFinite
  have otherSum := add_roundedFrom otherFinite otherSecondFinite
  by_cases zero : toReal first = 0
  · rw [zero, zero_add] at sum
    rw [← same, zero, zero_add] at otherSum
    rw [sum.toEReal_eq secondFinite, otherSum.toEReal_eq otherSecondFinite,
      toEReal_of_finite secondFinite, toEReal_of_finite otherSecondFinite, sameSecond]
  by_cases secondZero : toReal second = 0
  · rw [secondZero, add_zero] at sum
    rw [← sameSecond, secondZero, add_zero] at otherSum
    rw [sum.toEReal_eq firstFinite, otherSum.toEReal_eq otherFinite,
      toEReal_of_finite firstFinite, toEReal_of_finite otherFinite, same]
  · rw [add_unpacked (unpacked_eq_of_toReal_eq zero same)
      (unpacked_eq_of_toReal_eq secondZero sameSecond)]

/-- Greater summands have a greater sum. -/
theorem add_le_add_of_finite (otherFinite : other.isFinite = true)
    (otherSecondFinite : otherSecond.isFinite = true) (order : first ≤ other)
    (secondOrder : second ≤ otherSecond) : first + second ≤ other + otherSecond := by
  have realOrder := toReal_le_toReal firstFinite otherFinite order
  have realSecondOrder := toReal_le_toReal secondFinite otherSecondFinite secondOrder
  rcases lt_or_eq_of_le (add_le_add realOrder realSecondOrder) with less | same
  · exact (add_rounded firstFinite secondFinite).pack_le
      (add_rounded otherFinite otherSecondFinite) less
  · have sum := add_roundedFrom firstFinite secondFinite
    have otherSum := add_roundedFrom otherFinite otherSecondFinite
    refine (le_iff _ _).mpr ⟨sum.number, otherSum.number, ?_⟩
    exact (toEReal_add_congr firstFinite secondFinite otherFinite otherSecondFinite
      (by linarith) (by linarith)).le

/-- A greater factor has a greater product. -/
theorem mul_le_mul_of_finite (factorFinite : factor.isFinite = true) (nonneg : 0.0 ≤ factor)
    (order : first ≤ second) : factor * first ≤ factor * second := by
  have realOrder := toReal_le_toReal firstFinite secondFinite order
  have realNonneg := toReal_nonneg factorFinite nonneg
  have product := mul_roundedFrom factorFinite firstFinite
  have otherProduct := mul_roundedFrom factorFinite secondFinite
  rcases lt_or_eq_of_le (mul_le_mul_of_nonneg_left realOrder realNonneg) with less | same
  · exact (mul_rounded factorFinite firstFinite).pack_le
      (mul_rounded factorFinite secondFinite) less
  · refine (le_iff _ _).mpr ⟨product.number, otherProduct.number, ?_⟩
    by_cases zero : toReal factor * toReal first = 0
    · rw [zero, ← toReal_zero] at product
      rw [← same, zero, ← toReal_zero] at otherProduct
      exact ((product.toEReal_eq rfl).trans (otherProduct.toEReal_eq rfl).symm).le
    · obtain ⟨factorNonzero, firstNonzero⟩ := mul_ne_zero_iff.mp zero
      rw [mul_unpacked (unpacked_eq_of_toReal_eq firstNonzero
        (mul_left_cancel₀ factorNonzero same))]

end Finite

/-! ### Infinities -/

/-- The extended real number an unpacked float stands for, where NaN counts as lowest. -/
noncomputable def lowest : UnpackedFloat → EReal
  | .notANumber => ⊥
  | other => extended other

noncomputable def lowered (value : Float) : EReal := lowest (unpacked value)

variable {value : Float}

theorem lowered_of_number (number : value.isNaN = false) :
    lowered value = toEReal value := by
  rw [isNaN_eq] at number
  unfold lowered toEReal
  cases form : unpacked value with
  | notANumber =>
    rw [form] at number
    cases number
  | infinity | zero | finite => rfl

theorem unpacked_of_lowered_bot (bottom : lowered value = ⊥) :
    unpacked value = .notANumber ∨ unpacked value = .infinity .negative := by
  unfold lowered at bottom
  cases form : unpacked value with
  | notANumber => exact .inl rfl
  | infinity sign =>
    cases sign
    · exact .inr rfl
    · exact absurd ((congrArg lowest form).symm.trans bottom) top_ne_bot
  | zero | finite => exact absurd ((congrArg lowest form).symm.trans bottom) (EReal.coe_ne_bot _)

theorem unpacked_of_lowered_top (top : lowered value = ⊤) :
    unpacked value = .infinity .positive := by
  unfold lowered at top
  cases form : unpacked value with
  | notANumber => exact absurd ((congrArg lowest form).symm.trans top) bot_ne_top
  | infinity sign =>
    cases sign
    · exact absurd ((congrArg lowest form).symm.trans top) bot_ne_top
    · rfl
  | zero | finite => exact absurd ((congrArg lowest form).symm.trans top) (EReal.coe_ne_top _)

theorem finite_of_lowered (above : lowered value ≠ ⊥) (below : lowered value ≠ ⊤) :
    value.isFinite = true := by
  unfold lowered at above below
  rw [isFinite_eq]
  cases form : unpacked value with
  | notANumber => exact absurd (congrArg lowest form) above
  | infinity sign =>
    cases sign
    · exact absurd (congrArg lowest form) above
    · exact absurd (congrArg lowest form) below
  | zero | finite => rfl

/-- On numbers the order is that of floats. -/
theorem lowered_le_iff (firstNumber : first.isNaN = false) (secondNumber : second.isNaN = false) :
    lowered first ≤ lowered second ↔ first ≤ second := by
  rw [lowered_of_number firstNumber, lowered_of_number secondNumber, le_iff,
    and_iff_right firstNumber, and_iff_right secondNumber]

/-- Addition does not look at the order of its summands. -/
theorem add_comm_unpacked (first second : UnpackedFloat) :
    UnpackedFloat.add spec first second = UnpackedFloat.add spec second first := by
  cases first with
  | notANumber => rw [add_notANumber]; rfl
  | infinity sign =>
    cases second with
    | infinity otherSign => cases sign <;> cases otherSign <;> rfl
    | notANumber | zero | finite => rfl
  | zero sign =>
    cases second with
    | zero otherSign => cases sign <;> cases otherSign <;> rfl
    | infinity | notANumber | finite => rfl
  | finite sign mantissa exponent positive =>
    cases second with
    | infinity | notANumber | zero => rfl
    | finite otherSign otherMantissa otherExponent otherPositive =>
      unfold UnpackedFloat.add
      simp only [min_comm exponent, Int.add_comm]

theorem add_comm_float (first second : Float) : first + second = second + first :=
  congrArg (fun sum => Float.ofModel (Float.Model.pack sum)) (add_comm_unpacked _ _)

theorem lowered_add_bot {first : Float} (second : Float) (bottom : lowered first = ⊥) :
    lowered (first + second) = ⊥ := by
  have computed : UnpackedFloat.add .binary64 (unpacked first) (unpacked second) = .notANumber ∨
      UnpackedFloat.add .binary64 (unpacked first) (unpacked second) = .infinity .negative := by
    rcases unpacked_of_lowered_bot bottom with form | form
    · rw [form]
      exact .inl rfl
    · rw [form]
      cases unpacked second with
      | notANumber => exact .inl rfl
      | infinity sign =>
        cases sign
        · exact .inr rfl
        · exact .inl rfl
      | zero | finite => exact .inr rfl
  unfold lowered
  rcases computed with computed | computed
  · rw [unpacked_add computed trivial]
    rfl
  · rw [unpacked_add computed trivial]
    rfl

theorem lowered_add_top (top : lowered first = ⊤) (above : lowered second ≠ ⊥) :
    lowered (first + second) = ⊤ := by
  have computed : UnpackedFloat.add .binary64 (unpacked first) (unpacked second) =
      .infinity .positive := by
    rw [unpacked_of_lowered_top top]
    unfold lowered at above
    cases form : unpacked second with
    | notANumber => exact absurd (congrArg lowest form) above
    | infinity sign =>
      cases sign
      · exact absurd (congrArg lowest form) above
      · rfl
    | zero | finite => rfl
  unfold lowered
  rw [unpacked_add computed trivial]
  rfl

/-- Greater summands have a greater sum, whether or not it is a number. -/
theorem lowered_add_mono {first second other otherSecond : Float}
    (order : lowered first ≤ lowered other) (secondOrder : lowered second ≤ lowered otherSecond) :
    lowered (first + second) ≤ lowered (other + otherSecond) := by
  by_cases bottom : lowered first = ⊥
  · rw [lowered_add_bot second bottom]
    exact bot_le
  by_cases secondBottom : lowered second = ⊥
  · rw [add_comm_float, lowered_add_bot first secondBottom]
    exact bot_le
  have above := ne_bot_of_le_ne_bot bottom order
  have secondAbove := ne_bot_of_le_ne_bot secondBottom secondOrder
  by_cases top : lowered other = ⊤
  · rw [lowered_add_top top secondAbove]
    exact le_top
  by_cases secondTop : lowered otherSecond = ⊤
  · rw [add_comm_float other, lowered_add_top secondTop above]
    exact le_top
  have otherFinite := finite_of_lowered above top
  have otherSecondFinite := finite_of_lowered secondAbove secondTop
  have finite := finite_of_lowered bottom (ne_top_of_le_ne_top top order)
  have secondFinite := finite_of_lowered secondBottom (ne_top_of_le_ne_top secondTop secondOrder)
  have sums := add_le_add_of_finite finite secondFinite otherFinite otherSecondFinite
    ((lowered_le_iff (number_of_finite finite) (number_of_finite otherFinite)).mp order)
    ((lowered_le_iff (number_of_finite secondFinite)
      (number_of_finite otherSecondFinite)).mp secondOrder)
  exact (lowered_le_iff (number_of_le sums).1 (number_of_le sums).2).mpr sums

theorem lowered_nonneg (nonneg : 0.0 ≤ value) : 0 ≤ lowered value := by
  obtain ⟨-, number, order⟩ := (le_iff _ _).mp nonneg
  rwa [lowered_of_number number, ← toEReal_zero]

/-- Summands that are not negative are finite if their sum is. -/
theorem finite_of_add_finite (firstNonneg : 0 ≤ lowered first) (secondNonneg : 0 ≤ lowered second)
    (below : lowered (first + second) ≠ ⊤) :
    first.isFinite = true ∧ second.isFinite = true := by
  have firstAbove : lowered first ≠ ⊥ := (EReal.bot_lt_zero.trans_le firstNonneg).ne'
  have secondAbove : lowered second ≠ ⊥ := (EReal.bot_lt_zero.trans_le secondNonneg).ne'
  refine ⟨finite_of_lowered firstAbove fun top => below (lowered_add_top top secondAbove),
    finite_of_lowered secondAbove fun top => below ?_⟩
  rw [add_comm_float, lowered_add_top top firstAbove]

theorem lowered_add_nonneg (firstNonneg : 0 ≤ lowered first) (secondNonneg : 0 ≤ lowered second) :
    0 ≤ lowered (first + second) := by
  have zero : lowered 0.0 = 0 := (lowered_of_number rfl).trans toEReal_zero
  have sums : lowered (0.0 + 0.0) ≤ lowered (first + second) :=
    lowered_add_mono (zero.trans_le firstNonneg) (zero.trans_le secondNonneg)
  exact zero.ge.trans sums

theorem sub_eq_add_neg_float (first second : Float) : first - second = first + -second := by
  have sums : UnpackedFloat.sub .binary64 (unpacked first) (unpacked second) =
      UnpackedFloat.add .binary64 (unpacked first) (unpacked (-second)) := by
    rw [unpacked_neg, sub_unpacked]
  exact congrArg (fun sum => Float.ofModel (Float.Model.pack sum)) sums

theorem lowered_of_finite (finite : value.isFinite = true) :
    lowered value = (toReal value : EReal) :=
  (lowered_of_number (number_of_finite finite)).trans (toEReal_of_finite finite)

theorem lowered_sub_top (top : lowered first = ⊤) (finite : second.isFinite = true) :
    lowered (first - second) = ⊤ := by
  rw [sub_eq_add_neg_float, lowered_add_top top]
  rw [lowered_of_finite (isFinite_neg finite)]
  exact EReal.coe_ne_bot _

/-- A finite float that is not negative is a zero, or has a positive sign. -/
theorem unpacked_of_nonneg (finite : value.isFinite = true) (nonneg : 0.0 ≤ value) :
    (∃ sign, unpacked value = .zero sign) ∨
      ∃ mantissa exponent positive,
        unpacked value = .finite .positive mantissa exponent positive := by
  have realNonneg := toReal_nonneg finite nonneg
  unfold toReal at realNonneg
  rw [isFinite_eq] at finite
  cases form : unpacked value with
  | infinity | notANumber =>
    rw [form] at finite
    cases finite
  | zero sign => exact .inl ⟨sign, rfl⟩
  | finite sign mantissa exponent positive =>
    cases sign with
    | positive => exact .inr ⟨mantissa, exponent, positive, rfl⟩
    | negative =>
      have magnitude := scaled_pos exponent positive
      rw [form, realValue_finite, applySign] at realNonneg
      linarith

theorem unpacked_mul
    (computed : UnpackedFloat.mul .binary64 (unpacked first) (unpacked second) = result)
    (form : CanonicalForm .binary64 result) :
    unpacked (first * second) = clamp .binary64 result := by
  subst computed
  exact unpacked_ofModel_pack form

section Factor

variable {factor first second : Float} (factorFinite : factor.isFinite = true)

include factorFinite

theorem lowered_mul_bot (nonneg : 0.0 ≤ factor) (infinite : unpacked first = .infinity .negative) :
    lowered (factor * first) = ⊥ := by
  unfold lowered
  rcases unpacked_of_nonneg factorFinite nonneg with ⟨sign, form⟩ | ⟨_, _, _, form⟩
  · have computed : UnpackedFloat.mul .binary64 (unpacked factor) (unpacked first) =
        .notANumber := by rw [form, infinite]; rfl
    rw [unpacked_mul computed trivial]
    rfl
  · have computed : UnpackedFloat.mul .binary64 (unpacked factor) (unpacked first) =
        .infinity .negative := by rw [form, infinite]; rfl
    rw [unpacked_mul computed trivial]
    rfl

theorem lowered_mul_top (positive : 0.0 < factor)
    (infinite : unpacked first = .infinity .positive) : lowered (factor * first) = ⊤ := by
  unfold lowered
  rcases unpacked_of_nonneg factorFinite (le_of_lt positive) with ⟨sign, form⟩ | ⟨_, _, _, form⟩
  · have zero := toReal_pos factorFinite positive
    unfold toReal at zero
    rw [form] at zero
    exact (ne_of_gt zero rfl).elim
  · have computed : UnpackedFloat.mul .binary64 (unpacked factor) (unpacked first) =
        .infinity .positive := by rw [form, infinite]; rfl
    rw [unpacked_mul computed trivial]
    rfl

/-- A greater factor has a greater product, unless an infinity is multiplied by zero. -/
theorem lowered_mul_mono (nonneg : 0.0 ≤ factor) (order : first ≤ second)
    (kept : 0.0 < factor ∨ second.isFinite = true) :
    lowered (factor * first) ≤ lowered (factor * second) := by
  obtain ⟨firstNumber, secondNumber, extendedOrder⟩ := (le_iff _ _).mp order
  have positive_of_infinite {sign : Sign} (infinite : unpacked second = .infinity sign) :
      0.0 < factor := by
    refine kept.resolve_right fun finite => ?_
    rw [isFinite_eq, infinite] at finite
    cases finite
  rcases finite_or_infinity secondNumber with secondFinite | isTop | isBottom
  · rcases finite_or_infinity firstNumber with firstFinite | isTop | isBottom
    · have products := mul_le_mul_of_finite firstFinite secondFinite factorFinite nonneg order
      exact (lowered_le_iff (number_of_le products).1 (number_of_le products).2).mpr products
    · rw [toEReal_of_positive isTop, toEReal_of_finite secondFinite] at extendedOrder
      exact absurd extendedOrder (not_le.mpr (EReal.coe_lt_top _))
    · rw [lowered_mul_bot factorFinite nonneg isBottom]
      exact bot_le
  · rw [lowered_mul_top factorFinite (positive_of_infinite isTop) isTop]
    exact le_top
  · rw [toEReal_of_negative isBottom, le_bot_iff, ← lowered_of_number firstNumber] at extendedOrder
    have firstBottom := (unpacked_of_lowered_bot extendedOrder).resolve_left fun undefined => by
      rw [isNaN_eq, undefined] at firstNumber
      cases firstNumber
    rw [lowered_mul_bot factorFinite nonneg firstBottom]
    exact bot_le

end Factor

/-! ### How much is lost -/

/-- A mantissa that fits the format has a canonical spelling. -/
theorem exists_canonical {mantissa : ℕ} {exponent : ℤ} (fits : mantissa ≤ 2 ^ spec.mantissaBits)
    (least : spec.minExponent ≤ exponent) :
    ∃ spelled : UnpackedFloat, CanonicalForm spec spelled ∧
      realValue spelled = scaled mantissa exponent := by
  rcases Nat.eq_zero_or_pos mantissa with rfl | positive
  · refine ⟨.zero .positive, trivial, ?_⟩
    rw [scaled, Nat.cast_zero, zero_mul]
    rfl
  -- the mantissa is shifted up until it is full, or the exponent down to the least
  obtain ⟨shift, isShift⟩ : ∃ shift, shift =
      min (spec.mantissaBits - 1 - mantissa.log2) (exponent - spec.minExponent).toNat := ⟨_, rfl⟩
  have shiftedFits : mantissa * 2 ^ shift ≤ 2 ^ spec.mantissaBits := by
    rcases Nat.eq_zero_or_pos shift with rfl | moved
    · rwa [pow_zero, mul_one]
    · have below : mantissa.log2 + 1 + shift ≤ spec.mantissaBits := by omega
      calc mantissa * 2 ^ shift ≤ 2 ^ (mantissa.log2 + 1) * 2 ^ shift :=
            Nat.mul_le_mul_right _ Nat.lt_log2_self.le
        _ = 2 ^ (mantissa.log2 + 1 + shift) := (pow_add _ _ _).symm
        _ ≤ 2 ^ spec.mantissaBits := Nat.pow_le_pow_right Nat.two_pos below
  have full : exponent - shift = spec.minExponent ∨
      2 ^ (spec.mantissaBits - 1) ≤ mantissa * 2 ^ shift := by
    by_cases lowest : exponent - shift = spec.minExponent
    · exact .inl lowest
    · have reached : spec.mantissaBits - 1 ≤ mantissa.log2 + shift := by omega
      refine .inr ?_
      calc 2 ^ (spec.mantissaBits - 1) ≤ 2 ^ (mantissa.log2 + shift) :=
            Nat.pow_le_pow_right Nat.two_pos reached
        _ = 2 ^ mantissa.log2 * 2 ^ shift := pow_add _ _ _
        _ ≤ mantissa * 2 ^ shift :=
          Nat.mul_le_mul_right _ (Nat.log2_self_le (Nat.ne_of_gt positive))
  obtain ⟨canonical, same⟩ := secondShift shiftedFits (by omega) full
  rw [← scaled_add, sub_add_cancel] at same
  generalize mantissa * 2 ^ shift / 2 ^ dropCount spec (mantissa * 2 ^ shift) (exponent - shift) =
    spelled at canonical same
  have nonzero : spelled ≠ 0 := by
    rintro rfl
    have magnitude := scaled_pos exponent positive
    rw [← same, scaled, Nat.cast_zero, zero_mul] at magnitude
    exact (ne_of_gt magnitude rfl).elim
  exact ⟨.finite .positive spelled _ (Nat.pos_of_ne_zero nonzero), canonical, same⟩

/-- A nearest number is at most half of the last place away. -/
theorem Nearest.abs_sub_le {exact rounded : ℝ} (nearest : Nearest spec exact rounded)
    {exponent : ℤ} (least : spec.minExponent ≤ exponent) (nonneg : 0 ≤ exact)
    (bounded : exact ≤ 2 ^ spec.mantissaBits * 2 ^ exponent) :
    |rounded - exact| ≤ 2 ^ exponent / 2 := by
  have place : (0 : ℝ) < 2 ^ exponent := by positivity
  have places : 0 ≤ exact / 2 ^ exponent := div_nonneg nonneg place.le
  obtain ⟨whole, isWhole⟩ : ∃ whole, whole = ⌊exact / 2 ^ exponent + 1 / 2⌋₊ := ⟨_, rfl⟩
  have below : (whole : ℝ) ≤ exact / 2 ^ exponent + 1 / 2 :=
    isWhole ▸ Nat.floor_le (by positivity)
  have above : exact / 2 ^ exponent + 1 / 2 < whole + 1 := isWhole ▸ Nat.lt_floor_add_one _
  have fits : whole ≤ 2 ^ spec.mantissaBits := by
    have most : exact / 2 ^ exponent ≤ 2 ^ spec.mantissaBits := (div_le_iff₀ place).mpr bounded
    have less : (whole : ℝ) < (2 ^ spec.mantissaBits : ℕ) + 1 := by
      push_cast
      linarith
    exact Nat.lt_succ_iff.mp (by exact_mod_cast less)
  obtain ⟨spelled, form, same⟩ := exists_canonical fits least
  refine (nearest spelled form).trans ?_
  have exactPlaces : exact = exact / 2 ^ exponent * 2 ^ exponent := by
    rw [div_mul_cancel₀ _ place.ne']
  calc |realValue spelled - exact| = |whole - exact / 2 ^ exponent| * 2 ^ exponent := by
        rw [same, scaled, ← abs_of_pos place, ← abs_mul, sub_mul, abs_of_pos place, ← exactPlaces]
    _ ≤ 1 / 2 * 2 ^ exponent := by
        refine mul_le_mul_of_nonneg_right (abs_le.mpr ⟨?_, ?_⟩) place.le <;> linarith
    _ = 2 ^ exponent / 2 := by ring

/-- A result in the unit interval is at most half a unit of the 53rd binary place off. -/
theorem Rounded.abs_sub_le_of_unit {exact : ℝ} (rounded : Rounded .binary64 exact result)
    (nonneg : 0 ≤ exact) (atMost : exact ≤ 1) :
    |toReal (.ofModel (Float.Model.pack result)) - exact| ≤ 2 ^ (-54 : ℤ) := by
  have computed := rounded.computes.roundedFrom
  have above : 0.0 ≤ Float.ofModel (Float.Model.pack result) :=
    computed.ge rfl (toReal_zero.trans_le nonneg)
  have below : Float.ofModel (Float.Model.pack result) ≤ 1.0 :=
    computed.le rfl (atMost.trans_eq toReal_one.symm)
  have finite := finite_of_between rfl rfl above below
  have value : toReal (.ofModel (Float.Model.pack result)) = realValue result := by
    rw [isFinite_eq, unpacked_ofModel_pack rounded.form] at finite
    unfold toReal
    rw [unpacked_ofModel_pack rounded.form]
    by_cases inFormat : InFormat .binary64 result
    · rw [clamp_of_inFormat inFormat]
    · obtain ⟨sign, -, -, -, -, clamped⟩ := clamp_of_not_inFormat rounded.form inFormat
      rw [clamped] at finite
      cases finite
  have least : Format.binary64.minExponent ≤ -53 := by decide
  have bits : Format.binary64.mantissaBits = 53 := rfl
  have bound := rounded.nearest.abs_sub_le least nonneg
    (atMost.trans_eq (by norm_num [bits]))
  rw [value]
  exact bound.trans_eq (by norm_num)

end Binary64
