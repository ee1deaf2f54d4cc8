/-
This file relates the arithmetic of `Float` to that of the real numbers. The sum or difference
of two finite floats passes no finite float on its way from the exact result, so comparing it
with a float says something about the exact result: a difference found smaller than a
tolerance is smaller than that tolerance, and adding something not negative does not make a
float smaller.
-/

import MassTdl.Binary64.Order
import Mathlib.Data.EReal.Operations

namespace Binary64

open Float.Model Float.Model.UnpackedFloat

variable {spec : Format}

/-! ### Clamping -/

/-- A number of the format is smaller than any number too large for it. -/
theorem abs_lt_overflow {bound : UnpackedFloat} {mantissa : ℕ} {exponent : ℤ}
    (boundIn : InFormat spec bound) (positive : 0 < mantissa)
    (canonical : Canonical spec mantissa exponent) (overflows : maxExponent spec < exponent) :
    |realValue bound| < scaled mantissa exponent := by
  have large := scaled_pos exponent positive
  cases bound with
  | finite sign otherMantissa otherExponent otherPositive =>
    have form : Canonical spec otherMantissa otherExponent := boundIn.canonical
    have inRange := boundIn.inRange sign otherMantissa otherExponent otherPositive rfl
    have notLeast : exponent ≠ spec.minExponent := by
      have least := form.least
      omega
    have smaller := Canonical.lt_of_exponent_lt form.fits
      (canonical.full.resolve_left notLeast) (inRange.trans_lt overflows)
    have magnitude := scaled_nonneg otherMantissa otherExponent
    cases sign with
    | positive =>
      show |scaled otherMantissa otherExponent| < _
      rwa [abs_of_nonneg magnitude]
    | negative =>
      show |-scaled otherMantissa otherExponent| < _
      rwa [abs_neg, abs_of_nonneg magnitude]
  | infinity | notANumber | zero =>
    show |(0 : ℝ)| < _
    rwa [abs_zero]

/-- Clamping a canonical number does not take it below a number of the format. -/
theorem extended_le_clamp {bound result : UnpackedFloat} (boundFinite : bound.isFinite = true)
    (boundIn : InFormat spec bound) (resultFinite : result.isFinite = true)
    (resultForm : CanonicalForm spec result) (below : realValue bound ≤ realValue result) :
    extended bound ≤ extended (clamp spec result) := by
  rw [extended_of_finite boundFinite]
  cases result with
  | infinity | notANumber => cases resultFinite
  | zero sign => exact EReal.coe_le_coe_iff.mpr below
  | finite sign mantissa exponent positive =>
    rw [clamp_finite]
    by_cases inRange : exponent ≤ maxExponent spec
    · rw [if_pos inRange, extended_of_finite resultFinite]
      exact EReal.coe_le_coe_iff.mpr below
    · rw [if_neg inRange]
      have smaller := abs_lt_overflow boundIn positive resultForm (not_le.mp inRange)
      cases sign with
      | positive => exact le_top
      | negative =>
        have opposite := neg_le_abs (realValue bound)
        rw [realValue_finite] at below
        exact absurd (opposite.trans_lt smaller) (not_lt.mpr (le_neg_of_le_neg below))

/-- Clamping a canonical number does not take it above a number of the format. -/
theorem clamp_le_extended {bound result : UnpackedFloat} (boundFinite : bound.isFinite = true)
    (boundIn : InFormat spec bound) (resultFinite : result.isFinite = true)
    (resultForm : CanonicalForm spec result) (above : realValue result ≤ realValue bound) :
    extended (clamp spec result) ≤ extended bound := by
  rw [extended_of_finite boundFinite]
  cases result with
  | infinity | notANumber => cases resultFinite
  | zero sign => exact EReal.coe_le_coe_iff.mpr above
  | finite sign mantissa exponent positive =>
    rw [clamp_finite]
    by_cases inRange : exponent ≤ maxExponent spec
    · rw [if_pos inRange, extended_of_finite resultFinite]
      exact EReal.coe_le_coe_iff.mpr above
    · rw [if_neg inRange]
      have smaller := abs_lt_overflow boundIn positive resultForm (not_le.mp inRange)
      cases sign with
      | negative => exact bot_le
      | positive =>
        have same := le_abs_self (realValue bound)
        rw [realValue_finite] at above
        exact absurd (same.trans_lt smaller) (not_lt.mpr above)

theorem clamp_isNaN (unpacked : UnpackedFloat) :
    (clamp spec unpacked).isNaN = unpacked.isNaN := by
  cases unpacked with
  | finite sign mantissa exponent positive =>
    rw [clamp_finite]
    by_cases inRange : exponent ≤ maxExponent spec
    · rw [if_pos inRange]
    · rw [if_neg inRange]
      rfl
  | infinity | notANumber | zero => rfl

/-! ### Sums and differences -/

variable {result : UnpackedFloat}

theorem unpacked_ofModel_pack (form : CanonicalForm .binary64 result) :
    unpacked (.ofModel (Float.Model.pack result)) = clamp .binary64 result := by
  rw [← unpack_pack form]
  rfl

/-- Lowering an exponent keeps the value. -/
theorem aligned_value (sign : Sign) {mantissa : ℕ} {exponent low : ℤ} (positive : 0 < mantissa)
    (lower : low ≤ exponent) :
    ((sign.apply (mantissa <<< (exponent - low).toNat : ℕ) : ℤ) : ℝ) * 2 ^ low =
      realValue (.finite sign mantissa exponent positive) := by
  obtain ⟨gap, rfl⟩ : ∃ gap : ℕ, exponent = low + gap := ⟨(exponent - low).toNat, by omega⟩
  rw [add_sub_cancel_left, Int.toNat_natCast, Nat.shiftLeft_eq, realValue_finite, scaled_add]
  unfold scaled Sign.apply applySign
  cases sign
  · push_cast
    ring
  · push_cast
    ring

/-- What an operation on finite canonical numbers has to give: a finite canonical number, and
none passed on the way from the exact result. -/
structure Computes (spec : Format) (exact : ℝ) (result : UnpackedFloat) : Prop where
  finite : result.isFinite = true
  form : CanonicalForm spec result
  faithful : Faithful spec exact (realValue result)

variable {exact : ℝ}

theorem Rounded.computes (rounded : Rounded spec exact result) : Computes spec exact result :=
  ⟨rounded.finite, rounded.form, rounded.nearest.faithful⟩

theorem computes_normalize {mantissa exponent : ℤ} {zeroSign : Sign}
    (value : (mantissa : ℝ) * 2 ^ exponent = exact) :
    Computes spec exact (UnpackedFloat.normalize spec mantissa exponent zeroSign) :=
  value ▸ (rounded_normalize mantissa exponent zeroSign).computes

theorem rounded_add {first second : UnpackedFloat} (firstFinite : first.isFinite = true)
    (secondFinite : second.isFinite = true) (firstForm : CanonicalForm spec first)
    (secondForm : CanonicalForm spec second) :
    Rounded spec (realValue first + realValue second)
      (UnpackedFloat.add spec first second) := by
  cases first with
  | infinity | notANumber => cases firstFinite
  | zero firstSign =>
    cases second with
    | infinity | notANumber => cases secondFinite
    | zero secondSign =>
      show Rounded spec _ (if _ then UnpackedFloat.zero _ else UnpackedFloat.zero _)
      split <;> exact rounded_self rfl trivial (add_zero 0).symm
    | finite secondSign mantissa exponent positive =>
      exact rounded_self rfl secondForm (zero_add _).symm
  | finite firstSign firstMantissa firstExponent firstPositive =>
    cases second with
    | infinity | notANumber => cases secondFinite
    | zero secondSign => exact rounded_self rfl firstForm (add_zero _).symm
    | finite secondSign secondMantissa secondExponent secondPositive =>
      rw [← aligned_value firstSign firstPositive (min_le_left firstExponent secondExponent),
        ← aligned_value secondSign secondPositive (min_le_right firstExponent secondExponent),
        ← add_mul, ← Int.cast_add]
      exact rounded_normalize _ _ .positive

/-- A difference is the sum with the opposite. -/
theorem sub_unpacked (first second : UnpackedFloat) :
    UnpackedFloat.sub spec first second = UnpackedFloat.add spec first second.neg := by
  cases first with
  | notANumber => rfl
  | infinity sign =>
    cases second with
    | notANumber | infinity | zero | finite => rfl
  | zero sign =>
    cases second with
    | notANumber | infinity | zero | finite => rfl
  | finite sign mantissa exponent positive =>
    cases second with
    | notANumber | infinity | zero => rfl
    | finite otherSign otherMantissa otherExponent otherPositive =>
      cases otherSign
      · exact congrArg (UnpackedFloat.normalize spec · _ .positive) (Int.sub_neg _ _)
      · rfl

theorem rounded_sub {first second : UnpackedFloat} (firstFinite : first.isFinite = true)
    (secondFinite : second.isFinite = true) (firstForm : CanonicalForm spec first)
    (secondForm : CanonicalForm spec second) :
    Rounded spec (realValue first - realValue second)
      (UnpackedFloat.sub spec first second) := by
  have oppositeFinite : second.neg.isFinite = true := by
    cases second with
    | infinity | notANumber => cases secondFinite
    | zero | finite => rfl
  rw [sub_unpacked, sub_eq_add_neg, ← realValue_neg]
  exact rounded_add firstFinite oppositeFinite firstForm secondForm.neg

/-- A computed result, packed into a float, is a number, and no finite float lies strictly
between it and the exact result. -/
structure RoundedFrom (exact : ℝ) (result : Float) : Prop where
  number : result.isNaN = false
  above : ∀ bound : Float, bound.isFinite = true → toReal bound ≤ exact →
    toEReal bound ≤ toEReal result
  below : ∀ bound : Float, bound.isFinite = true → exact ≤ toReal bound →
    toEReal result ≤ toEReal bound

theorem Computes.roundedFrom (computes : Computes .binary64 exact result) :
    RoundedFrom exact (.ofModel (Float.Model.pack result)) := by
  obtain ⟨finite, form, faithful⟩ := computes
  refine ⟨?_, fun bound boundFinite below => ?_, fun bound boundFinite above => ?_⟩
  · rw [isNaN_eq, unpacked_ofModel_pack form, clamp_isNaN]
    cases result with
    | infinity | notANumber => cases finite
    | zero | finite => rfl
  · unfold toEReal
    rw [unpacked_ofModel_pack form]
    exact extended_le_clamp boundFinite (unpacked_inFormat bound) finite form
      (faithful.above _ (unpacked_inFormat bound).canonical below)
  · unfold toEReal
    rw [unpacked_ofModel_pack form]
    exact clamp_le_extended boundFinite (unpacked_inFormat bound) finite form
      (faithful.below _ (unpacked_inFormat bound).canonical above)

variable {first second : Float}

theorem sub_roundedFrom (firstFinite : first.isFinite = true)
    (secondFinite : second.isFinite = true) :
    RoundedFrom (toReal first - toReal second) (first - second) :=
  (rounded_sub firstFinite secondFinite (unpacked_inFormat first).canonical
    (unpacked_inFormat second).canonical).computes.roundedFrom

theorem add_roundedFrom (firstFinite : first.isFinite = true)
    (secondFinite : second.isFinite = true) :
    RoundedFrom (toReal first + toReal second) (first + second) :=
  (rounded_add firstFinite secondFinite (unpacked_inFormat first).canonical
    (unpacked_inFormat second).canonical).computes.roundedFrom

/-! ### Signs -/

theorem clamp_of_inFormat (inFormat : InFormat spec result) :
    clamp spec result = result := by
  cases result with
  | infinity | notANumber | zero => rfl
  | finite sign mantissa exponent positive =>
    rw [clamp_finite, if_pos (inFormat.inRange sign mantissa exponent positive rfl)]

theorem unpacked_of_inFormat (inFormat : InFormat .binary64 result) :
    unpacked (.ofModel (Float.Model.pack result)) = result := by
  rw [unpacked_ofModel_pack inFormat.canonical, clamp_of_inFormat inFormat]

theorem InFormat.neg (inFormat : InFormat spec result) :
    InFormat spec result.neg := by
  cases result with
  | infinity | notANumber | zero => exact ⟨trivial, fun _ _ _ _ same => by cases same⟩
  | finite sign mantissa exponent positive =>
    exact .finite inFormat.canonical (inFormat.inRange sign mantissa exponent positive rfl)

theorem InFormat.abs (inFormat : InFormat spec result) :
    InFormat spec result.abs := by
  cases result with
  | infinity | notANumber | zero => exact ⟨trivial, fun _ _ _ _ same => by cases same⟩
  | finite sign mantissa exponent positive =>
    exact .finite inFormat.canonical (inFormat.inRange sign mantissa exponent positive rfl)

theorem unpacked_neg (value : Float) : unpacked (-value) = (unpacked value).neg :=
  unpacked_of_inFormat (unpacked_inFormat value).neg

theorem unpacked_abs (value : Float) : unpacked value.abs = (unpacked value).abs :=
  unpacked_of_inFormat (unpacked_inFormat value).abs

theorem toReal_neg (value : Float) : toReal (-value) = -toReal value := by
  unfold toReal
  rw [unpacked_neg, realValue_neg]

variable {value : Float}

theorem isFinite_neg (finite : value.isFinite = true) :
    (-value).isFinite = true := by
  rw [isFinite_eq] at finite ⊢
  rw [unpacked_neg]
  cases form : unpacked value with
  | infinity | notANumber =>
    rw [form] at finite
    cases finite
  | zero | finite => rfl

theorem isNaN_abs (value : Float) : value.abs.isNaN = value.isNaN := by
  rw [isNaN_eq, isNaN_eq, unpacked_abs]
  cases unpacked value <;> rfl

/-- The absolute value of a float is that of the number it stands for. -/
theorem toEReal_abs (value : Float) :
    toEReal value.abs = max (toEReal value) (-toEReal value) := by
  unfold toEReal
  rw [unpacked_abs]
  cases unpacked value with
  | notANumber | zero =>
    show ((0 : ℝ) : EReal) = max ((0 : ℝ) : EReal) (-((0 : ℝ) : EReal))
    rw [EReal.coe_zero, neg_zero, max_self]
  | infinity sign =>
    cases sign
    · exact (max_eq_right bot_le).symm
    · exact (max_eq_left le_top).symm
  | finite sign mantissa exponent positive =>
    have magnitude := scaled_nonneg mantissa exponent
    cases sign
    · show (scaled mantissa exponent : EReal) =
        max ((-scaled mantissa exponent : ℝ) : EReal) (-((-scaled mantissa exponent : ℝ) : EReal))
      rw [← EReal.coe_neg, neg_neg, max_eq_right (EReal.coe_le_coe_iff.mpr (by linarith))]
    · show (scaled mantissa exponent : EReal) =
        max (scaled mantissa exponent : EReal) (-(scaled mantissa exponent : EReal))
      rw [← EReal.coe_neg, max_eq_left (EReal.coe_le_coe_iff.mpr (by linarith))]

theorem unpacked_zero : unpacked 0.0 = .zero .positive := rfl

theorem toEReal_zero : toEReal 0.0 = 0 := by
  unfold toEReal
  rw [unpacked_zero]
  rfl

theorem abs_not_neg (value : Float) : ¬ value.abs < 0.0 := by
  intro negative
  obtain ⟨_, _, order⟩ := (lt_iff _ _).mp negative
  rw [toEReal_abs, toEReal_zero, max_lt_iff, EReal.neg_lt_zero] at order
  exact absurd order.1 (not_lt.mpr order.2.le)

theorem isNaN_neg_unpacked (value : UnpackedFloat) : value.neg.isNaN = value.isNaN := by
  cases value <;> rfl

theorem extended_neg (value : UnpackedFloat) : extended value.neg = -extended value := by
  cases value with
  | notANumber | zero =>
    show ((0 : ℝ) : EReal) = -((0 : ℝ) : EReal)
    rw [EReal.coe_zero, neg_zero]
  | infinity sign =>
    cases sign
    · exact EReal.neg_bot.symm
    · exact EReal.neg_top.symm
  | finite sign mantissa exponent positive =>
    cases sign
    · show (scaled mantissa exponent : EReal) = -((-scaled mantissa exponent : ℝ) : EReal)
      rw [EReal.coe_neg, neg_neg]
    · exact EReal.coe_neg _

theorem isNaN_neg (value : Float) : (-value).isNaN = value.isNaN := by
  rw [isNaN_eq, isNaN_eq, unpacked_neg, isNaN_neg_unpacked]

theorem toEReal_neg (value : Float) : toEReal (-value) = -toEReal value := by
  unfold toEReal
  rw [unpacked_neg, extended_neg]

/-- A float that is not zero has a positive magnitude, on either side. -/
theorem abs_pos_of_pos (positive : 0.0 < value) :
    0.0 < value.abs ∧ 0.0 < (-value).abs := by
  obtain ⟨zeroNumber, number, above⟩ := (lt_iff _ _).mp positive
  rw [toEReal_zero] at above
  refine ⟨(lt_iff _ _).mpr ⟨zeroNumber, by rwa [isNaN_abs], ?_⟩,
    (lt_iff _ _).mpr ⟨zeroNumber, by rwa [isNaN_abs, isNaN_neg], ?_⟩⟩
  · rw [toEReal_abs, toEReal_zero]
    exact lt_max_of_lt_left above
  · rw [toEReal_abs, toEReal_neg, neg_neg, toEReal_zero]
    exact lt_max_of_lt_right above

theorem ne_zero_of_pos (positive : 0.0 < value) :
    (value == 0.0) = false ∧ (-value == 0.0) = false := by
  have above := ((lt_iff _ _).mp positive).2.2
  rw [toEReal_zero] at above
  refine ⟨Bool.eq_false_iff.mpr fun same => ?_, Bool.eq_false_iff.mpr fun same => ?_⟩
  · exact above.ne' (((beq_iff _ _).mp same).2.2.trans toEReal_zero)
  · have zero := ((beq_iff _ _).mp same).2.2
    rw [toEReal_neg, toEReal_zero, EReal.neg_eq_zero_iff] at zero
    exact above.ne' zero

/-! ### Tolerances -/

/-- A difference found smaller than a tolerance is smaller than it. -/
theorem abs_sub_lt {first second tolerance : Float} (firstFinite : first.isFinite = true)
    (secondFinite : second.isFinite = true) (toleranceFinite : tolerance.isFinite = true)
    (near : (first - second).abs < tolerance) :
    |toReal first - toReal second| < toReal tolerance := by
  obtain ⟨_, _, order⟩ := (lt_iff _ _).mp near
  rw [toEReal_abs, toEReal_of_finite toleranceFinite, max_lt_iff] at order
  obtain ⟨fromAbove, fromBelow⟩ := order
  have rounded := sub_roundedFrom firstFinite secondFinite
  refine abs_lt.mpr ⟨?_, ?_⟩
  · by_contra far
    have bound := rounded.below (-tolerance) (isFinite_neg toleranceFinite)
      (by rw [toReal_neg]; exact not_lt.mp far)
    rw [toEReal_of_finite (isFinite_neg toleranceFinite), toReal_neg, EReal.coe_neg] at bound
    exact absurd fromBelow (not_lt.mpr (EReal.le_neg_of_le_neg bound))
  · by_contra far
    have bound := rounded.above tolerance toleranceFinite (not_lt.mp far)
    rw [toEReal_of_finite toleranceFinite] at bound
    exact absurd fromAbove (not_lt.mpr bound)

/-- A finite float differs from itself by less than any positive tolerance. -/
theorem abs_sub_self_lt {value tolerance : Float} (finite : value.isFinite = true)
    (positive : 0.0 < tolerance) : (value - value).abs < tolerance := by
  obtain ⟨_, number, order⟩ := (lt_iff _ _).mp positive
  rw [toEReal_zero] at order
  have rounded := sub_roundedFrom finite finite
  rw [sub_self] at rounded
  have zeroFinite : (0.0 : Float).isFinite = true := by
    rw [isFinite_eq, unpacked_zero]
    rfl
  have zeroValue : toReal 0.0 = 0 := by
    unfold toReal
    rw [unpacked_zero]
    rfl
  have above := rounded.above 0.0 zeroFinite zeroValue.le
  have below := rounded.below 0.0 zeroFinite zeroValue.ge
  rw [toEReal_zero] at above below
  refine (lt_iff _ _).mpr ⟨?_, number, ?_⟩
  · rw [isNaN_abs]
    exact rounded.number
  · rw [toEReal_abs, le_antisymm below above, neg_zero, max_self]
    exact order

/-! ### Sums and their summands -/

theorem unpacked_add
    (computed : UnpackedFloat.add .binary64 (unpacked first) (unpacked second) = result)
    (form : CanonicalForm .binary64 result) :
    unpacked (first + second) = clamp .binary64 result := by
  subst computed
  exact unpacked_ofModel_pack form

theorem add_notANumber (number : UnpackedFloat) :
    UnpackedFloat.add spec number .notANumber = .notANumber := by
  cases number <;> rfl

theorem eq_notANumber (undefined : result.isNaN = true) :
    result = .notANumber := by
  cases result with
  | notANumber => rfl
  | infinity | zero | finite => cases undefined

/-- A sum that is a number has numbers for summands. -/
theorem isNaN_of_add (number : (first + second).isNaN = false) :
    first.isNaN = false ∧ second.isNaN = false := by
  have undefined : ∀ (computed : UnpackedFloat.add .binary64 (unpacked first)
      (unpacked second) = .notANumber), False := by
    intro computed
    rw [isNaN_eq, unpacked_add computed trivial] at number
    cases number
  rw [isNaN_eq, isNaN_eq, ← Bool.not_eq_true, ← Bool.not_eq_true]
  refine ⟨fun isNaN => undefined ?_, fun isNaN => undefined ?_⟩
  · rw [eq_notANumber isNaN]
    rfl
  · rw [eq_notANumber isNaN, add_notANumber]

/-- A sum with an infinity that is a number is that infinity. -/
theorem unpacked_add_infinity_right {sign : Sign} (infinite : unpacked second = .infinity sign)
    (number : (first + second).isNaN = false) :
    unpacked (first + second) = .infinity sign := by
  cases form : unpacked first with
  | notANumber =>
    have firstNumber := (isNaN_of_add number).1
    rw [isNaN_eq, form] at firstNumber
    cases firstNumber
  | zero | finite =>
    have computed : UnpackedFloat.add .binary64 (unpacked first) (unpacked second) =
        .infinity sign := by
      rw [form, infinite]
      rfl
    exact unpacked_add computed trivial
  | infinity otherSign =>
    by_cases same : otherSign = sign
    · have computed : UnpackedFloat.add .binary64 (unpacked first) (unpacked second) =
          .infinity sign := by
        rw [form, infinite, same]
        cases sign <;> rfl
      exact unpacked_add computed trivial
    · have undefined : UnpackedFloat.add .binary64 (unpacked first) (unpacked second) =
          .notANumber := by
        rw [form, infinite]
        cases otherSign <;> cases sign <;> first | rfl | exact absurd rfl same
      rw [isNaN_eq, unpacked_add undefined trivial] at number
      cases number

theorem unpacked_add_infinity_left {sign : Sign} (infinite : unpacked first = .infinity sign)
    (secondFinite : second.isFinite = true) :
    unpacked (first + second) = .infinity sign := by
  have finite : (unpacked second).isFinite = true := secondFinite
  have computed : UnpackedFloat.add .binary64 (unpacked first) (unpacked second) =
      .infinity sign := by
    rw [infinite]
    cases form : unpacked second with
    | infinity | notANumber =>
      rw [form] at finite
      cases finite
    | zero | finite => rfl
  exact unpacked_add computed trivial

theorem toEReal_of_positive (infinite : unpacked value = .infinity .positive) :
    toEReal value = ⊤ := by
  unfold toEReal
  rw [infinite]
  rfl

theorem toEReal_of_negative (infinite : unpacked value = .infinity .negative) :
    toEReal value = ⊥ := by
  unfold toEReal
  rw [infinite]
  rfl

/-- A number plus a finite float is a number. -/
theorem add_number {value increment : Float} (number : value.isNaN = false)
    (finite : increment.isFinite = true) : (value + increment).isNaN = false := by
  rcases finite_or_infinity number with valueFinite | isTop | isBottom
  · exact (add_roundedFrom valueFinite finite).number
  · rw [isNaN_eq, unpacked_add_infinity_left isTop finite]
    rfl
  · rw [isNaN_eq, unpacked_add_infinity_left isBottom finite]
    rfl

/-- Adding something that is not negative does not make a float smaller, whatever the rounding
and whether or not the sum overflows. -/
theorem le_add_of_not_neg {value increment : Float}
    (number : (value + increment).isNaN = false) (notNegative : ¬ increment < 0.0) :
    value ≤ value + increment := by
  obtain ⟨valueNumber, incrementNumber⟩ := isNaN_of_add number
  have nonneg : 0 ≤ toEReal increment := by
    by_contra negative
    refine notNegative ((lt_iff _ _).mpr ⟨incrementNumber, ?_, ?_⟩)
    · rw [isNaN_eq, unpacked_zero]
      rfl
    · rw [toEReal_zero]
      exact not_le.mp negative
  refine (le_iff _ _).mpr ⟨valueNumber, number, ?_⟩
  rcases finite_or_infinity incrementNumber with incrementFinite | isTop | isBottom
  · rcases finite_or_infinity valueNumber with valueFinite | isTop | isBottom
    · have increases : 0 ≤ toReal increment := by
        rwa [toEReal_of_finite incrementFinite, EReal.coe_nonneg] at nonneg
      exact (add_roundedFrom valueFinite incrementFinite).above value valueFinite (by linarith)
    · rw [toEReal_of_positive (unpacked_add_infinity_left isTop incrementFinite)]
      exact le_top
    · rw [toEReal_of_negative isBottom]
      exact bot_le
  · rw [toEReal_of_positive (unpacked_add_infinity_right isTop number)]
    exact le_top
  · rw [toEReal_of_negative isBottom] at nonneg
    exact absurd nonneg (not_le.mpr EReal.bot_lt_zero)

/-- Taking away something that is not negative does not make a positive float larger. -/
theorem not_lt_sub_of_not_neg {value decrement : Float} (positive : 0.0 < value)
    (decrementFinite : decrement.isFinite = true) (notNegative : ¬ decrement < 0.0) :
    ¬ value < value - decrement := by
  intro order
  obtain ⟨valueNumber, differenceNumber, less⟩ := (lt_iff _ _).mp order
  rcases finite_or_infinity valueNumber with valueFinite | isTop | isBottom
  · have decreases : 0 ≤ toReal decrement := by
      by_contra negative
      refine notNegative ((lt_iff _ _).mpr ⟨?_, rfl, ?_⟩)
      · cases form : unpacked decrement with
        | notANumber =>
          rw [isFinite_eq, form] at decrementFinite
          cases decrementFinite
        | infinity | zero | finite =>
          rw [isNaN_eq, form]
          rfl
      · rw [toEReal_zero, toEReal_of_finite decrementFinite, ← EReal.coe_zero,
          EReal.coe_lt_coe_iff]
        exact not_le.mp negative
    have bound := (sub_roundedFrom valueFinite decrementFinite).below value valueFinite
      (by linarith)
    exact absurd less (not_lt.mpr bound)
  · rw [toEReal_of_positive isTop] at less
    exact not_top_lt less
  · obtain ⟨_, _, above⟩ := (lt_iff _ _).mp positive
    rw [toEReal_of_negative isBottom] at above
    exact not_lt_bot above

/-! ### The sign of a sum -/

/-- The least positive float. -/
def leastPositive : Float := Float.ofBits 1

theorem toReal_leastPositive : toReal leastPositive = 2 ^ (-1074 : ℤ) := by
  have form : unpacked leastPositive = .finite .positive 1 (-1074) Nat.one_pos := rfl
  unfold toReal
  rw [form, realValue_finite]
  unfold applySign scaled
  rw [Nat.cast_one, one_mul]

/-- Finite floats are whole multiples of the least positive one. -/
theorem exists_toReal_eq (value : Float) : ∃ steps : ℤ, toReal value = steps * 2 ^ (-1074 : ℤ) := by
  have canonicalForm := (unpacked_inFormat value).canonical
  unfold toReal
  cases form : unpacked value with
  | infinity | notANumber | zero => exact ⟨0, by rw [Int.cast_zero, zero_mul]; rfl⟩
  | finite sign mantissa exponent positive =>
    rw [form] at canonicalForm
    have canonical : Canonical .binary64 mantissa exponent := canonicalForm
    obtain ⟨shift, rfl⟩ : ∃ shift : ℕ, exponent = -1074 + shift := by
      have least : (-1074 : ℤ) ≤ exponent := canonical.least
      exact ⟨(exponent + 1074).toNat, by omega⟩
    rw [realValue_finite, scaled_add]
    cases sign
    · exact ⟨-(mantissa * 2 ^ shift : ℕ), by unfold applySign scaled; push_cast; ring⟩
    · exact ⟨(mantissa * 2 ^ shift : ℕ), by unfold applySign scaled; push_cast; ring⟩

/-- A sum that is not negative has an exact value that is not negative: rounding keeps the
sign. -/
theorem le_of_nonneg_neg_add {value bound : Float} (nonneg : 0.0 ≤ -value + bound) :
    value ≤ bound := by
  obtain ⟨_, number, order⟩ := (le_iff _ _).mp nonneg
  obtain ⟨negNumber, boundNumber⟩ := isNaN_of_add number
  rw [toEReal_zero] at order
  have valueNumber : value.isNaN = false := by
    rw [isNaN_eq, unpacked_neg] at negNumber
    rw [isNaN_eq]
    cases form : unpacked value with
    | notANumber =>
      rw [form] at negNumber
      cases negNumber
    | infinity | zero | finite => rfl
  refine (le_iff _ _).mpr ⟨valueNumber, boundNumber, ?_⟩
  rcases finite_or_infinity boundNumber with boundFinite | isTop | isBottom
  · rcases finite_or_infinity valueNumber with valueFinite | isTop | isBottom
    · rw [toEReal_of_finite valueFinite, toEReal_of_finite boundFinite, EReal.coe_le_coe_iff]
      by_contra above
      have rounded := add_roundedFrom (isFinite_neg valueFinite) boundFinite
      obtain ⟨valueSteps, valueEq⟩ := exists_toReal_eq value
      obtain ⟨boundSteps, boundEq⟩ := exists_toReal_eq bound
      have unit : (0 : ℝ) < 2 ^ (-1074 : ℤ) := by positivity
      have steps : boundSteps + 1 ≤ valueSteps := by
        rw [valueEq, boundEq, not_le, mul_lt_mul_iff_left₀ unit, Int.cast_lt] at above
        exact above
      have apart : (boundSteps : ℝ) + 1 ≤ valueSteps := by exact_mod_cast steps
      have leastFinite : (-leastPositive).isFinite = true := by decide
      have negative := rounded.below (-leastPositive) leastFinite (by
        rw [toReal_neg, toReal_neg, toReal_leastPositive, valueEq, boundEq]
        nlinarith only [apart, unit])
      rw [toEReal_of_finite leastFinite, toReal_neg, toReal_leastPositive] at negative
      have positive := EReal.coe_nonneg.mp (order.trans negative)
      linarith
    · have infinite : unpacked (-value) = .infinity .negative := by
        rw [unpacked_neg, show unpacked value = .infinity .positive from isTop]
        rfl
      rw [toEReal_of_negative (unpacked_add_infinity_left infinite boundFinite)] at order
      exact absurd order (not_le.mpr EReal.bot_lt_zero)
    · rw [toEReal_of_negative isBottom]
      exact bot_le
  · rw [toEReal_of_positive isTop]
    exact le_top
  · rw [toEReal_of_negative (unpacked_add_infinity_right isBottom number)] at order
    exact absurd order (not_le.mpr EReal.bot_lt_zero)

end Binary64
