/-
This file gives single-precision floats their order in terms of extended real numbers, as it is
done for doubles, and carries over what operations with one operand fixed keep of it.
-/

import MassTdl.Binary64.FixedOperand
import MassTdl.Binary64.Ratios

namespace Binary64

open Float.Model Float.Model.UnpackedFloat

/-! ### The order -/

/-- The extended real number a single-precision float stands for; NaN is given zero. -/
noncomputable def singleToEReal (value : Float32) : EReal := extended (unpackedSingle value)

theorem single_isNaN_eq (value : Float32) : value.isNaN = (unpackedSingle value).isNaN := rfl

theorem single_lt_iff (first second : Float32) :
    first < second ↔ first.isNaN = false ∧ second.isNaN = false ∧
      singleToEReal first < singleToEReal second := by
  show decide (first.toModel < second.toModel) = true ↔ _
  rw [decide_eq_true_iff]
  exact unpacked_lt_iff (unpackedSingle_inFormat first).canonical
    (unpackedSingle_inFormat second).canonical

theorem single_le_iff (first second : Float32) :
    first ≤ second ↔ first.isNaN = false ∧ second.isNaN = false ∧
      singleToEReal first ≤ singleToEReal second := by
  show decide (first.toModel ≤ second.toModel) = true ↔ _
  rw [decide_eq_true_iff]
  exact unpacked_le_iff (unpackedSingle_inFormat first).canonical
    (unpackedSingle_inFormat second).canonical

variable {first second : Float32}

theorem single_le_of_not_lt (firstNumber : first.isNaN = false)
    (secondNumber : second.isNaN = false) (notLt : ¬ second < first) : first ≤ second := by
  refine (single_le_iff _ _).mpr ⟨firstNumber, secondNumber, not_lt.mp fun less => notLt ?_⟩
  exact (single_lt_iff _ _).mpr ⟨secondNumber, firstNumber, less⟩

theorem single_lt_of_not_le (firstNumber : first.isNaN = false)
    (secondNumber : second.isNaN = false) (notLe : ¬ second ≤ first) : first < second := by
  refine (single_lt_iff _ _).mpr ⟨firstNumber, secondNumber, not_le.mp fun order => notLe ?_⟩
  exact (single_le_iff _ _).mpr ⟨secondNumber, firstNumber, order⟩

theorem single_le_of_lt (less : first < second) : first ≤ second := by
  obtain ⟨firstNumber, secondNumber, order⟩ := (single_lt_iff _ _).mp less
  exact (single_le_iff _ _).mpr ⟨firstNumber, secondNumber, order.le⟩

theorem single_not_lt_of_le (order : first ≤ second) :
    ¬ second < first := fun less =>
  absurd ((single_lt_iff _ _).mp less).2.2 (not_lt.mpr ((single_le_iff _ _).mp order).2.2)

theorem single_chain_le {first second third : Float32} (lower : first ≤ second)
    (upper : second ≤ third) : first ≤ third := by
  obtain ⟨firstNumber, -, lowerOrder⟩ := (single_le_iff _ _).mp lower
  obtain ⟨-, thirdNumber, upperOrder⟩ := (single_le_iff _ _).mp upper
  exact (single_le_iff _ _).mpr ⟨firstNumber, thirdNumber, lowerOrder.trans upperOrder⟩

variable {value : Float32}

theorem single_realValue_pos (finite : (unpackedSingle value).isFinite = true)
    (positive : 0.0 < value) : 0 < realValue (unpackedSingle value) := by
  have order := ((single_lt_iff _ _).mp positive).2.2
  unfold singleToEReal at order
  have zero : extended (unpackedSingle 0.0) = ((0 : ℝ) : EReal) := rfl
  rwa [extended_of_finite finite, zero, EReal.coe_lt_coe_iff] at order

/-! ### Operations that keep the order -/

theorem single_pack_le {exact : ℝ → ℝ} {operation : UnpackedFloat → UnpackedFloat}
    (mono : RoundsMono .binary32 exact operation) {first second : UnpackedFloat}
    (firstNumber : first.isNaN = false) (secondNumber : second.isNaN = false)
    (firstForm : CanonicalForm .binary32 first) (secondForm : CanonicalForm .binary32 second)
    (order : extended first ≤ extended second) :
    Float32.ofModel (Float32.Model.pack (operation first)) ≤
      .ofModel (Float32.Model.pack (operation second)) := by
  obtain ⟨form, number⟩ := mono.form_number firstNumber firstForm
  obtain ⟨otherForm, otherNumber⟩ := mono.form_number secondNumber secondForm
  rw [single_le_iff, single_isNaN_eq, single_isNaN_eq, singleToEReal, singleToEReal,
    unpackedSingle_ofModel_pack form, unpackedSingle_ofModel_pack otherForm]
  exact ⟨number, otherNumber, mono.le firstNumber secondNumber firstForm secondForm order⟩

/-- What is subtracted turns the order around. -/
theorem single_le_sub {operand first second : Float32}
    (finite : (unpackedSingle operand).isFinite = true) (order : first ≤ second) :
    operand - second ≤ operand - first := by
  obtain ⟨firstNumber, secondNumber, extendedOrder⟩ := (single_le_iff _ _).mp order
  have added (subtracted : Float32) : operand - subtracted = .ofModel (Float32.Model.pack
      (UnpackedFloat.add .binary32 (unpackedSingle operand) (unpackedSingle subtracted).neg)) :=
    congrArg (fun difference => Float32.ofModel (Float32.Model.pack difference))
      (sub_unpacked _ _)
  rw [added, added]
  refine single_pack_le (roundsMono_add finite (unpackedSingle_inFormat operand).canonical)
    ((isNaN_neg_unpacked _).trans secondNumber) ((isNaN_neg_unpacked _).trans firstNumber)
    (unpackedSingle_inFormat second).canonical.neg (unpackedSingle_inFormat first).canonical.neg ?_
  rw [extended_neg, extended_neg]
  exact EReal.neg_le_neg_iff.mpr extendedOrder

/-- What keeps the order of numbers, and gives a number for nothing else. -/
structure KeepsOrder (computation : Float32 → Float32) : Prop where
  le : ∀ {first second : Float32}, first ≤ second → computation first ≤ computation second
  number : ∀ {value : Float32}, (computation value).isNaN = false → value.isNaN = false

theorem KeepsOrder.comp {outer inner : Float32 → Float32} (outerKeeps : KeepsOrder outer)
    (innerKeeps : KeepsOrder inner) : KeepsOrder fun value => outer (inner value) where
  le order := outerKeeps.le (innerKeeps.le order)
  number isNumber := innerKeeps.number (outerKeeps.number isNumber)

theorem keepsOrder_of_mono {exact : ℝ → ℝ} {operation : UnpackedFloat → UnpackedFloat}
    (mono : RoundsMono .binary32 exact operation) :
    KeepsOrder fun value =>
      Float32.ofModel (Float32.Model.pack (operation (unpackedSingle value))) where
  le {first second} order := by
    obtain ⟨firstNumber, secondNumber, extendedOrder⟩ := (single_le_iff _ _).mp order
    exact single_pack_le mono firstNumber secondNumber (unpackedSingle_inFormat first).canonical
      (unpackedSingle_inFormat second).canonical extendedOrder
  number {value} isNumber := by
    by_contra undefined
    rw [single_isNaN_eq value, Bool.not_eq_false] at undefined
    rw [eq_notANumber undefined, mono.undefined] at isNumber
    exact absurd isNumber (by decide)

section Operand

variable {operand : Float32} (finite : (unpackedSingle operand).isFinite = true)

include finite

theorem keepsOrder_sub : KeepsOrder (· - operand) :=
  keepsOrder_of_mono (roundsMono_sub finite (unpackedSingle_inFormat operand).canonical)

variable (positive : 0.0 < operand)

include positive

theorem keepsOrder_mul : KeepsOrder (· * operand) :=
  keepsOrder_of_mono (roundsMono_mul finite (unpackedSingle_inFormat operand).canonical
    (single_realValue_pos finite positive))

theorem keepsOrder_div : KeepsOrder (· / operand) :=
  keepsOrder_of_mono (roundsMono_div finite (single_realValue_pos finite positive))

end Operand

/-! ### Neighbours -/

/-- From a full mantissa to the next one there is no number of the format in between. -/
theorem scaled_succ_le {spec : Format} {mantissa other : ℕ} {exponent otherExponent : ℤ}
    (full : 2 ^ (spec.mantissaBits - 1) ≤ mantissa) (canonical : Canonical spec other otherExponent)
    (above : scaled mantissa exponent < scaled other otherExponent) :
    scaled (mantissa + 1) exponent ≤ scaled other otherExponent := by
  rcases lt_or_ge otherExponent exponent with smaller | larger
  · exact absurd above (Canonical.lt_of_exponent_lt canonical.fits full smaller).asymm
  · obtain ⟨whole, same⟩ := exists_whole other larger
    rw [same, scaled_lt_scaled_iff] at above
    rw [same, scaled_le_scaled_iff]
    exact above

/-- What exceeds a positive float with a full mantissa reaches the next one. -/
theorem single_next_le {value bound next : Float32} {mantissa : ℕ} {exponent : ℤ}
    {positive : 0 < mantissa} (full : 2 ^ (Format.mantissaBits .binary32 - 1) ≤ mantissa)
    (here : unpackedSingle bound = .finite .positive mantissa exponent positive)
    (there : unpackedSingle next = .finite .positive (mantissa + 1) exponent mantissa.succ_pos)
    (above : bound < value) : next ≤ value := by
  obtain ⟨-, number, order⟩ := (single_lt_iff _ _).mp above
  refine (single_le_iff _ _).mpr ⟨?_, number, ?_⟩
  · rw [single_isNaN_eq, there]
    rfl
  unfold singleToEReal at order ⊢
  rw [here, extended_of_finite rfl] at order
  rw [there, extended_of_finite rfl]
  have form := (unpackedSingle_inFormat value).canonical
  rw [single_isNaN_eq] at number
  rcases finite_or_infinity number with finite | infinite | infinite
  · rw [extended_of_finite finite, EReal.coe_lt_coe_iff, realValue_finite, applySign] at order
    rw [extended_of_finite finite, EReal.coe_le_coe_iff, realValue_finite, applySign]
    have pos := scaled_pos exponent positive
    cases shape : unpackedSingle value with
    | infinity | notANumber =>
      rw [shape] at finite
      cases finite
    | zero sign =>
      rw [shape] at order
      exact absurd order pos.asymm
    | finite sign other otherExponent otherPositive =>
      rw [shape, realValue_finite] at order
      rw [shape] at form
      rw [realValue_finite]
      cases sign with
      | negative =>
        have below := scaled_pos otherExponent otherPositive
        rw [applySign] at order
        linarith
      | positive => exact scaled_succ_le full form order
  · rw [infinite]
    exact le_top
  · rw [infinite] at order
    exact absurd order (not_lt.mpr bot_le)

/-! ### Differences and their sign -/

theorem single_sub_unpacked (first second : Float32) :
    unpackedSingle (first - second) = clamp .binary32
      (UnpackedFloat.sub .binary32 (unpackedSingle first) (unpackedSingle second)) :=
  unpackedSingle_ofModel_pack
    (sub_form (unpackedSingle_inFormat first).canonical (unpackedSingle_inFormat second).canonical)

/-- A difference that is a number has numbers for operands. -/
theorem single_number_of_sub (number : (first - second).isNaN = false) :
    first.isNaN = false ∧ second.isNaN = false := by
  rw [single_isNaN_eq, single_sub_unpacked, clamp_isNaN] at number
  rw [single_isNaN_eq, single_isNaN_eq]
  constructor
  · by_contra undefined
    rw [eq_notANumber (Bool.eq_true_of_not_eq_false undefined)] at number
    cases number
  · by_contra undefined
    rw [eq_notANumber (Bool.eq_true_of_not_eq_false undefined), sub_unpacked] at number
    rw [show UnpackedFloat.neg .notANumber = .notANumber from rfl, add_notANumber] at number
    cases number

/-- A difference that is a number is not negative, if nothing greater is subtracted. -/
theorem single_sub_nonneg (number : (first - second).isNaN = false) (order : second ≤ first) :
    0 ≤ singleToEReal (first - second) := by
  obtain ⟨secondNumber, firstNumber, extendedOrder⟩ := (single_le_iff _ _).mp order
  rw [single_isNaN_eq, single_sub_unpacked, clamp_isNaN] at number
  rw [singleToEReal, single_sub_unpacked]
  exact extended_sub_nonneg (unpackedSingle_inFormat first).canonical
    (unpackedSingle_inFormat second).canonical firstNumber secondNumber extendedOrder number

/-- Nothing is left of a finite float less itself. -/
theorem single_sub_self (finite : (unpackedSingle value).isFinite = true) :
    ∃ sign, unpackedSingle (value - value) = .zero sign := by
  have form := (unpackedSingle_inFormat value).canonical
  have rounded := rounded_sub finite finite form form
  rw [sub_self] at rounded
  have nothing := rounded.clamp_zero
  have number : (unpackedSingle (value - value)).isNaN = false := by
    rw [single_sub_unpacked, clamp_isNaN]
    exact isNaN_of_isFinite rounded.finite
  rw [← single_sub_unpacked] at nothing
  cases shape : unpackedSingle (value - value) with
  | notANumber => rw [shape] at number; cases number
  | zero sign => exact ⟨sign, rfl⟩
  | infinity sign =>
    rw [shape] at nothing
    cases sign with
    | negative => exact absurd nothing EReal.bot_ne_zero
    | positive => exact absurd nothing EReal.top_ne_zero
  | finite sign mantissa exponent positive =>
    rw [shape, extended_of_finite rfl, EReal.coe_eq_zero, realValue_finite] at nothing
    have pos := scaled_pos exponent positive
    cases sign with
    | negative => exact absurd (neg_eq_zero.mp nothing) pos.ne'
    | positive => exact absurd nothing pos.ne'

theorem single_abs_sub_self (finite : (unpackedSingle value).isFinite = true) :
    (value - value).abs = 0.0 := by
  obtain ⟨sign, shape⟩ := single_sub_self finite
  have spelled : (value - value).abs =
      .ofModel (Float32.Model.pack (unpackedSingle (value - value)).abs) := rfl
  rw [spelled, shape]
  rfl

theorem single_zero_div {divisor : Float32} (finite : (unpackedSingle divisor).isFinite = true)
    (positive : 0.0 < divisor) : 0.0 / divisor = 0.0 := by
  have above := single_realValue_pos finite positive
  have spelled : 0.0 / divisor = .ofModel (Float32.Model.pack
      (UnpackedFloat.div .binary32 (.zero .positive) (unpackedSingle divisor))) := rfl
  rw [spelled]
  cases shape : unpackedSingle divisor with
  | infinity | notANumber =>
    rw [shape] at finite
    cases finite
  | zero sign =>
    rw [shape] at above
    exact absurd rfl above.ne
  | finite sign mantissa exponent nonzero =>
    cases sign with
    | positive => rfl
    | negative =>
      rw [shape] at above
      exact absurd above (not_lt.mpr (neg_nonpos.mpr (scaled_nonneg _ _)))

/-- What lies between two finite floats is finite. -/
theorem single_isFinite_of_between {lower value upper : Float32}
    (lowerFinite : (unpackedSingle lower).isFinite = true)
    (upperFinite : (unpackedSingle upper).isFinite = true) (above : lower ≤ value)
    (below : value ≤ upper) : (unpackedSingle value).isFinite = true := by
  obtain ⟨-, number, aboveOrder⟩ := (single_le_iff _ _).mp above
  have belowOrder := ((single_le_iff _ _).mp below).2.2
  rw [single_isNaN_eq] at number
  unfold singleToEReal at aboveOrder belowOrder
  rcases finite_or_infinity number with finite | infinite | infinite
  · exact finite
  · rw [infinite, extended_of_finite upperFinite] at belowOrder
    exact absurd belowOrder (not_le.mpr (EReal.coe_lt_top _))
  · rw [infinite, extended_of_finite lowerFinite] at aboveOrder
    exact absurd aboveOrder (not_le.mpr (EReal.bot_lt_coe _))

/-! ### Widening -/

/-- A number is widened to a number. -/
theorem convert_form_number {spec : Format} {value : UnpackedFloat}
    (number : value.isNaN = false) :
    CanonicalForm spec (convert spec value) ∧ (convert spec value).isNaN = false := by
  cases value with
  | notANumber => cases number
  | infinity | zero => exact ⟨trivial, rfl⟩
  | finite sign mantissa exponent positive =>
    have rounded : Rounded spec _ (UnpackedFloat.round spec sign mantissa exponent) :=
      rounded_round sign exponent positive
    exact ⟨rounded.form, isNaN_of_isFinite rounded.finite⟩

/-- Widening keeps the sign. -/
theorem widen_nonneg (number : value.isNaN = false) (nonneg : 0 ≤ singleToEReal value) :
    0.0 ≤ widen value := by
  have converted : CanonicalForm .binary64 (convert .binary64 (unpackedSingle value)) ∧
      (convert .binary64 (unpackedSingle value)).isNaN = false := convert_form_number number
  obtain ⟨form, resultNumber⟩ := converted
  have unpackedResult : unpacked (widen value) =
      clamp .binary64 (convert .binary64 (unpackedSingle value)) := unpacked_ofModel_pack form
  rw [le_iff, isNaN_eq (widen value), toEReal_zero, toEReal, unpackedResult, clamp_isNaN]
  refine ⟨rfl, resultNumber, ?_⟩
  unfold singleToEReal at nonneg
  cases shape : unpackedSingle value with
  | notANumber | zero => exact le_rfl
  | infinity sign =>
    rw [shape] at nonneg
    exact nonneg
  | finite sign mantissa exponent positive =>
    rw [shape] at nonneg
    cases sign with
    | negative =>
      rw [extended_of_finite rfl, EReal.coe_nonneg] at nonneg
      exact absurd nonneg (not_le.mpr (neg_neg_of_pos (scaled_pos _ positive)))
    | positive =>
      have rounded : Rounded .binary64 (scaled mantissa exponent)
          (UnpackedFloat.round .binary64 .positive mantissa exponent) :=
        rounded_round .positive exponent positive
      exact rounded.clamp_nonneg (scaled_nonneg _ _)

theorem number_of_widen (number : (widen value).isNaN = false) :
    value.isNaN = false := by
  by_contra undefined
  rw [single_isNaN_eq, Bool.not_eq_false] at undefined
  have widened : widen value = .ofModel (Float.Model.pack .notANumber) :=
    congrArg (fun wide => Float.ofModel (Float.Model.pack (convert .binary64 wide)))
      (eq_notANumber undefined)
  rw [widened] at number
  exact absurd number (by decide)

end Binary64
