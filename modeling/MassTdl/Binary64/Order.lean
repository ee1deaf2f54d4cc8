/-
This file gives `Float` its order in terms of real numbers. A float that is not NaN stands for
an extended real number, and the comparisons of floats are the comparisons of these numbers.

It also converts floats between the two formats. A conversion rounds a finite number to the
format it goes to and keeps everything else, as a cast does; it is spelled with the rounding
of the floating-point model, so that it computes where a cast of the runtime does not.
-/

import MassTdl.Binary64.Packing
import Mathlib.Data.EReal.Basic

namespace Binary64

open Float.Model Float.Model.UnpackedFloat

variable {spec : Format}

/-! ### Comparing canonical numbers -/

/-- Exponents first, then mantissas: the comparison of canonical magnitudes. -/
theorem compare_magnitude_cases {firstMantissa secondMantissa : ℕ}
    {firstExponent secondExponent : ℤ} (first : Canonical spec firstMantissa firstExponent)
    (second : Canonical spec secondMantissa secondExponent) :
    ((compare firstExponent secondExponent).then (compare firstMantissa secondMantissa) = .lt ∧
        scaled firstMantissa firstExponent < scaled secondMantissa secondExponent) ∨
      ((compare firstExponent secondExponent).then (compare firstMantissa secondMantissa) = .eq ∧
        scaled firstMantissa firstExponent = scaled secondMantissa secondExponent) ∨
      ((compare firstExponent secondExponent).then (compare firstMantissa secondMantissa) = .gt ∧
        scaled secondMantissa secondExponent < scaled firstMantissa firstExponent) := by
  rcases lt_trichotomy firstExponent secondExponent with smaller | rfl | larger
  · rw [compare_lt_iff_lt.mpr smaller]
    have notLeast : secondExponent ≠ spec.minExponent := by
      have least := first.least
      omega
    exact .inl ⟨rfl, Canonical.lt_of_exponent_lt first.fits
      (second.full.resolve_left notLeast) smaller⟩
  · rw [compare_eq_iff_eq.mpr rfl, Ordering.eq_then]
    rcases lt_trichotomy firstMantissa secondMantissa with smaller | rfl | larger
    · exact .inl ⟨compare_lt_iff_lt.mpr smaller, (scaled_lt_scaled_iff _ _ _).mpr smaller⟩
    · exact .inr (.inl ⟨compare_eq_iff_eq.mpr rfl, rfl⟩)
    · exact .inr (.inr ⟨compare_gt_iff_gt.mpr larger, (scaled_lt_scaled_iff _ _ _).mpr larger⟩)
  · rw [compare_gt_iff_gt.mpr larger]
    have notLeast : firstExponent ≠ spec.minExponent := by
      have least := second.least
      omega
    exact .inr (.inr ⟨rfl, Canonical.lt_of_exponent_lt second.fits
      (first.full.resolve_left notLeast) larger⟩)

variable {first second : UnpackedFloat}

/-- Finite numbers are compared as the real numbers they stand for. -/
theorem compare_finite_cases (firstFinite : first.isFinite = true)
    (secondFinite : second.isFinite = true) (firstForm : CanonicalForm spec first)
    (secondForm : CanonicalForm spec second) :
    (first.compare second = some .lt ∧ realValue first < realValue second) ∨
      (first.compare second = some .eq ∧ realValue first = realValue second) ∨
      (first.compare second = some .gt ∧ realValue second < realValue first) := by
  cases first with
  | infinity | notANumber => cases firstFinite
  | zero firstSign =>
    cases second with
    | infinity | notANumber => cases secondFinite
    | zero secondSign => exact .inr (.inl ⟨rfl, rfl⟩)
    | finite secondSign mantissa exponent positive =>
      have magnitude := scaled_pos exponent positive
      cases secondSign with
      | positive => exact .inl ⟨rfl, magnitude⟩
      | negative => exact .inr (.inr ⟨rfl, neg_neg_of_pos magnitude⟩)
  | finite firstSign firstMantissa firstExponent firstPositive =>
    have firstMagnitude := scaled_pos firstExponent firstPositive
    cases second with
    | infinity | notANumber => cases secondFinite
    | zero secondSign =>
      cases firstSign with
      | positive => exact .inr (.inr ⟨rfl, firstMagnitude⟩)
      | negative => exact .inl ⟨rfl, neg_neg_of_pos firstMagnitude⟩
    | finite secondSign secondMantissa secondExponent secondPositive =>
      have secondMagnitude := scaled_pos secondExponent secondPositive
      have magnitudes := compare_magnitude_cases firstForm secondForm
      cases firstSign with
      | positive =>
        cases secondSign with
        | positive =>
          rcases magnitudes with ⟨result, order⟩ | ⟨result, order⟩ | ⟨result, order⟩
          · exact .inl ⟨congrArg some result, order⟩
          · exact .inr (.inl ⟨congrArg some result, order⟩)
          · exact .inr (.inr ⟨congrArg some result, order⟩)
        | negative =>
          exact .inr (.inr ⟨rfl, (neg_neg_of_pos secondMagnitude).trans firstMagnitude⟩)
      | negative =>
        cases secondSign with
        | positive => exact .inl ⟨rfl, (neg_neg_of_pos firstMagnitude).trans secondMagnitude⟩
        | negative =>
          rcases magnitudes with ⟨result, order⟩ | ⟨result, order⟩ | ⟨result, order⟩
          · exact .inr (.inr ⟨congrArg (fun order : Ordering => some order.swap) result,
              neg_lt_neg order⟩)
          · exact .inr (.inl ⟨congrArg (fun order : Ordering => some order.swap) result,
              congrArg Neg.neg order⟩)
          · exact .inl ⟨congrArg (fun order : Ordering => some order.swap) result, neg_lt_neg order⟩

/-! ### Extended real values -/

/-- The extended real number an unpacked float stands for; NaN is given zero. -/
noncomputable def extended : UnpackedFloat → EReal
  | .infinity .positive => ⊤
  | .infinity .negative => ⊥
  | other => realValue other

theorem extended_of_finite {unpacked : UnpackedFloat} (finite : unpacked.isFinite = true) :
    extended unpacked = (realValue unpacked : EReal) := by
  cases unpacked with
  | infinity | notANumber => cases finite
  | zero | finite => rfl

theorem finite_or_infinity {unpacked : UnpackedFloat} (number : unpacked.isNaN = false) :
    unpacked.isFinite = true ∨ unpacked = .infinity .positive ∨
      unpacked = .infinity .negative := by
  cases unpacked with
  | infinity sign =>
    cases sign
    · exact .inr (.inr rfl)
    · exact .inr (.inl rfl)
  | notANumber => cases number
  | zero | finite => exact .inl rfl

/-- Numbers are compared as the extended real numbers they stand for. -/
theorem compare_cases (firstNumber : first.isNaN = false) (secondNumber : second.isNaN = false)
    (firstForm : CanonicalForm spec first) (secondForm : CanonicalForm spec second) :
    (first.compare second = some .lt ∧ extended first < extended second) ∨
      (first.compare second = some .eq ∧ extended first = extended second) ∨
      (first.compare second = some .gt ∧ extended second < extended first) := by
  rcases finite_or_infinity firstNumber with firstFinite | rfl | rfl <;>
    rcases finite_or_infinity secondNumber with secondFinite | rfl | rfl
  · rw [extended_of_finite firstFinite, extended_of_finite secondFinite, EReal.coe_lt_coe_iff,
      EReal.coe_eq_coe_iff, EReal.coe_lt_coe_iff]
    exact compare_finite_cases firstFinite secondFinite firstForm secondForm
  · rw [extended_of_finite firstFinite]
    refine .inl ⟨?_, EReal.coe_lt_top _⟩
    cases first <;> first | rfl | cases firstFinite
  · rw [extended_of_finite firstFinite]
    refine .inr (.inr ⟨?_, EReal.bot_lt_coe _⟩)
    cases first <;> first | rfl | cases firstFinite
  · rw [extended_of_finite secondFinite]
    refine .inr (.inr ⟨?_, EReal.coe_lt_top _⟩)
    cases second <;> first | rfl | cases secondFinite
  · exact .inr (.inl ⟨rfl, rfl⟩)
  · exact .inr (.inr ⟨rfl, bot_lt_top⟩)
  · rw [extended_of_finite secondFinite]
    refine .inl ⟨?_, EReal.bot_lt_coe _⟩
    cases second <;> first | rfl | cases secondFinite
  · exact .inl ⟨rfl, bot_lt_top⟩
  · exact .inr (.inl ⟨rfl, rfl⟩)

theorem compare_of_isNaN (undefined : ¬ (first.isNaN = false ∧ second.isNaN = false)) :
    first.compare second = none := by
  cases first with
  | notANumber => rfl
  | infinity | zero | finite =>
    cases second with
    | notANumber => rfl
    | infinity | zero | finite => exact absurd ⟨rfl, rfl⟩ undefined

theorem unpacked_lt_iff (firstForm : CanonicalForm spec first)
    (secondForm : CanonicalForm spec second) :
    first.lt second = true ↔ first.isNaN = false ∧ second.isNaN = false ∧
      extended first < extended second := by
  rw [UnpackedFloat.lt, beq_iff_eq, ← and_assoc]
  by_cases number : first.isNaN = false ∧ second.isNaN = false
  · rw [and_iff_right number]
    rcases compare_cases number.1 number.2 firstForm secondForm with
      ⟨result, order⟩ | ⟨result, order⟩ | ⟨result, order⟩
    · rw [result]
      exact iff_of_true rfl order
    · rw [result]
      exact iff_of_false (fun impossible => by cases impossible) order.not_lt
    · rw [result]
      exact iff_of_false (fun impossible => by cases impossible) order.not_gt
  · rw [compare_of_isNaN number]
    exact iff_of_false (fun impossible => by cases impossible) fun holds => number holds.1

theorem unpacked_le_iff (firstForm : CanonicalForm spec first)
    (secondForm : CanonicalForm spec second) :
    first.le second = true ↔ first.isNaN = false ∧ second.isNaN = false ∧
      extended first ≤ extended second := by
  rw [UnpackedFloat.le, ← and_assoc]
  by_cases number : first.isNaN = false ∧ second.isNaN = false
  · rw [and_iff_right number]
    rcases compare_cases number.1 number.2 firstForm secondForm with
      ⟨result, order⟩ | ⟨result, order⟩ | ⟨result, order⟩
    · rw [result]
      exact iff_of_true rfl order.le
    · rw [result]
      exact iff_of_true rfl order.le
    · rw [result]
      exact iff_of_false (fun impossible => by cases impossible) order.not_ge
  · rw [compare_of_isNaN number]
    exact iff_of_false (fun impossible => by cases impossible) fun holds => number holds.1

/-! ### Floats -/

/-- The unpacked form of a float. -/
def unpacked (value : Float) : UnpackedFloat := value.toModel.unpack

/-- The extended real number a float stands for; NaN is given zero. -/
noncomputable def toEReal (value : Float) : EReal := extended (unpacked value)

/-- The real number a finite float stands for; infinities and NaN are given zero. -/
noncomputable def toReal (value : Float) : ℝ := realValue (unpacked value)

theorem unpacked_inFormat (value : Float) : InFormat .binary64 (unpacked value) :=
  inFormat_unpack (by decide) _

theorem isNaN_eq (value : Float) : value.isNaN = (unpacked value).isNaN := rfl

theorem isFinite_eq (value : Float) : value.isFinite = (unpacked value).isFinite := rfl

theorem toEReal_of_finite {value : Float} (finite : value.isFinite = true) :
    toEReal value = (toReal value : EReal) := extended_of_finite finite

/-- The comparison `<` of floats is that of the numbers they stand for. -/
theorem lt_iff (first second : Float) :
    first < second ↔ first.isNaN = false ∧ second.isNaN = false ∧
      toEReal first < toEReal second := by
  show decide (first.toModel < second.toModel) = true ↔ _
  rw [decide_eq_true_iff]
  exact unpacked_lt_iff (unpacked_inFormat first).canonical (unpacked_inFormat second).canonical

/-- The comparison `≤` of floats is that of the numbers they stand for. -/
theorem le_iff (first second : Float) :
    first ≤ second ↔ first.isNaN = false ∧ second.isNaN = false ∧
      toEReal first ≤ toEReal second := by
  show decide (first.toModel ≤ second.toModel) = true ↔ _
  rw [decide_eq_true_iff]
  exact unpacked_le_iff (unpacked_inFormat first).canonical (unpacked_inFormat second).canonical

theorem beq_iff (first second : Float) :
    (first == second) = true ↔
      first.isNaN = false ∧ second.isNaN = false ∧ toEReal first = toEReal second := by
  show ((unpacked first).compare (unpacked second) == some .eq) = true ↔ _
  rw [beq_iff_eq, isNaN_eq, isNaN_eq, ← and_assoc]
  have firstForm := (unpacked_inFormat first).canonical
  have secondForm := (unpacked_inFormat second).canonical
  by_cases number : (unpacked first).isNaN = false ∧ (unpacked second).isNaN = false
  · rw [and_iff_right number]
    unfold toEReal
    rcases compare_cases number.1 number.2 firstForm secondForm with
      ⟨result, order⟩ | ⟨result, order⟩ | ⟨result, order⟩
    · rw [result]
      exact iff_of_false (fun impossible => by cases impossible) order.ne
    · rw [result]
      exact iff_of_true rfl order
    · rw [result]
      exact iff_of_false (fun impossible => by cases impossible) order.ne'
  · rw [compare_of_isNaN number]
    exact iff_of_false (fun impossible => by cases impossible) fun holds => number holds.1

/-! ### Chains of comparisons -/

variable {first second : Float}

theorem number_of_le (order : first ≤ second) :
    first.isNaN = false ∧ second.isNaN = false := by
  obtain ⟨firstNumber, secondNumber, _⟩ := (le_iff _ _).mp order
  exact ⟨firstNumber, secondNumber⟩

theorem le_self_of_number {value : Float} (number : value.isNaN = false) : value ≤ value :=
  (le_iff _ _).mpr ⟨number, number, le_rfl⟩

variable {first second third : Float}

theorem chain_le (lower : first ≤ second) (upper : second ≤ third) : first ≤ third := by
  obtain ⟨firstNumber, _, lowerOrder⟩ := (le_iff _ _).mp lower
  obtain ⟨_, thirdNumber, upperOrder⟩ := (le_iff _ _).mp upper
  exact (le_iff _ _).mpr ⟨firstNumber, thirdNumber, lowerOrder.trans upperOrder⟩

theorem chain_lt (lower : first < second) (upper : second < third) : first < third := by
  obtain ⟨firstNumber, _, lowerOrder⟩ := (lt_iff _ _).mp lower
  obtain ⟨_, thirdNumber, upperOrder⟩ := (lt_iff _ _).mp upper
  exact (lt_iff _ _).mpr ⟨firstNumber, thirdNumber, lowerOrder.trans upperOrder⟩

theorem chain_lt_le (lower : first < second) (upper : second ≤ third) : first < third := by
  obtain ⟨firstNumber, _, lowerOrder⟩ := (lt_iff _ _).mp lower
  obtain ⟨_, thirdNumber, upperOrder⟩ := (le_iff _ _).mp upper
  exact (lt_iff _ _).mpr ⟨firstNumber, thirdNumber, lowerOrder.trans_le upperOrder⟩

theorem chain_le_lt (lower : first ≤ second) (upper : second < third) : first < third := by
  obtain ⟨firstNumber, _, lowerOrder⟩ := (le_iff _ _).mp lower
  obtain ⟨_, thirdNumber, upperOrder⟩ := (lt_iff _ _).mp upper
  exact (lt_iff _ _).mpr ⟨firstNumber, thirdNumber, lowerOrder.trans_lt upperOrder⟩

/-- Numbers are comparable. -/
theorem lt_of_number_of_not_le (firstNumber : first.isNaN = false)
    (secondNumber : second.isNaN = false) (notLe : ¬ second ≤ first) : first < second := by
  refine (lt_iff _ _).mpr ⟨firstNumber, secondNumber, ?_⟩
  by_contra notLt
  exact notLe ((le_iff _ _).mpr ⟨secondNumber, firstNumber, not_lt.mp notLt⟩)

theorem not_le_of_lt (order : first < second) : ¬ second ≤ first := by
  intro reverse
  obtain ⟨_, _, less⟩ := (lt_iff _ _).mp order
  obtain ⟨_, _, greater⟩ := (le_iff _ _).mp reverse
  exact absurd less (not_lt.mpr greater)

/-! ### Conversions -/

/-- A number, rounded to a format. -/
def convert (spec : Format) : UnpackedFloat → UnpackedFloat
  | .finite sign mantissa exponent _ => UnpackedFloat.round spec sign mantissa exponent
  | other => other

/-- The cast of a double to a single-precision float. -/
def narrow (value : Float) : Float32 :=
  .ofModel (Float32.Model.pack (convert .binary32 (unpacked value)))

theorem narrow_congr (same : unpacked first = unpacked second) :
    narrow first = narrow second := by
  unfold narrow
  rw [same]

/-- The cast of a single-precision float to a double. -/
def widen (value : Float32) : Float :=
  .ofModel (Float.Model.pack (convert .binary64 value.toModel.unpack))

/-- No single-precision float is smaller than itself. -/
theorem lt_irrefl_float32 (value : Float32) : ¬ value < value := by
  show ¬ decide (value.toModel < value.toModel) = true
  rw [decide_eq_true_iff]
  intro less
  have inFormat : InFormat .binary32 (unpack .binary32 value.toModel.toBits.toBitVec) :=
    inFormat_unpack (by decide) _
  have form := inFormat.canonical
  have order := (unpacked_lt_iff form form).mp less
  exact order.2.2.false

end Binary64
