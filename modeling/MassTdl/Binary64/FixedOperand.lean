/-
This file is about operations with one operand fixed. Where such an operation rounds a strictly
monotone function of the other operand and takes infinities to infinities, it keeps the order of
numbers, and what overflows stays on its side. Subtracting a finite number is of this kind, and so
are multiplication and division by a positive one, in either precision.
-/

import MassTdl.Binary64.Apart

namespace Binary64

open Float.Model Float.Model.UnpackedFloat

variable {spec : Format}

/-! ### Operations that keep the order -/

theorem isNaN_of_isFinite {value : UnpackedFloat} (finite : value.isFinite = true) :
    value.isNaN = false := by
  cases value with
  | infinity | notANumber => cases finite
  | zero | finite => rfl

theorem zero_inFormat : InFormat spec (.zero .positive) :=
  ⟨trivial, fun _ _ _ _ same => by cases same⟩

variable {result : UnpackedFloat}

theorem Rounded.clamp_nonneg {exact : ℝ} (rounded : Rounded spec exact result)
    (nonneg : 0 ≤ exact) :
    0 ≤ extended (clamp spec result) :=
  extended_le_clamp rfl zero_inFormat rounded.finite rounded.form
    (rounded.nearest.faithful.above (.zero .positive) trivial nonneg)

theorem Rounded.clamp_nonpos {exact : ℝ} (rounded : Rounded spec exact result)
    (nonpos : exact ≤ 0) :
    extended (clamp spec result) ≤ 0 :=
  clamp_le_extended rfl zero_inFormat rounded.finite rounded.form
    (rounded.nearest.faithful.below (.zero .positive) trivial nonpos)

theorem Rounded.clamp_zero (rounded : Rounded spec 0 result) :
    extended (clamp spec result) = 0 :=
  le_antisymm (rounded.clamp_nonpos le_rfl) (rounded.clamp_nonneg le_rfl)

/-- The operation rounds a strictly monotone function of its operand. -/
structure RoundsMono (spec : Format) (exact : ℝ → ℝ) (operation : UnpackedFloat → UnpackedFloat) :
    Prop where
  rounded : ∀ operand : UnpackedFloat, operand.isFinite = true → CanonicalForm spec operand →
    Rounded spec (exact (realValue operand)) (operation operand)
  strict : StrictMono exact
  zero : ∃ spelled : UnpackedFloat, CanonicalForm spec spelled ∧ realValue spelled = exact 0
  infinite : ∀ sign, operation (.infinity sign) = .infinity sign
  undefined : operation .notANumber = .notANumber

variable {first second : UnpackedFloat}

section RoundsMono

variable {exact : ℝ → ℝ} {operation : UnpackedFloat → UnpackedFloat}
variable (mono : RoundsMono spec exact operation)

include mono

/-- A number gives a number. -/
theorem RoundsMono.form_number {operand : UnpackedFloat} (number : operand.isNaN = false)
    (form : CanonicalForm spec operand) :
    CanonicalForm spec (operation operand) ∧ (clamp spec (operation operand)).isNaN = false := by
  rw [clamp_isNaN]
  rcases finite_or_infinity number with finite | rfl | rfl
  · have rounded := mono.rounded operand finite form
    exact ⟨rounded.form, isNaN_of_isFinite rounded.finite⟩
  · rw [mono.infinite]
    exact ⟨trivial, rfl⟩
  · rw [mono.infinite]
    exact ⟨trivial, rfl⟩

/-- Operands of one value have results of one value. -/
theorem RoundsMono.realValue_eq (firstFinite : first.isFinite = true)
    (secondFinite : second.isFinite = true) (firstForm : CanonicalForm spec first)
    (secondForm : CanonicalForm spec second) (same : realValue first = realValue second) :
    realValue (operation first) = realValue (operation second) := by
  by_cases nonzero : realValue first = 0
  · obtain ⟨spelled, form, value⟩ := mono.zero
    have reached {operand : UnpackedFloat} (finite : operand.isFinite = true)
        (operandForm : CanonicalForm spec operand) (zero : realValue operand = 0) :
        realValue (operation operand) = realValue spelled := by
      have faithful := (mono.rounded operand finite operandForm).nearest.faithful
      rw [zero, ← value] at faithful
      exact le_antisymm (faithful.below spelled form le_rfl) (faithful.above spelled form le_rfl)
    rw [reached firstFinite firstForm nonzero, reached secondFinite secondForm (same ▸ nonzero)]
  · rw [firstForm.eq_of_realValue_eq secondForm nonzero same]

/-- The operation keeps the order of numbers, whether or not their results are finite. -/
theorem RoundsMono.le (firstNumber : first.isNaN = false) (secondNumber : second.isNaN = false)
    (firstForm : CanonicalForm spec first) (secondForm : CanonicalForm spec second)
    (order : extended first ≤ extended second) :
    extended (clamp spec (operation first)) ≤ extended (clamp spec (operation second)) := by
  rcases finite_or_infinity firstNumber with firstFinite | rfl | rfl
  · rcases finite_or_infinity secondNumber with secondFinite | rfl | rfl
    · have rounded := mono.rounded first firstFinite firstForm
      have otherRounded := mono.rounded second secondFinite secondForm
      refine clamp_mono rounded.finite otherRounded.finite rounded.form otherRounded.form ?_
      rw [extended_of_finite firstFinite, extended_of_finite secondFinite,
        EReal.coe_le_coe_iff] at order
      rcases lt_or_eq_of_le order with less | same
      · exact rounded.le_of_lt otherRounded (mono.strict less)
      · exact (mono.realValue_eq firstFinite secondFinite firstForm secondForm same).le
    · rw [mono.infinite]
      exact le_top
    · rw [extended_of_finite firstFinite] at order
      exact absurd order (not_le.mpr (EReal.bot_lt_coe _))
  · rcases finite_or_infinity secondNumber with secondFinite | rfl | rfl
    · rw [extended_of_finite secondFinite] at order
      exact absurd order (not_le.mpr (EReal.coe_lt_top _))
    · exact le_rfl
    · exact absurd order (not_le.mpr bot_lt_top)
  · rw [mono.infinite]
    exact bot_le

/-- What takes zero to zero keeps the sign. -/
theorem RoundsMono.nonneg (atZero : exact 0 = 0) {operand : UnpackedFloat}
    (number : operand.isNaN = false) (form : CanonicalForm spec operand)
    (above : 0 ≤ extended operand) : 0 ≤ extended (clamp spec (operation operand)) := by
  have rounded := mono.rounded (.zero .positive) rfl trivial
  have atOrigin : exact (realValue (.zero .positive)) = 0 := atZero
  rw [atOrigin] at rounded
  rw [← rounded.clamp_zero]
  exact mono.le rfl number trivial form above

end RoundsMono

/-! ### The operations -/

section Operations

variable {operand : UnpackedFloat} (finite : operand.isFinite = true)
variable (form : CanonicalForm spec operand)

include finite form

theorem roundsMono_sub :
    RoundsMono spec (fun value => value - realValue operand)
      (UnpackedFloat.sub spec · operand) where
  rounded other otherFinite otherForm := rounded_sub otherFinite finite otherForm form
  strict _ _ less := sub_lt_sub_right less _
  zero := ⟨operand.neg, form.neg, by rw [realValue_neg, zero_sub]⟩
  infinite sign := by
    cases operand with
    | infinity | notANumber => cases finite
    | zero | finite => rfl
  undefined := rfl

theorem roundsMono_add :
    RoundsMono spec (fun value => realValue operand + value)
      (UnpackedFloat.add spec operand) where
  rounded other otherFinite otherForm := rounded_add finite otherFinite form otherForm
  strict _ _ less := add_lt_add_right less _
  zero := ⟨operand, form, (add_zero _).symm⟩
  infinite sign := by
    cases operand with
    | infinity | notANumber => cases finite
    | zero | finite => rfl
  undefined := by
    cases operand with
    | infinity | notANumber => cases finite
    | zero | finite => rfl

variable (positive : 0 < realValue operand)

include positive

theorem roundsMono_mul :
    RoundsMono spec (fun value => value * realValue operand)
      (UnpackedFloat.mul spec · operand) where
  rounded other otherFinite otherForm := rounded_mul otherFinite finite otherForm form
  strict _ _ less := mul_lt_mul_of_pos_right less positive
  zero := ⟨.zero .positive, trivial, (zero_mul _).symm⟩
  infinite sign := by
    cases operand with
    | infinity | notANumber => cases finite
    | zero => exact absurd rfl positive.ne
    | finite operandSign mantissa exponent above =>
      cases operandSign with
      | positive => cases sign <;> rfl
      | negative => exact absurd positive (not_lt.mpr (neg_nonpos.mpr (scaled_nonneg _ _)))
  undefined := rfl

omit form in
theorem roundsMono_div :
    RoundsMono spec (fun value => value / realValue operand)
      (UnpackedFloat.div spec · operand) where
  rounded other otherFinite _ := rounded_div otherFinite finite positive.ne'
  strict _ _ less := div_lt_div_of_pos_right less positive
  zero := ⟨.zero .positive, trivial, (zero_div _).symm⟩
  infinite sign := by
    cases operand with
    | infinity | notANumber => cases finite
    | zero => exact absurd rfl positive.ne
    | finite operandSign mantissa exponent above =>
      cases operandSign with
      | positive => cases sign <;> rfl
      | negative => exact absurd positive (not_lt.mpr (neg_nonpos.mpr (scaled_nonneg _ _)))
  undefined := rfl

end Operations

/-- A difference that is a number is not negative, if nothing greater is subtracted. -/
theorem extended_sub_nonneg (firstForm : CanonicalForm spec first)
    (secondForm : CanonicalForm spec second) (firstNumber : first.isNaN = false)
    (secondNumber : second.isNaN = false) (order : extended second ≤ extended first)
    (number : (UnpackedFloat.sub spec first second).isNaN = false) :
    0 ≤ extended (clamp spec (UnpackedFloat.sub spec first second)) := by
  rcases finite_or_infinity secondNumber with finite | rfl | rfl
  · have none := rounded_sub finite finite secondForm secondForm
    rw [sub_self] at none
    rw [← none.clamp_zero]
    exact (roundsMono_sub finite secondForm).le secondNumber firstNumber secondForm firstForm order
  · rcases finite_or_infinity firstNumber with finite | rfl | rfl
    · rw [extended_of_finite finite] at order
      exact absurd order (not_le.mpr (EReal.coe_lt_top _))
    · cases number
    · exact absurd order (not_le.mpr bot_lt_top)
  · cases first with
    | notANumber => cases firstNumber
    | infinity sign =>
      cases sign with
      | positive => exact le_top
      | negative => cases number
    | zero | finite => exact le_top

/-- A quotient of something that is not negative by something positive is not negative. -/
theorem zero_le_div {dividend divisor : Float} (nonneg : 0.0 ≤ dividend)
    (finite : divisor.isFinite = true) (positive : 0.0 < divisor) : 0.0 ≤ dividend / divisor := by
  obtain ⟨-, number, order⟩ := (le_iff _ _).mp nonneg
  rw [toEReal_zero] at order
  have mono : RoundsMono .binary64 (fun value => value / toReal divisor)
      (UnpackedFloat.div .binary64 · (unpacked divisor)) :=
    roundsMono_div finite (toReal_pos finite positive)
  have form := (unpacked_inFormat dividend).canonical
  obtain ⟨resultForm, resultNumber⟩ := mono.form_number number form
  have unpackedResult : unpacked (dividend / divisor) = clamp .binary64
      (UnpackedFloat.div .binary64 (unpacked dividend) (unpacked divisor)) :=
    unpacked_ofModel_pack resultForm
  rw [le_iff, isNaN_eq (dividend / divisor), toEReal_zero, toEReal, unpackedResult]
  exact ⟨rfl, resultNumber, mono.nonneg (zero_div _) number form order⟩

/-! ### Order and differences -/

theorem sub_le_sub_of_le {first second amount : Float} (finite : amount.isFinite = true)
    (order : first ≤ second) : first - amount ≤ second - amount := by
  obtain ⟨firstNumber, secondNumber, less⟩ := (le_iff _ _).mp order
  have mono : RoundsMono .binary64 (fun value => value - toReal amount)
      (UnpackedFloat.sub .binary64 · (unpacked amount)) :=
    roundsMono_sub finite (unpacked_inFormat amount).canonical
  have firstForm := (unpacked_inFormat first).canonical
  have secondForm := (unpacked_inFormat second).canonical
  obtain ⟨form, number⟩ := mono.form_number firstNumber firstForm
  obtain ⟨otherForm, otherNumber⟩ := mono.form_number secondNumber secondForm
  have result : unpacked (first - amount) = clamp .binary64
      (UnpackedFloat.sub .binary64 (unpacked first) (unpacked amount)) := unpacked_ofModel_pack form
  have otherResult : unpacked (second - amount) = clamp .binary64
      (UnpackedFloat.sub .binary64 (unpacked second) (unpacked amount)) :=
    unpacked_ofModel_pack otherForm
  rw [le_iff, isNaN_eq (first - amount), isNaN_eq (second - amount), toEReal, toEReal, result,
    otherResult]
  exact ⟨number, otherNumber, mono.le firstNumber secondNumber firstForm secondForm less⟩

/-- What is not below an infinity is that infinity, or infinitely far above it. -/
theorem sub_infinity {value : UnpackedFloat} {sign : Sign} (number : value.isNaN = false)
    (above : extended (.infinity sign) ≤ extended value) :
    value = .infinity sign ∨ extended (.infinity sign) < extended value ∧
      UnpackedFloat.sub spec value (.infinity sign) = .infinity .positive := by
  rcases finite_or_infinity number with finite | rfl | rfl <;> cases sign
  · refine .inr ⟨?_, ?_⟩
    · rw [extended_of_finite finite]
      exact EReal.bot_lt_coe _
    · cases value <;> first | rfl | cases finite
  · rw [extended_of_finite finite] at above
    exact absurd above (not_le.mpr (EReal.coe_lt_top _))
  · exact .inr ⟨bot_lt_top, rfl⟩
  · exact .inl rfl
  · exact .inl rfl
  · exact absurd above (not_le.mpr bot_lt_top)

/-- Above the amount, a difference that is a number grows with what the amount is taken from. -/
theorem sub_le_sub_of_number {first second amount : Float}
    (number : (first - amount).isNaN = false) (above : amount ≤ first) (order : first ≤ second) :
    first - amount ≤ second - amount := by
  by_cases finite : amount.isFinite = true
  · exact sub_le_sub_of_le finite order
  obtain ⟨amountNumber, firstNumber, least⟩ := (le_iff _ _).mp above
  obtain ⟨-, secondNumber, most⟩ := (le_iff _ _).mp (chain_le above order)
  have higher := ((le_iff _ _).mp order).2.2
  obtain ⟨sign, isInfinite⟩ : ∃ sign, unpacked amount = .infinity sign :=
    ((finite_or_infinity amountNumber).resolve_left finite).elim (⟨_, ·⟩) (⟨_, ·⟩)
  unfold toEReal at least most higher
  rw [isInfinite] at least most
  have difference (value : Float) : value - amount =
      Float.ofModel (pack (UnpackedFloat.sub .binary64 (unpacked value) (.infinity sign))) := by
    rw [← isInfinite]
    rfl
  rw [difference] at number
  rcases sub_infinity firstNumber least with same | ⟨less, top⟩
  · rw [show unpacked first = .infinity sign from same] at number
    cases sign <;> cases number
  · rcases sub_infinity secondNumber most with same | ⟨-, alsoTop⟩
    · rw [show unpacked second = .infinity sign from same] at higher
      exact absurd higher (not_le.mpr less)
    · rw [difference, difference, show UnpackedFloat.sub _ (unpacked first) _ = _ from top,
        show UnpackedFloat.sub _ (unpacked second) _ = _ from alsoTop]
      decide
/-! ### What a difference leaves -/

section Leaves

variable {first bound amount : Float}

/-- A finite number less an amount that is not negative stays below what it exactly stays below;
an infinite amount leaves nothing. -/
theorem sub_le_of_nonneg (firstFinite : first.isFinite = true) (boundFinite : bound.isFinite = true)
    (nonneg : 0.0 ≤ amount)
    (within : amount.isFinite = true → toReal first - toReal amount ≤ toReal bound) :
    first - amount ≤ bound := by
  have number := (number_of_le nonneg).2
  rcases finite_or_infinity number with finite | isTop | isBottom
  · exact (sub_roundedFrom firstFinite finite).le boundFinite (within finite)
  · have opposite : unpacked (-amount) = .infinity .negative :=
      (unpacked_neg amount).trans (congrArg UnpackedFloat.neg isTop)
    have infinite : unpacked (first - amount) = .infinity .negative := by
      rw [sub_eq_add_neg_float, add_comm_float]
      exact unpacked_add_infinity_left opposite firstFinite
    refine (le_iff _ _).mpr ⟨?_, number_of_finite boundFinite, ?_⟩
    · rw [isNaN_eq, infinite]
      rfl
    · rw [toEReal_of_negative infinite]
      exact bot_le
  · have order := ((le_iff _ _).mp nonneg).2.2
    rw [toEReal_zero, toEReal_of_negative isBottom] at order
    exact absurd order (not_le.mpr EReal.bot_lt_zero)

theorem sub_amount_le (finite : first.isFinite = true) (nonneg : 0.0 ≤ amount) :
    first - amount ≤ first :=
  sub_le_of_nonneg finite finite nonneg fun amountFinite =>
    sub_le_iff_le_add.mpr (le_add_of_nonneg_right (toReal_nonneg amountFinite nonneg))

/-- A number that another one does not exceed by an amount is at least the other less the
amount. -/
theorem sub_le_of_not_exceeds (firstFinite : first.isFinite = true)
    (boundFinite : bound.isFinite = true) (nonneg : 0.0 ≤ amount)
    (close : ¬ amount ≤ first - bound) : first - amount ≤ bound := by
  refine sub_le_of_nonneg firstFinite boundFinite nonneg fun finite => ?_
  by_contra exceeds
  exact close ((sub_roundedFrom firstFinite boundFinite).ge finite (by linarith))

end Leaves

end Binary64
