/-
This file is about casts between floats and whole numbers. A word, and any other number that is
not negative, becomes the float it rounds to, a float below one becomes the word zero, and so the
multiples of a step that a truncated quotient counts are finite floats.

It ends with bounds of computed results from bounds of their operands. Rounding does not keep strict
order, so a bound on an operand carries over with some room: where the operation, applied to the
bounds themselves, stays clear of a float, the operation applied to what they bound does not pass
it. The room is a comparison of known floats, which evaluation decides.
-/

import MassTdl.Binary64.Products

namespace Binary64

open Float.Model Float.Model.UnpackedFloat

/-! ### Words as floats -/

theorem toFloat_roundedFrom (word : UInt64) : RoundedFrom word.toNat word.toFloat := by
  have computes : Computes .binary64 ((word.toNat : ℤ) : ℝ)
      (UnpackedFloat.ofNat .binary64 word.toNat) := computes_normalize (by rw [zpow_zero, mul_one])
  exact_mod_cast computes.roundedFrom

/-! ### Floats as words -/

/-- Truncation gives zero to what is below one. -/
theorem roundToInt_of_lt_one {mantissa : ℕ} {exponent : ℤ} (positive : 0 < mantissa)
    (below : scaled mantissa exponent < 1) : roundToInt .positive mantissa exponent = 0 := by
  obtain ⟨shift, rfl⟩ : ∃ shift : ℕ, exponent = -shift := by
    refine ⟨(-exponent).toNat, ?_⟩
    by_contra nonneg
    obtain ⟨power, rfl⟩ : ∃ power : ℕ, exponent = power := ⟨exponent.toNat, by omega⟩
    unfold scaled at below
    have whole : (1 : ℝ) ≤ mantissa * 2 ^ power := by
      exact_mod_cast Nat.mul_pos positive (Nat.two_pow_pos power)
    exact absurd below (not_lt.mpr (by exact_mod_cast whole))
  have small : mantissa < 2 ^ shift := by
    unfold scaled at below
    rw [zpow_neg, ← div_eq_mul_inv, div_lt_one (by positivity)] at below
    exact_mod_cast below
  have noIncrease : (-(shift : ℤ) - 0).toNat = 0 := by omega
  have dropped : (0 - (-(shift : ℤ) - ((0 : ℕ) : ℤ))).toNat = shift := by omega
  unfold roundToInt decreaseExponent shiftToExponent
  simp only [noIncrease, dropped, Nat.shiftLeft_zero]
  rw [(shiftRight_accuracy .exact mantissa shift).1, Nat.div_eq_of_lt small]
  rfl

theorem toUInt64_of_lt_one {value : Float} (below : value < 1.0) : value.toUInt64 = 0 := by
  have bounded := ((lt_iff _ _).mp below).2.2
  rw [toEReal_of_finite (by decide : (1.0 : Float).isFinite = true), toReal_one] at bounded
  show UInt64.ofNatClamp ((unpacked value).toInt 0 _).toNat = 0
  unfold toEReal at bounded
  cases form : unpacked value with
  | notANumber | zero => rfl
  | infinity sign =>
    cases sign with
    | negative => rfl
    | positive =>
      rw [form] at bounded
      exact absurd bounded (not_lt.mpr le_top)
  | finite sign mantissa exponent positive =>
    rw [form, extended_of_finite rfl, realValue_finite, EReal.coe_lt_coe_iff] at bounded
    cases sign with
    | positive =>
      show UInt64.ofNatClamp (roundToInt .positive mantissa exponent).toNat = 0
      rw [roundToInt_of_lt_one positive bounded]
      rfl
    | negative =>
      have truncated : ∀ whole : ℕ, (-Int.ofNat whole).toNat = 0 := fun whole => by
        cases whole <;> rfl
      show UInt64.ofNatClamp (-Int.ofNat _).toNat = 0
      rw [truncated]
      rfl

/-! ### Multiples below a quotient -/

/-- The float of a power of two. -/
def powerOfTwo (exponent : ℕ) : Float := Float.ofBits (UInt64.ofNat ((exponent + 1023) * 2 ^ 52))

theorem toReal_powerOfTwo_64 : toReal (powerOfTwo 64) = 2 ^ 64 := by
  have form : unpacked (powerOfTwo 64) = .finite .positive (2 ^ 52) 12 (by decide) := rfl
  unfold toReal
  rw [form, realValue_finite]
  unfold applySign scaled
  norm_num

theorem toReal_powerOfTwo_1022 : toReal (powerOfTwo 1022) = 2 ^ 1022 := by
  have form : unpacked (powerOfTwo 1022) = .finite .positive (2 ^ 52) 970 (by decide) := rfl
  unfold toReal
  rw [form, realValue_finite]
  show ((2 ^ 52 : ℕ) : ℝ) * 2 ^ ((970 : ℕ) : ℤ) = _
  rw [zpow_natCast, Nat.cast_pow, Nat.cast_two, ← pow_add]

theorem toReal_half : toReal 0.5 = 1 / 2 := by
  have form : unpacked 0.5 = .finite .positive (2 ^ 52) (-53) (by decide) := rfl
  unfold toReal
  rw [form, realValue_finite]
  unfold applySign scaled
  norm_num

section Multiples

variable {total step : Float} (totalFinite : total.isFinite = true)
  (bounded : toReal total ≤ 2 ^ 64)

include totalFinite

theorem toUInt64_div_of_not_finite (infinite : step.isFinite = false) :
    (total / step).toUInt64 = 0 := by
  rw [isFinite_eq] at infinite totalFinite
  show (Float.ofModel (Float.Model.pack (UnpackedFloat.div .binary64 (unpacked total)
    (unpacked step)))).toUInt64 = 0
  cases totalForm : unpacked total with
  | notANumber | infinity =>
    rw [totalForm] at totalFinite
    cases totalFinite
  | zero totalSign | finite totalSign =>
    cases form : unpacked step with
    | notANumber =>
      show (Float.ofModel (Float.Model.pack .notANumber)).toUInt64 = 0
      decide
    | zero | finite =>
      rw [form] at infinite
      cases infinite
    | infinity sign =>
      show (Float.ofModel (Float.Model.pack (.zero (totalSign / sign)))).toUInt64 = 0
      cases totalSign / sign <;> rfl

include bounded

/-- A step so large that its multiples overflow fits no whole time into the total. -/
theorem toUInt64_div_of_large (stepFinite : step.isFinite = true)
    (large : 2 ^ 958 < toReal step) : (total / step).toUInt64 = 0 := by
  have positive : 0 < toReal step := lt_trans (by positivity) large
  have rounded := div_roundedFrom totalFinite stepFinite positive.ne'
  have half : total / step ≤ 0.5 := by
    refine rounded.le (by decide) ?_
    rw [toReal_half, div_le_iff₀ positive]
    have huge : (2 : ℝ) * 2 ^ 64 ≤ toReal step := by
      rw [← pow_succ']
      exact (pow_le_pow_right₀ one_le_two (by norm_num)).trans large.le
    calc toReal total ≤ 2 ^ 64 := bounded
      _ = 1 / 2 * (2 * 2 ^ 64) := by ring
      _ ≤ 1 / 2 * toReal step := mul_le_mul_of_nonneg_left huge (by norm_num)
  exact toUInt64_of_lt_one (lt_of_number_of_not_le rounded.number (by decide) fun above =>
    absurd (chain_le above half) (by decide))

/-- The multiples that a truncated quotient counts do not overflow. -/
theorem multiple_between (positive : ¬ step ≤ 0.0) {index : ℕ}
    (counted : index < (total / step).toUInt64.toNat) :
    0.0 ≤ (UInt64.ofNat index).toFloat * step ∧
      (UInt64.ofNat index).toFloat * step ≤ powerOfTwo 1022 := by
  have some : (total / step).toUInt64 ≠ 0 := by
    intro none
    rw [none] at counted
    exact absurd counted (Nat.not_lt_zero _)
  have stepFinite : step.isFinite = true := by
    by_contra infinite
    exact some (toUInt64_div_of_not_finite totalFinite (Bool.eq_false_iff.mpr infinite))
  have stepBound : toReal step ≤ 2 ^ 958 :=
    not_lt.mp fun large => some (toUInt64_div_of_large totalFinite bounded stepFinite large)
  have stepPositive : 0.0 < step :=
    lt_of_number_of_not_le (by decide) (number_of_finite stepFinite) positive
  have stepNonneg : 0 ≤ toReal step :=
    toReal_zero ▸ toReal_le_toReal (by decide) stepFinite (le_of_lt stepPositive)
  have word := toFloat_roundedFrom (UInt64.ofNat index)
  have wordBound : ((UInt64.ofNat index).toNat : ℝ) ≤ 2 ^ 64 := by
    exact_mod_cast (UInt64.ofNat index).toNat_lt.le
  have above : (0.0 : Float) ≤ (UInt64.ofNat index).toFloat :=
    word.ge (by decide) (by rw [toReal_zero]; positivity)
  have below : (UInt64.ofNat index).toFloat ≤ powerOfTwo 64 :=
    word.le (by decide) (by rwa [toReal_powerOfTwo_64])
  have wordFinite := finite_of_between (by decide) (by decide) above below
  have wordNonneg := toReal_le_toReal (by decide) wordFinite above
  have wordReal := toReal_le_toReal wordFinite (by decide) below
  rw [toReal_zero] at wordNonneg
  rw [toReal_powerOfTwo_64] at wordReal
  have product := mul_roundedFrom wordFinite stepFinite
  refine ⟨product.ge (by decide) ?_, product.le (by decide) ?_⟩
  · rw [toReal_zero]
    exact mul_nonneg wordNonneg stepNonneg
  · rw [toReal_powerOfTwo_1022]
    calc toReal (UInt64.ofNat index).toFloat * toReal step
        ≤ 2 ^ 64 * 2 ^ 958 := mul_le_mul wordReal stepBound stepNonneg (by positivity)
      _ = 2 ^ 1022 := by rw [← pow_add]

end Multiples

/-! ### Whole numbers as floats -/

/-- Below the precision a whole number is cast through a word. -/
theorem ofNat_small {count : ℕ} (small : count < 2 ^ 53) :
    Float.ofNat count = count.toUInt64.toFloat * 1.0 := by
  show Float.ofScientific count false 0 = _
  unfold Float.ofScientific
  rw [dif_pos ⟨small, by decide⟩]
  rfl

/-- From there on it is rounded from a mantissa with as many digits to spare as the format
has. -/
theorem ofNat_large {count : ℕ} (large : ¬ count < 2 ^ 53) :
    Float.ofNat count = .ofModel (Float.Model.pack
      (roundWithAccuracy .binary64 .positive (count <<< 53 * 1) (-53 + 0) .exact)) := by
  have positive : count ≠ 0 := by omega
  have power : (0 : ℤ) ≤ 2 ^ Format.binary64.exponentBits := by positivity
  show Float.ofScientific count false 0 = _
  unfold Float.ofScientific
  rw [dif_neg fun both => large both.1]
  show Float.ofModel (Float.Model.pack (UnpackedFloat.ofScientific .binary64 count 0)) = _
  unfold UnpackedFloat.ofScientific
  rw [dif_neg positive, if_neg (by decide), if_neg (by omega), if_pos (by decide)]
  rfl

theorem computes_ofNat_large {count : ℕ} (large : ¬ count < 2 ^ 53) :
    Computes .binary64 count
      (roundWithAccuracy .binary64 .positive (count <<< 53 * 1) (-53 + 0) .exact) := by
  have positive : 0 < count := by omega
  have shifted : count <<< 53 * 1 = count * 2 ^ 53 := by rw [mul_one, Nat.shiftLeft_eq]
  have spare : 2 ^ 53 ≤ count * 2 ^ 53 := Nat.le_mul_of_pos_left _ positive
  have log : 53 ≤ (count * 2 ^ 53).log2 :=
    (Nat.le_log2 (Nat.ne_of_gt (Nat.mul_pos positive (by decide)))).mpr spare
  have value : scaled (count * 2 ^ 53) (-53) = count := by
    unfold scaled
    push_cast
    rw [zpow_neg, mul_assoc]
    norm_num
  have least : (-53 : ℤ) ≤ Format.binary64.targetExponent
      (totalExponent (count * 2 ^ 53) (-53)) := by
    refine le_trans ?_ (le_max_left _ _)
    unfold totalExponent
    show (-53 : ℤ) ≤ _ - 53
    omega
  have rounds := roundWithAccuracy_exact .positive least
  rw [value] at rounds
  rw [shifted, add_zero]
  exact rounds.computes (by exact_mod_cast positive)

/-- A product with one rounds once more what has been rounded already. -/
theorem RoundedFrom.times_one {exact : ℝ} {result : Float} (rounded : RoundedFrom exact result)
    (finite : result.isFinite = true) : RoundedFrom exact (result * 1.0) := by
  have again : RoundedFrom (toReal result * toReal 1.0) (result * 1.0) :=
    mul_roundedFrom finite (by decide)
  rw [toReal_one, mul_one] at again
  refine ⟨again.number, fun bound boundFinite below => ?_, fun bound boundFinite above => ?_⟩
  · refine again.above bound boundFinite ?_
    exact toReal_le_toReal boundFinite finite (rounded.ge boundFinite below)
  · refine again.below bound boundFinite ?_
    exact toReal_le_toReal finite boundFinite (rounded.le boundFinite above)

theorem ofNat_roundedFrom (count : ℕ) : RoundedFrom count (Float.ofNat count) := by
  by_cases small : count < 2 ^ 53
  · have same : count.toUInt64.toNat = count := UInt64.toNat_ofNat_of_lt' (small.trans (by decide))
    have word : RoundedFrom count count.toUInt64.toFloat := by
      have rounded := toFloat_roundedFrom count.toUInt64
      rwa [same] at rounded
    have bounded : (count : ℝ) ≤ 2 ^ 64 := by
      exact_mod_cast small.le.trans (by decide)
    have finite : count.toUInt64.toFloat.isFinite = true :=
      finite_of_between (by decide) (by decide)
        (word.ge (by decide) (toReal_zero.trans_le count.cast_nonneg))
        (word.le (by decide) (toReal_powerOfTwo_64 ▸ bounded))
    rw [ofNat_small small]
    exact word.times_one finite
  · rw [ofNat_large small]
    exact (computes_ofNat_large small).roundedFrom

/-! ### Exact results from rounded ones -/

theorem RoundedFrom.lt_of_lt {exact : ℝ} {result bound : Float}
    (rounded : RoundedFrom exact result) (finite : bound.isFinite = true)
    (clear : result < bound) : exact < toReal bound := by
  by_contra above
  exact not_lt_of_le (rounded.ge finite (not_lt.mp above)) clear

theorem RoundedFrom.gt_of_lt {exact : ℝ} {result bound : Float}
    (rounded : RoundedFrom exact result) (finite : bound.isFinite = true)
    (clear : bound < result) : toReal bound < exact := by
  by_contra below
  exact not_lt_of_le (rounded.le finite (not_lt.mp below)) clear

/-- What rounds from zero is zero. -/
theorem RoundedFrom.zero {result : Float} (rounded : RoundedFrom 0 result) :
    result.isFinite = true ∧ toReal result = 0 := by
  have above : 0.0 ≤ result := rounded.ge rfl toReal_zero.le
  have below : result ≤ 0.0 := rounded.le rfl toReal_zero.ge
  have finite : result.isFinite = true := finite_of_between rfl rfl above below
  refine ⟨finite, le_antisymm ?_ ?_⟩
  · exact (toReal_le_toReal finite rfl below).trans toReal_zero.le
  · exact toReal_zero.ge.trans (toReal_le_toReal rfl finite above)

theorem abs_lt_of_zero {value bound : Float} (finite : value.isFinite = true)
    (zero : toReal value = 0) (positive : 0.0 < bound) : value.abs < bound := by
  obtain ⟨-, number, order⟩ := (lt_iff _ _).mp positive
  rw [toEReal_zero] at order
  refine (lt_iff _ _).mpr ⟨?_, number, ?_⟩
  · rw [isNaN_abs]
    exact number_of_finite finite
  · rw [toEReal_abs, toEReal_of_finite finite, zero, EReal.coe_zero, neg_zero, max_self]
    exact order

/-! ### Bounds of sums, products and quotients -/

theorem toReal_nonneg {value : Float} (finite : value.isFinite = true) (nonneg : 0.0 ≤ value) :
    0 ≤ toReal value :=
  toReal_zero ▸ toReal_le_toReal (by decide) finite nonneg

theorem toReal_pos {value : Float} (finite : value.isFinite = true) (positive : 0.0 < value) :
    0 < toReal value := by
  have order := ((lt_iff _ _).mp positive).2.2
  rwa [toEReal_zero, toEReal_of_finite finite, EReal.coe_pos] at order

theorem zero_le_mul {first second : Float} (firstFinite : first.isFinite = true)
    (secondFinite : second.isFinite = true) (firstNonneg : 0.0 ≤ first)
    (secondNonneg : 0.0 ≤ second) : 0.0 ≤ first * second := by
  refine (mul_roundedFrom firstFinite secondFinite).ge (by decide) ?_
  rw [toReal_zero]
  exact mul_nonneg (toReal_nonneg firstFinite firstNonneg) (toReal_nonneg secondFinite secondNonneg)

section Bounds

variable {first firstBound second secondBound bound : Float}
  (firstFinite : first.isFinite = true) (firstBoundFinite : firstBound.isFinite = true)
  (boundFinite : bound.isFinite = true)

include firstFinite firstBoundFinite boundFinite

theorem add_le_of_le (secondFinite : second.isFinite = true)
    (secondBoundFinite : secondBound.isFinite = true) (firstLe : first ≤ firstBound)
    (secondLe : second ≤ secondBound) (clear : firstBound + secondBound < bound) :
    first + second ≤ bound := by
  have room := (add_roundedFrom firstBoundFinite secondBoundFinite).lt_of_lt boundFinite clear
  have firstOrder := toReal_le_toReal firstFinite firstBoundFinite firstLe
  have secondOrder := toReal_le_toReal secondFinite secondBoundFinite secondLe
  refine (add_roundedFrom firstFinite secondFinite).le boundFinite ?_
  linarith

variable (secondFinite : second.isFinite = true) (firstLe : first ≤ firstBound)

include secondFinite firstLe

theorem mul_le_of_le (nonneg : 0.0 ≤ second) (clear : second * firstBound < bound) :
    second * first ≤ bound := by
  have room := (mul_roundedFrom secondFinite firstBoundFinite).lt_of_lt boundFinite clear
  have order := toReal_le_toReal firstFinite firstBoundFinite firstLe
  refine (mul_roundedFrom secondFinite firstFinite).le boundFinite ?_
  exact (mul_le_mul_of_nonneg_left order (toReal_nonneg secondFinite nonneg)).trans room.le

theorem div_le_of_le (positive : 0.0 < second) (clear : firstBound / second < bound) :
    first / second ≤ bound := by
  have divisor := toReal_pos secondFinite positive
  have room :=
    (div_roundedFrom firstBoundFinite secondFinite divisor.ne').lt_of_lt boundFinite clear
  have order := toReal_le_toReal firstFinite firstBoundFinite firstLe
  refine (div_roundedFrom firstFinite secondFinite divisor.ne').le boundFinite ?_
  exact (div_le_div_of_nonneg_right order divisor.le).trans room.le

end Bounds

section LowerBounds

variable {first firstBound second bound : Float}
  (firstFinite : first.isFinite = true) (firstBoundFinite : firstBound.isFinite = true)
  (boundFinite : bound.isFinite = true) (secondFinite : second.isFinite = true)
  (leFirst : firstBound ≤ first)

include firstFinite firstBoundFinite boundFinite secondFinite leFirst

theorem le_mul_of_le (nonneg : 0.0 ≤ second) (clear : bound < second * firstBound) :
    bound ≤ second * first := by
  have room := (mul_roundedFrom secondFinite firstBoundFinite).gt_of_lt boundFinite clear
  have order := toReal_le_toReal firstBoundFinite firstFinite leFirst
  refine (mul_roundedFrom secondFinite firstFinite).ge boundFinite ?_
  exact room.le.trans (mul_le_mul_of_nonneg_left order (toReal_nonneg secondFinite nonneg))

theorem le_div_of_le (positive : 0.0 < second) (clear : bound < firstBound / second) :
    bound ≤ first / second := by
  have divisor := toReal_pos secondFinite positive
  have room :=
    (div_roundedFrom firstBoundFinite secondFinite divisor.ne').gt_of_lt boundFinite clear
  have order := toReal_le_toReal firstBoundFinite firstFinite leFirst
  refine (div_roundedFrom firstFinite secondFinite divisor.ne').ge boundFinite ?_
  exact room.le.trans (div_le_div_of_nonneg_right order divisor.le)

end LowerBounds

end Binary64
