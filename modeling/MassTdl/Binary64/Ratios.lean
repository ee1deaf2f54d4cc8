/-
This file is about the ratio of two counts in single precision. The ratio of a positive count to
one of at most 128 rounds to something no smaller than a 128th, so as a double it is still not
zero, while no occurrence at all gives exactly zero.
-/

import MassTdl.Binary64.Products

namespace Binary64

open Float.Model Float.Model.UnpackedFloat

/-! ### Single-precision floats as real numbers -/

/-- The unpacked form of a single-precision float. -/
def unpackedSingle (value : Float32) : UnpackedFloat := value.toModel.unpack

theorem unpackedSingle_inFormat (value : Float32) : InFormat .binary32 (unpackedSingle value) :=
  inFormat_unpack (by decide) _

theorem unpackedSingle_ofModel_pack {result : UnpackedFloat}
    (form : CanonicalForm .binary32 result) :
    unpackedSingle (.ofModel (Float32.Model.pack result)) = clamp .binary32 result := by
  rw [← unpack_pack form]
  rfl

/-! ### A 128th -/

theorem scaled_128th (mantissaBits : ℕ) :
    scaled (2 ^ mantissaBits) (-7 - mantissaBits) = 1 / 128 := by
  unfold scaled
  push_cast
  rw [zpow_sub₀ two_ne_zero, zpow_natCast]
  field_simp
  norm_num

theorem canonical_128th_single : Canonical .binary32 (2 ^ 23) (-7 - 23) :=
  ⟨by decide, by decide, by decide⟩

theorem canonical_128th : Canonical .binary64 (2 ^ 52) (-7 - 52) :=
  ⟨by decide, by decide, by decide⟩

theorem clamp_eq_zero {spec : Format} {result : UnpackedFloat} {sign : Sign}
    (isZero : clamp spec result = .zero sign) : result = .zero sign := by
  cases result with
  | zero | infinity | notANumber => exact isZero
  | finite otherSign mantissa exponent positive =>
    rw [clamp_finite] at isZero
    by_cases inRange : exponent ≤ maxExponent spec
    · rw [if_pos inRange] at isZero
      cases isZero
    · rw [if_neg inRange] at isZero
      cases isZero

/-- Only a zero packs to zero. -/
theorem pack_ne_zero {result : UnpackedFloat} (form : CanonicalForm .binary64 result)
    (nonzero : result ≠ .zero .positive) : Float.ofModel (Float.Model.pack result) ≠ 0.0 := by
  intro same
  have unpackedSame := congrArg unpacked same
  rw [unpacked_ofModel_pack form] at unpackedSame
  exact nonzero (clamp_eq_zero unpackedSame)

/-- What stands for at least a 128th is not zero after it has been widened. -/
theorem widen_ne_zero {value : Float32} {result : UnpackedFloat} (finite : result.isFinite = true)
    (isClamped : unpackedSingle value = clamp .binary32 result)
    (large : 1 / 128 ≤ realValue result) :
    widen value ≠ 0.0 := by
  have widened : widen value =
      .ofModel (Float.Model.pack (convert .binary64 (clamp .binary32 result))) := by
    rw [← isClamped]
    rfl
  rw [widened]
  cases result with
  | infinity | notANumber => cases finite
  | zero sign => exact absurd large (by rw [show realValue (.zero sign) = 0 from rfl]; norm_num)
  | finite sign mantissa exponent positive =>
    rw [realValue_finite] at large
    rw [clamp_finite]
    by_cases inRange : exponent ≤ maxExponent .binary32
    · rw [if_pos inRange]
      have rounds : RoundsTo .binary64 sign (scaled mantissa exponent)
          (UnpackedFloat.round .binary64 sign mantissa exponent) :=
        round_roundsTo sign exponent positive
      obtain ⟨_, form, magnitude, isMagnitude, _, between⟩ := rounds
      refine pack_ne_zero form fun isZero => ?_
      have scale := scaled_pos exponent positive
      cases sign with
      | negative =>
        exact absurd (large.trans (neg_nonpos.mpr scale.le)) (by norm_num)
      | positive =>
        have kept : scaled (2 ^ 52) (-7 - 52) ≤ magnitude :=
          between.above _ _ canonical_128th ((scaled_128th 52).trans_le large)
        rw [show scaled (2 ^ 52) (-7 - 52) = 1 / 128 from scaled_128th 52] at kept
        rw [show UnpackedFloat.round .binary64 .positive mantissa exponent = .zero .positive
          from isZero] at isMagnitude
        have zero : (0 : ℝ) = magnitude := isMagnitude
        rw [← zero] at kept
        norm_num at kept
    · rw [if_neg inRange]
      exact pack_ne_zero trivial (by intro same; cases same)

/-! ### Counts -/

theorem realValue_one : realValue (unpackedSingle 1.0) = 1 := by
  show scaled 8388608 (-23) = 1
  unfold scaled
  norm_num

theorem realValue_128 : realValue (unpackedSingle 128.0) = 128 := by
  show scaled 8388608 (-16) = 128
  unfold scaled
  norm_num

/-- A single-precision float between 1 and 128. -/
structure Moderate (value : Float32) : Prop where
  finite : (unpackedSingle value).isFinite = true
  least : 1 ≤ realValue (unpackedSingle value)
  most : realValue (unpackedSingle value) ≤ 128

/-- A result is moderate where the exact one is. -/
theorem Computes.moderate {exact : ℝ} {result : UnpackedFloat}
    (computes : Computes .binary32 exact result) (least : 1 ≤ exact) (most : exact ≤ 128) :
    Moderate (.ofModel (Float32.Model.pack result)) := by
  obtain ⟨resultFinite, form, faithful⟩ := computes
  have oneForm := unpackedSingle_inFormat 1.0
  have manyForm := unpackedSingle_inFormat 128.0
  have above : extended (unpackedSingle 1.0) ≤ extended (clamp .binary32 result) :=
    extended_le_clamp rfl oneForm resultFinite form
      (faithful.above _ oneForm.canonical (realValue_one.trans_le least))
  have below : extended (clamp .binary32 result) ≤ extended (unpackedSingle 128.0) :=
    clamp_le_extended rfl manyForm resultFinite form
      (faithful.below _ manyForm.canonical (most.trans_eq realValue_128.symm))
  have one : extended (unpackedSingle 1.0) = (1 : ℝ) := by
    rw [extended_of_finite rfl, realValue_one]
  have many : extended (unpackedSingle 128.0) = (128 : ℝ) := by
    rw [extended_of_finite rfl, realValue_128]
  rw [one, ← unpackedSingle_ofModel_pack form] at above
  rw [many, ← unpackedSingle_ofModel_pack form] at below
  have finite : (unpackedSingle (.ofModel (Float32.Model.pack result))).isFinite = true := by
    cases shape : unpackedSingle (.ofModel (Float32.Model.pack result)) with
    | zero | finite => rfl
    | notANumber =>
      rw [shape] at above
      exact absurd above (not_le.mpr (EReal.coe_lt_coe_iff.mpr one_pos))
    | infinity sign =>
      rw [shape] at above below
      cases sign with
      | positive => exact absurd below (not_le.mpr (EReal.coe_lt_top _))
      | negative => exact absurd above (not_le.mpr (EReal.bot_lt_coe _))
  rw [extended_of_finite finite, EReal.coe_le_coe_iff] at above below
  exact ⟨finite, above, below⟩

/-- A positive count of at most 128 is moderate. -/
theorem moderate_count {count : ℕ} (positive : count ≠ 0) (few : count ≤ 128) :
    Moderate (.ofNat count) := by
  have small : count < 2 ^ 23 := by omega
  have product : Float32.ofNat count = count.toUInt64.toFloat32 * 1.0 := by
    show Float32.ofScientific count false 0 = _
    unfold Float32.ofScientific
    rw [dif_pos ⟨small, by decide⟩]
    rfl
  have same : count.toUInt64.toNat = count :=
    UInt64.toNat_ofNat_of_lt' (small.trans (by decide))
  have least : (1 : ℝ) ≤ (count : ℤ) := by exact_mod_cast Nat.one_le_iff_ne_zero.mpr positive
  have most : ((count : ℤ) : ℝ) ≤ 128 := by exact_mod_cast few
  have word : Computes .binary32 ((count : ℤ) : ℝ)
      (UnpackedFloat.ofNat .binary32 count.toUInt64.toNat) := by
    rw [same]
    exact computes_normalize (by rw [zpow_zero, mul_one])
  have cast : Moderate count.toUInt64.toFloat32 := word.moderate least most
  have computes : Computes .binary32 (realValue (unpackedSingle count.toUInt64.toFloat32) *
      realValue (unpackedSingle 1.0)) (UnpackedFloat.mul .binary32
        (unpackedSingle count.toUInt64.toFloat32) (unpackedSingle 1.0)) :=
    (rounded_mul cast.finite rfl (unpackedSingle_inFormat _).canonical
      (unpackedSingle_inFormat 1.0).canonical).computes
  rw [realValue_one, mul_one] at computes
  rw [product]
  exact computes.moderate cast.least cast.most

/-- A ratio of positive counts is not zero. -/
theorem ratio_ne_zero {count size : ℕ} (positive : count ≠ 0) (few : count ≤ 128)
    (sizePositive : size ≠ 0) (small : size ≤ 128) :
    widen (Float32.ofNat count / Float32.ofNat size) ≠ 0.0 := by
  have countModerate := moderate_count positive few
  have sizeModerate := moderate_count sizePositive small
  have sizeAbove : 0 < realValue (unpackedSingle (.ofNat size)) :=
    lt_of_lt_of_le one_pos sizeModerate.least
  have computes : Computes .binary32 (realValue (unpackedSingle (.ofNat count)) /
      realValue (unpackedSingle (.ofNat size))) (UnpackedFloat.div .binary32
        (unpackedSingle (.ofNat count)) (unpackedSingle (.ofNat size))) :=
    computes_div countModerate.finite sizeModerate.finite (ne_of_gt sizeAbove)
  have ratioLarge : 1 / 128 ≤ realValue (unpackedSingle (.ofNat count)) /
      realValue (unpackedSingle (.ofNat size)) :=
    div_le_div₀ (zero_le_one.trans countModerate.least) countModerate.least sizeAbove
      sizeModerate.most
  have kept := computes.faithful.above (.finite .positive (2 ^ 23) (-7 - 23) (by decide))
    canonical_128th_single (by
      rw [realValue_finite]
      exact (scaled_128th 23).trans_le ratioLarge)
  rw [realValue_finite] at kept
  exact widen_ne_zero computes.finite (unpackedSingle_ofModel_pack computes.form)
    ((scaled_128th 23).symm.trans_le kept)

/-- Where nothing occurred the ratio is zero itself. -/
theorem no_occurrence {size : ℕ} (positive : size ≠ 0) (small : size ≤ 128) :
    widen (Float32.ofNat 0 / Float32.ofNat size) = 0.0 := by
  have moderate := moderate_count positive small
  have ratio : Float32.ofNat 0 / Float32.ofNat size = .ofModel (Float32.Model.pack
      (UnpackedFloat.div .binary32 (.zero .positive) (unpackedSingle (.ofNat size)))) := rfl
  have isZero : UnpackedFloat.div .binary32 (.zero .positive) (unpackedSingle (.ofNat size)) =
      .zero .positive := by
    cases shape : unpackedSingle (.ofNat size) with
    | notANumber | infinity =>
      have finite := moderate.finite
      rw [shape] at finite
      cases finite
    | zero =>
      have least := moderate.least
      rw [shape] at least
      exact absurd least (not_le.mpr one_pos)
    | finite sign mantissa exponent nonzero =>
      cases sign with
      | positive => rfl
      | negative =>
        have least := moderate.least
        have scale := scaled_pos exponent nonzero
        rw [shape, realValue_finite] at least
        simp only [applySign] at least
        linarith
  rw [ratio, isZero]
  decide

end Binary64
