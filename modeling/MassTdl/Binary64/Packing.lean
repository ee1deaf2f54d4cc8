/-
This file relates unpacked floats to their bit patterns, for an arbitrary format. Packing and
unpacking a canonical number gives it back, except that a number too large for the format
comes back as the infinity of its sign; and whatever a bit pattern unpacks to is canonical
and not too large.
-/

import MassTdl.Binary64.Rounding
import Mathlib.Tactic.Zify

namespace Binary64

open Float.Model Float.Model.UnpackedFloat

variable (spec : Format)

/-! ### The exponent field -/

/-- What the packed exponent adds to an exponent. -/
def exponentOffset : ℕ := spec.exponentBias + spec.mantissaBitsWithoutImplicit

/-- The largest exponent a finite number of the format has. -/
def maxExponent : ℤ := 2 ^ spec.exponentBits - 2 - exponentOffset spec

theorem one_le_half_capacity : 1 ≤ 2 ^ (spec.exponentBits - 1) := Nat.one_le_two_pow

theorem two_le_capacity : 2 ≤ 2 ^ spec.exponentBits := by
  have positive := spec.he
  calc 2 = 2 ^ 1 := (pow_one 2).symm
    _ ≤ 2 ^ spec.exponentBits := Nat.pow_le_pow_right Nat.two_pos positive

/-- The least exponent is packed as one. -/
theorem minExponent_eq : spec.minExponent = 1 - exponentOffset spec := by
  have half := one_le_half_capacity spec
  unfold Format.minExponent exponentOffset Format.exponentBias Format.mantissaBits
  push_cast [half]
  ring

theorem neg_one_toNat : (-BitVec.ofNat spec.exponentBits 1).toNat = 2 ^ spec.exponentBits - 1 := by
  rw [BitVec.neg_one_eq_allOnes, BitVec.toNat_allOnes]

theorem zero_ne_neg_one :
    BitVec.ofNat spec.exponentBits 0 ≠ -BitVec.ofNat spec.exponentBits 1 := by
  intro same
  have numbers := congrArg BitVec.toNat same
  rw [neg_one_toNat, BitVec.toNat_zero] at numbers
  have capacity := two_le_capacity spec
  omega

variable {spec}

variable {field : ℕ}

theorem ofNat_exponent (inRange : field + 1 < 2 ^ spec.exponentBits) :
    (BitVec.ofNat spec.exponentBits field).toNat = field := by
  rw [BitVec.toNat_ofNat, Nat.mod_eq_of_lt (by omega)]

theorem ofNat_exponent_ne_neg_one (inRange : field + 1 < 2 ^ spec.exponentBits) :
    BitVec.ofNat spec.exponentBits field ≠ -BitVec.ofNat spec.exponentBits 1 := by
  intro same
  have numbers := congrArg BitVec.toNat same
  rw [ofNat_exponent inRange, neg_one_toNat] at numbers
  omega

theorem ofNat_exponent_ne_zero (inRange : field + 1 < 2 ^ spec.exponentBits)
    (positive : 0 < field) :
    BitVec.ofNat spec.exponentBits field ≠ BitVec.ofNat spec.exponentBits 0 := by
  intro same
  have numbers := congrArg BitVec.toNat same
  rw [ofNat_exponent inRange, BitVec.toNat_zero] at numbers
  omega

/-! ### The sign and the implicit bit -/

theorem unpackSign_packComponents (sign : Sign) (exponent : BitVec spec.exponentBits)
    (mantissa : BitVec spec.mantissaBitsWithoutImplicit) :
    Sign.ofBitVec (unpackSign (packComponents spec sign exponent mantissa)) = sign := by
  have bit : unpackSign (packComponents spec sign exponent mantissa) = sign.toBitVec := by
    ext index within
    have first : index = 0 := by omega
    change ((packComponents spec sign exponent mantissa).extractLsb
      (spec.mantissaBitsWithoutImplicit + spec.exponentBits)
      (spec.mantissaBitsWithoutImplicit + spec.exponentBits) |>.cast (by omega))[index] = _
    simp [first, packComponents, BitVec.getLsbD_append, BitVec.getElem_append]
  rw [bit]
  cases sign <;> rfl

theorem implicitBit_toNat (mantissa : BitVec spec.mantissaBitsWithoutImplicit) :
    (1#1 ++ mantissa).toNat = 2 ^ spec.mantissaBitsWithoutImplicit + mantissa.toNat := by
  rw [BitVec.toNat_append, ← Nat.shiftLeft_add_eq_or_of_lt mantissa.isLt, Nat.shiftLeft_eq]
  simp only [BitVec.toNat_ofNat, pow_one, Nat.one_mod, one_mul]

variable {mantissa : ℕ}

/-- Restoring the implicit bit of a full mantissa. -/
theorem implicitBit_ofNat (full : 2 ^ spec.mantissaBitsWithoutImplicit ≤ mantissa)
    (fits : mantissa < 2 ^ spec.mantissaBits) :
    (1#1 ++ BitVec.ofNat spec.mantissaBitsWithoutImplicit mantissa).toNat = mantissa := by
  have twice : mantissa < 2 ^ spec.mantissaBitsWithoutImplicit * 2 := by
    rwa [← pow_succ, Nat.add_comm]
  rw [implicitBit_toNat, BitVec.toNat_ofNat, Nat.mod_eq_sub_mod full, Nat.mod_eq_of_lt (by omega)]
  omega

/-! ### Unpacking what was packed -/

/-- Numbers beyond the largest exponent of the format are infinite. -/
def clamp (spec : Format) : UnpackedFloat → UnpackedFloat
  | .finite sign mantissa exponent positive =>
    if exponent ≤ maxExponent spec then .finite sign mantissa exponent positive
    else .infinity sign
  | other => other

section Special

variable {bits : BitVec spec.numBits}

/-- A full exponent field stands for the infinities and for what is not a number. -/
theorem unpack_full (full : unpackExponent bits = -1#_) :
    unpack spec bits = if unpackMantissa bits = 0#_ then
      .infinity (Sign.ofBitVec (unpackSign bits)) else .notANumber :=
  if_pos full

theorem unpack_zero (empty : unpackExponent bits = 0#_) (zero : unpackMantissa bits = 0#_) :
    unpack spec bits = .zero (Sign.ofBitVec (unpackSign bits)) := by
  have notFull : unpackExponent bits ≠ -1#_ := fun full =>
    zero_ne_neg_one spec (empty.symm.trans full)
  exact ((if_neg notFull).trans (if_pos empty)).trans (dif_pos zero)

end Special

variable {exponent : ℤ}

theorem clamp_finite (sign : Sign) (positive : 0 < mantissa) :
    clamp spec (.finite sign mantissa exponent positive) =
      if exponent ≤ maxExponent spec then .finite sign mantissa exponent positive
      else .infinity sign := rfl

theorem unpack_packedInfinity (sign : Sign) :
    unpack spec (packedInfinity spec sign) = .infinity sign := by
  unfold packedInfinity
  rw [unpack_full unpackExponent_packComponents, unpackMantissa_packComponents,
    unpackSign_packComponents]
  exact if_pos rfl

theorem unpack_packedZero (sign : Sign) : unpack spec (packedZero spec sign) = .zero sign := by
  have empty : unpackExponent (packedZero spec sign) = 0#_ := unpackExponent_packComponents
  rw [unpack_zero empty unpackMantissa_packComponents]
  exact congrArg _ (unpackSign_packComponents ..)

theorem unpack_packedNaN : unpack spec (packedNaN spec) = .notANumber := by
  have positive := spec.hm
  have quiet : BitVec.ofNat spec.mantissaBitsWithoutImplicit 1 <<<
      (spec.mantissaBitsWithoutImplicit - 1) ≠
        BitVec.ofNat spec.mantissaBitsWithoutImplicit 0 := by
    intro same
    have bit := congrArg (·.getLsbD (spec.mantissaBitsWithoutImplicit - 1)) same
    simp [positive] at bit
  unfold packedNaN
  rw [unpack_full unpackExponent_packComponents, unpackMantissa_packComponents,
    if_neg quiet]

/-- What a number with the exponent field `field` is packed to. -/
theorem pack_normal (sign : Sign) {mantissa field : ℕ} (positive : 0 < mantissa)
    (offset : exponent + spec.exponentBias + spec.mantissaBitsWithoutImplicit = field)
    (inRange : field + 1 < 2 ^ spec.exponentBits) (log : mantissa.log2 + 1 = spec.mantissaBits) :
    pack spec (.finite sign mantissa exponent positive) =
      packComponents spec sign (BitVec.ofNat _ field) (BitVec.ofNat _ mantissa) := by
  show (if _ ≤ (exponent + spec.exponentBias + spec.mantissaBitsWithoutImplicit).toNat + 1 then _
    else if _ then
      packComponents spec sign
        (BitVec.ofNat _ (exponent + spec.exponentBias + spec.mantissaBitsWithoutImplicit).toNat)
        (BitVec.ofNat _ mantissa)
    else _) = _
  rw [offset, Int.toNat_natCast, if_neg (Nat.not_le.mpr inRange), if_pos log]

theorem pack_subnormal (sign : Sign) (positive : 0 < mantissa)
    (capacity : ¬ 2 ^ spec.exponentBits ≤
      (exponent + spec.exponentBias + spec.mantissaBitsWithoutImplicit).toNat + 1)
    (log : mantissa.log2 + 1 ≠ spec.mantissaBits) :
    pack spec (.finite sign mantissa exponent positive) =
      packComponents spec sign 0#_ (BitVec.ofNat _ mantissa) :=
  (if_neg capacity).trans (if_neg log)

theorem pack_overflow (sign : Sign) (positive : 0 < mantissa)
    (overflows : 2 ^ spec.exponentBits ≤
      (exponent + spec.exponentBias + spec.mantissaBitsWithoutImplicit).toNat + 1) :
    pack spec (.finite sign mantissa exponent positive) = packedInfinity spec sign :=
  if_pos overflows

section Unpacking

variable {bits : BitVec spec.numBits} {sign : Sign} {mantissa : ℕ} {exponent : ℤ}
  {positive : 0 < mantissa}

/-- An exponent field that is neither full nor empty stands for an implicit leading bit. -/
theorem unpack_normal (notFull : unpackExponent bits ≠ -1#_)
    (notEmpty : unpackExponent bits ≠ 0#_) (signEq : Sign.ofBitVec (unpackSign bits) = sign)
    (mantissaEq : (1#1 ++ unpackMantissa bits).toNat = mantissa)
    (exponentEq : ((unpackExponent bits).toNat : ℤ) -
      (spec.exponentBias + spec.mantissaBitsWithoutImplicit) = exponent) :
    unpack spec bits = .finite sign mantissa exponent positive := by
  subst signEq mantissaEq exponentEq
  exact (if_neg notFull).trans (if_neg notEmpty)

theorem unpack_subnormal (empty : unpackExponent bits = 0#_)
    (nonzero : unpackMantissa bits ≠ 0#_) (signEq : Sign.ofBitVec (unpackSign bits) = sign)
    (mantissaEq : (unpackMantissa bits).toNat = mantissa)
    (exponentEq : ((unpackExponent bits).toNat : ℤ) -
      (spec.exponentBias + spec.mantissaBitsWithoutImplicit) + 1 = exponent) :
    unpack spec bits = .finite sign mantissa exponent positive := by
  subst signEq mantissaEq exponentEq
  have notFull : unpackExponent bits ≠ -1#_ := fun full =>
    zero_ne_neg_one spec (empty.symm.trans full)
  exact ((if_neg notFull).trans (if_pos empty)).trans (dif_neg nonzero)

end Unpacking

/-- A full mantissa is packed without its leading bit and comes back with it. -/
theorem unpack_pack_normal (sign : Sign) (positive : 0 < mantissa)
    (canonical : Canonical spec mantissa exponent) (inRange : exponent ≤ maxExponent spec)
    (full : 2 ^ spec.mantissaBitsWithoutImplicit ≤ mantissa) :
    unpack spec (pack spec (.finite sign mantissa exponent positive)) =
      .finite sign mantissa exponent positive := by
  obtain ⟨fits, least, _⟩ := canonical
  rw [minExponent_eq] at least
  unfold maxExponent at inRange
  have log : mantissa.log2 + 1 = spec.mantissaBits := by
    have lower := (Nat.le_log2 (Nat.ne_of_gt positive)).mpr full
    have upper := (Nat.log2_lt (Nat.ne_of_gt positive)).mpr fits
    unfold Format.mantissaBits at upper ⊢
    omega
  have offset : exponent + spec.exponentBias + spec.mantissaBitsWithoutImplicit =
      exponent + exponentOffset spec := by
    unfold exponentOffset
    push_cast
    ring
  have capacity := two_le_capacity spec
  obtain ⟨field, fieldEq⟩ : ∃ field : ℕ, exponent + exponentOffset spec = field :=
    ⟨(exponent + exponentOffset spec).toNat, by omega⟩
  have fieldInRange : field + 1 < 2 ^ spec.exponentBits := by
    zify
    omega
  have fieldPositive : 0 < field := by omega
  rw [pack_normal sign positive (offset.trans fieldEq) fieldInRange log]
  refine unpack_normal ?_ ?_ (unpackSign_packComponents ..) ?_ ?_
  · rw [unpackExponent_packComponents]
    exact ofNat_exponent_ne_neg_one fieldInRange
  · rw [unpackExponent_packComponents]
    exact ofNat_exponent_ne_zero fieldInRange fieldPositive
  · rw [unpackMantissa_packComponents, implicitBit_ofNat full fits]
  · rw [unpackExponent_packComponents, ofNat_exponent fieldInRange]
    unfold exponentOffset at fieldEq
    push_cast at fieldEq
    omega

/-- A mantissa that is not full has the least exponent, and is packed as it stands. -/
theorem unpack_pack_subnormal (sign : Sign) (positive : 0 < mantissa)
    (canonical : Canonical spec mantissa exponent) (inRange : exponent ≤ maxExponent spec)
    (small : mantissa < 2 ^ spec.mantissaBitsWithoutImplicit) :
    unpack spec (pack spec (.finite sign mantissa exponent positive)) =
      .finite sign mantissa exponent positive := by
  have least : exponent = spec.minExponent := by
    refine canonical.full.resolve_right (Nat.not_le.mpr ?_)
    unfold Format.mantissaBits
    rwa [Nat.add_sub_cancel_left]
  rw [minExponent_eq] at least
  have log : mantissa.log2 + 1 ≠ spec.mantissaBits := by
    have upper := (Nat.log2_lt (Nat.ne_of_gt positive)).mpr small
    unfold Format.mantissaBits
    omega
  have offset : exponent + spec.exponentBias + spec.mantissaBitsWithoutImplicit = (1 : ℕ) := by
    rw [least]
    unfold exponentOffset
    push_cast
    ring
  have capacity : ¬ 2 ^ spec.exponentBits ≤ 1 + 1 := by
    unfold maxExponent at inRange
    zify
    omega
  have kept : (BitVec.ofNat spec.mantissaBitsWithoutImplicit mantissa).toNat = mantissa := by
    rw [BitVec.toNat_ofNat, Nat.mod_eq_of_lt small]
  have nonzero : BitVec.ofNat spec.mantissaBitsWithoutImplicit mantissa ≠ 0#_ := by
    intro same
    have numbers := congrArg BitVec.toNat same
    rw [kept, BitVec.toNat_zero] at numbers
    omega
  rw [pack_subnormal sign positive (by rwa [offset, Int.toNat_natCast]) log]
  refine unpack_subnormal unpackExponent_packComponents ?_ (unpackSign_packComponents ..) ?_ ?_
  · rwa [unpackMantissa_packComponents]
  · rw [unpackMantissa_packComponents, kept]
  · rw [unpackExponent_packComponents, BitVec.toNat_zero, least]
    unfold exponentOffset
    push_cast
    ring

/-- Packing and unpacking a canonical number clamps it to the format. -/
theorem unpack_pack {unpacked : UnpackedFloat} (canonical : CanonicalForm spec unpacked) :
    unpack spec (pack spec unpacked) = clamp spec unpacked := by
  cases unpacked with
  | infinity sign => exact unpack_packedInfinity sign
  | notANumber => exact unpack_packedNaN
  | zero sign => exact unpack_packedZero sign
  | finite sign mantissa exponent positive =>
    show _ = if exponent ≤ maxExponent spec then _ else _
    by_cases inRange : exponent ≤ maxExponent spec
    · rw [if_pos inRange]
      rcases lt_or_ge mantissa (2 ^ spec.mantissaBitsWithoutImplicit) with small | full
      · exact unpack_pack_subnormal sign positive canonical inRange small
      · exact unpack_pack_normal sign positive canonical inRange full
    · rw [if_neg inRange]
      have overflows : 2 ^ spec.exponentBits ≤
          (exponent + spec.exponentBias + spec.mantissaBitsWithoutImplicit).toNat + 1 := by
        unfold maxExponent exponentOffset at inRange
        push_cast at inRange
        zify
        omega
      rw [pack_overflow sign positive overflows]
      exact unpack_packedInfinity sign

/-! ### Unpacking any bits -/

/-- A number of the format: canonical and within the largest exponent. -/
structure InFormat (spec : Format) (unpacked : UnpackedFloat) : Prop where
  canonical : CanonicalForm spec unpacked
  inRange : ∀ sign mantissa exponent positive,
    unpacked = .finite sign mantissa exponent positive → exponent ≤ maxExponent spec

theorem InFormat.finite {sign : Sign} {positive : 0 < mantissa}
    (canonical : Canonical spec mantissa exponent) (inRange : exponent ≤ maxExponent spec) :
    InFormat spec (.finite sign mantissa exponent positive) := by
  refine ⟨canonical, fun otherSign otherMantissa otherExponent otherPositive same => ?_⟩
  cases same
  exact inRange

/-- Whatever the bits, they unpack to a number of the format. -/
theorem inFormat_unpack (wide : 2 ≤ spec.exponentBits) (bits : BitVec spec.numBits) :
    InFormat spec (unpack spec bits) := by
  have capacity : 4 ≤ 2 ^ spec.exponentBits := Nat.pow_le_pow_right Nat.two_pos wide
  have mantissaBound := (unpackMantissa bits).isLt
  have exponentBound := (unpackExponent bits).isLt
  have offset : ((spec.exponentBias : ℤ) + spec.mantissaBitsWithoutImplicit) =
      exponentOffset spec := by
    unfold exponentOffset
    push_cast
    rfl
  have twice : 2 ^ spec.mantissaBits = 2 ^ spec.mantissaBitsWithoutImplicit * 2 := by
    rw [← pow_succ, Nat.add_comm]
    rfl
  show InFormat spec (if unpackExponent bits = -1#_ then _ else if unpackExponent bits = 0#_ then
    dite _ _ _ else _)
  rw [offset]
  by_cases special : unpackExponent bits = -1#_
  · rw [if_pos special]
    by_cases infinite : unpackMantissa bits = 0#_
    · rw [if_pos infinite]
      exact ⟨trivial, fun _ _ _ _ same => by cases same⟩
    · rw [if_neg infinite]
      exact ⟨trivial, fun _ _ _ _ same => by cases same⟩
  rw [if_neg special]
  by_cases isZero : unpackExponent bits = 0#_
  · rw [if_pos isZero]
    by_cases empty : unpackMantissa bits = 0#_
    · rw [dif_pos empty]
      exact ⟨trivial, fun _ _ _ _ same => by cases same⟩
    · rw [dif_neg empty]
      rw [isZero, BitVec.toNat_zero]
      have least : ((0 : ℕ) : ℤ) - exponentOffset spec + 1 = spec.minExponent := by
        rw [minExponent_eq]
        push_cast
        ring
      rw [least]
      refine .finite ⟨by omega, le_rfl, .inl rfl⟩ ?_
      rw [minExponent_eq]
      unfold maxExponent
      zify at capacity
      omega
  · rw [if_neg isZero]
    have fieldPositive : (unpackExponent bits).toNat ≠ 0 := fun zero =>
      isZero (BitVec.eq_of_toNat_eq (by rw [zero, BitVec.toNat_zero]))
    have fieldInRange : (unpackExponent bits).toNat ≠ 2 ^ spec.exponentBits - 1 := fun top =>
      special (BitVec.eq_of_toNat_eq (by rw [top, neg_one_toNat]))
    have full := implicitBit_toNat (unpackMantissa bits)
    refine .finite ⟨?_, ?_, .inr ?_⟩ ?_
    · rw [full, twice]
      omega
    · rw [minExponent_eq]
      omega
    · rw [full]
      unfold Format.mantissaBits
      rw [Nat.add_sub_cancel_left]
      exact Nat.le_add_right _ _
    · have below : (unpackExponent bits).toNat + 2 ≤ 2 ^ spec.exponentBits := by omega
      unfold maxExponent
      zify at below
      omega

end Binary64
