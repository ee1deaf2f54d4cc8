/-
This file is the first part of a small library about binary floating-point numbers. It bounds
the rounding step of Lean's floating-point model for an arbitrary format: the mantissa is
shifted to the exponent the format asks for, the dropped bits decide between the two nearest
mantissas, and a mantissa that overflows is shifted once more.

What is proved is that rounding never passes a number of the format. If such a number lies at
or below the exact value it lies at or below the rounded one, and the same from above. That
is all that comparing a rounded result with a number needs. An exact mantissa moreover rounds to
a nearest number of the format, which orders the rounded results of two operations.
-/

import Mathlib.Algebra.Order.Field.Power
import Mathlib.Data.Real.Basic
import Mathlib.Tactic.Ring
import Mathlib.Tactic.Linarith
import Mathlib.Tactic.Positivity
import Mathlib.Tactic.Push

namespace Binary64

open Float.Model Float.Model.UnpackedFloat

/-! ### Scaled mantissas -/

/-- The number a mantissa and an exponent stand for. -/
noncomputable def scaled (mantissa : ℕ) (exponent : ℤ) : ℝ := mantissa * 2 ^ exponent

theorem scaled_nonneg (mantissa : ℕ) (exponent : ℤ) : 0 ≤ scaled mantissa exponent := by
  unfold scaled
  positivity

variable {mantissa : ℕ}

theorem scaled_pos (exponent : ℤ) (positive : 0 < mantissa) :
    0 < scaled mantissa exponent := by
  unfold scaled
  positivity

/-- A larger exponent is a larger mantissa. -/
theorem scaled_add (mantissa : ℕ) (exponent : ℤ) (shift : ℕ) :
    scaled mantissa (exponent + shift) = scaled (mantissa * 2 ^ shift) exponent := by
  unfold scaled
  rw [zpow_add₀ two_ne_zero, zpow_natCast]
  push_cast
  ring

theorem scaled_le_scaled_iff (first second : ℕ) (exponent : ℤ) :
    scaled first exponent ≤ scaled second exponent ↔ first ≤ second := by
  unfold scaled
  rw [mul_le_mul_iff_left₀ (by positivity), Nat.cast_le]

theorem scaled_lt_scaled_iff (first second : ℕ) (exponent : ℤ) :
    scaled first exponent < scaled second exponent ↔ first < second := by
  rw [← not_le, scaled_le_scaled_iff, not_le]

/-! ### Numbers of a format -/

variable (spec : Format)

/-- The mantissa fits the format and the exponent is the one the format gives it: the least
exponent, or one at which the mantissa fills all its bits. -/
structure Canonical (mantissa : ℕ) (exponent : ℤ) : Prop where
  fits : mantissa < 2 ^ spec.mantissaBits
  least : spec.minExponent ≤ exponent
  full : exponent = spec.minExponent ∨ 2 ^ (spec.mantissaBits - 1) ≤ mantissa

theorem mantissaBits_pos : 0 < spec.mantissaBits := by
  unfold Format.mantissaBits
  omega

theorem two_le_mantissaBits : 2 ≤ spec.mantissaBits := by
  have wide := spec.hm
  unfold Format.mantissaBits
  omega

variable {spec}

variable {exponent otherExponent : ℤ}

/-- Among canonical numbers a smaller exponent is a smaller number, unless the exponents
agree. -/
theorem Canonical.lt_of_exponent_lt {mantissa otherMantissa : ℕ}
    (fits : mantissa < 2 ^ spec.mantissaBits) (full : 2 ^ (spec.mantissaBits - 1) ≤ otherMantissa)
    (smaller : exponent < otherExponent) :
    scaled mantissa exponent < scaled otherMantissa otherExponent := by
  obtain ⟨gap, rfl⟩ : ∃ gap : ℕ, otherExponent = exponent + (gap + 1 : ℕ) :=
    ⟨(otherExponent - exponent - 1).toNat, by omega⟩
  rw [scaled_add, scaled_lt_scaled_iff]
  have bits := mantissaBits_pos spec
  calc mantissa < 2 ^ spec.mantissaBits := fits
    _ = 2 ^ (spec.mantissaBits - 1) * 2 := by
        rw [← pow_succ, Nat.sub_add_cancel bits]
    _ ≤ otherMantissa * 2 := Nat.mul_le_mul_right 2 full
    _ ≤ otherMantissa * 2 ^ (gap + 1) :=
        Nat.mul_le_mul_left _ (by rw [pow_succ]; exact Nat.le_mul_of_pos_left 2 (by positivity))

/-- A canonical number has one spelling. -/
theorem Canonical.eq_of_scaled_eq {mantissa otherMantissa : ℕ}
    (canonical : Canonical spec mantissa exponent)
    (otherCanonical : Canonical spec otherMantissa otherExponent)
    (same : scaled mantissa exponent = scaled otherMantissa otherExponent) :
    mantissa = otherMantissa ∧ exponent = otherExponent := by
  rcases lt_trichotomy exponent otherExponent with smaller | rfl | larger
  · have least := canonical.least
    have full := otherCanonical.full.resolve_left (by omega)
    exact absurd same (ne_of_lt (Canonical.lt_of_exponent_lt canonical.fits full smaller))
  · exact ⟨le_antisymm ((scaled_le_scaled_iff _ _ _).mp same.le)
      ((scaled_le_scaled_iff _ _ _).mp same.ge), rfl⟩
  · have least := otherCanonical.least
    have full := canonical.full.resolve_left (by omega)
    exact absurd same (ne_of_gt (Canonical.lt_of_exponent_lt otherCanonical.fits full larger))

/-! ### Dropping bits -/

/-- The bits an extended mantissa keeps of what was shifted out are all clear. -/
def Exact (extended : ExtendedMantissa) : Prop :=
  extended.roundBit = false ∧ extended.stickyBit = false

/-- Shifting a mantissa divides it, and the residual bits stay clear exactly while nothing but
zeros is shifted out of a mantissa that was exact. -/
theorem shiftRight_accuracy (accuracy : Accuracy) (mantissa shift : ℕ) :
    (ExtendedMantissa.ofMantissaAndAccuracy mantissa accuracy >>> shift).mantissa =
        mantissa / 2 ^ shift ∧
      (Exact (ExtendedMantissa.ofMantissaAndAccuracy mantissa accuracy >>> shift) ↔
        accuracy = .exact ∧ 2 ^ shift ∣ mantissa) := by
  show (shift.repeat ExtendedMantissa.shiftRightOne _).mantissa = _ ∧
    (Exact (shift.repeat ExtendedMantissa.shiftRightOne _) ↔ _)
  induction shift with
  | zero =>
    rw [pow_zero, Nat.div_one]
    cases accuracy with
    | exact => exact ⟨rfl, fun _ => ⟨rfl, one_dvd mantissa⟩, fun _ => ⟨rfl, rfl⟩⟩
    | inexact order =>
      cases order <;> refine ⟨rfl, fun clear => ?_, fun exact => nomatch exact.1⟩
      · exact nomatch clear.2
      · exact nomatch clear.1
      · exact nomatch clear.1
  | succ shift inductionHypothesis =>
    obtain ⟨quotient, clear⟩ := inductionHypothesis
    rw [Nat.repeat]
    generalize shift.repeat ExtendedMantissa.shiftRightOne
      (ExtendedMantissa.ofMantissaAndAccuracy mantissa accuracy) = extended at quotient clear
    refine ⟨?_, ?_⟩
    · show extended.mantissa / 2 = _
      rw [quotient, Nat.div_div_eq_div_mul, pow_succ]
    · have split : Exact extended.shiftRightOne ↔ extended.mantissa % 2 = 0 ∧ Exact extended := by
        unfold Exact ExtendedMantissa.shiftRightOne
        simp only [bne_eq_false_iff_eq, Bool.or_eq_false_iff]
      rw [split, clear, quotient]
      constructor
      · rintro ⟨even, exact, whole⟩
        rw [pow_succ]
        exact ⟨exact, (Nat.dvd_div_iff_mul_dvd whole).mp (Nat.dvd_of_mod_eq_zero even)⟩
      · rintro ⟨exact, divides⟩
        have whole : 2 ^ shift ∣ mantissa := (pow_dvd_pow 2 (Nat.le_succ shift)).trans divides
        rw [pow_succ] at divides
        exact ⟨Nat.mod_eq_zero_of_dvd ((Nat.dvd_div_iff_mul_dvd whole).mpr divides), exact, whole⟩

theorem le_roundedMantissa (extended : ExtendedMantissa) :
    extended.mantissa ≤ extended.roundedMantissa := by
  unfold ExtendedMantissa.roundedMantissa ExtendedMantissa.accuracy
  split <;> simp only [Accuracy.roundToNearestEven] <;> omega

theorem roundedMantissa_le (extended : ExtendedMantissa) :
    extended.roundedMantissa ≤ extended.mantissa + 1 := by
  unfold ExtendedMantissa.roundedMantissa ExtendedMantissa.accuracy
  split <;> simp only [Accuracy.roundToNearestEven] <;> omega

theorem roundedMantissa_of_exact {extended : ExtendedMantissa} (exact : Exact extended) :
    extended.roundedMantissa = extended.mantissa := by
  obtain ⟨mantissa, roundBit, stickyBit⟩ := extended
  obtain ⟨rfl, rfl⟩ := exact
  rfl

/-- The mantissa that is left after `shift` bits are rounded away. -/
def droppedMantissa (accuracy : Accuracy) (mantissa shift : ℕ) : ℕ :=
  (ExtendedMantissa.ofMantissaAndAccuracy mantissa accuracy >>> shift).roundedMantissa

variable {accuracy : Accuracy}

/-- Rounding bits away does not pass a multiple of the last place from above. -/
theorem le_droppedMantissa {mantissa shift whole : ℕ} (below : whole * 2 ^ shift ≤ mantissa) :
    whole ≤ droppedMantissa accuracy mantissa shift := by
  refine le_trans ?_ (le_roundedMantissa _)
  rw [(shiftRight_accuracy accuracy mantissa shift).1]
  exact (Nat.le_div_iff_mul_le (by positivity)).mpr below

/-- Rounding bits away does not pass a multiple of the last place from below, if the mantissa
is exact where it meets the multiple. -/
theorem droppedMantissa_le {mantissa shift whole : ℕ} (above : mantissa ≤ whole * 2 ^ shift)
    (met : mantissa = whole * 2 ^ shift → accuracy = .exact) :
    droppedMantissa accuracy mantissa shift ≤ whole := by
  obtain ⟨quotient, clear⟩ := shiftRight_accuracy accuracy mantissa shift
  unfold droppedMantissa
  rcases lt_or_eq_of_le above with less | same
  · refine (roundedMantissa_le _).trans ?_
    rwa [quotient, Nat.succ_le_iff, Nat.div_lt_iff_lt_mul (by positivity)]
  · have divides : 2 ^ shift ∣ mantissa := by
      rw [same]
      exact Dvd.intro_left whole rfl
    rw [roundedMantissa_of_exact (clear.mpr ⟨met same, divides⟩), quotient]
    exact Nat.div_le_of_le_mul (by rwa [mul_comm])

/-- A last bit that is clear is dropped; one that is set rounds up, or in a tie to even. -/
theorem roundedMantissa_shiftRightOne (extended : ExtendedMantissa) :
    extended.shiftRightOne.roundedMantissa =
      if extended.mantissa % 2 = 0 then extended.mantissa / 2
      else if extended.roundBit || extended.stickyBit then extended.mantissa / 2 + 1
      else extended.mantissa / 2 + extended.mantissa / 2 % 2 := by
  obtain ⟨mantissa, roundBit, stickyBit⟩ := extended
  rcases Nat.mod_two_eq_zero_or_one mantissa with even | odd
  · unfold ExtendedMantissa.shiftRightOne
    rw [if_pos even, even]
    cases roundBit <;> cases stickyBit <;> rfl
  · unfold ExtendedMantissa.shiftRightOne
    rw [if_neg (Nat.mod_two_ne_zero.mpr odd), odd]
    cases roundBit <;> cases stickyBit <;> rfl

/-! ### The first shift -/

variable (spec)

/-- How many bits the first shift of rounding drops. -/
def dropCount (mantissa : ℕ) (exponent : ℤ) : ℕ :=
  (spec.targetExponent (totalExponent mantissa exponent) - exponent).toNat

variable {spec}

theorem minExponent_le_dropped (mantissa : ℕ) (exponent : ℤ) :
    spec.minExponent ≤ exponent + dropCount spec mantissa exponent := by
  have target : spec.minExponent ≤ spec.targetExponent (totalExponent mantissa exponent) :=
    le_max_right _ _
  unfold dropCount
  omega

/-- After the first shift the mantissa fits the format. -/
theorem lt_of_dropCount (exponent : ℤ) :
    mantissa < 2 ^ spec.mantissaBits * 2 ^ dropCount spec mantissa exponent := by
  have target : totalExponent mantissa exponent - spec.mantissaBits ≤
      spec.targetExponent (totalExponent mantissa exponent) := le_max_left _ _
  rw [← pow_add]
  refine Nat.lt_log2_self.trans_le (Nat.pow_le_pow_right Nat.two_pos ?_)
  unfold dropCount
  unfold totalExponent at target ⊢
  omega

variable {exponent : ℤ}

/-- A shift that reaches the format's exponent reaches the least one, or fills the
mantissa. -/
theorem full_of_dropCount
    (small : exponent ≤ spec.targetExponent (totalExponent mantissa exponent)) :
    exponent + dropCount spec mantissa exponent = spec.minExponent ∨
      2 ^ (spec.mantissaBits - 1) * 2 ^ dropCount spec mantissa exponent ≤ mantissa := by
  have bits := two_le_mantissaBits spec
  have reached : exponent + dropCount spec mantissa exponent =
      spec.targetExponent (totalExponent mantissa exponent) := by
    unfold dropCount
    omega
  rcases le_total (totalExponent mantissa exponent - spec.mantissaBits) spec.minExponent with
    below | above
  · left
    rw [reached, Format.targetExponent, max_eq_right below]
  · right
    rw [Format.targetExponent, max_eq_left above] at reached
    unfold totalExponent at reached
    have nonzero : mantissa ≠ 0 := by
      rintro rfl
      rw [Nat.log2_zero] at reached
      omega
    rw [← pow_add]
    refine le_trans (Nat.pow_le_pow_right Nat.two_pos ?_) (Nat.log2_self_le nonzero)
    omega

/-- Rounding at the format's exponent passes no canonical number. -/
structure Between (spec : Format) (exact rounded : ℝ) : Prop where
  above : ∀ mantissa exponent, Canonical spec mantissa exponent →
    scaled mantissa exponent ≤ exact → scaled mantissa exponent ≤ rounded
  below : ∀ mantissa exponent, Canonical spec mantissa exponent →
    exact ≤ scaled mantissa exponent → rounded ≤ scaled mantissa exponent

/-- Below the last place the quotient is a full mantissa away. -/
theorem scaled_lt_quotient {mantissa other : ℕ}
    (small : exponent ≤ spec.targetExponent (totalExponent mantissa exponent))
    (canonical : Canonical spec other otherExponent)
    (smaller : otherExponent < exponent + dropCount spec mantissa exponent) :
    scaled other otherExponent < scaled (mantissa / 2 ^ dropCount spec mantissa exponent)
      (exponent + dropCount spec mantissa exponent) := by
  have notLeast : exponent + dropCount spec mantissa exponent ≠ spec.minExponent := by
    have least := canonical.least
    omega
  have full := (full_of_dropCount small).resolve_left notLeast
  exact Canonical.lt_of_exponent_lt canonical.fits
    ((Nat.le_div_iff_mul_le (by positivity)).mpr full) smaller

/-- From the last place on a number of the format is a multiple of it. -/
theorem exists_whole {last otherExponent : ℤ} (other : ℕ) (larger : last ≤ otherExponent) :
    ∃ whole, scaled other otherExponent = scaled whole last := by
  obtain ⟨gap, rfl⟩ : ∃ gap : ℕ, otherExponent = last + gap :=
    ⟨(otherExponent - last).toNat, by omega⟩
  exact ⟨other * 2 ^ gap, scaled_add other _ gap⟩

theorem scaled_quotient_le (mantissa shift : ℕ) (exponent : ℤ) :
    scaled (mantissa / 2 ^ shift) (exponent + shift) ≤ scaled mantissa exponent := by
  rw [scaled_add, scaled_le_scaled_iff]
  exact Nat.div_mul_le_self mantissa (2 ^ shift)

/-- What an accuracy tells of the part of the last place that the mantissa leaves out. -/
structure Residue (accuracy : Accuracy) (residue : ℝ) : Prop where
  nonneg : 0 ≤ residue
  lt_one : residue < 1
  exact : residue = 0 → accuracy = .exact

theorem residue_exact : Residue .exact 0 := ⟨le_rfl, zero_lt_one, fun _ => rfl⟩

/-- A mantissa and an exponent with the part of the last place that is left out. -/
noncomputable def scaledUp (mantissa : ℕ) (residue : ℝ) (exponent : ℤ) : ℝ :=
  (mantissa + residue) * 2 ^ exponent

theorem scaledUp_zero (mantissa : ℕ) (exponent : ℤ) :
    scaledUp mantissa 0 exponent = scaled mantissa exponent := by
  unfold scaledUp scaled
  rw [add_zero]

section Residue

variable {residue : ℝ} (left : Residue accuracy residue)

include left

theorem Residue.scaled_le (mantissa : ℕ) (exponent : ℤ) :
    scaled mantissa exponent ≤ scaledUp mantissa residue exponent := by
  unfold scaledUp scaled
  have positive : (0 : ℝ) < 2 ^ exponent := by positivity
  exact mul_le_mul_of_nonneg_right (le_add_of_nonneg_right left.nonneg) positive.le

theorem Residue.scaled_le_iff (whole mantissa : ℕ) (exponent : ℤ) :
    scaled whole exponent ≤ scaledUp mantissa residue exponent ↔ whole ≤ mantissa := by
  have positive : (0 : ℝ) < 2 ^ exponent := by positivity
  refine ⟨fun order => ?_, fun order => ?_⟩
  · unfold scaledUp scaled at order
    have less := (le_of_mul_le_mul_right order positive).trans_lt
      (add_lt_add_right left.lt_one (mantissa : ℝ))
    exact Nat.lt_succ_iff.mp (by exact_mod_cast less)
  · exact ((scaled_le_scaled_iff whole mantissa exponent).mpr order).trans (left.scaled_le _ _)

theorem Residue.le_scaled {whole mantissa : ℕ}
    (order : scaledUp mantissa residue exponent ≤ scaled whole exponent) :
    mantissa ≤ whole ∧ (mantissa = whole → accuracy = .exact) := by
  refine ⟨(scaled_le_scaled_iff _ _ _).mp ((left.scaled_le _ _).trans order), ?_⟩
  rintro rfl
  have positive : (0 : ℝ) < 2 ^ exponent := by positivity
  have nonpos := le_of_mul_le_mul_right order positive
  exact left.exact (le_antisymm (by linarith) left.nonneg)

theorem scaled_dropped_between
    (small : exponent ≤ spec.targetExponent (totalExponent mantissa exponent)) :
    Between spec (scaledUp mantissa residue exponent)
      (scaled (droppedMantissa accuracy mantissa (dropCount spec mantissa exponent))
        (exponent + dropCount spec mantissa exponent)) := by
  have roundedFull : mantissa / 2 ^ dropCount spec mantissa exponent ≤
      droppedMantissa accuracy mantissa (dropCount spec mantissa exponent) :=
    le_droppedMantissa (Nat.div_mul_le_self mantissa _)
  refine ⟨fun other otherExponent canonical below => ?_,
    fun other otherExponent canonical above => ?_⟩
  · rcases lt_or_ge otherExponent (exponent + dropCount spec mantissa exponent) with
      smaller | larger
    · refine (scaled_lt_quotient small canonical smaller).le.trans ?_
      rwa [scaled_le_scaled_iff]
    · obtain ⟨whole, same⟩ := exists_whole other larger
      rw [same, scaled_add, left.scaled_le_iff] at below
      rw [same, scaled_le_scaled_iff]
      exact le_droppedMantissa below
  · rcases lt_or_ge otherExponent (exponent + dropCount spec mantissa exponent) with
      smaller | larger
    · refine absurd above (not_le.mpr ?_)
      exact (scaled_lt_quotient small canonical smaller).trans_le
        ((scaled_quotient_le mantissa _ exponent).trans (left.scaled_le mantissa exponent))
    · obtain ⟨whole, same⟩ := exists_whole other larger
      rw [same, scaled_add] at above
      rw [same, scaled_le_scaled_iff]
      exact droppedMantissa_le (left.le_scaled above).1 (left.le_scaled above).2

end Residue

/-- What an accuracy tells of that part when it is compared with one half. -/
structure Measured (accuracy : Accuracy) (residue : ℝ) : Prop extends Residue accuracy residue where
  none : accuracy = .exact → residue = 0
  below : accuracy = .inexact .lt → 2 * residue ≤ 1
  middle : accuracy = .inexact .eq → 2 * residue = 1
  above : accuracy = .inexact .gt → 1 ≤ 2 * residue

theorem measured_exact : Measured .exact 0 where
  toResidue := residue_exact
  none _ := rfl
  below impossible := by cases impossible
  middle impossible := by cases impossible
  above impossible := by cases impossible

section Measured

variable {residue : ℝ} (left : Measured accuracy residue)

include left

/-- Where no bits are dropped, the accuracy tells whether to round up. -/
theorem Measured.near_whole (mantissa : ℕ) :
    2 * (droppedMantissa accuracy mantissa 0 : ℝ) ≤ 2 * (mantissa + residue) + 1 ∧
      2 * (mantissa + residue) ≤ 2 * (droppedMantissa accuracy mantissa 0 : ℝ) + 1 := by
  cases accuracy with
  | exact =>
    have kept : droppedMantissa .exact mantissa 0 = mantissa := rfl
    rw [kept, left.none rfl]
    constructor <;> linarith
  | inexact order =>
    cases order with
    | lt =>
      have kept : droppedMantissa (.inexact .lt) mantissa 0 = mantissa := rfl
      have below := left.below rfl
      have nonneg := left.nonneg
      rw [kept]
      constructor <;> linarith
    | eq =>
      have kept : droppedMantissa (.inexact .eq) mantissa 0 = mantissa + mantissa % 2 := rfl
      have middle := left.middle rfl
      rw [kept]
      rcases Nat.mod_two_eq_zero_or_one mantissa with even | odd
      · rw [even, Nat.add_zero]
        constructor <;> linarith
      · rw [odd]
        push_cast
        constructor <;> linarith
    | gt =>
      have kept : droppedMantissa (.inexact .gt) mantissa 0 = mantissa + 1 := rfl
      have above := left.above rfl
      have less := left.lt_one
      rw [kept]
      push_cast
      constructor <;> linarith

/-- Where bits are dropped, the first one of them does. -/
theorem Measured.near_dropped (mantissa shift : ℕ) :
    2 * ((droppedMantissa accuracy mantissa (shift + 1) : ℝ) * 2 ^ (shift + 1)) ≤
        2 * (mantissa + residue) + 2 ^ (shift + 1) ∧
      2 * (mantissa + residue) ≤
        2 * ((droppedMantissa accuracy mantissa (shift + 1) : ℝ) * 2 ^ (shift + 1)) +
          2 ^ (shift + 1) := by
  obtain ⟨quotient, clear⟩ := shiftRight_accuracy accuracy mantissa shift
  have shifted : droppedMantissa accuracy mantissa (shift + 1) =
      (ExtendedMantissa.ofMantissaAndAccuracy mantissa accuracy >>>
        shift).shiftRightOne.roundedMantissa := rfl
  rw [shifted, roundedMantissa_shiftRightOne, pow_succ]
  generalize ExtendedMantissa.ofMantissaAndAccuracy mantissa accuracy >>> shift = extended at *
  have low : mantissa % 2 ^ shift + 1 ≤ 2 ^ shift := Nat.mod_lt mantissa (Nat.two_pow_pos shift)
  have divided := Nat.div_add_mod' mantissa (2 ^ shift)
  have halved := Nat.div_add_mod' extended.mantissa 2
  rw [← quotient, ← halved] at divided
  rw [Nat.dvd_iff_mod_eq_zero] at clear
  generalize extended.mantissa / 2 = half at *
  generalize mantissa % 2 ^ shift = rest at *
  rw [← divided]
  have lowCast : (rest : ℝ) + 1 ≤ 2 ^ shift := by exact_mod_cast low
  have restNonneg : (0 : ℝ) ≤ rest := rest.cast_nonneg
  have nonneg := left.nonneg
  have less := left.lt_one
  generalize placeEq : (2 : ℝ) ^ shift = place at *
  split_ifs with even sticky
  · rw [even]
    push_cast
    rw [placeEq]
    constructor <;> linarith
  · rw [Nat.mod_two_ne_zero.mp even]
    push_cast
    rw [placeEq]
    constructor <;> linarith
  · rw [Bool.or_eq_true, not_or, Bool.not_eq_true, Bool.not_eq_true] at sticky
    obtain ⟨exact, tie⟩ := clear.mp sticky
    rw [Nat.mod_two_ne_zero.mp even, tie, left.none exact]
    rcases Nat.mod_two_eq_zero_or_one half with down | up
    · rw [down]
      push_cast
      rw [placeEq]
      constructor <;> linarith
    · rw [up]
      push_cast
      rw [placeEq]
      constructor <;> linarith

/-- Rounding bits away moves a mantissa by at most half of the last place. -/
theorem Measured.near (mantissa shift : ℕ) :
    2 * ((droppedMantissa accuracy mantissa shift : ℝ) * 2 ^ shift) ≤
        2 * (mantissa + residue) + 2 ^ shift ∧
      2 * (mantissa + residue) ≤
        2 * ((droppedMantissa accuracy mantissa shift : ℝ) * 2 ^ shift) + 2 ^ shift := by
  cases shift with
  | zero =>
    rw [pow_zero, mul_one]
    exact left.near_whole mantissa
  | succ shift => exact left.near_dropped mantissa shift

/-- No other multiple of the last place is nearer to the mantissa. -/
theorem Measured.nearest (mantissa shift whole : ℕ) :
    |(droppedMantissa accuracy mantissa shift : ℝ) * 2 ^ shift - (mantissa + residue)| ≤
      |(whole : ℝ) * 2 ^ shift - (mantissa + residue)| := by
  obtain ⟨notAbove, notBelow⟩ := left.near mantissa shift
  generalize droppedMantissa accuracy mantissa shift = dropped at *
  by_cases same : whole = dropped
  · rw [same]
  have place : (0 : ℝ) < 2 ^ shift := by positivity
  have apart : (whole : ℝ) * 2 ^ shift + 2 ^ shift ≤ dropped * 2 ^ shift ∨
      (dropped : ℝ) * 2 ^ shift + 2 ^ shift ≤ whole * 2 ^ shift := by
    rw [← add_one_mul, ← add_one_mul]
    refine (lt_or_gt_of_ne same).imp (fun less => ?_) fun greater => ?_
    · exact mul_le_mul_of_nonneg_right (by exact_mod_cast less) place.le
    · exact mul_le_mul_of_nonneg_right (by exact_mod_cast greater) place.le
  generalize (mantissa : ℝ) + residue = exact at *
  rcases apart with below | above
  · refine (abs_le.mpr ⟨?_, ?_⟩).trans (neg_le_abs _) <;> linarith
  · refine (abs_le.mpr ⟨?_, ?_⟩).trans (le_abs_self _) <;> linarith

/-- Rounding at the format's exponent leads to a nearest canonical number. -/
theorem scaled_dropped_nearest {mantissa other : ℕ}
    (small : exponent ≤ spec.targetExponent (totalExponent mantissa exponent))
    (canonical : Canonical spec other otherExponent) :
    |scaled (droppedMantissa accuracy mantissa (dropCount spec mantissa exponent))
        (exponent + dropCount spec mantissa exponent) - scaledUp mantissa residue exponent| ≤
      |scaled other otherExponent - scaledUp mantissa residue exponent| := by
  have multiple : ∀ whole,
      |scaled (droppedMantissa accuracy mantissa (dropCount spec mantissa exponent))
          (exponent + dropCount spec mantissa exponent) - scaledUp mantissa residue exponent| ≤
        |scaled whole (exponent + dropCount spec mantissa exponent) -
          scaledUp mantissa residue exponent| := by
    intro whole
    have positive : (0 : ℝ) < 2 ^ exponent := by positivity
    rw [scaled_add, scaled_add, scaledUp, scaled, scaled, ← sub_mul, ← sub_mul, abs_mul, abs_mul,
      abs_of_pos positive]
    push_cast
    exact mul_le_mul_of_nonneg_right (left.nearest mantissa _ whole) positive.le
  rcases lt_or_ge otherExponent (exponent + dropCount spec mantissa exponent) with smaller | larger
  · have less := scaled_lt_quotient small canonical smaller
    have most := (scaled_quotient_le mantissa (dropCount spec mantissa exponent) exponent).trans
      (left.scaled_le mantissa exponent)
    refine (multiple (mantissa / 2 ^ dropCount spec mantissa exponent)).trans ?_
    rw [abs_of_nonpos (by linarith), abs_of_nonpos (by linarith)]
    linarith
  · obtain ⟨whole, same⟩ := exists_whole other larger
    rw [same]
    exact multiple whole

end Measured

/-! ### The second shift -/

theorem dropCount_of_fits (fits : mantissa < 2 ^ spec.mantissaBits)
    (least : spec.minExponent ≤ exponent) : dropCount spec mantissa exponent = 0 := by
  have log : mantissa.log2 < spec.mantissaBits := by
    rcases Nat.eq_zero_or_pos mantissa with rfl | positive
    · exact mantissaBits_pos spec
    · exact (Nat.log2_lt (Nat.ne_of_gt positive)).mpr fits
  have target : spec.targetExponent (totalExponent mantissa exponent) ≤ exponent := by
    refine max_le ?_ least
    unfold totalExponent
    omega
  unfold dropCount
  omega

theorem dropCount_of_carry (least : spec.minExponent ≤ exponent) :
    dropCount spec (2 ^ spec.mantissaBits) exponent = 1 := by
  have target : spec.targetExponent (totalExponent (2 ^ spec.mantissaBits) exponent) =
      exponent + 1 := by
    unfold Format.targetExponent totalExponent
    rw [Nat.log2_two_pow]
    omega
  unfold dropCount
  omega

/-- The second shift changes the spelling of a rounded mantissa, not its value, and leaves a
canonical one. -/
theorem secondShift (bounded : mantissa ≤ 2 ^ spec.mantissaBits)
    (least : spec.minExponent ≤ exponent)
    (full : exponent = spec.minExponent ∨ 2 ^ (spec.mantissaBits - 1) ≤ mantissa) :
    Canonical spec (mantissa / 2 ^ dropCount spec mantissa exponent)
        (exponent + dropCount spec mantissa exponent) ∧
      scaled (mantissa / 2 ^ dropCount spec mantissa exponent)
        (exponent + dropCount spec mantissa exponent) = scaled mantissa exponent := by
  rcases lt_or_eq_of_le bounded with fits | rfl
  · rw [dropCount_of_fits fits least, pow_zero, Nat.div_one, Nat.cast_zero, add_zero]
    exact ⟨⟨fits, least, full⟩, rfl⟩
  · have bits := mantissaBits_pos spec
    have half : 2 ^ spec.mantissaBits = 2 ^ (spec.mantissaBits - 1) * 2 := by
      rw [← pow_succ, Nat.sub_add_cancel bits]
    rw [dropCount_of_carry least, pow_one]
    have quotient : 2 ^ spec.mantissaBits / 2 = 2 ^ (spec.mantissaBits - 1) := by
      rw [half, Nat.mul_div_cancel _ Nat.two_pos]
    rw [quotient]
    refine ⟨⟨Nat.pow_lt_pow_right Nat.one_lt_two (by omega), by omega, .inr le_rfl⟩, ?_⟩
    rw [scaled_add, pow_one, half]

/-! ### Rounded numbers -/

/-- The real number an unpacked float stands for; infinities and NaN stand for none and are
given zero. -/
noncomputable def realValue : UnpackedFloat → ℝ
  | .finite .positive mantissa exponent _ => scaled mantissa exponent
  | .finite .negative mantissa exponent _ => -scaled mantissa exponent
  | _ => 0

/-- A finite float is spelled with the exponent its format gives it. -/
def CanonicalForm (spec : Format) : UnpackedFloat → Prop
  | .finite _ mantissa exponent _ => Canonical spec mantissa exponent
  | _ => True

/-- The sign of an unpacked float, applied to a magnitude. -/
def applySign (sign : Sign) (magnitude : ℝ) : ℝ :=
  match sign with
  | .negative => -magnitude
  | .positive => magnitude

theorem realValue_finite (sign : Sign) (mantissa : ℕ) (exponent : ℤ) (positive : 0 < mantissa) :
    realValue (.finite sign mantissa exponent positive) =
      applySign sign (scaled mantissa exponent) := by
  cases sign <;> rfl

/-- What rounding makes of a positive mantissa: a canonical real number whose magnitude passes
no canonical number. -/
structure RoundsTo (spec : Format) (sign : Sign) (exact : ℝ) (result : UnpackedFloat) : Prop where
  finite : result.isFinite = true
  canonical : CanonicalForm spec result
  between : ∃ magnitude, realValue result = applySign sign magnitude ∧ 0 ≤ magnitude ∧
    Between spec exact magnitude

/-- Rounding gives the rounded mantissa at the format's exponent, spelled canonically. -/
theorem roundWithAccuracy_value (sign : Sign) (accuracy : Accuracy)
    (small : exponent ≤ spec.targetExponent (totalExponent mantissa exponent)) :
    (roundWithAccuracy spec sign mantissa exponent accuracy).isFinite = true ∧
      CanonicalForm spec (roundWithAccuracy spec sign mantissa exponent accuracy) ∧
      realValue (roundWithAccuracy spec sign mantissa exponent accuracy) = applySign sign
        (scaled (droppedMantissa accuracy mantissa (dropCount spec mantissa exponent))
          (exponent + dropCount spec mantissa exponent)) := by
  have least : spec.minExponent ≤ exponent + dropCount spec mantissa exponent :=
    minExponent_le_dropped mantissa exponent
  have fits : mantissa < 2 ^ spec.mantissaBits * 2 ^ dropCount spec mantissa exponent :=
    lt_of_dropCount exponent
  have bounded : droppedMantissa accuracy mantissa (dropCount spec mantissa exponent) ≤
      2 ^ spec.mantissaBits := droppedMantissa_le fits.le fun met => absurd met (ne_of_lt fits)
  have full : exponent + dropCount spec mantissa exponent = spec.minExponent ∨
      2 ^ (spec.mantissaBits - 1) ≤
        droppedMantissa accuracy mantissa (dropCount spec mantissa exponent) :=
    (full_of_dropCount small).imp_right le_droppedMantissa
  have unfolded : roundWithAccuracy spec sign mantissa exponent accuracy =
      let rounded := droppedMantissa accuracy mantissa (dropCount spec mantissa exponent)
      let reached := exponent + dropCount spec mantissa exponent
      let final := ExtendedMantissa.ofMantissaAndAccuracy rounded .exact >>>
        dropCount spec rounded reached
      if isZero : final.mantissa = 0 then .zero sign
      else .finite sign final.mantissa (reached + dropCount spec rounded reached)
        (Nat.pos_of_ne_zero isZero) := rfl
  rw [unfolded]
  generalize droppedMantissa accuracy mantissa (dropCount spec mantissa exponent) = rounded at *
  generalize exponent + dropCount spec mantissa exponent = reached at *
  obtain ⟨canonical, same⟩ := secondShift bounded least full
  have quotient := (shiftRight_accuracy .exact rounded (dropCount spec rounded reached)).1
  rw [← quotient] at canonical same
  dsimp only
  by_cases isZero : (ExtendedMantissa.ofMantissaAndAccuracy rounded .exact >>>
      dropCount spec rounded reached).mantissa = 0
  · rw [dif_pos isZero]
    rw [isZero] at same
    refine ⟨rfl, trivial, ?_⟩
    have zero : scaled rounded reached = 0 := by
      rw [← same, scaled, Nat.cast_zero, zero_mul]
    rw [zero]
    cases sign
    · exact neg_zero.symm
    · rfl
  · rw [dif_neg isZero]
    refine ⟨rfl, canonical, ?_⟩
    rw [realValue_finite, same]

theorem roundWithAccuracy_roundsTo (sign : Sign) {residue : ℝ} (left : Residue accuracy residue)
    (small : exponent ≤ spec.targetExponent (totalExponent mantissa exponent)) :
    RoundsTo spec sign (scaledUp mantissa residue exponent)
      (roundWithAccuracy spec sign mantissa exponent accuracy) := by
  obtain ⟨finite, canonical, value⟩ := roundWithAccuracy_value sign accuracy small
  exact ⟨finite, canonical, _, value, scaled_nonneg _ _, scaled_dropped_between left small⟩

/-- The special case in which nothing is left out. -/
theorem roundWithAccuracy_exact (sign : Sign)
    (small : exponent ≤ spec.targetExponent (totalExponent mantissa exponent)) :
    RoundsTo spec sign (scaled mantissa exponent)
      (roundWithAccuracy spec sign mantissa exponent .exact) := by
  rw [← scaledUp_zero]
  exact roundWithAccuracy_roundsTo sign residue_exact small

/-! ### Rounding signed numbers -/

theorem totalExponent_shift (exponent : ℤ) (shift : ℕ) (positive : 0 < mantissa) :
    totalExponent (mantissa * 2 ^ shift) (exponent - shift) = totalExponent mantissa exponent := by
  have nonzero := Nat.ne_of_gt positive
  have log : (mantissa * 2 ^ shift).log2 = mantissa.log2 + shift := by
    refine (Nat.log2_eq_iff (Nat.ne_of_gt (by positivity))).mpr ⟨?_, ?_⟩
    · rw [pow_add]
      exact Nat.mul_le_mul_right _ (Nat.log2_self_le nonzero)
    · rw [Nat.add_right_comm, pow_add]
      exact Nat.mul_lt_mul_of_pos_right Nat.lt_log2_self (by positivity)
  unfold totalExponent
  rw [log]
  push_cast
  ring

/-- Rounding lowers the exponent first to one that the format rounds from. -/
theorem round_lowered (sign : Sign) (exponent : ℤ) (positive : 0 < mantissa) :
    ∃ (lowered : ℕ) (low : ℤ), scaled lowered low = scaled mantissa exponent ∧
      low ≤ spec.targetExponent (totalExponent lowered low) ∧
      UnpackedFloat.round spec sign mantissa exponent =
        roundWithAccuracy spec sign lowered low .exact := by
  unfold UnpackedFloat.round decreaseExponent
  simp only [Nat.shiftLeft_eq]
  generalize shiftEq : (exponent - spec.targetExponent (totalExponent mantissa exponent)).toNat =
    shift
  refine ⟨mantissa * 2 ^ shift, exponent - shift, ?_, ?_, rfl⟩
  · rw [← scaled_add, sub_add_cancel]
  · rw [totalExponent_shift exponent shift positive]
    omega

theorem round_roundsTo (sign : Sign) (exponent : ℤ) (positive : 0 < mantissa) :
    RoundsTo spec sign (scaled mantissa exponent)
      (UnpackedFloat.round spec sign mantissa exponent) := by
  obtain ⟨lowered, low, sameValue, small, sameRound⟩ := round_lowered sign exponent positive
  rw [← sameValue, sameRound]
  exact roundWithAccuracy_exact sign small

/-- The rounded number passes no canonical number on its way from the exact one. -/
structure Faithful (spec : Format) (exact rounded : ℝ) : Prop where
  above : ∀ other : UnpackedFloat, CanonicalForm spec other → realValue other ≤ exact →
    realValue other ≤ rounded
  below : ∀ other : UnpackedFloat, CanonicalForm spec other → exact ≤ realValue other →
    rounded ≤ realValue other

theorem realValue_neg (number : UnpackedFloat) : realValue number.neg = -realValue number := by
  cases number with
  | finite sign mantissa exponent positive =>
    cases sign
    · exact (neg_neg _).symm
    · rfl
  | infinity | notANumber | zero => exact neg_zero.symm

theorem CanonicalForm.neg {number : UnpackedFloat} (form : CanonicalForm spec number) :
    CanonicalForm spec number.neg := by
  cases number with
  | finite => exact form
  | infinity | notANumber | zero => trivial

theorem Faithful.neg {exact rounded : ℝ} (faithful : Faithful spec exact rounded) :
    Faithful spec (-exact) (-rounded) := by
  refine ⟨fun other form below => ?_, fun other form above => ?_⟩
  · have bound := faithful.below other.neg form.neg
      (by rw [realValue_neg]; exact le_neg_of_le_neg below)
    rw [realValue_neg] at bound
    exact le_neg_of_le_neg bound
  · have bound := faithful.above other.neg form.neg
      (by rw [realValue_neg]; exact neg_le_of_neg_le above)
    rw [realValue_neg] at bound
    exact neg_le_of_neg_le bound

/-- Between two magnitudes lies every signed canonical number too. -/
theorem Between.faithful {exact rounded : ℝ} (exactNonneg : 0 ≤ exact)
    (roundedNonneg : 0 ≤ rounded) (between : Between spec exact rounded)
    (zeroBelow : exact = 0 → rounded = 0) : Faithful spec exact rounded := by
  refine ⟨fun other canonical below => ?_, fun other canonical above => ?_⟩
  · cases other with
    | finite sign mantissa exponent positive =>
      cases sign with
      | negative => exact (neg_nonpos.mpr (scaled_nonneg _ _)).trans roundedNonneg
      | positive => exact between.above mantissa exponent canonical below
    | infinity | notANumber | zero => exact roundedNonneg
  · have atZero : exact ≤ 0 → rounded ≤ 0 := fun nonpos =>
      (zeroBelow (le_antisymm nonpos exactNonneg)).le
    cases other with
    | finite sign mantissa exponent positive =>
      cases sign with
      | negative =>
        have negative : -scaled mantissa exponent < 0 := neg_neg_of_pos (scaled_pos _ positive)
        exact absurd (exactNonneg.trans above) (not_le.mpr negative)
      | positive => exact between.below mantissa exponent canonical above
    | infinity | notANumber | zero => exact atZero above

/-! ### Rounding to the nearest -/

/-- No canonical number is nearer to the exact one than the rounded number. -/
def Nearest (spec : Format) (exact rounded : ℝ) : Prop :=
  ∀ other : UnpackedFloat, CanonicalForm spec other →
    |rounded - exact| ≤ |realValue other - exact|

theorem Nearest.neg {exact rounded : ℝ} (nearest : Nearest spec exact rounded) :
    Nearest spec (-exact) (-rounded) := by
  intro other form
  have bound := nearest other.neg form.neg
  rw [realValue_neg] at bound
  calc |-rounded - -exact| = |rounded - exact| := by rw [neg_sub_neg, abs_sub_comm]
    _ ≤ |-realValue other - exact| := bound
    _ = |realValue other - -exact| := by
      rw [neg_sub_left, abs_neg, sub_neg_eq_add, add_comm]

/-- A nearest number passes no other. -/
theorem Nearest.faithful {exact rounded : ℝ} (nearest : Nearest spec exact rounded) :
    Faithful spec exact rounded := by
  refine ⟨fun other form below => ?_, fun other form above => ?_⟩
  · have bound := nearest other form
    rw [abs_sub_comm (realValue other), abs_of_nonneg (sub_nonneg.mpr below)] at bound
    linarith [neg_abs_le (rounded - exact)]
  · have bound := nearest other form
    rw [abs_of_nonneg (sub_nonneg.mpr above)] at bound
    linarith [le_abs_self (rounded - exact)]

/-- What is nearest to a magnitude among magnitudes is so among signed numbers. -/
theorem nearest_of_canonical {exact rounded : ℝ} (nonneg : 0 ≤ exact)
    (nearest : ∀ mantissa exponent, Canonical spec mantissa exponent →
      |rounded - exact| ≤ |scaled mantissa exponent - exact|) : Nearest spec exact rounded := by
  have zero : |rounded - exact| ≤ |0 - exact| := by
    have bound := nearest 0 spec.minExponent ⟨Nat.two_pow_pos _, le_rfl, .inl rfl⟩
    rwa [scaled, Nat.cast_zero, zero_mul] at bound
  intro other form
  cases other with
  | finite sign mantissa exponent positive =>
    cases sign with
    | positive => exact nearest mantissa exponent form
    | negative =>
      refine zero.trans ?_
      have magnitude := scaled_nonneg mantissa exponent
      show _ ≤ |-scaled mantissa exponent - exact|
      rw [abs_of_nonpos (by linarith), abs_of_nonpos (by linarith)]
      linarith
  | infinity | notANumber | zero => exact zero

/-- What an exact number is rounded to: a canonical real number, and none is nearer. -/
structure Rounded (spec : Format) (exact : ℝ) (result : UnpackedFloat) : Prop where
  finite : result.isFinite = true
  form : CanonicalForm spec result
  nearest : Nearest spec exact (realValue result)

theorem rounded_self {result : UnpackedFloat} {exact : ℝ} (finite : result.isFinite = true)
    (form : CanonicalForm spec result) (value : realValue result = exact) :
    Rounded spec exact result := by
  refine ⟨finite, form, fun other _ => ?_⟩
  rw [value, sub_self, abs_zero]
  exact abs_nonneg _

theorem Measured.rounded {residue : ℝ} (left : Measured accuracy residue) (sign : Sign)
    (small : exponent ≤ spec.targetExponent (totalExponent mantissa exponent)) :
    Rounded spec (applySign sign (scaledUp mantissa residue exponent))
      (roundWithAccuracy spec sign mantissa exponent accuracy) := by
  obtain ⟨finite, form, value⟩ := roundWithAccuracy_value sign accuracy small
  have nearest := nearest_of_canonical
    ((scaled_nonneg mantissa exponent).trans (left.scaled_le mantissa exponent))
    fun _ _ canonical => scaled_dropped_nearest left small canonical
  refine ⟨finite, form, ?_⟩
  rw [value]
  cases sign
  · exact nearest.neg
  · exact nearest

/-- The special case in which nothing is left out. -/
theorem rounded_roundWithAccuracy (sign : Sign)
    (small : exponent ≤ spec.targetExponent (totalExponent mantissa exponent)) :
    Rounded spec (applySign sign (scaled mantissa exponent))
      (roundWithAccuracy spec sign mantissa exponent .exact) := by
  rw [← scaledUp_zero]
  exact measured_exact.rounded sign small

theorem rounded_round (sign : Sign) (exponent : ℤ) (positive : 0 < mantissa) :
    Rounded spec (applySign sign (scaled mantissa exponent))
      (UnpackedFloat.round spec sign mantissa exponent) := by
  obtain ⟨lowered, low, sameValue, small, sameRound⟩ := round_lowered sign exponent positive
  rw [← sameValue, sameRound]
  exact rounded_roundWithAccuracy sign small

/-- Normalising a signed mantissa rounds it. -/
theorem rounded_normalize (mantissa exponent : ℤ) (zeroSign : Sign) :
    Rounded spec (mantissa * 2 ^ exponent)
      (UnpackedFloat.normalize spec mantissa exponent zeroSign) := by
  unfold UnpackedFloat.normalize
  rcases lt_trichotomy mantissa 0 with negative | rfl | positive
  · rw [compare_lt_iff_lt.mpr negative]
    obtain ⟨count, rfl⟩ : ∃ count : ℕ, mantissa = -count := ⟨(-mantissa).toNat, by omega⟩
    have same : (-(-(count : ℤ))).toNat = count := by omega
    have exactValue : ((-(count : ℤ) : ℤ) : ℝ) * 2 ^ exponent =
        applySign .negative (scaled count exponent) := by
      unfold scaled applySign
      push_cast
      ring
    simp only [same]
    rw [exactValue]
    exact rounded_round .negative exponent (by omega)
  · rw [compare_eq_iff_eq.mpr rfl, Int.cast_zero, zero_mul]
    exact rounded_self rfl trivial rfl
  · rw [compare_gt_iff_gt.mpr positive]
    obtain ⟨count, rfl⟩ : ∃ count : ℕ, mantissa = count := ⟨mantissa.toNat, by omega⟩
    rw [Int.cast_natCast]
    exact rounded_round .positive exponent (by omega)

end Binary64
