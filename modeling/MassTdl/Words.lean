/-
This file is a small library about machine words. A record packed into one word by exclusive or
is read back byte by byte: bytes commute with exclusive or, a shift by whole bytes renumbers
them, the width of the word drops those above it, and two words of a width are equal as soon as
their bytes are. A count kept in a word is the count up to multiples of what the word can hold.

Nothing in it names a particular record.
-/

import Mathlib.Data.Nat.Bitwise
import Mathlib.Tactic.Common

namespace Words

/-! ### Bytes -/

/-- A byte of a number, counted from the least significant one. -/
def byte (number lane : Nat) : UInt8 := (number >>> (8 * lane)).toUInt8

/-- The bits of a byte are bits of the number. -/
theorem testBit_byte (number lane index : Nat) :
    (byte number lane).toNat.testBit index =
      (decide (index < 8) && number.testBit (8 * lane + index)) := by
  unfold byte
  rw [Nat.toUInt8_eq, UInt8.toNat_ofNat', Nat.testBit_mod_two_pow, Nat.testBit_shiftRight]

/-- Two bytes are equal if their bits are. -/
theorem byte_ext {first second : UInt8}
    (bits : ∀ index, first.toNat.testBit index = second.toNat.testBit index) :
    first = second :=
  UInt8.toNat_inj.mp (Nat.eq_of_testBit_eq bits)

/-! ### Operations -/

@[simp]
theorem byte_xor (first second lane : Nat) :
    byte (first ^^^ second) lane = byte first lane ^^^ byte second lane := by
  refine byte_ext fun index => ?_
  rw [UInt8.toNat_xor, Nat.testBit_xor, testBit_byte, testBit_byte, testBit_byte,
    Nat.testBit_xor]
  cases decide (index < 8) <;> rfl

/-- A shift by whole bytes renumbers the bytes. -/
theorem byte_shiftLeft (number places lane : Nat) :
    byte (number <<< (8 * places)) lane =
      if lane < places then 0 else byte number (lane - places) := by
  refine byte_ext fun index => ?_
  rw [testBit_byte, Nat.testBit_shiftLeft]
  split
  next below =>
    by_cases inside : index < 8
    · have outside : ¬ 8 * places ≤ 8 * lane + index := by omega
      simp [outside]
    · simp [inside]
  next above =>
    have inside : 8 * places ≤ 8 * lane + index := by omega
    rw [testBit_byte, show 8 * (lane - places) + index = 8 * lane + index - 8 * places by omega]
    simp [inside]

/-- The bytes below the width of a word do not see it. -/
theorem byte_mod (number : Nat) {width lane : Nat} (below : lane < width) :
    byte (number % 2 ^ (8 * width)) lane = byte number lane := by
  refine byte_ext fun index => ?_
  rw [testBit_byte, testBit_byte, Nat.testBit_mod_two_pow]
  by_cases inside : index < 8
  · have counted : 8 * lane + index < 8 * width := by omega
    simp [inside, counted]
  · simp [inside]

/-- Above its own width a number has no bytes. -/
theorem byte_of_lt {number width lane : Nat} (bound : number < 2 ^ (8 * width))
    (above : width ≤ lane) : byte number lane = 0 := by
  refine byte_ext fun index => ?_
  rw [testBit_byte, Nat.testBit_lt_two_pow
    (lt_of_lt_of_le bound (Nat.pow_le_pow_right (by decide) (by omega)))]
  simp

/-- A byte is its own lowest byte. -/
@[simp]
theorem byte_toNat (number : UInt8) : byte number.toNat 0 = number := by
  simp [byte]

theorem byte_toNat_of_pos (number : UInt8) {lane : Nat} (positive : 0 < lane) :
    byte number.toNat lane = 0 := by
  have bound : number.toNat < 2 ^ (8 * 1) := number.toNat_lt
  exact byte_of_lt bound positive

/-! ### Words -/

/-- Words of a width are equal exactly if their bytes are. -/
theorem eq_iff_byte_eq {first second width : Nat} (firstBound : first < 2 ^ (8 * width))
    (secondBound : second < 2 ^ (8 * width)) :
    first = second ↔ ∀ lane < width, byte first lane = byte second lane := by
  constructor
  · rintro rfl lane _
    rfl
  · intro bytes
    refine Nat.eq_of_testBit_eq fun index => ?_
    by_cases counted : index < 8 * width
    · have bits := congrArg (fun lane => lane.toNat.testBit (index % 8))
        (bytes (index / 8) (by omega))
      simp only [testBit_byte, Nat.div_add_mod, Nat.mod_lt index (by decide : 0 < 8),
        decide_true, Bool.true_and] at bits
      exact bits
    · rw [Nat.testBit_lt_two_pow (lt_of_lt_of_le firstBound
          (Nat.pow_le_pow_right (by decide) (by omega))),
        Nat.testBit_lt_two_pow (lt_of_lt_of_le secondBound
          (Nat.pow_le_pow_right (by decide) (by omega)))]

/-- A shifted 64-bit word, byte by byte. -/
theorem byte_shiftLeft_uint64 (word : UInt64) {places lane : Nat} (inside : places < 8)
    (counted : lane < 8) :
    byte (word <<< (8 * places).toUInt64).toNat lane =
      if lane < places then 0 else byte word.toNat (lane - places) := by
  have width : (8 * places).toUInt64.toNat % 64 = 8 * places := by
    rw [Nat.toUInt64_eq, UInt64.toNat_ofNat']
    omega
  rw [UInt64.toNat_shiftLeft, width, byte_mod _ counted, byte_shiftLeft]

/-! ### Counters -/

theorem ofNat_succ (count : Nat) : UInt32.ofNat (count + 1) = UInt32.ofNat count + 1 :=
  UInt32.ofNat_add count 1

/-- More counts go unnoticed when they fill the word a whole number of times. -/
theorem ofNat_add_eq_iff (count more : Nat) :
    UInt32.ofNat (count + more) = UInt32.ofNat count ↔ 2 ^ 32 ∣ more := by
  rw [← UInt32.toNat_inj, UInt32.toNat_ofNat', UInt32.toNat_ofNat']
  omega

end Words
