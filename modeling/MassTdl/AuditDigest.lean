/-
This file models the digests of the audit records. Three subsystems bring a SHA-256 of their own:
the tactical planner, the safety supervisor and the bridge to the operator. The first and the
third spell the compression out in one function, the second splits it, and all of them hash the
full blocks where they lie in the record, and the rest from a buffer of at most two blocks.

All three are shown to compute the hash of the standard, for every record, so that a digest that
one of them has written can be checked by any other.
-/

import MassTdl.Sha256

namespace MassL3

namespace Digest

open Sha256 (Variables)

/-! ### Parts that the three share -/

/-- The table of the constants, which all three write out alike. -/
def roundConstants : List (BitVec 32) :=
  [0x428a2f98, 0x71374491, 0xb5c0fbcf, 0xe9b5dba5,
    0x3956c25b, 0x59f111f1, 0x923f82a4, 0xab1c5ed5,
    0xd807aa98, 0x12835b01, 0x243185be, 0x550c7dc3,
    0x72be5d74, 0x80deb1fe, 0x9bdc06a7, 0xc19bf174,
    0xe49b69c1, 0xefbe4786, 0x0fc19dc6, 0x240ca1cc,
    0x2de92c6f, 0x4a7484aa, 0x5cb0a9dc, 0x76f988da,
    0x983e5152, 0xa831c66d, 0xb00327c8, 0xbf597fc7,
    0xc6e00bf3, 0xd5a79147, 0x06ca6351, 0x14292967,
    0x27b70a85, 0x2e1b2138, 0x4d2c6dfc, 0x53380d13,
    0x650a7354, 0x766a0abb, 0x81c2c92e, 0x92722c85,
    0xa2bfe8a1, 0xa81a664b, 0xc24b8b70, 0xc76c51a3,
    0xd192e819, 0xd6990624, 0xf40e3585, 0x106aa070,
    0x19a4c116, 0x1e376c08, 0x2748774c, 0x34b0bcb5,
    0x391c0cb3, 0x4ed8aa4a, 0x5b9cca4f, 0x682e6ff3,
    0x748f82ee, 0x78a5636f, 0x84c87814, 0x8cc70208,
    0x90befffa, 0xa4506ceb, 0xbef9a3f7, 0xc67178f2]

/-- The state before the first block. -/
def initialState : Vector (BitVec 32) 8 :=
  #v[0x6a09e667, 0xbb67ae85, 0x3c6ef372, 0xa54ff53a,
    0x510e527f, 0x9b05688c, 0x1f83d9ab, 0x5be0cd19]

def rotr32 (x : BitVec 32) (n : Nat) : BitVec 32 := x >>> n ||| x <<< (32 - n)

/-- A pointer into a string is what is left of the string from there on. -/
def loadMessageWords (block : List (BitVec 8)) (w : List (BitVec 32)) : List (BitVec 32) :=
  (List.range 16).foldl (fun w i =>
    let base := i * 4
    w.set i
      ((block.getD base 0).setWidth 32 <<< 24 |||
        (block.getD (base + 1) 0).setWidth 32 <<< 16 |||
        (block.getD (base + 2) 0).setWidth 32 <<< 8 |||
        (block.getD (base + 3) 0).setWidth 32)) w

/-- The eight bytes of the length in bits, the most significant one first. -/
def writeBitLengthBe (buf : List (BitVec 8)) (countOffset : Nat) (bitLen : BitVec 64) :
    List (BitVec 8) :=
  let buf := buf.set countOffset ((bitLen >>> 56 &&& 0xff).setWidth 8)
  let buf := buf.set (countOffset + 1) ((bitLen >>> 48 &&& 0xff).setWidth 8)
  let buf := buf.set (countOffset + 2) ((bitLen >>> 40 &&& 0xff).setWidth 8)
  let buf := buf.set (countOffset + 3) ((bitLen >>> 32 &&& 0xff).setWidth 8)
  let buf := buf.set (countOffset + 4) ((bitLen >>> 24 &&& 0xff).setWidth 8)
  let buf := buf.set (countOffset + 5) ((bitLen >>> 16 &&& 0xff).setWidth 8)
  let buf := buf.set (countOffset + 6) ((bitLen >>> 8 &&& 0xff).setWidth 8)
  buf.set (countOffset + 7) ((bitLen &&& 0xff).setWidth 8)

def produceDigest (state : Vector (BitVec 32) 8) : List (BitVec 8) :=
  (List.range 8).foldl (fun digest i =>
    let base := i * 4
    let word := state.toList.getD i 0
    let digest := digest.set base ((word >>> 24).setWidth 8)
    let digest := digest.set (base + 1) ((word >>> 16).setWidth 8)
    let digest := digest.set (base + 2) ((word >>> 8).setWidth 8)
    digest.set (base + 3) (word.setWidth 8)) (List.replicate 32 0)

section

variable (processBlock : Vector (BitVec 32) 8 → List (BitVec 8) → Vector (BitVec 32) 8)

/-- The loop over the full blocks. The first result is the state and the second the offset of
what is left. -/
def processFullBlocks (input : List (BitVec 8)) (state : Vector (BitVec 32) 8) (offset : Nat) :
    Vector (BitVec 32) 8 × Nat :=
  if offset + 64 ≤ input.length then
    processFullBlocks input (processBlock state (input.drop offset)) (offset + 64)
  else (state, offset)
  termination_by input.length - offset

/-- The buffer with the rest of the message, the end mark and the length. -/
def paddingBuffer (tail : List (BitVec 8)) (bitLen : BitVec 64) : List (BitVec 8) :=
  let buf : List (BitVec 8) := List.replicate 128 0
  -- The copy puts the rest over the first bytes of the buffer.
  let buf := tail ++ buf.drop tail.length
  let buf := buf.set tail.length 0x80
  let countOffset := if tail.length < 56 then 56 else 120
  writeBitLengthBe buf countOffset bitLen

def sha256 (input : List (BitVec 8)) : List (BitVec 8) :=
  -- A size has sixty-four bits. The length in bits is computed in it and may wrap.
  let bitLen : BitVec 64 := BitVec.ofNat 64 input.length * 8
  let (state, offset) := processFullBlocks processBlock input initialState 0
  let tail := input.drop offset
  let buf := paddingBuffer tail bitLen
  let state := processBlock state buf
  let state := if tail.length ≥ 56 then processBlock state (buf.drop 64) else state
  produceDigest state

end

/-- The compression that the planner and the bridge spell out. -/
def processBlock (table : List (BitVec 32)) (state : Vector (BitVec 32) 8)
    (block : List (BitVec 8)) : Vector (BitVec 32) 8 :=
  let w := loadMessageWords block (List.replicate 64 0)
  let w : List (BitVec 32) := (List.range' 16 48).foldl (fun w i =>
    let s0 := rotr32 (w.getD (i - 15) 0) 7 ^^^ rotr32 (w.getD (i - 15) 0) 18 ^^^
      w.getD (i - 15) 0 >>> 3
    let s1 := rotr32 (w.getD (i - 2) 0) 17 ^^^ rotr32 (w.getD (i - 2) 0) 19 ^^^
      w.getD (i - 2) 0 >>> 10
    w.set i (w.getD (i - 16) 0 + s0 + w.getD (i - 7) 0 + s1)) w
  let start : Variables :=
    { a := state[0], b := state[1], c := state[2], d := state[3],
      e := state[4], f := state[5], g := state[6], h := state[7] }
  let final : Variables := (List.range 64).foldl (fun v i =>
    let S1 := rotr32 v.e 6 ^^^ rotr32 v.e 11 ^^^ rotr32 v.e 25
    let ch := (v.e &&& v.f) ^^^ (~~~v.e &&& v.g)
    let t1 := v.h + S1 + ch + table.getD i 0 + w.getD i 0
    let S0 := rotr32 v.a 2 ^^^ rotr32 v.a 13 ^^^ rotr32 v.a 22
    let maj := (v.a &&& v.b) ^^^ (v.a &&& v.c) ^^^ (v.b &&& v.c)
    let t2 := S0 + maj
    { a := t1 + t2, b := v.a, c := v.b, d := v.c, e := v.d + t1, f := v.e, g := v.f, h := v.g })
    start
  #v[state[0] + final.a, state[1] + final.b, state[2] + final.c, state[3] + final.d,
    state[4] + final.e, state[5] + final.f, state[6] + final.g, state[7] + final.h]

end Digest

/-! ### The three subsystems -/

namespace M5.Common

def K : List (BitVec 32) := Digest.roundConstants

def processBlock := Digest.processBlock K

def sha256 := Digest.sha256 processBlock

end M5.Common

namespace M7.Common

open Digest
open Sha256 (Variables)

def kK : List (BitVec 32) := Digest.roundConstants

/-- The schedule, from its first sixteen words on. -/
def expandSchedule (w : List (BitVec 32)) : List (BitVec 32) :=
  (List.range' 16 48).foldl (fun w i =>
    let sig0 := rotr32 (w.getD (i - 15) 0) 7 ^^^ rotr32 (w.getD (i - 15) 0) 18 ^^^
      w.getD (i - 15) 0 >>> 3
    let sig1 := rotr32 (w.getD (i - 2) 0) 17 ^^^ rotr32 (w.getD (i - 2) 0) 19 ^^^
      w.getD (i - 2) 0 >>> 10
    w.set i (w.getD (i - 16) 0 + sig0 + w.getD (i - 7) 0 + sig1)) w

/-- One round. The eight words that are passed by reference are the result. -/
def sha256Round (v : Variables) (ki wi : BitVec 32) : Variables :=
  let s1 := rotr32 v.e 6 ^^^ rotr32 v.e 11 ^^^ rotr32 v.e 25
  let ch := (v.e &&& v.f) ^^^ (~~~v.e &&& v.g)
  let t1 := v.h + s1 + ch + ki + wi
  let s0 := rotr32 v.a 2 ^^^ rotr32 v.a 13 ^^^ rotr32 v.a 22
  let maj := (v.a &&& v.b) ^^^ (v.a &&& v.c) ^^^ (v.b &&& v.c)
  let t2 := s0 + maj
  { a := t1 + t2, b := v.a, c := v.b, d := v.c, e := v.d + t1, f := v.e, g := v.f, h := v.g }

def processBlock (state : Vector (BitVec 32) 8) (block : List (BitVec 8)) :
    Vector (BitVec 32) 8 :=
  let w := loadMessageWords block (List.replicate 64 0)
  let w := expandSchedule w
  let start : Variables :=
    { a := state[0], b := state[1], c := state[2], d := state[3],
      e := state[4], f := state[5], g := state[6], h := state[7] }
  let final : Variables :=
    (List.range 64).foldl (fun v i => sha256Round v (kK.getD i 0) (w.getD i 0)) start
  #v[state[0] + final.a, state[1] + final.b, state[2] + final.c, state[3] + final.d,
    state[4] + final.e, state[5] + final.f, state[6] + final.g, state[7] + final.h]

def sha256 := Digest.sha256 processBlock

end M7.Common

namespace M8.Detail

def K : List (BitVec 32) := Digest.roundConstants

def processBlock := Digest.processBlock K

def sha256 := Digest.sha256 processBlock

end M8.Detail

namespace Digest

open Sha256
open M7.Common (expandSchedule sha256Round kK)

/-! ### Constants -/

/-- The first sixty-four primes. -/
def primes : List Nat :=
  [2, 3, 5, 7, 11, 13, 17, 19, 23, 29, 31, 37, 41, 43, 47, 53,
    59, 61, 67, 71, 73, 79, 83, 89, 97, 101, 103, 107, 109, 113, 127, 131,
    137, 139, 149, 151, 157, 163, 167, 173, 179, 181, 191, 193, 197, 199, 211, 223,
    227, 229, 233, 239, 241, 251, 257, 263, 269, 271, 277, 281, 283, 293, 307, 311]

theorem nth_prime_eq_primes {index : Nat} (inside : index < 64) :
    Nat.nth Nat.Prime index = primes.getD index 0 := by
  have counted : ∀ index < 64, (primes.getD index 0).Prime ∧
      Nat.count Nat.Prime (primes.getD index 0) = index := by
    decide +kernel
  exact nth_prime_eq (counted index inside).1 (counted index inside).2

/-- The table holds the constants of the standard. -/
theorem roundConstants_eq {round : Nat} (inside : round < 64) :
    roundConstants.getD round 0 = roundConstant round := by
  have tabled : ∀ round < 64, rootFraction 3 (primes.getD round 0) =
      roundConstants.getD round 0 := by
    decide +kernel
  rw [roundConstant, nth_prime_eq_primes inside, tabled round inside]

/-- The eight words of a state. -/
def variablesOf (state : Vector (BitVec 32) 8) : Variables where
  a := state[0]
  b := state[1]
  c := state[2]
  d := state[3]
  e := state[4]
  f := state[5]
  g := state[6]
  h := state[7]

/-- The first state is the initial hash value of the standard. -/
theorem variablesOf_initialState : variablesOf initialState = initialHash := by
  have tabled : ∀ index < 8, rootFraction 2 (primes.getD index 0) =
      initialState.toList.getD index 0 := by
    decide +kernel
  have word (index : Nat) (inside : index < 8) :
      initialState.toList.getD index 0 = initialWord index := by
    rw [initialWord, nth_prime_eq_primes (by omega), tabled index inside]
  unfold initialHash
  rw [← word 0 (by decide), ← word 1 (by decide), ← word 2 (by decide),
    ← word 3 (by decide), ← word 4 (by decide), ← word 5 (by decide), ← word 6 (by decide),
    ← word 7 (by decide)]
  rfl

/-! ### Compression -/

theorem rotr32_eq (x : BitVec 32) {n : Nat} (inside : n < 32) : rotr32 x n = x.rotateRight n := by
  rw [rotr32, BitVec.rotateRight_def, Nat.mod_eq_of_lt inside]

theorem getD_loadMessageWords (block : List (BitVec 8)) {i : Nat} (inside : i < 16) :
    (loadMessageWords block (List.replicate 64 0)).getD i 0 = wordAt block i := by
  unfold loadMessageWords
  rw [List.range_eq_range']
  refine getD_fill 0 (fun w i _ _ => ?_) 16 (List.replicate 64 0) (by decide)
    (fun index below => absurd below (Nat.not_lt_zero index)) i (by omega)
  rw [wordAt, ← or_shifts, Nat.mul_comm 4 i]

theorem length_loadMessageWords (block : List (BitVec 8)) (w : List (BitVec 32)) :
    (loadMessageWords block w).length = w.length := by
  unfold loadMessageWords
  rw [List.range_eq_range', length_fill]

/-- The expanded schedule is the one of the standard. -/
theorem getD_expandSchedule (block : List (BitVec 8)) {i : Nat} (inside : i < 64) :
    (expandSchedule (loadMessageWords block (List.replicate 64 0))).getD i 0 =
      schedule (wordAt block) i := by
  unfold expandSchedule
  refine getD_fill 0 (fun w i later filled => ?_) 48 _
    (by rw [length_loadMessageWords]; decide) (fun index below => ?_) i (by omega)
  · rw [filled (i - 15) (by omega), filled (i - 2) (by omega), filled (i - 16) (by omega),
      filled (i - 7) (by omega), schedule_of_le _ later, lowerSigma0, lowerSigma1,
      rotr32_eq _ (by decide), rotr32_eq _ (by decide), rotr32_eq _ (by decide),
      rotr32_eq _ (by decide)]
    ac_rfl
  · rw [getD_loadMessageWords block below, schedule_of_lt _ below]

/-- A round is the one of the standard. -/
theorem sha256Round_eq (v : Variables) (ki wi : BitVec 32) :
    sha256Round v ki wi = v.next ki wi := by
  unfold sha256Round Variables.next upperSigma0 upperSigma1 choose majority
  simp only [rotr32_eq _ (show 2 < 32 by decide), rotr32_eq _ (show 13 < 32 by decide),
    rotr32_eq _ (show 22 < 32 by decide), rotr32_eq _ (show 6 < 32 by decide),
    rotr32_eq _ (show 11 < 32 by decide), rotr32_eq _ (show 25 < 32 by decide)]

/-- The rounds are those of the standard. -/
theorem foldl_sha256Round (block : List (BitVec 8)) (v : Variables) {rounds : Nat}
    (inside : rounds ≤ 64) :
    (List.range rounds).foldl (fun v i =>
        sha256Round v (kK.getD i 0)
          ((expandSchedule (loadMessageWords block (List.replicate 64 0))).getD i 0)) v =
      v.after (wordAt block) rounds := by
  induction rounds with
  | zero => rfl
  | succ round inductionHypothesis =>
    rw [List.range_succ, List.foldl_append, inductionHypothesis (by omega), List.foldl_cons,
      List.foldl_nil, sha256Round_eq, getD_expandSchedule block (by omega), kK,
      roundConstants_eq (by omega), Variables.after]

theorem variablesOf_processBlock (state : Vector (BitVec 32) 8) (block : List (BitVec 8)) :
    variablesOf (M7.Common.processBlock state block) =
      (variablesOf state).compress (wordAt block) := by
  rw [Variables.compress, ← foldl_sha256Round block (variablesOf state) le_rfl]
  rfl

/-- The compression that is spelled out is the one that is split. -/
theorem processBlock_roundConstants : processBlock roundConstants = M7.Common.processBlock := rfl

/-! ### The blocks of a record -/

/-- A block is compressed as the next one of a string if its words are those of the string. -/
theorem variablesOf_processBlock_of_words {bytes piece : List (BitVec 8)} {blocks : Nat}
    {state : Vector (BitVec 32) 8} (hashed : variablesOf state = hashAfter bytes blocks)
    (words : ∀ index < 16, wordAt piece index = wordAt bytes (16 * blocks + index)) :
    variablesOf (M7.Common.processBlock state piece) = hashAfter bytes (blocks + 1) := by
  rw [variablesOf_processBlock, hashed, hashAfter]
  exact Variables.compress_congr words _

/-- The loop hashes the full blocks of a record, whatever is put after it, and stops at the end
of the last one. -/
theorem processFullBlocks_eq (input rest : List (BitVec 8)) (remaining blocks : Nat)
    (state : Vector (BitVec 32) 8) (counted : blocks + remaining = input.length / 64)
    (hashed : variablesOf state = hashAfter (input ++ rest) blocks) :
    ∃ final, processFullBlocks M7.Common.processBlock input state (64 * blocks) =
        (final, 64 * (input.length / 64)) ∧
      variablesOf final = hashAfter (input ++ rest) (input.length / 64) := by
  induction remaining generalizing blocks state with
  | zero =>
    rw [Nat.add_zero] at counted
    rw [processFullBlocks, if_neg (by omega), ← counted]
    exact ⟨state, rfl, hashed⟩
  | succ remaining inductionHypothesis =>
    rw [processFullBlocks, if_pos (by omega), show 64 * blocks + 64 = 64 * (blocks + 1) by omega]
    refine inductionHypothesis (blocks + 1) _ (by omega)
      (variablesOf_processBlock_of_words hashed fun index below => ?_)
    rw [show 64 * blocks = 4 * (16 * blocks) by omega, wordAt_drop,
      wordAt_append rest (by omega)]

/-! ### The buffer -/

theorem set_append_add (front back : List (BitVec 8)) (index : Nat) (byte : BitVec 8) :
    (front ++ back).set (front.length + index) byte = front ++ back.set index byte := by
  rw [List.set_append_right _ _ (Nat.le_add_right _ _), Nat.add_sub_cancel_left]

/-- The length is written over eight bytes of the buffer. -/
theorem writeBitLengthBe_eq (front back : List (BitVec 8)) (length : Nat) :
    writeBitLengthBe (front ++ (List.replicate 8 0 ++ back)) front.length
        (BitVec.ofNat 64 length * 8) =
      front ++ (bigEndian 8 (8 * length) ++ back) := by
  have product : BitVec.ofNat 64 length * 8 = BitVec.ofNat 64 (8 * length) := by
    rw [Nat.mul_comm, BitVec.ofNat_mul]
    rfl
  have mask (word : BitVec 64) : (word &&& 0xff).setWidth 8 = word.setWidth 8 := by
    rw [BitVec.setWidth_and]
    exact BitVec.and_allOnes
  have written (index : Nat) (byte : BitVec 8) (bytes : List (BitVec 8)) :=
    set_append_add front bytes index byte
  have start := written 0
  rw [Nat.add_zero] at start
  simp only [writeBitLengthBe, product, start, written, mask]
  rw [← byte_ofNat (8 * length) (show 56 + 8 ≤ 64 by decide),
    ← byte_ofNat (8 * length) (show 48 + 8 ≤ 64 by decide),
    ← byte_ofNat (8 * length) (show 40 + 8 ≤ 64 by decide),
    ← byte_ofNat (8 * length) (show 32 + 8 ≤ 64 by decide),
    ← byte_ofNat (8 * length) (show 24 + 8 ≤ 64 by decide),
    ← byte_ofNat (8 * length) (show 16 + 8 ≤ 64 by decide),
    ← byte_ofNat (8 * length) (show 8 + 8 ≤ 64 by decide),
    ← BitVec.ushiftRight_zero (BitVec.ofNat 64 (8 * length)),
    ← byte_ofNat (8 * length) (show 0 + 8 ≤ 64 by decide)]
  rfl

/-- The buffer holds what the standard puts after the last full block, and zeros behind it. -/
theorem paddingBuffer_eq {tail : List (BitVec 8)} {length : Nat}
    (rest : tail.length = length % 64) :
    ∃ unused, paddingBuffer tail (BitVec.ofNat 64 length * 8) =
      tail ++ padding length ++ unused := by
  have marked (zeros : Nat) (inside : zeros + tail.length ≤ 127) :
      (tail ++ (List.replicate 128 0).drop tail.length).set tail.length 0x80#8 =
        (tail ++ 0x80#8 :: List.replicate zeros 0) ++
          List.replicate (127 - tail.length - zeros) 0 := by
    have start := set_append_add tail ((List.replicate 128 0).drop tail.length) 0 0x80#8
    rw [Nat.add_zero] at start
    rw [start, List.drop_replicate,
      show 128 - tail.length = (zeros + (127 - tail.length - zeros)) + 1 by omega,
      List.replicate_succ, List.set_cons_zero, List.replicate_add, List.append_assoc]
    rfl
  have room (zeros : Nat) (unused : Nat) (inside : zeros + tail.length + 8 + unused = 127) :
      writeBitLengthBe ((tail ++ (List.replicate 128 0).drop tail.length).set tail.length 0x80#8)
          (tail.length + 1 + zeros) (BitVec.ofNat 64 length * 8) =
        tail ++ (0x80#8 :: List.replicate zeros 0 ++ bigEndian 8 (8 * length)) ++
          List.replicate unused 0 := by
    rw [marked zeros (by omega), show 127 - tail.length - zeros = 8 + unused by omega,
      List.replicate_add,
      show tail.length + 1 + zeros = (tail ++ 0x80#8 :: List.replicate zeros 0).length by
        rw [List.length_append, List.length_cons, List.length_replicate]; omega,
      writeBitLengthBe_eq, List.append_assoc, List.append_assoc, List.append_assoc]
  unfold paddingBuffer padding
  rw [zeroBytes_eq, ← rest]
  by_cases short : tail.length < 56
  · rw [if_pos short, if_pos short, show 56 = tail.length + 1 + (55 - tail.length) by omega]
    exact ⟨_, room (55 - tail.length) 64 (by omega)⟩
  · rw [if_neg short, if_neg short, show 120 = tail.length + 1 + (119 - tail.length) by omega]
    exact ⟨_, room (119 - tail.length) 0 (by omega)⟩

/-! ### The digest -/

/-- The four bytes of a word, the most significant one first. -/
def bytesOf (word : BitVec 32) : List (BitVec 8) :=
  [(word >>> 24).setWidth 8, (word >>> 16).setWidth 8, (word >>> 8).setWidth 8, word.setWidth 8]

theorem bigEndian_toNat (word : BitVec 32) : bigEndian 4 word.toNat = bytesOf word := by
  have byte {places : Nat} (inside : places + 8 ≤ 32) :
      BitVec.ofNat 8 (word.toNat >>> places) = (word >>> places).setWidth 8 := by
    rw [byte_ofNat word.toNat inside, BitVec.ofNat_toNat, BitVec.setWidth_eq]
  rw [bytesOf, ← byte (show 24 + 8 ≤ 32 by decide), ← byte (show 16 + 8 ≤ 32 by decide),
    ← byte (show 8 + 8 ≤ 32 by decide), ← BitVec.ushiftRight_zero word,
    ← byte (show 0 + 8 ≤ 32 by decide)]
  rfl

theorem length_flatMap_bytesOf (word : Nat → BitVec 32) (indices : List Nat) :
    (indices.flatMap fun i => bytesOf (word i)).length = indices.length * 4 := by
  induction indices with
  | nil => rfl
  | cons i indices inductionHypothesis =>
    rw [List.flatMap_cons, List.length_append, inductionHypothesis, List.length_cons,
      Nat.succ_mul, Nat.add_comm]
    rfl

/-- The loop of the digest writes one word after another and leaves the rest as it is. -/
theorem foldl_produceDigest (words : List (BitVec 32)) {count : Nat} (inside : count ≤ 8) :
    (List.range count).foldl (fun digest i =>
      let base := i * 4
      let word := words.getD i 0
      let digest := digest.set base ((word >>> 24).setWidth 8)
      let digest := digest.set (base + 1) ((word >>> 16).setWidth 8)
      let digest := digest.set (base + 2) ((word >>> 8).setWidth 8)
      digest.set (base + 3) (word.setWidth 8)) (List.replicate 32 0) =
      ((List.range count).flatMap fun i => bytesOf (words.getD i 0)) ++
        List.replicate (32 - count * 4) 0 := by
  induction count with
  | zero => rfl
  | succ count inductionHypothesis =>
    have long : ((List.range count).flatMap fun i => bytesOf (words.getD i 0)).length =
        count * 4 := by
      rw [length_flatMap_bytesOf, List.length_range]
    have written (index : Nat) (byte : BitVec 8) (back : List (BitVec 8)) :=
      set_append_add ((List.range count).flatMap fun i => bytesOf (words.getD i 0)) back index byte
    rw [long] at written
    have start := written 0
    rw [Nat.add_zero] at start
    rw [List.range_succ, List.foldl_append, inductionHypothesis (by omega), List.foldl_cons,
      List.foldl_nil, List.flatMap_append, List.append_assoc,
      show 32 - count * 4 = 4 + (32 - (count + 1) * 4) by omega, List.replicate_add]
    simp only [start, written]
    rfl

/-- The words of a state are written as the standard writes them. -/
theorem produceDigest_eq (state : Vector (BitVec 32) 8) :
    produceDigest state = (variablesOf state).words.flatMap fun word => bigEndian 4 word.toNat := by
  have words : (variablesOf state).words = (List.range 8).map fun i => state.toList.getD i 0 := by
    simp [variablesOf, Variables.words, List.range_succ]
  rw [produceDigest, foldl_produceDigest state.toList le_rfl, words, List.flatMap_map]
  simp only [bigEndian_toNat]
  exact List.append_nil _

/-- The split compression leads to the hash of the standard. -/
theorem sha256_processBlock (input : List (BitVec 8)) :
    sha256 M7.Common.processBlock input = digest input := by
  obtain ⟨state, looped, hashed⟩ := processFullBlocks_eq input (padding input.length)
    (input.length / 64) 0 initialState (Nat.zero_add _) variablesOf_initialState
  have shorter : (input.drop (64 * (input.length / 64))).length = input.length % 64 := by
    rw [List.length_drop]
    omega
  obtain ⟨unused, buffered⟩ := paddingBuffer_eq shorter
  have cut : input.drop (64 * (input.length / 64)) ++ padding input.length =
      (padded input).drop (64 * (input.length / 64)) := by
    rw [padded, List.drop_append_of_le_length (by omega)]
  have total := length_padded input
  have ends : ((padded input).drop (64 * (input.length / 64))).length =
      64 * if input.length % 64 < 56 then 1 else 2 := by
    rw [List.length_drop, total, Nat.mul_add, Nat.add_sub_cancel_left]
  have words (index : Nat) (inside : 4 * index + 3 <
      64 * if input.length % 64 < 56 then 1 else 2) :
      wordAt ((padded input).drop (64 * (input.length / 64)) ++ unused) index =
        wordAt (padded input) (16 * (input.length / 64) + index) := by
    rw [wordAt_append unused (ends ▸ inside),
      show 64 * (input.length / 64) = 4 * (16 * (input.length / 64)) by omega, wordAt_drop]
  have last : variablesOf (M7.Common.processBlock state
      ((padded input).drop (64 * (input.length / 64)) ++ unused)) =
      hashAfter (padded input) (input.length / 64 + 1) :=
    variablesOf_processBlock_of_words hashed fun index below =>
      words index (by split <;> omega)
  unfold sha256 digest
  rw [Nat.mul_zero] at looped
  rw [looped, total, Nat.mul_div_cancel_left _ (by decide : 0 < 64)]
  simp only [buffered, cut, shorter]
  by_cases short : input.length % 64 < 56
  · rw [if_neg (by omega), if_pos short, produceDigest_eq, last]
  · rw [if_pos (by omega), if_neg short, produceDigest_eq,
      variablesOf_processBlock_of_words last fun index below => ?_]
    have second := wordAt_drop ((padded input).drop (64 * (input.length / 64)) ++ unused) 16 index
    rw [second, words (16 + index) (by rw [if_neg short]; omega)]
    congr 1
    omega

/-- The digests of the three subsystems are the hash of the standard, for every record. -/
theorem digests_agree (record : List (BitVec 8)) :
    M5.Common.sha256 record = Sha256.digest record ∧
      M7.Common.sha256 record = Sha256.digest record ∧
      M8.Detail.sha256 record = Sha256.digest record := by
  have spelled : sha256 (processBlock roundConstants) record = digest record := by
    rw [processBlock_roundConstants, sha256_processBlock]
  exact ⟨spelled, sha256_processBlock record, spelled⟩

end Digest

end MassL3
