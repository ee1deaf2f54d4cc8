/-
This file is a small library about circular windows: a buffer of fixed capacity into which each
new sample is written over the oldest one. It says what the buffer mirrors, which sample a write
replaces, and how the number of samples with a property among the recent ones changes, so that a
counter that is kept along with the buffer can be shown to count them.

Nothing in it names a particular component.
-/

import Mathlib.Data.List.Basic
import Mathlib.Data.Nat.ModEq
import Mathlib.Tactic.Common

namespace CircularWindow

variable {Sample : Type} {capacity : Nat}

/-! ### The recent samples -/

/-- The last samples of a sequence, as many as the window holds. -/
def recent (capacity : Nat) (samples : List Sample) : List Sample :=
  samples.drop (samples.length - capacity)

theorem length_recent (samples : List Sample) :
    (recent capacity samples).length = min samples.length capacity := by
  unfold recent
  rw [List.length_drop]
  omega

theorem recent_of_room {samples : List Sample} (room : samples.length ≤ capacity) :
    recent capacity samples = samples := by
  unfold recent
  rw [Nat.sub_eq_zero_of_le room]
  rfl

/-- While there is room, a new sample joins the recent ones. -/
theorem recent_append_of_room {samples : List Sample} (room : samples.length < capacity)
    (sample : Sample) :
    recent capacity (samples ++ [sample]) = recent capacity samples ++ [sample] := by
  rw [recent_of_room room.le, recent_of_room]
  rw [List.length_append, List.length_singleton]
  exact room

/-- Later the oldest recent sample makes way for it. -/
theorem recent_append_of_full {samples : List Sample} (positive : 0 < capacity)
    (full : capacity ≤ samples.length) (sample : Sample) :
    ∃ oldest later, samples[samples.length - capacity]? = some oldest ∧
      recent capacity samples = oldest :: later ∧
      recent capacity (samples ++ [sample]) = later ++ [sample] := by
  have within : samples.length - capacity < samples.length := by omega
  refine ⟨samples[samples.length - capacity], samples.drop (samples.length - capacity + 1),
    List.getElem?_eq_getElem within, List.drop_eq_getElem_cons within, ?_⟩
  unfold recent
  rw [List.length_append, List.length_singleton, List.drop_append_of_le_length (by omega),
    show samples.length + 1 - capacity = samples.length - capacity + 1 by omega]

/-- The recent samples with a property, after one more: the oldest leaves and the new one
joins. -/
theorem countP_recent_append (property : Sample → Bool) {samples : List Sample}
    (positive : 0 < capacity) (sample : Sample) :
    (recent capacity (samples ++ [sample])).countP property +
        (if capacity ≤ samples.length ∧
            (samples[samples.length - capacity]?).any property = true then 1 else 0) =
      (recent capacity samples).countP property + if property sample then 1 else 0 := by
  rcases Nat.lt_or_ge samples.length capacity with room | full
  · have stays : ¬ (capacity ≤ samples.length ∧
        (samples[samples.length - capacity]?).any property = true) :=
      fun leaves => absurd leaves.1 (not_le.mpr room)
    rw [recent_append_of_room room, List.countP_append, List.countP_singleton, if_neg stays,
      Nat.add_zero]
  · obtain ⟨oldest, later, isOldest, before, after⟩ := recent_append_of_full positive full sample
    rw [before, after, List.countP_append, List.countP_singleton, List.countP_cons, isOldest,
      Option.any_some]
    by_cases leaves : property oldest = true
    · have bothHold : capacity ≤ samples.length ∧ property oldest = true := ⟨full, leaves⟩
      rw [if_pos bothHold, if_pos leaves]
      omega
    · have notBoth : ¬ (capacity ≤ samples.length ∧ property oldest = true) :=
        fun both => leaves both.2
      rw [if_neg notBoth, if_neg leaves]
      omega

/-! ### The buffer -/

/-- Each slot holds the latest sample written into it, or the blank it started with. -/
structure Mirrors (slots : Vector Sample capacity) (blank : Sample) (samples : List Sample) :
    Prop where
  written : ∀ index sample, samples[index]? = some sample → samples.length ≤ index + capacity →
    slots[index % capacity]? = some sample
  unwritten : ∀ slot, samples.length ≤ slot → slot < capacity → slots[slot]? = some blank

variable {slots : Vector Sample capacity} {blank : Sample} {samples : List Sample}

theorem mirrors_replicate : Mirrors (.replicate capacity blank) blank [] where
  written _ _ present := absurd present (by simp only [List.getElem?_nil, reduceCtorEq,
    not_false_eq_true])
  unwritten slot _ inRange := by
    rw [Vector.getElem?_eq_getElem inRange, Vector.getElem_replicate]

/-- Two of the last samples are in one slot only if they are the same. -/
theorem mod_ne {index length : Nat} (earlier : index < length)
    (kept : length < index + capacity) : index % capacity ≠ length % capacity := by
  intro same
  have divides : capacity ∣ length - index := (Nat.modEq_iff_dvd' earlier.le).mp same
  have := Nat.le_of_dvd (by omega) divides
  omega

/-- Writing a sample over the oldest one keeps the buffer a mirror. -/
theorem Mirrors.write (mirrors : Mirrors slots blank samples) {slot : Nat}
    (inRange : slot < capacity) (isNext : slot = samples.length % capacity) (sample : Sample) :
    Mirrors (slots.set slot sample) blank (samples ++ [sample]) := by
  constructor
  · intro index other present kept
    rw [List.length_append, List.length_singleton] at kept
    rcases Nat.lt_trichotomy index samples.length with earlier | rfl | later
    · rw [List.getElem?_append_left earlier] at present
      rw [Vector.getElem?_set_ne inRange (by rw [isNext]; exact (mod_ne earlier kept).symm)]
      exact mirrors.written index other present (by omega)
    · rw [List.getElem?_append_right le_rfl, Nat.sub_self] at present
      rw [← isNext, Vector.getElem?_set_self inRange]
      exact present
    · rw [List.getElem?_append_right later.le, List.getElem?_eq_none (by
        rw [List.length_singleton]
        omega)] at present
      exact absurd present (Option.some_ne_none other).symm
  · intro blankSlot unwritten blankInRange
    rw [List.length_append, List.length_singleton] at unwritten
    have here : slot = samples.length := by rw [isNext, Nat.mod_eq_of_lt (by omega)]
    rw [Vector.getElem?_set_ne inRange (by omega)]
    exact mirrors.unwritten blankSlot (by omega) blankInRange

/-- The slot that is written next holds the sample that leaves, or the blank. -/
theorem Mirrors.oldest (mirrors : Mirrors slots blank samples) {slot : Nat}
    (inRange : slot < capacity) (isNext : slot = samples.length % capacity) :
    slots[slot] =
      if capacity ≤ samples.length then (samples[samples.length - capacity]?).getD blank
      else blank := by
  split_ifs with full
  · have within : samples.length - capacity < samples.length := by omega
    have sameSlot : (samples.length - capacity) % capacity = slot := by
      rw [isNext, ← Nat.mod_eq_sub_mod full]
    have held := mirrors.written (samples.length - capacity) _ (List.getElem?_eq_getElem within)
      (by omega)
    rw [sameSlot, Vector.getElem?_eq_getElem inRange] at held
    rw [List.getElem?_eq_getElem within]
    exact Option.some.inj held
  · have held := mirrors.unwritten slot (by
      rw [isNext, Nat.mod_eq_of_lt (not_le.mp full)]) inRange
    rw [Vector.getElem?_eq_getElem inRange] at held
    exact Option.some.inj held

/-- The slot that is written next holds a sample with the property, a property the blank lacks,
exactly when such a sample leaves the window. -/
theorem Mirrors.oldest_property (mirrors : Mirrors slots blank samples) {slot : Nat}
    (inRange : slot < capacity) (isNext : slot = samples.length % capacity)
    {property : Sample → Bool} (unlike : property blank = false) :
    property slots[slot] = true ↔ capacity ≤ samples.length ∧
      (samples[samples.length - capacity]?).any property = true := by
  rw [mirrors.oldest inRange isNext]
  split_ifs with full
  · have within : samples.length - capacity < samples.length := by omega
    rw [List.getElem?_eq_getElem within, Option.getD_some, Option.any_some]
    exact ⟨fun holds => ⟨full, holds⟩, fun both => both.2⟩
  · rw [unlike]
    exact ⟨fun impossible => absurd impossible Bool.false_ne_true,
      fun both => absurd both.1 full⟩

end CircularWindow
