/-
This file is about what the swept check records. It visits the segments of one target after the
other. The least distance is a register that is only lowered. The name of a violation is kept in a
field in which zero stands for none, so a target with the id zero is written over.
-/

import MassTdl.Motions
import MassTdl.Registers
import MassTdl.TacticalPlanner.Constraints

namespace MassL3.M5.ContinuousCpa

open Motions

/-! ### The segments that are visited -/

section Visits

variable {Scalar : Type} [Field Scalar] [LinearOrder Scalar] (lib : Functions Scalar)

/-- A segment of a target, with its squared distance. -/
structure Visit (Scalar : Type) where
  targetId : Int32
  segment : Int
  distSq : Scalar

def visit (target : TargetState Scalar) (leg : TrajectoryPoint Scalar × TrajectoryPoint Scalar)
    (segment : Nat) : Visit Scalar where
  targetId := target.id
  segment := segment
  distSq := segmentDistSq (relative lib target leg.1) (relative lib target leg.2)

/-- The segments of all targets, in the order in which they are visited. -/
def visits (trajectory : List (TrajectoryPoint Scalar)) (targets : List (TargetState Scalar)) :
    List (Visit Scalar) :=
  targets.flatMap fun target =>
    (legs trajectory).zipIdx.map fun leg => visit lib target leg.1 leg.2

def ContinuousCpaResult.recordVisit (cpaHardSq : Scalar) (result : ContinuousCpaResult Scalar)
    (visit : Visit Scalar) : ContinuousCpaResult Scalar :=
  result.record lib cpaHardSq visit.targetId visit.segment visit.distSq

variable {lib}

/-- The loop over the nodes visits the segments between them. -/
theorem foldl_step (cpaHardSq : Scalar) (target : TargetState Scalar)
    (first : TrajectoryPoint Scalar) (later : List (TrajectoryPoint Scalar))
    (result : ContinuousCpaResult Scalar) (k : Nat) :
    (later.foldl (Sweep.step lib cpaHardSq target)
        { result, previous := relative lib target first, k := k + 1 }).result =
      (((legs (first :: later)).zipIdx k).map fun leg => visit lib target leg.1 leg.2).foldl
        (ContinuousCpaResult.recordVisit lib cpaHardSq) result := by
  induction later generalizing first result k with
  | nil => rfl
  | cons second later inductionHypothesis =>
    rw [List.foldl_cons, legs_cons_cons, List.zipIdx_cons, List.map_cons, List.foldl_cons]
    refine Eq.trans ?_ (inductionHypothesis second _ (k + 1))
    have number : ((k + 1 : Nat) : Int) - 1 = k := by omega
    unfold Sweep.step
    rw [number]
    rfl

/-- The check records every segment that is visited. -/
theorem computeContinuousCpa_eq {trajectory : List (TrajectoryPoint Scalar)}
    {targets : List (TargetState Scalar)} {cpaHardM : Scalar} (two : 2 ≤ trajectory.length)
    (some : targets ≠ []) (positive : 0 < cpaHardM) :
    computeContinuousCpa lib trajectory targets cpaHardM =
      (visits lib trajectory targets).foldl
        (ContinuousCpaResult.recordVisit lib (cpaHardM * cpaHardM)) {} := by
  have checked : ¬ (trajectory.length < 2 ∨ targets = [] ∨ cpaHardM ≤ 0) := by
    rintro (short | none | floor)
    · exact absurd short (Nat.not_lt.mpr two)
    · exact some none
    · exact absurd floor (not_le.mpr positive)
  rw [computeContinuousCpa, if_neg checked, visits, List.foldl_flatMap]
  congr 1
  funext result target
  cases trajectory with
  | nil => rfl
  | cons first later => exact foldl_step _ target first later result 0

/-! ### What is recorded -/

omit [Field Scalar] in
/-- The least distance is a register that is only lowered. -/
theorem lower_minSweptCpaM (result : ContinuousCpaResult Scalar) (distance : Scalar) :
    (result.lower distance).minSweptCpaM =
      (Registers.Write.raise distance).apply OrderDual.toDual result.minSweptCpaM := by
  unfold ContinuousCpaResult.lower Registers.Write.apply
  cases held : result.minSweptCpaM with
  | none => rfl
  | some least =>
    dsimp only [Option.all_some]
    by_cases below : distance < least
    · rw [if_pos (decide_eq_true below), if_pos (OrderDual.toDual_le_toDual.mpr below.le)]
    · rw [if_neg (by simpa using not_lt.mp below), held]
      split_ifs with notAbove
      · exact congrArg some
          (le_antisymm (not_lt.mp below) (OrderDual.toDual_le_toDual.mp notAbove))
      · rfl

omit [Field Scalar] in
theorem recordVisit_minSweptCpaM (cpaHardSq : Scalar) (result : ContinuousCpaResult Scalar)
    (visit : Visit Scalar) :
    (result.recordVisit lib cpaHardSq visit).minSweptCpaM =
      (Registers.Write.raise (lib.sqrt visit.distSq)).apply OrderDual.toDual
        result.minSweptCpaM := by
  unfold ContinuousCpaResult.recordVisit ContinuousCpaResult.record
  dsimp only
  rw [lower_minSweptCpaM]
  split_ifs <;> rfl

omit [Field Scalar] in
theorem foldl_minSweptCpaM (cpaHardSq : Scalar) (visits : List (Visit Scalar))
    (result : ContinuousCpaResult Scalar) :
    (visits.foldl (ContinuousCpaResult.recordVisit lib cpaHardSq) result).minSweptCpaM =
      Registers.writeAll OrderDual.toDual result.minSweptCpaM
        ((visits.map fun visit => lib.sqrt visit.distSq).map .raise) := by
  induction visits generalizing result with
  | nil => rfl
  | cons visit later inductionHypothesis =>
    rw [List.foldl_cons, inductionHypothesis, recordVisit_minSweptCpaM]
    rfl

omit [Field Scalar] in
theorem lower_crossing (result : ContinuousCpaResult Scalar) (distance : Scalar) :
    (result.lower distance).intervalCrossingDetected = result.intervalCrossingDetected := by
  unfold ContinuousCpaResult.lower
  split_ifs <;> rfl

omit [Field Scalar] in
theorem recordVisit_crossing (cpaHardSq : Scalar) (result : ContinuousCpaResult Scalar)
    (visit : Visit Scalar) :
    (result.recordVisit lib cpaHardSq visit).intervalCrossingDetected =
      (result.intervalCrossingDetected || decide (visit.distSq < cpaHardSq)) := by
  unfold ContinuousCpaResult.recordVisit ContinuousCpaResult.record
  dsimp only
  rw [lower_crossing]
  split_ifs with below <;> simp [below]

omit [Field Scalar] in
theorem foldl_crossing (cpaHardSq : Scalar) (visits : List (Visit Scalar))
    (result : ContinuousCpaResult Scalar) :
    (visits.foldl (ContinuousCpaResult.recordVisit lib cpaHardSq)
        result).intervalCrossingDetected =
      (result.intervalCrossingDetected ||
        visits.any fun visit => decide (visit.distSq < cpaHardSq)) := by
  induction visits generalizing result with
  | nil => simp
  | cons visit later inductionHypothesis =>
    rw [List.foldl_cons, inductionHypothesis, recordVisit_crossing, List.any_cons, Bool.or_assoc]

/-- A name takes the place of another one whose id is zero. -/
def rename (held new : Int32 × Int) : Int32 × Int := if held.1 = 0 then new else held

def ContinuousCpaResult.name (result : ContinuousCpaResult Scalar) : Int32 × Int :=
  (result.violatingTargetId, result.violatingSegmentK)

def Visit.name (visit : Visit Scalar) : Int32 × Int := (visit.targetId, visit.segment)

omit [Field Scalar] in
theorem lower_name (result : ContinuousCpaResult Scalar) (distance : Scalar) :
    (result.lower distance).name = result.name := by
  unfold ContinuousCpaResult.lower
  split_ifs <;> rfl

omit [Field Scalar] in
theorem recordVisit_name (cpaHardSq : Scalar) (result : ContinuousCpaResult Scalar)
    (visit : Visit Scalar) :
    (result.recordVisit lib cpaHardSq visit).name =
      if visit.distSq < cpaHardSq then rename result.name visit.name else result.name := by
  unfold ContinuousCpaResult.recordVisit ContinuousCpaResult.record
  dsimp only
  rw [lower_name]
  unfold rename ContinuousCpaResult.name
  split_ifs <;> rfl

omit [Field Scalar] in
/-- The names of the visits below the floor are written one over the other. -/
theorem foldl_name (cpaHardSq : Scalar) (visits : List (Visit Scalar))
    (result : ContinuousCpaResult Scalar) :
    (visits.foldl (ContinuousCpaResult.recordVisit lib cpaHardSq) result).name =
      ((visits.filter fun visit => visit.distSq < cpaHardSq).map Visit.name).foldl rename
        result.name := by
  induction visits generalizing result with
  | nil => rfl
  | cons visit later inductionHypothesis =>
    rw [List.foldl_cons, inductionHypothesis, recordVisit_name]
    by_cases below : visit.distSq < cpaHardSq
    · rw [if_pos below, List.filter_cons_of_pos (by simpa using below)]
      rfl
    · rw [if_neg below, List.filter_cons_of_neg (by simpa using below)]

end Visits

/-! ### The first name -/

/-- A name with another id than zero is kept. -/
theorem foldl_rename_of_ne {held : Int32 × Int} (named : held.1 ≠ 0) (later : List (Int32 × Int)) :
    later.foldl rename held = held := by
  induction later with
  | nil => rfl
  | cons new later inductionHypothesis =>
    rw [List.foldl_cons, rename, if_neg named, inductionHypothesis]

/-- While every id is zero, the last name is held. Otherwise it is one with another id. -/
theorem foldl_rename_of_eq {held : Int32 × Int} (unnamed : held.1 = 0)
    (later : List (Int32 × Int)) :
    (∀ new ∈ later, new.1 = 0) ∧
        some (later.foldl rename held) = (held :: later).getLast? ∨
      (∃ new ∈ later, new.1 ≠ 0) ∧ (later.foldl rename held).1 ≠ 0 := by
  induction later generalizing held with
  | nil => exact .inl ⟨by simp, rfl⟩
  | cons new later inductionHypothesis =>
    rw [List.foldl_cons, rename, if_pos unnamed]
    by_cases named : new.1 = 0
    · obtain ⟨zeros, last⟩ | ⟨⟨other, member, otherNamed⟩, found⟩ := inductionHypothesis named
      · exact .inl ⟨by simpa [named] using zeros, by rw [last, List.getLast?_cons_cons]⟩
      · exact .inr ⟨⟨other, List.mem_cons_of_mem _ member, otherNamed⟩, found⟩
    · refine .inr ⟨⟨new, List.mem_cons_self, named⟩, ?_⟩
      rw [foldl_rename_of_ne named]
      exact named

/-- The first name has another id than zero, or all have the id zero and the last one is of the
same segment. -/
def Unhidden (names : List (Int32 × Int)) : Prop :=
  ∀ first ∈ names.head?, first.1 ≠ 0 ∨
    (∀ name ∈ names, name.1 = 0) ∧ ∀ last ∈ names.getLast?, last.2 = first.2

/-- The first name is held exactly if it is not written over. -/
theorem foldl_rename_eq_head_iff (names : List (Int32 × Int)) :
    (∀ first ∈ names.head?, names.foldl rename (0, -1) = first) ↔ Unhidden names := by
  unfold Unhidden
  cases names with
  | nil => simp
  | cons first later =>
    simp only [List.head?_cons, Option.mem_def, Option.some.injEq, forall_eq']
    rw [List.foldl_cons, rename, if_pos rfl]
    by_cases named : first.1 = 0
    · obtain ⟨zeros, last⟩ | ⟨⟨other, member, otherNamed⟩, found⟩ := foldl_rename_of_eq named later
      · have allZero : ∀ name ∈ first :: later, name.1 = 0 :=
          List.forall_mem_cons.mpr ⟨named, zeros⟩
        generalize later.foldl rename first = held at last ⊢
        have heldZero : held.1 = 0 := allZero held (List.mem_of_getLast? last.symm)
        constructor
        · rintro rfl
          exact .inr ⟨allZero, by simp [← last]⟩
        · rintro (absurdly | ⟨-, segment⟩)
          · exact absurd named absurdly
          · exact Prod.ext (heldZero.trans named.symm) (segment held last.symm)
      · refine iff_of_false (fun same => found (congrArg Prod.fst same |>.trans named)) ?_
        rintro (absurdly | ⟨zeros, -⟩)
        · exact absurdly named
        · exact otherNamed (zeros other (List.mem_cons_of_mem _ member))
    · exact iff_of_true (foldl_rename_of_ne named later) (.inl named)

end MassL3.M5.ContinuousCpa
