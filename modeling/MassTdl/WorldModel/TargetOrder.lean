/-
This file is about the order of the published targets. The comparison goes by the closest
approach, the time of it and the id, the first two with a tolerance, so it need not be an order:
a target whose approach is within the tolerance of two others may stand between them the wrong
way round. Where no target stands so, the targets are in a strict weak order, and what is
published is sorted, whatever the order in which the buffer holds them.
-/

import MassTdl.Binary64.Apart
import MassTdl.Tolerances
import MassTdl.WorldModel.Aggregator

namespace MassL3.M2

open Binary64
open Tolerances

/-! ### Approaches -/

/-- What the order reads of a target. -/
structure Approach where
  cpa : Float
  tcpa : Float
  id : UInt64

def TrackedTarget.approach (target : TrackedTarget) : Approach where
  cpa := approachKey target.cpaM
  tcpa := approachKey target.tcpaS
  id := target.targetId

/-- The approach of a snapshot, as it is published. -/
def TargetSnapshot.approach (config : Config) (own : OwnShipSnapshot) (zone : OddZone)
    (target : TargetSnapshot) : Approach where
  cpa := approachKey (publishedCpa config own zone target).cpaM
  tcpa := approachKey (publishedCpa config own zone target).tcpaS
  id := target.targetId

namespace Approach

/-- Closer by more than the tolerance. -/
def Closer (lhs rhs : Approach) : Prop := ClearlyLess 1e-6 lhs.cpa rhs.cpa

/-- Sooner by more than the tolerance. -/
def Sooner (lhs rhs : Approach) : Prop := ClearlyLess 1e-6 lhs.tcpa rhs.tcpa

def SmallerId (lhs rhs : Approach) : Prop := lhs.id < rhs.id

/-- The order of the targets, in terms of their approaches. -/
def Before : Approach → Approach → Prop := thenBy Closer (thenBy Sooner SmallerId)

/-- Two approaches are clearly apart in distance, and a third one within the tolerance of both
comes between them against that order, by the time or the id; or so for the times and the ids of
three that are not apart in distance. -/
def Tangled (approaches : List Approach) : Prop :=
  Among approaches (Opposed Closer (thenBy Sooner SmallerId)) ∨
    Among approaches fun first second third =>
      Tied Closer first second third ∧ Opposed Sooner SmallerId first second third

instance : DecidableRel Closer := fun _ _ => inferInstanceAs (Decidable (ClearlyLess _ _ _))

instance : DecidableRel Sooner := fun _ _ => inferInstanceAs (Decidable (ClearlyLess _ _ _))

instance : DecidableRel SmallerId := fun lhs rhs => inferInstanceAs (Decidable (lhs.id < rhs.id))

instance (approaches : List Approach) : Decidable (Tangled approaches) :=
  inferInstanceAs (Decidable (_ ∨ _))

instance : IsStrictOrder Approach Closer where
  irrefl approach less := lt_irrefl approach.cpa less.2
  trans _ _ _ := clearlyLess_trans

instance : IsStrictOrder Approach Sooner where
  irrefl approach less := lt_irrefl approach.tcpa less.2
  trans _ _ _ := clearlyLess_trans

theorem smallerId_asymm (lhs rhs : Approach) (smaller : SmallerId lhs rhs) :
    ¬ SmallerId rhs lhs :=
  UInt64.lt_asymm smaller

theorem smallerId_or_eq (lhs rhs : Approach) :
    SmallerId lhs rhs ∨ lhs.id = rhs.id ∨ SmallerId rhs lhs := by
  rcases Nat.lt_trichotomy lhs.id.toNat rhs.id.toNat with smaller | same | greater
  · exact .inl (UInt64.lt_iff_toNat_lt.mpr smaller)
  · exact .inr (.inl (UInt64.toNat_inj.mp same))
  · exact .inr (.inr (UInt64.lt_iff_toNat_lt.mpr greater))

theorem before_asymm (lhs rhs : Approach) (before : lhs.Before rhs) : ¬ rhs.Before lhs := by
  have rest (first second : Approach) (sooner : thenBy Sooner SmallerId first second) :
      ¬ thenBy Sooner SmallerId second first := thenBy_asymm smallerId_asymm sooner
  exact thenBy_asymm rest before

theorem before_or_id_eq (lhs rhs : Approach) :
    lhs.Before rhs ∨ lhs.id = rhs.id ∨ rhs.Before lhs :=
  thenBy_trichotomous (thenBy_trichotomous (smallerId_or_eq lhs rhs))

theorem not_circle_smallerId (first second third : Approach) :
    ¬ Circle SmallerId first second third := fun circle =>
  smallerId_asymm _ _ (UInt64.lt_trans circle.1 circle.2.1) circle.2.2

/-- The order goes in a circle exactly where the approaches are tangled. -/
theorem among_circle_iff_tangled {approaches : List Approach} :
    Among approaches (Circle Before) ↔ Tangled approaches := by
  have distances : (Among approaches fun first second third =>
        True ∧ Circle Before first second third) ↔ _ :=
    among_circle_thenBy_iff fun _ _ _ holds => holds
  have times : (Among approaches fun first second third =>
        Tied Closer first second third ∧
          Circle (thenBy Sooner SmallerId) first second third) ↔ _ :=
    among_circle_thenBy_iff fun _ _ _ => Tied.rotate
  simp only [true_and] at distances
  have ids : ¬ Among approaches fun first second third =>
      Tied Closer first second third ∧ Tied Sooner first second third ∧
        Circle SmallerId first second third := by
    rintro ⟨first, -, second, -, third, -, -, -, circle⟩
    exact not_circle_smallerId _ _ _ circle
  rw [Tangled, distances, times, or_iff_left ids]

end Approach

/-! ### The comparison of the code -/

theorem approachKey_number (value : Float) : (approachKey value).isNaN = false := by
  unfold approachKey
  split_ifs with valid
  · exact number_of_finite (Bool.and_eq_true_iff.mp valid).1
  · rfl

theorem tolerance_pos : (0.0 : Float) < 1e-6 := by decide +kernel

theorem before_iff (lhs rhs : TrackedTarget) :
    lhs.before rhs = true ↔ lhs.approach.Before rhs.approach := by
  unfold TrackedTarget.before
  rw [ite_apart_iff tolerance_pos (approachKey_number _) (approachKey_number _),
    ite_apart_iff tolerance_pos (approachKey_number _) (approachKey_number _),
    decide_eq_true_iff]
  rfl

section Published

variable {targets : List TrackedTarget} (distinct : (targets.map TrackedTarget.targetId).Nodup)

theorem before_eq_true_asymm (lhs rhs : TrackedTarget) (before : lhs.before rhs = true) :
    ¬ rhs.before lhs = true := by
  rw [before_iff] at before ⊢
  exact Approach.before_asymm _ _ before

include distinct

theorem before_trichotomous (lhs : TrackedTarget) (lhsIn : lhs ∈ targets) (rhs : TrackedTarget)
    (rhsIn : rhs ∈ targets) : lhs.before rhs = true ∨ lhs = rhs ∨ rhs.before lhs = true := by
  rw [before_iff, before_iff]
  refine (Approach.before_or_id_eq lhs.approach rhs.approach).imp_right (Or.imp_left fun same => ?_)
  exact List.inj_on_of_nodup_map distinct lhsIn rhsIn same

/-- The targets are in a strict weak order exactly where their approaches are not tangled. -/
theorem strictWeakAmong_before_iff :
    StrictWeakAmong (fun lhs rhs : TrackedTarget => lhs.before rhs = true) targets ↔
      ¬ Approach.Tangled (targets.map TrackedTarget.approach) := by
  rw [strictWeakAmong_iff before_eq_true_asymm (before_trichotomous distinct),
    ← Approach.among_circle_iff_tangled, among_map]
  unfold Tolerances.Circle
  simp only [before_iff]

end Published

/-! ### The composition -/

section Composition

variable (config : Config) (own : OwnShipSnapshot) (zone : OddZone) (now : Int)

/-- Targets of distinct ids are composed one by one. -/
theorem composeTargets_eq_map (scorers : UInt64 → WoernerComplianceScorer)
    {targets : List TargetSnapshot} (distinct : (targets.map TargetSnapshot.targetId).Nodup) :
    (composeTargets config own zone now scorers targets).2 =
      targets.map fun target =>
        (composeTarget config own zone target now (scorers target.targetId)).2 := by
  have loop : ∀ composed : (UInt64 → WoernerComplianceScorer) × List TrackedTarget,
      (∀ target ∈ targets, composed.1 target.targetId = scorers target.targetId) →
        (targets.foldl (fun composed target =>
          let one := composeTarget config own zone target now (composed.1 target.targetId)
          (Function.update composed.1 target.targetId one.1, composed.2 ++ [one.2]))
          composed).2 = composed.2 ++ targets.map fun target =>
            (composeTarget config own zone target now (scorers target.targetId)).2 := by
    induction targets with
    | nil => simp
    | cons target targets inductionHypothesis =>
      intro composed untouched
      obtain ⟨fresh, distinctLater⟩ := List.nodup_cons.mp distinct
      rw [List.foldl_cons, inductionHypothesis distinctLater]
      · dsimp only
        rw [untouched target List.mem_cons_self, List.append_assoc]
        rfl
      · intro other otherIn
        have apart : other.targetId ≠ target.targetId := fun same =>
          fresh (same ▸ List.mem_map_of_mem otherIn)
        dsimp only
        rw [Function.update_of_ne apart]
        exact untouched other (List.mem_cons_of_mem _ otherIn)
  exact (loop (scorers, []) fun _ _ => rfl).trans (List.nil_append _)

variable {config own zone now}

theorem composed_distinct {scorers : UInt64 → WoernerComplianceScorer}
    {targets : List TargetSnapshot} (distinct : (targets.map TargetSnapshot.targetId).Nodup) :
    ((composeTargets config own zone now scorers targets).2.map TrackedTarget.targetId).Nodup := by
  rw [composeTargets_eq_map config own zone now scorers distinct, List.map_map]
  exact distinct

theorem composed_approaches {scorers : UInt64 → WoernerComplianceScorer}
    {targets : List TargetSnapshot} (distinct : (targets.map TargetSnapshot.targetId).Nodup) :
    (composeTargets config own zone now scorers targets).2.map TrackedTarget.approach =
      targets.map (TargetSnapshot.approach config own zone) := by
  rw [composeTargets_eq_map config own zone now scorers distinct, List.map_map]
  rfl

theorem activeTargets_distinct (buffer : TrackBuffer) :
    (buffer.activeTargets.map TargetSnapshot.targetId).Nodup := by
  rw [TrackBuffer.activeTargets, List.map_map]
  exact buffer.distinct

theorem activeTargets_perm {buffer other : TrackBuffer} {config : TrackBufferConfig} {now : Int}
    (same : buffer.entries.Perm other.entries) :
    (buffer.evictStale config now).activeTargets.Perm
      (other.evictStale config now).activeTargets :=
  (same.filter _).map _

end Composition

/-! ### What is published -/

/-- The published targets are in a strict weak order and sorted by it, and the same world is
published whatever the order in which the buffer holds its tracks. -/
structure PublishedInOrder (config : Config) (node : WorldModelNode) (now : Int)
    (world : WorldState) : Prop where
  strictWeak : StrictWeakAmong (fun lhs rhs : TrackedTarget => lhs.before rhs = true)
    world.targets
  sorted : world.targets.Pairwise fun lhs rhs => rhs.before lhs = false
  independent : ∀ buffer : TrackBuffer, buffer.entries.Perm node.trackBuffer.entries →
    ({ node with trackBuffer := buffer }.composeWorldState config now).2 = some world

section Node

variable {config : Config} {node : WorldModelNode} {own : OwnShipSnapshot} {now : Int}

theorem composeWorldState_of_own (isOwn : node.ownShipToCompose = some own) :
    (node.composeWorldState config now).2 = some (node.composeAround config own now).2 := by
  unfold WorldModelNode.composeWorldState
  rw [isOwn]

/-- The approaches of the tracks that a composition publishes. -/
def approaches (config : Config) (node : WorldModelNode) (own : OwnShipSnapshot) (now : Int) :
    List Approach :=
  (node.trackBuffer.evictStale config.buffer now).activeTargets.map
    (TargetSnapshot.approach config own node.currentZone)

theorem strictWeakAmong_composeAround_iff :
    StrictWeakAmong (fun lhs rhs : TrackedTarget => lhs.before rhs = true)
        (node.composeAround config own now).2.targets ↔
      ¬ Approach.Tangled (approaches config node own now) := by
  have distinct := activeTargets_distinct (node.trackBuffer.evictStale config.buffer now)
  rw [approaches, ← composed_approaches distinct,
    ← strictWeakAmong_before_iff (composed_distinct distinct)]
  exact ⟨fun order => order.of_perm (List.mergeSort_perm _ _),
    fun order => order.of_perm (List.mergeSort_perm _ _).symm⟩

theorem composeAround_of_perm {buffer : TrackBuffer}
    (same : buffer.entries.Perm node.trackBuffer.entries)
    (untangled : ¬ Approach.Tangled (approaches config node own now)) :
    ({ node with trackBuffer := buffer }.composeAround config own now).2 =
      (node.composeAround config own now).2 := by
  have distinct := activeTargets_distinct (node.trackBuffer.evictStale config.buffer now)
  have otherDistinct := activeTargets_distinct (buffer.evictStale config.buffer now)
  have targets : sortTargets (composeTargets config own node.currentZone now
        node.complianceScorers (buffer.evictStale config.buffer now).activeTargets).2 =
      sortTargets (composeTargets config own node.currentZone now node.complianceScorers
        (node.trackBuffer.evictStale config.buffer now).activeTargets).2 := by
    refine mergeSort_eq_of_perm ?_ (before_trichotomous (composed_distinct distinct)) ?_
    · rw [strictWeakAmong_before_iff (composed_distinct distinct), composed_approaches distinct]
      exact untangled
    · rw [composeTargets_eq_map _ _ _ _ _ distinct, composeTargets_eq_map _ _ _ _ _ otherDistinct]
      exact ((activeTargets_perm same).map _).symm
  exact congrArg (fun targets : List TrackedTarget =>
    { (node.composeAround config own now).2 with targets }) targets

end Node

/-- For every state of the node: whatever a composition publishes is in order exactly if the
approaches of its tracks are not tangled. -/
theorem publishedInOrder_iff (config : Config) (node : WorldModelNode) (now : Int) :
    (∀ world, (node.composeWorldState config now).2 = some world →
        PublishedInOrder config node now world) ↔
      ∀ own, node.ownShipToCompose = some own →
        ¬ Approach.Tangled (approaches config node own now) := by
  constructor
  · intro inOrder own isOwn
    rw [← strictWeakAmong_composeAround_iff]
    exact (inOrder _ (composeWorldState_of_own isOwn)).strictWeak
  · intro untangled world isWorld
    cases isOwn : node.ownShipToCompose with
    | none =>
      unfold WorldModelNode.composeWorldState at isWorld
      rw [isOwn] at isWorld
      cases isWorld
    | some own =>
      have published := Option.some.inj ((composeWorldState_of_own isOwn).symm.trans isWorld)
      subst published
      have order := strictWeakAmong_composeAround_iff.mpr (untangled own isOwn)
      refine ⟨order, ?_, fun buffer same => ?_⟩
      · exact pairwise_mergeSort (order.of_perm (List.mergeSort_perm _ _))
      · have isOwnOther : WorldModelNode.ownShipToCompose
            { node with trackBuffer := buffer } = some own := isOwn
        rw [composeWorldState_of_own isOwnOther, composeAround_of_perm same (untangled own isOwn)]

/-! ### Three vessels at anchor -/

/-- Own ship lies on the equator. -/
def stopped : FilteredOwnShipState where
  latitude := 0.0
  longitude := 0.0
  sogKn := 0.0
  cogDeg := 0.0
  headingDeg := 0.0
  uWater := 0.0
  vWater := 0.0

/-- A vessel at anchor to the north of it. -/
def anchored (targetId : UInt64) (latitude : Float) : FusedTarget where
  targetId
  latitude
  longitude := 0.0
  sogKn := 0.0
  cogDeg := 0.0
  headingDeg := 0.0
  classification := "vessel"

/-- The functions of the library for small angles, and a plane at the equator. -/
def equatorConfig : Config where
  libs :=
    { math :=
        { sin := fun angle => angle
          cos := fun _ => 1.0
          atan2 := fun y x => y / x
          hypot := fun x y => (x * x + y * y).sqrt
          fmod := fun value modulus => if value < modulus then value else value - modulus
          turns := 1 }
      forward := fun originLat originLon lat lon =>
        some ((lon - originLon) * kLatM, (lat - originLat) * kLatM) }

/-- Each of them lies less than a micrometre farther away than the one before. -/
def anchorage : WorldModelNode :=
  .after equatorConfig
    [.ownShipState stopped 0,
      .trackedTargets
        [anchored 3 0.01, anchored 2 0.010000000007, anchored 1 0.010000000014] 0] 2

/-- The farthest has the smallest id, and is clearly farther away than the nearest. -/
theorem anchorage_tangled :
    Approach.Tangled (approaches equatorConfig anchorage {} 0) := by
  decide +kernel

/-- What is published of three vessels at anchor is not in order. -/
theorem publishedInOrder_false :
    ¬ ∀ (config : Config) (node : WorldModelNode) (now : Int) (world : WorldState),
      (node.composeWorldState config now).2 = some world →
        PublishedInOrder config node now world := by
  intro inOrder
  have order := (inOrder equatorConfig anchorage 0 _ (composeWorldState_of_own rfl)).strictWeak
  exact strictWeakAmong_composeAround_iff.mp order anchorage_tangled

end MassL3.M2
