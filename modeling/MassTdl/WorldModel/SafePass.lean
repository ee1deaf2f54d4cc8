/-
This file settles whom the classifier waves off as a safe pass. The relative speed it is given is
the difference of the two speeds, whatever the courses, so a target that makes about the speed of
own ship has none, even one that comes straight at it. What it waves off is slow exactly if, by
the law of cosines, the courses lie close enough to each other for the speeds.
-/

import MassTdl.Binary64.Truncation
import MassTdl.Lines
import MassTdl.WorldModel.Aggregator

namespace MassL3.M2

open Binary64

noncomputable section

/-! ### The relative speed -/

/-- Knots, in metres per second. -/
def metresPerSecond (knots : Float) : ℝ := 0.514444 * toReal knots

def radians (degrees : Float) : ℝ := toReal degrees * (Real.pi / 180.0)

/-- The magnitude of the velocity of a target relative to own ship. -/
def relativeSpeed (sogKn cogDeg targetSogKn targetCogDeg : Float) : ℝ :=
  Courses.relativeSpeed (metresPerSecond sogKn) (radians cogDeg) (metresPerSecond targetSogKn)
    (radians targetCogDeg)

/-- Every target that is waved off moves slowly relative to own ship. -/
def WavesOffOnlySlow (config : Config) (world : WorldState) : Prop :=
  ∀ target ∈ world.targets, target.encounter.encounterType = .ambiguous →
    (relativeSpeed world.ownShip.sogKn world.ownShip.cogDeg target.sogKn target.cogDeg : EReal) <
      toEReal config.classifier.safePassSpeedThresholdMps

/-- The speeds differ too much for the test, or the closest approach is too close, or the courses
are close enough: the difference of the speeds and the angle between the courses together stay
below the threshold. -/
def CoursesAgree (config : Config) (own : OwnShipSnapshot) (zone : OddZone)
    (target : TargetSnapshot) : Prop :=
  let speed := metresPerSecond own.sogKn
  let targetSpeed := metresPerSecond target.sogKn
  ¬ relSpeedMps own target < config.classifier.safePassSpeedThresholdMps ∨
    ¬ (publishedCpa config own zone target).cpaM > config.classifier.safePassMinCpaM ∨
    (√((targetSpeed - speed) ^ 2 + 4.0 * speed * targetSpeed *
      Real.sin ((radians target.cogDeg - radians own.cogDeg) / 2.0) ^ 2) : EReal) <
      toEReal config.classifier.safePassSpeedThresholdMps

end

section Decision

variable {config : Config} {own : OwnShipSnapshot} {zone : OddZone} {target : TargetSnapshot}

/-- A pass is waved off exactly if both of its tests succeed. -/
theorem ambiguous_iff (now : Int) (scorer : WoernerComplianceScorer) :
    (composeTarget config own zone target now scorer).2.encounter.encounterType = .ambiguous ↔
      relSpeedMps own target < config.classifier.safePassSpeedThresholdMps ∧
        (publishedCpa config own zone target).cpaM > config.classifier.safePassMinCpaM := by
  refine EncounterClassifierConfig.classify_ambiguous_iff.trans ?_
  unfold EncounterClassifierConfig.safePass
  rw [Bool.and_eq_true, decide_eq_true_iff, decide_eq_true_iff]

/-- The angle and the speeds tell how fast the target moves. -/
theorem coursesAgree_iff :
    CoursesAgree config own zone target ↔
      ¬ relSpeedMps own target < config.classifier.safePassSpeedThresholdMps ∨
        ¬ (publishedCpa config own zone target).cpaM > config.classifier.safePassMinCpaM ∨
        (relativeSpeed own.sogKn own.cogDeg target.sogKn target.cogDeg : EReal) <
          toEReal config.classifier.safePassSpeedThresholdMps := by
  unfold CoursesAgree relativeSpeed
  rw [Courses.relativeSpeed_eq]
  norm_num only

theorem slow_iff_coursesAgree (now : Int) (scorer : WoernerComplianceScorer) :
    ((composeTarget config own zone target now scorer).2.encounter.encounterType = .ambiguous →
      (relativeSpeed own.sogKn own.cogDeg target.sogKn target.cogDeg : EReal) <
        toEReal config.classifier.safePassSpeedThresholdMps) ↔
      CoursesAgree config own zone target := by
  rw [coursesAgree_iff, ambiguous_iff, and_imp, imp_iff_not_or, imp_iff_not_or]

theorem wavesOffOnlySlow_composeAround {node : WorldModelNode} {now : Int} :
    WavesOffOnlySlow config (node.composeAround config own now).2 ↔
      ∀ target ∈ (node.trackBuffer.evictStale config.buffer now).activeTargets,
        CoursesAgree config own node.currentZone target := by
  unfold WavesOffOnlySlow WorldModelNode.composeAround sortTargets
  simp only [List.mem_mergeSort]
  exact forall_composeTargets (fun target scorer => slow_iff_coursesAgree now scorer) _ _

end Decision

/-- For every state of the node: whatever a composition waves off moves slowly relative to own
ship exactly if the courses of its targets agree. -/
theorem wavesOffOnlySlow_iff (config : Config) (node : WorldModelNode) (now : Int) :
    (∀ world, (node.composeWorldState config now).2 = some world →
        WavesOffOnlySlow config world) ↔
      ∀ own, node.ownShipToCompose = some own →
        ∀ target ∈ (node.trackBuffer.evictStale config.buffer now).activeTargets,
          CoursesAgree config own node.currentZone target := by
  unfold WorldModelNode.composeWorldState
  cases node.ownShipToCompose with
  | none => exact iff_of_true nofun nofun
  | some own =>
    simp only [Option.some.injEq, forall_eq']
    exact wavesOffOnlySlow_composeAround

/-! ### Equal speeds -/

section EqualSpeeds

variable {config : Config} {own : OwnShipSnapshot} {zone : OddZone} {target : TargetSnapshot}
variable (finite : own.sogKn.isFinite = true) (same : target.sogKn = own.sogKn)
variable (positive : 0.0 < config.classifier.safePassSpeedThresholdMps)
variable (clear : (publishedCpa config own zone target).cpaM > config.classifier.safePassMinCpaM)

include finite same positive

/-- Whoever makes the speed of own ship has no relative speed, on whatever course. -/
theorem relSpeedMps_lt_of_equal_speed :
    relSpeedMps own target < config.classifier.safePassSpeedThresholdMps := by
  have difference := sub_roundedFrom finite finite
  rw [sub_self] at difference
  obtain ⟨differenceFinite, differenceZero⟩ := difference.zero
  have product := mul_roundedFrom differenceFinite (by decide : (0.514444 : Float).isFinite = true)
  rw [differenceZero, zero_mul] at product
  obtain ⟨productFinite, productZero⟩ := product.zero
  unfold relSpeedMps
  rw [same]
  exact abs_lt_of_zero productFinite productZero positive

include clear

/-- At equal speeds the courses agree only where the angle between them is small enough for the
speed. -/
theorem coursesAgree_iff_of_equal_speed :
    CoursesAgree config own zone target ↔
      ((2 * |metresPerSecond own.sogKn *
          Real.sin ((radians target.cogDeg - radians own.cogDeg) / 2)| : ℝ) : EReal) <
        toEReal config.classifier.safePassSpeedThresholdMps := by
  have slow := relSpeedMps_lt_of_equal_speed finite same positive
  rw [coursesAgree_iff, or_iff_right (not_not_intro slow), or_iff_right (not_not_intro clear), same,
    relativeSpeed, Courses.relativeSpeed_self_speed]

end EqualSpeeds

/-- Own ship makes ten knots to the north. -/
def northward : FilteredOwnShipState where
  latitude := 0.0
  longitude := 0.0
  sogKn := 10.0
  cogDeg := 0.0
  headingDeg := 0.0
  uWater := 5.14444
  vWater := 0.0

/-- A vessel six miles ahead makes as much to the south. -/
def southward : FusedTarget where
  targetId := 7
  latitude := 0.1
  longitude := 0.02
  sogKn := 10.0
  cogDeg := 180.0
  headingDeg := 180.0
  classification := "vessel"

/-- The functions of the library on northward and southward courses, for small latitudes. -/
def reciprocalLibrary : M6.Colregs.MathLibrary where
  sin angle := if angle < 3.0 then angle else 0.0
  cos angle := if angle < 3.0 then 1.0 else -1.0
  atan2 y x := y / x
  hypot x y := (x * x + y * y).sqrt
  fmod value modulus := if value < modulus then value else value - modulus
  turns := 1

def reciprocalConfig : Config where
  libs :=
    { math := reciprocalLibrary
      forward := fun originLat originLon lat lon =>
        some ((lon - originLon) * kLatM, (lat - originLat) * kLatM) }

/-- The node when both have been reported. -/
def meeting : WorldModelNode :=
  .after reciprocalConfig [.ownShipState northward 0, .trackedTargets [southward] 0] 2

/-- The two, as the node holds them. -/
def northwardSnapshot : OwnShipSnapshot where
  sogKn := 10.0
  uWater := 5.14444

def southwardSnapshot : TargetSnapshot := snapshotFromMsg southward 0

theorem toReal_ten : toReal 10.0 = 10 := by
  have form : unpacked 10.0 = .finite .positive (5 * 2 ^ 50) (-49) (by decide) := rfl
  unfold toReal
  rw [form, realValue_finite]
  unfold applySign scaled
  norm_num

theorem toReal_halfTurn : toReal 180.0 = 180 := by
  have form : unpacked 180.0 = .finite .positive (45 * 2 ^ 47) (-45) (by decide) := rfl
  unfold toReal
  rw [form, realValue_finite]
  unfold applySign scaled
  norm_num

/-- They close at more than ten metres per second. -/
theorem not_coursesAgree_meeting :
    ¬ CoursesAgree reciprocalConfig northwardSnapshot .a southwardSnapshot := by
  have turn : (radians 180.0 - radians 0.0) / 2 = Real.pi / 2 := by
    unfold radians
    rw [toReal_halfTurn, toReal_zero]
    norm_num only
    ring
  have threshold : toEReal 0.5 = ((1 / 2 : ℝ) : EReal) := by
    rw [toEReal_of_finite rfl, toReal_half]
  rw [coursesAgree_iff_of_equal_speed rfl rfl (by decide) (by decide +kernel)]
  change ¬ ((2 * |metresPerSecond 10.0 * Real.sin ((radians 180.0 - radians 0.0) / 2)| : ℝ) :
    EReal) < toEReal 0.5
  unfold metresPerSecond
  rw [turn, Real.sin_pi_div_two, toReal_ten, threshold, EReal.coe_lt_coe_iff]
  norm_num

/-- Two ships that meet on reciprocal courses at equal speeds are waved off. -/
theorem wavesOffOnlySlow_false :
    ¬ ∀ (config : Config) (node : WorldModelNode) (now : Int) (world : WorldState),
      (node.composeWorldState config now).2 = some world → WavesOffOnlySlow config world := by
  intro slow
  have agree := wavesOffOnlySlow_composeAround.mp (slow reciprocalConfig meeting 0 _ rfl)
  exact not_coursesAgree_meeting (agree southwardSnapshot (List.mem_singleton_self _))

end MassL3.M2
