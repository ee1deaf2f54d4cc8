/-
This file compares the roles the world model and the reasoner give own ship toward one target.
The reasoner asks who overtakes whom and from which side a target crosses; the classifier of the
world model asks only whether the target is astern, on a reciprocal heading, or to starboard. So
the two agree where these three stand for the reasoner's finding, and not where own ship is
overtaken: whoever comes up from astern makes it give way.
-/

import MassTdl.Binary64.Products
import MassTdl.WorldModel.Aggregator

namespace MassL3.M2

open Binary64
open MassL3.M6.Colregs (MathLibrary PrimaryRule RuleEvaluation RuleParameters
  TargetGeometricState angleDiffDeg aspectAngleDeg convertTarget inAbaftBeamSector
  relativeBearingDeg rule13Overtaking rule14HeadOn rule14HeadOn_role_ne rule15Crossing)

/-! ### What the reasoner finds -/

section Findings

variable (lib : MathLibrary) (geo : TargetGeometricState)

/-- Own ship is faster and in the stern sector of the target. -/
def overtakes : Bool :=
  geo.ownshipSpeedKn > geo.targetSpeedKn + 2.0 &&
    inAbaftBeamSector (relativeBearingDeg lib geo.targetHeadingDeg
      (M6.Colregs.normalizeBearingDeg lib (geo.bearingDeg + 180.0)))

/-- The target is faster and in the stern sector of own ship. -/
def isOvertaken : Bool :=
  geo.targetSpeedKn > geo.ownshipSpeedKn + 2.0 &&
    inAbaftBeamSector (relativeBearingDeg lib geo.ownshipHeadingDeg geo.bearingDeg)

/-- The target is ahead, on a nearly reciprocal heading, and looks at own ship. -/
def meetsHeadOn : Bool :=
  let relBearing := relativeBearingDeg lib geo.ownshipHeadingDeg geo.bearingDeg
  let aspect := aspectAngleDeg lib geo.ownshipHeadingDeg geo.targetHeadingDeg relBearing
  (angleDiffDeg lib geo.ownshipHeadingDeg geo.targetHeadingDeg - 180.0).abs ≤ 15.0 &&
    (relBearing ≤ 6.0 || relBearing ≥ 360.0 - 6.0) && (aspect ≤ 10.0 || aspect ≥ 360.0 - 10.0)

def crossedFromStarboard : Bool :=
  let relBearing := relativeBearingDeg lib geo.ownshipHeadingDeg geo.bearingDeg
  relBearing ≥ 22.5 && relBearing < 112.5

def crossedFromPort : Bool :=
  let relBearing := relativeBearingDeg lib geo.ownshipHeadingDeg geo.bearingDeg
  relBearing ≥ 247.5 && relBearing < 337.5

/-- Own ship has to keep clear. -/
def keepsClear : Bool := overtakes lib geo || meetsHeadOn lib geo || crossedFromStarboard lib geo

/-- Own ship has to stand on. -/
def standsOn : Bool := isOvertaken lib geo || crossedFromPort lib geo

end Findings

section Evaluations

variable {lib : MathLibrary} {geo : TargetGeometricState} {params : RuleParameters}

/-- Of two ships at most one is faster. -/
theorem not_isOvertaken_of_overtakes (overtaking : overtakes lib geo = true) :
    isOvertaken lib geo = false := by
  obtain ⟨ownFaster, -⟩ := Bool.and_eq_true_iff.mp overtaking
  have ownFaster := of_decide_eq_true ownFaster
  refine Bool.and_eq_false_iff.mpr (Or.inl (decide_eq_false fun targetFaster => ?_))
  have target := le_add_of_not_neg (number_of_lt ownFaster).1 (by decide : ¬ (2.0 : Float) < 0.0)
  have own := le_add_of_not_neg (number_of_lt targetFaster).1 (by decide : ¬ (2.0 : Float) < 0.0)
  exact Binary64.lt_irrefl _
    (chain_lt (chain_lt_le ownFaster own) (chain_lt_le targetFaster target))

theorem not_crossedFromPort_of_crossedFromStarboard
    (crossing : crossedFromStarboard lib geo = true) : crossedFromPort lib geo = false := by
  obtain ⟨-, below⟩ := Bool.and_eq_true_iff.mp crossing
  refine Bool.and_eq_false_iff.mpr (Or.inl (decide_eq_false fun above => ?_))
  exact absurd (chain_le above (Binary64.le_of_lt (of_decide_eq_true below)))
    (by decide : ¬ (247.5 : Float) ≤ 112.5)

/-- Rule 13 gives way to whom own ship overtakes and stands on for who overtakes it. -/
theorem rule13_role :
    (rule13Overtaking lib geo params).role =
      if overtakes lib geo = true then .giveWay
      else if isOvertaken lib geo = true then .standOn else .free := by
  unfold rule13Overtaking overtakes isOvertaken
  dsimp only
  split_ifs <;> rfl

theorem rule14_role :
    (rule14HeadOn lib geo params).role =
      if meetsHeadOn lib geo = true then .bothGiveWay else .free := by
  unfold rule14HeadOn meetsHeadOn
  dsimp only
  split_ifs <;> rfl

theorem rule15_role :
    (rule15Crossing lib geo params).role =
      if crossedFromStarboard lib geo = true then .giveWay
      else if crossedFromPort lib geo = true then .standOn else .free := by
  unfold rule15Crossing crossedFromStarboard crossedFromPort
  dsimp only
  split_ifs <;> rfl

theorem rule13_isGiveWay :
    (rule13Overtaking lib geo params).role.isGiveWay = true ↔ overtakes lib geo = true := by
  rw [rule13_role]
  split_ifs with overtaking overtaken
  · exact iff_of_true rfl overtaking
  · exact iff_of_false Bool.false_ne_true overtaking
  · exact iff_of_false Bool.false_ne_true overtaking

theorem rule14_isGiveWay :
    (rule14HeadOn lib geo params).role.isGiveWay = true ↔ meetsHeadOn lib geo = true := by
  rw [rule14_role]
  split_ifs with meeting
  · exact iff_of_true rfl meeting
  · exact iff_of_false Bool.false_ne_true meeting

theorem rule15_isGiveWay :
    (rule15Crossing lib geo params).role.isGiveWay = true ↔
      crossedFromStarboard lib geo = true := by
  rw [rule15_role]
  split_ifs with fromStarboard fromPort
  · exact iff_of_true rfl fromStarboard
  · exact iff_of_false Bool.false_ne_true fromStarboard
  · exact iff_of_false Bool.false_ne_true fromStarboard

theorem exists_giveWay_iff :
    (∃ rule : PrimaryRule, (rule.evaluate lib geo params).role.isGiveWay = true) ↔
      keepsClear lib geo = true := by
  unfold keepsClear
  rw [Bool.or_eq_true, Bool.or_eq_true]
  constructor
  · rintro ⟨rule, gives⟩
    cases rule with
    | rule13 => exact Or.inl (Or.inl (rule13_isGiveWay.mp gives))
    | rule14 => exact Or.inl (Or.inr (rule14_isGiveWay.mp gives))
    | rule15 => exact Or.inr (rule15_isGiveWay.mp gives)
  · rintro ((overtaking | meeting) | crossing)
    · exact ⟨.rule13, rule13_isGiveWay.mpr overtaking⟩
    · exact ⟨.rule14, rule14_isGiveWay.mpr meeting⟩
    · exact ⟨.rule15, rule15_isGiveWay.mpr crossing⟩

theorem exists_standOn_iff :
    (∃ rule : PrimaryRule, (rule.evaluate lib geo params).role = .standOn) ↔
      standsOn lib geo = true := by
  unfold standsOn
  rw [Bool.or_eq_true]
  constructor
  · rintro ⟨rule, stands⟩
    cases rule with
    | rule13 =>
      rw [PrimaryRule.evaluate, rule13_role] at stands
      split_ifs at stands with overtaking found
      exact Or.inl found
    | rule14 => exact absurd stands rule14HeadOn_role_ne
    | rule15 =>
      rw [PrimaryRule.evaluate, rule15_role] at stands
      split_ifs at stands with crossing found
      exact Or.inr found
  · rintro (found | found)
    · refine ⟨.rule13, ?_⟩
      have notOvertaking : ¬ overtakes lib geo = true := fun overtaking => by
        rw [not_isOvertaken_of_overtakes overtaking] at found
        cases found
      rw [PrimaryRule.evaluate, rule13_role, if_neg notOvertaking, if_pos found]
    · refine ⟨.rule15, ?_⟩
      have notStarboard : ¬ crossedFromStarboard lib geo = true := fun crossing => by
        rw [not_crossedFromPort_of_crossedFromStarboard crossing] at found
        cases found
      rw [PrimaryRule.evaluate, rule15_role, if_neg notStarboard, if_pos found]

end Evaluations

/-! ### Compatible roles -/

/-- Own ship gives way where an active evaluation gives way, and not where it stands on. -/
def Agrees (encounter : EncounterClassification) (eval : RuleEvaluation) : Prop :=
  eval.isActive = true →
    (eval.role.isGiveWay = true → encounter.isGiveway = true) ∧
      (eval.role = .standOn → encounter.isGiveway = false)

theorem agrees_all_iff {lib : MathLibrary} {geo : TargetGeometricState} {params : RuleParameters}
    {encounter : EncounterClassification} :
    (∀ rule : PrimaryRule, Agrees encounter (rule.evaluate lib geo params)) ↔
      (keepsClear lib geo = true → encounter.isGiveway = true) ∧
        (standsOn lib geo = true → encounter.isGiveway = false) := by
  constructor
  · intro agrees
    refine ⟨fun clear => ?_, fun stands => ?_⟩
    · obtain ⟨rule, gives⟩ := exists_giveWay_iff.mpr clear
      exact (agrees rule (PrimaryRule.evaluate_isActive
        fun free => by rw [free] at gives; cases gives)).1 gives
    · obtain ⟨rule, stands⟩ := exists_standOn_iff.mpr stands
      exact (agrees rule (PrimaryRule.evaluate_isActive
        fun free => by rw [free] at stands; cases stands)).2 stands
  · rintro ⟨clear, stands⟩ rule -
    exact ⟨fun gives => clear (exists_giveWay_iff.mp ⟨rule, gives⟩),
      fun standOn => stands (exists_standOn_iff.mp ⟨rule, standOn⟩)⟩

section Match

variable (config : Config) (own : OwnShipSnapshot) (zone : OddZone) (target : TargetSnapshot)

/-- The pass is taken for a safe one. -/
def wavedOff : Bool :=
  config.classifier.safePass (relSpeedMps own target) (publishedCpa config own zone target).cpaM

/-- The target is in the stern sector, as the world model measures it. -/
def seenAbaft : Bool :=
  config.classifier.abaft config.libs.math (relativeBearingTo config own target)

def seenReciprocal : Bool :=
  config.classifier.reciprocal config.libs.math own.headingDeg target.headingDeg

def seenToStarboard : Bool :=
  EncounterClassifierConfig.starboard config.libs.math (relativeBearingTo config own target)

/-- The target as the reasoner receives it from the world model. -/
def reasonedGeometry (published : TrackedTarget) : TargetGeometricState :=
  convertTarget config.libs.math own.toMessage.toColregs published.toColregs

/-- Whom own ship has to keep clear of is not waved off and is seen astern, on a reciprocal
heading or to starboard; whom it stands on for is waved off or seen in none of these places. -/
structure RolesMatch (geo : TargetGeometricState) : Prop where
  keepsClear : M2.keepsClear config.libs.math geo = true →
    wavedOff config own zone target = false ∧
      (seenAbaft config own target = true ∨ seenReciprocal config own target = true ∨
        seenToStarboard config own target = true)
  standsOn : M2.standsOn config.libs.math geo = true →
    wavedOff config own zone target = true ∨
      seenAbaft config own target = false ∧ seenReciprocal config own target = false ∧
        seenToStarboard config own target = false

theorem isGiveway_composeTarget (now : Int) (scorer : WoernerComplianceScorer) :
    (composeTarget config own zone target now scorer).2.encounter.isGiveway =
      (!wavedOff config own zone target &&
        (seenAbaft config own target || seenReciprocal config own target ||
          seenToStarboard config own target)) :=
  EncounterClassifierConfig.classify_isGiveway

/-- The world model and the rules give own ship compatible roles exactly where the tests of the
one stand for the findings of the other. -/
theorem roles_compatible_iff (now : Int) (scorer : WoernerComplianceScorer)
    (params : RuleParameters) :
    let published := (composeTarget config own zone target now scorer).2
    let geo := reasonedGeometry config own published
    (∀ rule : PrimaryRule,
        Agrees published.encounter (rule.evaluate config.libs.math geo params)) ↔
      RolesMatch config own zone target geo := by
  intro published geo
  have gives : published.encounter.isGiveway = true ↔
      wavedOff config own zone target = false ∧
        (seenAbaft config own target = true ∨ seenReciprocal config own target = true ∨
          seenToStarboard config own target = true) := by
    rw [isGiveway_composeTarget]
    simp only [Bool.and_eq_true, Bool.or_eq_true, Bool.not_eq_true', or_assoc]
  have stands : published.encounter.isGiveway = false ↔
      wavedOff config own zone target = true ∨
        seenAbaft config own target = false ∧ seenReciprocal config own target = false ∧
          seenToStarboard config own target = false := by
    rw [isGiveway_composeTarget]
    simp only [Bool.and_eq_false_iff, Bool.or_eq_false_iff, Bool.not_eq_false', and_assoc]
  rw [agrees_all_iff, gives, stands]
  exact ⟨fun agrees => ⟨agrees.1, agrees.2⟩, fun agrees => ⟨agrees.keepsClear, agrees.standsOn⟩⟩

end Match

/-! ### A faster vessel from astern -/

/-- Whole turns taken off a value, as many as given at most. -/
def turnsOff (modulus : Float) : Nat → Float → Float
  | 0, value => value
  | turns + 1, value =>
      if value.abs < modulus then value
      else turnsOff modulus turns (if value < 0.0 then value + modulus else value - modulus)

/-- The functions of the library for small angles along a meridian. -/
def meridianLibrary : MathLibrary where
  sin angle := angle
  cos _ := 1.0
  atan2 _ x := if x < 0.0 then M6.Colregs.kPi else 0.0
  hypot x y := (x * x + y * y).sqrt
  fmod value modulus := turnsOff modulus 3 value
  turns := 1

def meridianConfig : Config where
  libs :=
    { math := meridianLibrary
      forward := fun originLat originLon lat lon =>
        some ((lon - originLon) * kLatM, (lat - originLat) * kLatM) }

/-- Own ship makes ten knots to the north. -/
def northbound : OwnShipSnapshot where
  sogKn := 10.0

/-- A vessel comes up from the south at twenty. -/
def fromAstern : TargetSnapshot where
  targetId := 7
  latitudeDeg := -0.01
  longitudeDeg := 0.0
  sogKn := 20.0
  cogDeg := 0.0
  headingDeg := 0.0
  classification := "vessel"
  stamp := 0

/-- Own ship stands on for the overtaking vessel by Rule 13, and gives way to it. -/
theorem roles_compatible_false :
    ¬ ∀ (config : Config) (own : OwnShipSnapshot) (zone : OddZone) (target : TargetSnapshot)
      (now : Int) (scorer : WoernerComplianceScorer) (params : RuleParameters),
      own.headingDeg = own.cogDeg → target.headingDeg = target.cogDeg →
      config.classifier.safePassSpeedThresholdMps < relSpeedMps own target →
      ∀ rule : PrimaryRule,
        let published := (composeTarget config own zone target now scorer).2
        Agrees published.encounter
          (rule.evaluate config.libs.math (reasonedGeometry config own published) params) := by
  intro compatible
  have agrees := compatible meridianConfig northbound .a fromAstern 0 {}
    M6.Colregs.fallbackParameters rfl rfl (by decide) .rule13
  have standsOn := (agrees (by decide +kernel)).2 (by decide +kernel)
  exact absurd standsOn (by decide +kernel)

/-! ### Where both measure the same bearing -/

section SameBearing

variable {config : Config} {own : OwnShipSnapshot} {zone : OddZone} {target : TargetSnapshot}
variable {geo : TargetGeometricState}

end SameBearing

end MassL3.M2
