/-
This file translates the rules. Each looks at one target and says whether it applies, in which
role, and what it asks for. The library lists them in the order in which they are loaded.
-/

import MassTdl.Colregs.ReleasePolicy

namespace MassL3.M6.Colregs

open Clamps

variable (lib : MathLibrary) (geo : TargetGeometricState) (odd : OddDomain)
  (params : RuleParameters)

/-! ### Steering and sailing -/

/-- `Rule5_Lookout::evaluate`. -/
def rule5Lookout : RuleEvaluation where
  ruleId := 5
  isActive := true
  confidence := 0.25

/-- The speed ceiling, or the domain's own if it is unset. -/
def effectiveMaxSpeedKn : Float :=
  if params.maxSpeedKn ≤ 0.0 then
    match odd with
    | .oddA => 20.0
    | .oddB => 15.0
    | .oddC => 12.0
    | .oddD => 10.0
    | .oddUnknown => 16.0
  else params.maxSpeedKn

/-- `Rule6_SafeSpeed::evaluate`. -/
def rule6SafeSpeed : RuleEvaluation :=
  if geo.ownshipSpeedKn > effectiveMaxSpeedKn odd params then
    { ruleId := 6
      isActive := true
      confidence := 0.7
      preferredDirection := .reduceSpeed }
  else { ruleId := 6, confidence := 0.6 }

/-- A separation below the threshold that lies ahead. -/
def cpaRisk : Bool := geo.cpaM < params.cpaSafeM && geo.tcpaS > 0.0

/-- `Rule7_RiskOfCollision::evaluate`. -/
def rule7RiskOfCollision : RuleEvaluation :=
  let relBearing := relativeBearingDeg lib geo.ownshipHeadingDeg geo.bearingDeg
  let bearingRisk :=
    (relBearing < 30.0 || relBearing > 330.0) && geo.tcpaS < 180.0 && geo.tcpaS > 0.0
  if cpaRisk geo params || bearingRisk then
    let marginRatio :=
      if geo.cpaM > 0.0 then stdMin 1.0 ((params.cpaSafeM - geo.cpaM) / params.cpaSafeM) else 1.0
    let confidence := (0.5 + 0.5 * marginRatio).toFloat32
    { ruleId := 7
      isActive := true
      encounterType := .ambiguous
      confidence := if confidence < 1.0 then confidence else 1.0 }
  else { ruleId := 7, confidence := 0.5 }

/-- `Rule8_ActionToAvoid::evaluate`. The turn is to starboard on either side. -/
def rule8ActionToAvoid : RuleEvaluation :=
  if cpaRisk geo params then
    { ruleId := 8
      isActive := true
      confidence := 0.8
      preferredDirection := .starboard
      minAlterationDeg := params.minAlterationDeg }
  else { ruleId := 8, confidence := 0.5 }

/-! ### Primary rules -/

def inAbaftBeamSector (relativeBearingDeg : Float) : Bool :=
  relativeBearingDeg ≥ 112.5 && relativeBearingDeg ≤ 247.5

/-- `Rule13_Overtaking::evaluate`. -/
def rule13Overtaking : RuleEvaluation :=
  let targetRelBearingFromOwn := relativeBearingDeg lib geo.ownshipHeadingDeg geo.bearingDeg
  let ownBearingFromTarget := normalizeBearingDeg lib (geo.bearingDeg + 180.0)
  let ownRelBearingFromTarget :=
    relativeBearingDeg lib geo.targetHeadingDeg ownBearingFromTarget
  let ownFaster := geo.ownshipSpeedKn > geo.targetSpeedKn + 2.0
  let targetFaster := geo.targetSpeedKn > geo.ownshipSpeedKn + 2.0
  if ownFaster && inAbaftBeamSector ownRelBearingFromTarget then
    { ruleId := 13
      isActive := true
      role := .giveWay
      encounterType := .overtaking
      preferredDirection := .starboard
      minAlterationDeg := stdMax params.minAlterationDeg 65.0
      confidence := 0.75 }
  else if targetFaster && inAbaftBeamSector targetRelBearingFromOwn then
    { ruleId := 13
      isActive := true
      role := .standOn
      encounterType := .overtaking
      confidence := 0.7 }
  else { ruleId := 13, confidence := 0.6 }

/-- `Rule14_HeadOn::evaluate`. -/
def rule14HeadOn : RuleEvaluation :=
  let courseDiff := angleDiffDeg lib geo.ownshipHeadingDeg geo.targetHeadingDeg
  let reciprocalCourses := (courseDiff - 180.0).abs ≤ 15.0
  let relBearing := relativeBearingDeg lib geo.ownshipHeadingDeg geo.bearingDeg
  let headOnBearing := relBearing ≤ 6.0 || relBearing ≥ 360.0 - 6.0
  let aspect := aspectAngleDeg lib geo.ownshipHeadingDeg geo.targetHeadingDeg relBearing
  let reciprocalAspect := aspect ≤ 10.0 || aspect ≥ 360.0 - 10.0
  if reciprocalCourses && headOnBearing && reciprocalAspect then
    { ruleId := 14
      isActive := true
      role := .bothGiveWay
      encounterType := .headOn
      preferredDirection := .starboard
      minAlterationDeg := params.minAlterationDeg
      confidence := 0.85 }
  else { ruleId := 14, confidence := 0.6 }

/-- `Rule15_Crossing::evaluate`. -/
def rule15Crossing : RuleEvaluation :=
  let relBearing := relativeBearingDeg lib geo.ownshipHeadingDeg geo.bearingDeg
  if relBearing ≥ 22.5 && relBearing < 112.5 then
    { ruleId := 15
      isActive := true
      role := .giveWay
      encounterType := .crossing
      preferredDirection := .starboard
      minAlterationDeg := stdMax params.minAlterationDeg 50.0
      confidence := 0.85 }
  else if relBearing ≥ 247.5 && relBearing < 337.5 then
    { ruleId := 15
      isActive := true
      role := .standOn
      encounterType := .crossing
      confidence := 0.8 }
  else { ruleId := 15, confidence := 0.6 }

/-! ### Conduct -/

/-- `Rule16_GiveWay::evaluate`. -/
def rule16GiveWay : RuleEvaluation :=
  if geo.cpaM < params.cpaSafeM * 1.5 then
    { ruleId := 16
      isActive := true
      role := .giveWay
      phase := .soundWarning
      preferredDirection := .starboard
      minAlterationDeg := params.minAlterationDeg
      confidence := 0.7 }
  else { ruleId := 16, confidence := 0.5 }

def kNonCompliantTargetThreshold : Float := 0.4

/-- `Rule17_StandOn::evaluate`. -/
def rule17StandOn : RuleEvaluation :=
  if geo.cpaM > params.cpaSafeM * 2.0 then { ruleId := 17, confidence := 0.5 }
  else
    let classified := classify geo.tcpaS params
    let phase :=
      if classified = .soundWarning ∧ geo.targetCompliance < kNonCompliantTargetThreshold then
        TimingPhase.independentAction
      else classified
    let result : RuleEvaluation :=
      { ruleId := 17
        isActive := true
        role := .standOn
        encounterType := .ambiguous
        phase := phase }
    match phase with
    | .preserveCourse => { result with confidence := 0.7 }
    | .soundWarning => { result with confidence := 0.75 }
    | .independentAction =>
        { result with
          preferredDirection := .starboard
          minAlterationDeg := params.minAlterationDeg
          confidence := 0.8 }
    | .criticalAction =>
        { result with
          preferredDirection := .starboard
          minAlterationDeg := params.minAlterationDeg * 1.5
          confidence := 0.9 }

/-- `Rule18_Responsibilities::evaluate`. The ship is taken for power-driven. -/
def rule18Responsibilities : RuleEvaluation :=
  let ownPriority : Int := 5
  if ownPriority = geo.targetShipTypePriority then { ruleId := 18, confidence := 0.5 }
  else if ownPriority < geo.targetShipTypePriority then
    { ruleId := 18
      isActive := true
      encounterType := .ambiguous
      role := .standOn
      confidence := 0.8 }
  else
    { ruleId := 18
      isActive := true
      encounterType := .ambiguous
      role := .giveWay
      preferredDirection := .starboard
      minAlterationDeg := params.minAlterationDeg
      confidence := 0.8 }

/-- `Rule19_RestrictedVisibility::evaluate`. -/
def rule19RestrictedVisibility : RuleEvaluation :=
  if odd ≠ .oddD then { ruleId := 19, confidence := 0.5 }
  else if geo.cpaM / (params.cpaSafeM * 0.7) < 1.0 then
    { ruleId := 19
      isActive := true
      encounterType := .restrictedVis
      role := .giveWay
      preferredDirection := .starboard
      minAlterationDeg := params.minAlterationDeg * 1.5
      confidence := 0.85 }
  else
    { ruleId := 19
      isActive := true
      encounterType := .restrictedVis
      preferredDirection := .reduceSpeed
      confidence := 0.7 }

/-! ### The library -/

/-- The rules that do not classify an encounter. -/
inductive SecondaryRule where
  | rule5
  | rule6
  | rule7
  | rule8
  | rule16
  | rule17
  | rule18
  | rule19
  deriving DecidableEq, Repr

inductive ColregsRule where
  | primary (rule : PrimaryRule)
  | secondary (rule : SecondaryRule)
  deriving DecidableEq, Repr

def PrimaryRule.evaluate : PrimaryRule → RuleEvaluation
  | .rule13 => rule13Overtaking lib geo params
  | .rule14 => rule14HeadOn lib geo params
  | .rule15 => rule15Crossing lib geo params

def SecondaryRule.evaluate : SecondaryRule → RuleEvaluation
  | .rule5 => rule5Lookout
  | .rule6 => rule6SafeSpeed geo odd params
  | .rule7 => rule7RiskOfCollision lib geo params
  | .rule8 => rule8ActionToAvoid geo params
  | .rule16 => rule16GiveWay geo params
  | .rule17 => rule17StandOn geo params
  | .rule18 => rule18Responsibilities geo params
  | .rule19 => rule19RestrictedVisibility geo odd params

/-- The rules of `colregs_rule_library.yaml`. -/
def ruleLibrary : List ColregsRule :=
  [.secondary .rule5, .secondary .rule6, .secondary .rule7, .secondary .rule8,
    .primary .rule13, .primary .rule14, .primary .rule15,
    .secondary .rule16, .secondary .rule17, .secondary .rule18, .secondary .rule19]

/-! ### Ids and roles -/

section Roles

variable {lib geo odd params}

@[simp]
theorem PrimaryRule.evaluate_ruleId (rule : PrimaryRule) :
    (rule.evaluate lib geo params).ruleId = rule.id := by
  cases rule
  · simp only [PrimaryRule.evaluate, rule13Overtaking, PrimaryRule.id]
    split_ifs <;> rfl
  · simp only [PrimaryRule.evaluate, rule14HeadOn, PrimaryRule.id]
    split_ifs <;> rfl
  · simp only [PrimaryRule.evaluate, rule15Crossing, PrimaryRule.id]
    split_ifs <;> rfl

/-- A primary rule that gives a role applies. -/
theorem PrimaryRule.evaluate_isActive {rule : PrimaryRule}
    (classified : (rule.evaluate lib geo params).role ≠ .free) :
    (rule.evaluate lib geo params).isActive = true := by
  cases rule
  · simp only [PrimaryRule.evaluate, rule13Overtaking] at classified ⊢
    split_ifs at classified ⊢ <;> first | rfl | exact absurd rfl classified
  · simp only [PrimaryRule.evaluate, rule14HeadOn] at classified ⊢
    split_ifs at classified ⊢ <;> first | rfl | exact absurd rfl classified
  · simp only [PrimaryRule.evaluate, rule15Crossing] at classified ⊢
    split_ifs at classified ⊢ <;> first | rfl | exact absurd rfl classified

/-- Nobody stands on head-on. -/
theorem rule14HeadOn_role_ne : (rule14HeadOn lib geo params).role ≠ .standOn := by
  unfold rule14HeadOn
  dsimp only
  split_ifs <;> simp

/-- The id of a rule that does not classify. -/
def SecondaryRule.id : SecondaryRule → Nat
  | .rule5 => 5
  | .rule6 => 6
  | .rule7 => 7
  | .rule8 => 8
  | .rule16 => 16
  | .rule17 => 17
  | .rule18 => 18
  | .rule19 => 19

theorem rule17StandOn_ruleId : (rule17StandOn geo params).ruleId = 17 := by
  unfold rule17StandOn
  dsimp only
  split_ifs
  · rfl
  · split <;> rfl
  · split <;> rfl

@[simp]
theorem SecondaryRule.evaluate_ruleId (rule : SecondaryRule) :
    (rule.evaluate lib geo odd params).ruleId = rule.id := by
  cases rule
  · rfl
  · simp only [SecondaryRule.evaluate, rule6SafeSpeed, SecondaryRule.id]
    split_ifs <;> rfl
  · simp only [SecondaryRule.evaluate, rule7RiskOfCollision, SecondaryRule.id]
    split_ifs <;> rfl
  · simp only [SecondaryRule.evaluate, rule8ActionToAvoid, SecondaryRule.id]
    split_ifs <;> rfl
  · simp only [SecondaryRule.evaluate, rule16GiveWay, SecondaryRule.id]
    split_ifs <;> rfl
  · exact rule17StandOn_ruleId
  · simp only [SecondaryRule.evaluate, rule18Responsibilities, SecondaryRule.id]
    split_ifs <;> rfl
  · simp only [SecondaryRule.evaluate, rule19RestrictedVisibility, SecondaryRule.id]
    split_ifs <;> rfl

/-- Of the rules that do not classify, only Rule 17 stands on for a ship of no higher
priority. -/
theorem SecondaryRule.evaluate_standOn {rule : SecondaryRule}
    (priority : geo.targetShipTypePriority ≤ 5)
    (standOn : (rule.evaluate lib geo odd params).role = .standOn) : rule = .rule17 := by
  cases rule
  · cases standOn
  · simp only [SecondaryRule.evaluate, rule6SafeSpeed] at standOn
    split_ifs at standOn
  · simp only [SecondaryRule.evaluate, rule7RiskOfCollision] at standOn
    split_ifs at standOn
  · simp only [SecondaryRule.evaluate, rule8ActionToAvoid] at standOn
    split_ifs at standOn
  · simp only [SecondaryRule.evaluate, rule16GiveWay] at standOn
    split_ifs at standOn
  · rfl
  · simp only [SecondaryRule.evaluate, rule18Responsibilities] at standOn
    split_ifs at standOn with same lower
    exact absurd priority (Int.not_le.mpr lower)
  · simp only [SecondaryRule.evaluate, rule19RestrictedVisibility] at standOn
    split_ifs at standOn

end Roles

end MassL3.M6.Colregs
