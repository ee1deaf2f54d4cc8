/-
This file holds the behaviour of a simulated target ship: the geometry it sees of the own ship, the
rule it finds for it, and the state machine that waits for the reaction delay, acts on the rule,
and goes back to its nominal heading when the conflict has been clear for long enough.
-/

import Mathlib.Tactic.Common

namespace MassL3.TargetVessel

/-- The functions of Python's `math` that `Float` does not compute. -/
structure MathLibrary where
  cos : Float → Float
  sin : Float → Float
  atan2 : Float → Float → Float
  hypot : Float → Float → Float
  fmod : Float → Float → Float

/-- `math.pi`. -/
def kPi : Float := 3.141592653589793

/-- `math.radians`. -/
def radians (angle : Float) : Float := angle * (kPi / 180.0)

/-- `math.degrees`. -/
def degrees (angle : Float) : Float := angle * (180.0 / kPi)

/-! ### Data -/

structure VesselKinematics where
  lat : Float
  lon : Float
  headingDeg : Float
  sogMps : Float

structure CpaTcpa where
  dcpaM : Float
  tcpaS : Float
  rangeM : Float

/-- What the state machine reads of `TargetBehaviorConfig`. -/
structure TargetBehaviorConfig where
  reactionDelayS : Float := 6.0
  minTurnDeg : Float := 30.0
  targetCpaM : Float := 900.0
  standonActionTcpaS : Float := 90.0
  emergencyTcpaS : Float := 45.0
  observedActionHeadingDeltaDeg : Float := 8.0
  observedActionDcpaGainM : Float := 150.0
  clearDwellS : Float := 10.0

inductive Mode where
  | nominal
  | monitoring
  | giveWay
  | standOn
  | returning
  deriving DecidableEq

inductive Rule where
  | rule13
  | rule14
  | rule15
  | rule17
  deriving DecidableEq

inductive Role where
  | bothGiveWay
  | giveWay
  | standOn
  deriving DecidableEq

structure TargetBehaviorState where
  state : Mode := .nominal
  rule : Option Rule := none
  role : Option Role := none
  reason : String := "nominal"
  encounterStartS : Option Float := none
  encounterStartOwnHeadingDeg : Option Float := none
  encounterStartHeadingDeg : Option Float := none
  encounterStartDcpaM : Option Float := none
  clearSinceS : Option Float := none
  lastTransitionS : Float := 0.0

structure TargetAction where
  desiredHeadingDeg : Float
  desiredSogMps : Option Float
  state : Mode
  rule : Option Rule
  role : Option Role
  reason : String
  emergency : Bool
  dcpaM : Float
  tcpaS : Float

/-- The arguments of an update. -/
structure Update where
  nowS : Float
  own : VesselKinematics
  target : VesselKinematics
  nominalHeadingDeg : Float

/-! ### Geometry -/

section Geometry

variable (lib : MathLibrary)

/-- `%` on Python's floats, by a number that is not zero: the result has the sign of the divisor. -/
def floorMod (dividend divisor : Float) : Float :=
  let rest := lib.fmod dividend divisor
  if rest == 0.0 then if divisor < 0.0 then -0.0 else 0.0
  else if (divisor < 0.0) = (rest < 0.0) then rest
  else rest + divisor

def kMPerDegLat : Float := 111120.0

def wrapDeg (angle : Float) : Float := floorMod lib angle 360.0

def signedDeltaDeg (targetDeg referenceDeg : Float) : Float :=
  floorMod lib (targetDeg - referenceDeg + 540.0) 360.0 - 180.0

/-- East and north. -/
def enuDeltaM (originLat originLon lat lon : Float) : Float × Float :=
  let north := (lat - originLat) * kMPerDegLat
  let east := (lon - originLon) * kMPerDegLat * lib.cos (radians originLat)
  (east, north)

def velocityEnu (v : VesselKinematics) : Float × Float :=
  let heading := radians v.headingDeg
  (v.sogMps * lib.sin heading, v.sogMps * lib.cos heading)

def bearingFromEnu (eastM northM : Float) : Float := wrapDeg lib (degrees (lib.atan2 eastM northM))

def relativeBearingDeg (own target : VesselKinematics) : Float :=
  let delta := enuDeltaM lib own.lat own.lon target.lat target.lon
  signedDeltaDeg lib (bearingFromEnu lib delta.1 delta.2) own.headingDeg

def aspectFromTargetDeg (target own : VesselKinematics) : Float :=
  let delta := enuDeltaM lib target.lat target.lon own.lat own.lon
  signedDeltaDeg lib (bearingFromEnu lib delta.1 delta.2) target.headingDeg

def computeCpaTcpa (own target : VesselKinematics) : CpaTcpa :=
  let rel := enuDeltaM lib own.lat own.lon target.lat target.lon
  let ownV := velocityEnu lib own
  let tgtV := velocityEnu lib target
  let relVe := tgtV.1 - ownV.1
  let relVn := tgtV.2 - ownV.2
  let relSpeedSq := relVe * relVe + relVn * relVn
  let rangeM := lib.hypot rel.1 rel.2
  if relSpeedSq ≤ 1.0e-9 then { dcpaM := rangeM, tcpaS := 0.0, rangeM }
  else
    let tcpa := -((rel.1 * relVe) + (rel.2 * relVn)) / relSpeedSq
    let cpaE := rel.1 + relVe * tcpa
    let cpaN := rel.2 + relVn * tcpa
    { dcpaM := lib.hypot cpaE cpaN, tcpaS := tcpa, rangeM }

end Geometry

/-! ### The state machine -/

section Machine

variable (lib : MathLibrary) (config : TargetBehaviorConfig)

/-- `ColregsRuleFsm._classify`. -/
def classify (own target : VesselKinematics) (cpa : CpaTcpa) : Option (Rule × Role) :=
  if cpa.tcpaS ≤ 0.0 ∨ cpa.dcpaM ≥ config.targetCpaM then none
  else
    let ownRel := relativeBearingDeg lib own target
    let tgtAspect := aspectFromTargetDeg lib target own
    let headingDiff := (signedDeltaDeg lib target.headingDeg own.headingDeg).abs
    if ownRel.abs ≤ 10.0 ∧ headingDiff ≥ 160.0 then some (.rule14, .bothGiveWay)
    else if tgtAspect.abs > 112.5 then some (.rule13, .standOn)
    else if ownRel.abs > 112.5 ∧ headingDiff.abs < 67.5 then some (.rule13, .giveWay)
    else if relativeBearingDeg lib target own > 0.0 then some (.rule15, .giveWay)
    else some (.rule17, .standOn)

namespace TargetBehaviorState

variable (fsm : TargetBehaviorState)

/-- The states in which an encounter is under way. -/
def Active : Prop := fsm.state = .monitoring ∨ fsm.state = .giveWay ∨ fsm.state = .standOn

instance : Decidable fsm.Active := inferInstanceAs (Decidable (_ ∨ _ ∨ _))

def resetEncounterBaselines : TargetBehaviorState :=
  { fsm with
    encounterStartS := none
    encounterStartOwnHeadingDeg := none
    encounterStartHeadingDeg := none
    encounterStartDcpaM := none }

/-- The stored rule and role differ from the ones found now. -/
def Changed (rule : Rule) (role : Role) : Prop := fsm.rule ≠ some rule ∨ fsm.role ≠ some role

instance (rule : Rule) (role : Role) : Decidable (fsm.Changed rule role) :=
  inferInstanceAs (Decidable (_ ∨ _))

/-- When an encounter begins anew. -/
def BeginsAnew (rule : Rule) (role : Role) : Prop :=
  fsm.encounterStartS = none ∨ ¬ fsm.Active ∨ fsm.clearSinceS.isSome ∧ fsm.Changed rule role

instance (rule : Rule) (role : Role) : Decidable (fsm.BeginsAnew rule role) :=
  inferInstanceAs (Decidable (_ ∨ _ ∨ _ ∧ _))

def prepareEncounterContext (rule : Rule) (role : Role) : TargetBehaviorState :=
  let cleared := { fsm with clearSinceS := none }
  if fsm.BeginsAnew rule role then cleared.resetEncounterBaselines else cleared

def ensureEncounterStarted (update : Update) (cpa : CpaTcpa) : TargetBehaviorState :=
  if fsm.encounterStartS.isSome then fsm
  else
    { fsm with
      encounterStartS := some update.nowS
      encounterStartOwnHeadingDeg := some update.own.headingDeg
      encounterStartHeadingDeg := some update.target.headingDeg
      encounterStartDcpaM := some cpa.dcpaM }

def ReactionDelayElapsed (nowS : Float) : Prop :=
  ∃ start ∈ fsm.encounterStartS, nowS - start ≥ config.reactionDelayS

instance (nowS : Float) : Decidable (fsm.ReactionDelayElapsed config nowS) :=
  inferInstanceAs (Decidable (∃ start ∈ fsm.encounterStartS, _))

def setState (state : Mode) (rule : Option Rule) (role : Option Role) (reason : String)
    (nowS : Float) : TargetBehaviorState :=
  { fsm with
    lastTransitionS := if fsm.state ≠ state then nowS else fsm.lastTransitionS
    state
    rule
    role
    reason }

def action (desiredHeadingDeg : Float) (desiredSogMps : Option Float) (emergency : Bool)
    (cpa : CpaTcpa) : TargetAction where
  desiredHeadingDeg := wrapDeg lib desiredHeadingDeg
  desiredSogMps
  state := fsm.state
  rule := fsm.rule
  role := fsm.role
  reason := fsm.reason
  emergency
  dcpaM := cpa.dcpaM
  tcpaS := cpa.tcpaS

def OwnshipActionObserved (own : VesselKinematics) (cpa : CpaTcpa) : Prop :=
  (∃ start ∈ fsm.encounterStartOwnHeadingDeg,
    (signedDeltaDeg lib own.headingDeg start).abs ≥ config.observedActionHeadingDeltaDeg) ∨
  (∃ start ∈ fsm.encounterStartDcpaM, cpa.dcpaM - start ≥ config.observedActionDcpaGainM) ∨
  (cpa.tcpaS < 0.0 ∧ cpa.dcpaM ≥ config.targetCpaM)

instance (own : VesselKinematics) (cpa : CpaTcpa) :
    Decidable (fsm.OwnshipActionObserved lib config own cpa) :=
  inferInstanceAs (Decidable ((∃ start ∈ fsm.encounterStartOwnHeadingDeg, _) ∨
    (∃ start ∈ fsm.encounterStartDcpaM, _) ∨ _ ∧ _))

/-- `ColregsRuleFsm._give_way`. -/
def giveWay (update : Update) (cpa : CpaTcpa) (rule : Rule) (reason : String) :
    TargetBehaviorState × TargetAction :=
  let fsm := fsm.setState .giveWay (some rule) (some .giveWay) reason update.nowS
  let emergency : Bool := 0.0 < cpa.tcpaS ∧ cpa.tcpaS ≤ config.emergencyTcpaS
  let speed := if emergency then some (update.target.sogMps * 0.7) else none
  (fsm, fsm.action lib (wrapDeg lib (update.nominalHeadingDeg + config.minTurnDeg)) speed emergency
    cpa)

/-- A state that holds a heading. -/
def hold (update : Update) (cpa : CpaTcpa) (state : Mode) (rule : Rule) (role : Role)
    (reason : String) (headingDeg : Float) : TargetBehaviorState × TargetAction :=
  let fsm := fsm.setState state (some rule) (some role) reason update.nowS
  (fsm, fsm.action lib headingDeg none false cpa)

/-- What is done about an encounter once the reaction delay has elapsed. -/
def react (update : Update) (cpa : CpaTcpa) (rule : Rule) (role : Role) :
    TargetBehaviorState × TargetAction :=
  match rule, role with
  | .rule14, _ => fsm.giveWay lib config update cpa .rule14 "head_on_starboard"
  | .rule13, .giveWay => fsm.giveWay lib config update cpa .rule13 "overtaking_give_way_starboard"
  | .rule13, .standOn =>
      fsm.hold lib update cpa .standOn .rule13 .standOn "overtaken_stand_on_hold"
        update.nominalHeadingDeg
  | .rule15, .giveWay => fsm.giveWay lib config update cpa .rule15 "crossing_give_way_starboard"
  | .rule17, .standOn =>
      if fsm.OwnshipActionObserved lib config update.own cpa then
        fsm.hold lib update cpa .standOn .rule17 .standOn "stand_on_hold_observed_ownship_action"
          update.nominalHeadingDeg
      else if 0.0 < cpa.tcpaS ∧ cpa.tcpaS ≤ config.standonActionTcpaS then
        fsm.giveWay lib config update cpa .rule17 "rule17_independent_action"
      else
        fsm.hold lib update cpa .standOn .rule17 .standOn "stand_on_hold" update.nominalHeadingDeg
  | rule, role =>
      fsm.hold lib update cpa .monitoring rule role "monitoring" update.target.headingDeg

/-- An update that found an encounter. -/
def engage (update : Update) (cpa : CpaTcpa) (rule : Rule) (role : Role) :
    TargetBehaviorState × TargetAction :=
  let fsm := (fsm.prepareEncounterContext rule role).ensureEncounterStarted update cpa
  if fsm.ReactionDelayElapsed config update.nowS then fsm.react lib config update cpa rule role
  else fsm.hold lib update cpa .monitoring rule role "reaction_delay" update.target.headingDeg

/-- `ColregsRuleFsm._clear_or_nominal`. -/
def clearOrNominal (update : Update) (cpa : CpaTcpa) : TargetBehaviorState × TargetAction :=
  if fsm.Active then
    let since := fsm.clearSinceS.getD update.nowS
    let fsm := { fsm with clearSinceS := some since }
    if update.nowS - since ≥ config.clearDwellS then
      let fsm := fsm.setState .returning fsm.rule fsm.role "conflict_clear_returning" update.nowS
      (fsm, fsm.action lib update.nominalHeadingDeg none false cpa)
    else (fsm, fsm.action lib update.target.headingDeg none false cpa)
  else if fsm.state = .returning then
    if (signedDeltaDeg lib update.target.headingDeg update.nominalHeadingDeg).abs ≤ 1.0 then
      let fsm : TargetBehaviorState := {}
      (fsm, fsm.action lib update.nominalHeadingDeg none false cpa)
    else (fsm, fsm.action lib update.nominalHeadingDeg none false cpa)
  else (fsm, fsm.action lib update.nominalHeadingDeg none false cpa)

end TargetBehaviorState

/-- The rule and the role that an update finds. -/
def found (update : Update) : Option (Rule × Role) :=
  classify lib config update.own update.target (computeCpaTcpa lib update.own update.target)

/-- `ColregsRuleFsm.update`. -/
def update (fsm : TargetBehaviorState) (update : Update) : TargetBehaviorState × TargetAction :=
  let cpa := computeCpaTcpa lib update.own update.target
  match classify lib config update.own update.target cpa with
  | none => fsm.clearOrNominal lib config update cpa
  | some (rule, role) => fsm.engage lib config update cpa rule role

end Machine

end MassL3.TargetVessel
