/-
This file holds the data of the COLREGs reasoner and its geometry: what is known of a target,
the parameters of an operational design domain, the evaluation of a rule, and the bearings that
rules and release tests compute.

The texts that only explain an evaluation are left out.
-/

import MassTdl.Clamps

namespace MassL3.M6.Colregs

open Clamps

/-! ### The mathematics library -/

/-- The functions of the C++ library that `Float` does not compute. The loops that bring an
angle into range get at most `turns` iterations: a run that ends is one for some number. -/
structure MathLibrary where
  sin : Float → Float
  cos : Float → Float
  atan2 : Float → Float → Float
  hypot : Float → Float → Float
  fmod : Float → Float → Float
  turns : Nat

/-- `M_PI`. -/
def kPi : Float := 3.14159265358979323846

/-- `std::numeric_limits<double>::max()`. -/
def doubleMax : Float := 1.7976931348623157e308

/-! ### Enumerations -/

inductive OddDomain where
  | oddA
  | oddB
  | oddC
  | oddD
  | oddUnknown
  deriving DecidableEq, Repr

inductive Role where
  | standOn
  | giveWay
  | bothGiveWay
  | free
  deriving DecidableEq, Repr

inductive EncounterType where
  | none
  | headOn
  | overtaking
  | crossing
  | restrictedVis
  | ambiguous
  deriving DecidableEq, Repr

/-- The phases, the most urgent last. -/
inductive TimingPhase where
  | preserveCourse
  | soundWarning
  | independentAction
  | criticalAction
  deriving DecidableEq, Repr

def TimingPhase.toNat : TimingPhase → Nat
  | .preserveCourse => 0
  | .soundWarning => 1
  | .independentAction => 2
  | .criticalAction => 3

inductive Direction where
  | hold
  | starboard
  | port
  | reduceSpeed
  deriving DecidableEq, Repr

/-- A role that has to keep clear. -/
def Role.isGiveWay (role : Role) : Bool := role = .giveWay || role = .bothGiveWay

/-- A phase in which a stand-on vessel acts itself. -/
def TimingPhase.isAction (phase : TimingPhase) : Bool :=
  phase = .independentAction || phase = .criticalAction

/-! ### Data -/

structure TargetGeometricState where
  targetId : UInt64
  bearingDeg : Float
  rangeM : Float
  targetHeadingDeg : Float
  targetSpeedKn : Float
  aspectDeg : Float
  relativeSpeedKn : Float
  cpaM : Float
  tcpaS : Float
  ownshipHeadingDeg : Float
  ownshipSpeedKn : Float
  targetShipTypePriority : Int
  targetCompliance : Float := 0.5

structure RuleParameters where
  tStandOnS : Float
  tActS : Float
  tEmergencyS : Float
  minAlterationDeg : Float
  cpaSafeM : Float
  maxSpeedKn : Float
  tPlanS : Float := 720.0
  tMonitorS : Float := 1500.0
  cpaHardM : Float := 1852.0
  cpaSoftM : Float := 2778.0
  tDwellS : Float := 60.0
  cpaReleaseM : Float := 1000.0

structure RuleEvaluation where
  isActive : Bool := false
  ruleId : Nat := 0
  targetId : UInt64 := 0
  encounterType : EncounterType := .none
  role : Role := .free
  phase : TimingPhase := .preserveCourse
  minAlterationDeg : Float := 0.0
  targetCompliance : Float := 0.5
  tcpaS : Float := 0.0
  preferredDirection : Direction := .hold
  confidence : Float32 := 0.0

/-! ### Geometry -/

variable (lib : MathLibrary)

def deg2rad (deg : Float) : Float := deg * kPi / 180.0

def rad2deg (rad : Float) : Float := rad * 180.0 / kPi

/-- `normalize_bearing_deg`. -/
def normalizeBearingDeg (bearing : Float) : Float :=
  let bearing := lib.fmod bearing 360.0
  if bearing < 0.0 then bearing + 360.0 else bearing

/-- `angle_diff_deg`. -/
def angleDiffDeg (first second : Float) : Float :=
  let diff := lib.fmod (first - second).abs 360.0
  stdMin diff (360.0 - diff)

/-- `relative_bearing_deg`. -/
def relativeBearingDeg (ownHeadingDeg targetBearingDeg : Float) : Float :=
  normalizeBearingDeg lib (targetBearingDeg - ownHeadingDeg)

/-- `aspect_angle_deg`. -/
def aspectAngleDeg (ownHeadingDeg targetHeadingDeg relativeBearingDeg : Float) : Float :=
  normalizeBearingDeg lib (targetHeadingDeg - ownHeadingDeg - relativeBearingDeg + 180.0)

/-- The two loops of `signed_relative_bearing_deg`. -/
def wrapDown : Nat → Float → Float
  | 0, rel => rel
  | turns + 1, rel => if rel > 180.0 then wrapDown turns (rel - 360.0) else rel

def wrapUp : Nat → Float → Float
  | 0, rel => rel
  | turns + 1, rel => if rel < -180.0 then wrapUp turns (rel + 360.0) else rel

def signedRelativeBearingDeg (bearingDeg referenceHeadingDeg : Float) : Float :=
  wrapUp lib.turns (wrapDown lib.turns (bearingDeg - referenceHeadingDeg))

/-- `past_and_clear_from_heading`. -/
def pastAndClearFromHeading (bearingDeg referenceHeadingDeg abaftThresholdDeg : Float) : Bool :=
  (signedRelativeBearingDeg lib bearingDeg referenceHeadingDeg).abs > abaftThresholdDeg

/-- `bearing_between`. -/
def bearingBetween (latADeg lonADeg latBDeg lonBDeg : Float) : Float :=
  let latA := deg2rad latADeg
  let latB := deg2rad latBDeg
  let dLon := deg2rad (lonBDeg - lonADeg)
  let y := lib.sin dLon * lib.cos latB
  let x := lib.cos latA * lib.sin latB - lib.sin latA * lib.cos latB * lib.cos dLon
  normalizeBearingDeg lib (rad2deg (lib.atan2 y x))

/-- `PhaseClassifier::classify`. -/
def classify (tcpaS : Float) (params : RuleParameters) : TimingPhase :=
  if tcpaS > params.tStandOnS then .preserveCourse
  else if tcpaS > params.tActS then .soundWarning
  else if tcpaS > params.tEmergencyS then .independentAction
  else .criticalAction

end MassL3.M6.Colregs
