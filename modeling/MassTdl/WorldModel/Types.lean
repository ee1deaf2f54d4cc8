/-
This file holds the data of the world model: the snapshots it keeps of the ship, the targets,
the environment and the operational design domain, and the messages it receives and publishes.

Covariances, the confidence of a single target, the polygons of the chart and the texts that
explain a publication to an operator are left out. Times are whole nanoseconds.
-/

import MassTdl.Colregs.Node

namespace MassL3.M2

open Binary64 (widen)

/-! ### Enumerations -/

inductive OddZone where
  | a
  | b
  | c
  | d
  /-- A value that is none of the four. -/
  | other
  deriving DecidableEq, Repr

/-- `static_cast<OddZone>`. -/
def OddZone.ofUInt8 (value : UInt8) : OddZone :=
  if value = 0 then .a
  else if value = 1 then .b
  else if value = 2 then .c
  else if value = 3 then .d
  else .other

/-- The health of a view, the worst last. -/
inductive ViewHealth where
  | full
  | degraded
  | critical
  | lost
  deriving DecidableEq, Repr

def ViewHealth.toNat : ViewHealth → Nat
  | .full => 0
  | .degraded => 1
  | .critical => 2
  | .lost => 3

inductive EncounterType where
  | none
  | headOn
  | overtaking
  | crossing
  | overtaken
  | crossedBy
  | ambiguous
  deriving DecidableEq, Repr

/-! ### Constants -/

def kKnToMs : Float := 0.514444

def kDegToRad : Float := 3.14159265358979323846 / 180.0

/-- Metres per degree of latitude. -/
def kLatM : Float := 111320.0

/-! ### Snapshots -/

structure OwnShipSnapshot where
  sogKn : Float := 0.0
  cogDeg : Float := 0.0
  headingDeg : Float := 0.0
  uWater : Float := 0.0
  vWater : Float := 0.0
  currentSpeedKn : Float := 0.0
  currentDirectionDeg : Float := 0.0
  latitudeDeg : Float := 0.0
  longitudeDeg : Float := 0.0
  stamp : Int := 0

structure TargetSnapshot where
  targetId : UInt64
  latitudeDeg : Float
  longitudeDeg : Float
  sogKn : Float
  cogDeg : Float
  headingDeg : Float
  classification : String
  stamp : Int

structure ZoneSnapshot where
  zoneType : String := ""
  inTss : Bool := false
  inNarrowChannel : Bool := false
  minWaterDepthM : Float := 0.0
  currentSpeedKn : Float := 0.0
  currentDirectionDeg : Float := 0.0
  stamp : Int := 0

structure OddSnapshot where
  currentZone : OddZone
  stamp : Int

/-! ### Messages received -/

structure FilteredOwnShipState where
  latitude : Float
  longitude : Float
  sogKn : Float
  cogDeg : Float
  headingDeg : Float
  uWater : Float
  vWater : Float

/-- What is read of a target of the fusion. -/
structure FusedTarget where
  targetId : UInt64
  latitude : Float
  longitude : Float
  sogKn : Float
  cogDeg : Float
  headingDeg : Float
  classification : String

structure EnvironmentState where
  currentSpeedKn : Float
  currentDirectionDeg : Float

structure ODDState where
  currentZone : UInt8

/-! ### Messages published -/

structure EncounterClassification where
  encounterType : EncounterType := .none
  relativeBearingDeg : Float := 0.0
  aspectAngleDeg : Float := 0.0
  isGiveway : Bool := false

structure TrackedTarget where
  targetId : UInt64
  latitude : Float
  longitude : Float
  sogKn : Float
  cogDeg : Float
  headingDeg : Float
  classification : String
  cpaM : Float
  tcpaS : Float
  encounter : EncounterClassification
  brgDeg : Float
  rngM : Float
  targetCompliance : Float32

structure OwnShipState where
  latitude : Float
  longitude : Float
  sogKn : Float
  cogDeg : Float
  headingDeg : Float
  uWater : Float
  vWater : Float
  currentSpeedKn : Float
  currentDirectionDeg : Float

structure ZoneConstraint where
  zoneType : String := "unknown"
  inTss : Bool := false
  inNarrowChannel : Bool := false
  minWaterDepthM : Float32 := 0.0

structure WorldState where
  stamp : Int
  targets : List TrackedTarget
  ownShip : OwnShipState
  zone : ZoneConstraint
  confidence : Float32

/-! ### The world state as the reasoner receives it -/

def OwnShipState.toColregs (own : OwnShipState) : M6.Colregs.OwnShipState where
  latitude := own.latitude
  longitude := own.longitude
  headingDeg := own.headingDeg
  cogDeg := own.cogDeg
  sogKn := own.sogKn

def TrackedTarget.toColregs (target : TrackedTarget) : M6.Colregs.TrackedTarget where
  targetId := target.targetId
  latitude := target.latitude
  longitude := target.longitude
  sogKn := target.sogKn
  cogDeg := target.cogDeg
  headingDeg := target.headingDeg
  classification := target.classification
  cpaM := target.cpaM
  tcpaS := target.tcpaS
  brgDeg := target.brgDeg
  rngM := target.rngM
  targetCompliance := widen target.targetCompliance

def WorldState.toColregs (world : WorldState) : M6.Colregs.WorldState where
  stamp := world.stamp
  ownShip := world.ownShip.toColregs
  targets := world.targets.map TrackedTarget.toColregs
  confidence := world.confidence

end MassL3.M2
