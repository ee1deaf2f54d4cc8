/-
This file holds the data of the mission manager: the messages it receives and publishes, the
positions and their great-circle distances, and the times of its clock.

The stamps and schema versions of the publications, and the texts that explain them to an
operator, are left out. Times of the steady clock are whole nanoseconds.
-/

import MassTdl.Binary64.Order
import MassTdl.Colregs.Types

namespace MassL3.M3

open Clamps
open MassL3.M6.Colregs (MathLibrary)

/-! ### Times -/

/-- Nanoseconds, in seconds. -/
def seconds (nanoseconds : Int) : Float := Float.ofInt nanoseconds / 1.0e9

/-- A duration in seconds, cast to whole nanoseconds. -/
def nanoseconds (seconds : Float) : Int :=
  let scaled := seconds * 1.0e9
  if scaled < 0.0 then -((-scaled).toUInt64.toNat : Int) else (scaled.toUInt64.toNat : Int)

/-- A time that lies less than a duration in seconds back. -/
def younger (now earlier : Int) (durationS : Float) : Bool :=
  Float.ofInt (now - earlier) < durationS * 1.0e9

/-- `builtin_interfaces/Time`. -/
structure Stamp where
  sec : Int32
  nanosec : UInt32
  deriving DecidableEq

def kNanoPerSec : Int := 1000000000

def Stamp.ns (stamp : Stamp) : Int := stamp.sec.toInt * kNanoPerSec + stamp.nanosec.toNat

/-! ### Positions -/

structure GeoPoint where
  latitude : Float := 0.0
  longitude : Float := 0.0
  deriving DecidableEq

def kDegToRad : Float := 3.14159265358979323846 / 180.0

def kEarthRadiusNm : Float := 3440.06479

def kEarthRadiusKm : Float := 6371.0

section Distances

variable (lib : MathLibrary)

/-- The great-circle distance of two positions on a sphere. -/
def haversine (radius : Float) (first second : GeoPoint) : Float :=
  let lat1 := first.latitude * kDegToRad
  let lon1 := first.longitude * kDegToRad
  let lat2 := second.latitude * kDegToRad
  let lon2 := second.longitude * kDegToRad
  let dlat := lat2 - lat1
  let dlon := lon2 - lon1
  let sinDlat := lib.sin (dlat * 0.5)
  let sinDlon := lib.sin (dlon * 0.5)
  let a := sinDlat * sinDlat + lib.cos lat1 * lib.cos lat2 * sinDlon * sinDlon
  let c := 2.0 * lib.atan2 a.sqrt (1.0 - a).sqrt
  radius * c

/-- `haversineNm`. -/
def haversineNm (first second : GeoPoint) : Float := haversine lib kEarthRadiusNm first second

/-- `haversineKm`. -/
def haversineKm (first second : GeoPoint) : Float := haversine lib kEarthRadiusKm first second

end Distances

/-! ### Messages received -/

structure OwnShipState where
  position : GeoPoint
  sogKn : Float
  currentSpeedKn : Float

structure WorldState where
  stamp : Stamp
  ownShip : OwnShipState

structure PlannedRoute where
  routeId : UInt64
  poses : List GeoPoint
  totalDistanceNm : Float

structure SpeedProfile where
  segmentStartDistancesM : List Float
  segmentEndDistancesM : List Float
  targetSpeedsKn : List Float

structure VoyageTask where
  stamp : Stamp
  taskId : UInt64
  departure : GeoPoint
  destination : GeoPoint
  etaWindowLatest : Stamp
  optimizationPriority : String
  mandatoryWaypoints : List GeoPoint
  exclusionZones : List (List GeoPoint)

structure ReplanResponse where
  status : UInt8

def statusSuccess : UInt8 := 0

def statusFailedTimeout : UInt8 := 1

def statusFailedInfeasible : UInt8 := 2

def statusFailedNoResources : UInt8 := 3

structure ODDState where
  currentZone : UInt8
  envelopeState : UInt8
  conformanceScore : Float32

def oddZoneD : UInt8 := 3

def envelopeMrcPrep : UInt8 := 3

def envelopeMrcActive : UInt8 := 4

structure TrackingError where
  xteNm : Float32

/-! ### Messages published -/

inductive ReplanReason where
  | oddExit
  | missionInfeasible
  | mrcRequired
  | congestion
  deriving DecidableEq, Repr

structure MissionGoal where
  currentTargetWp : GeoPoint := {}
  etaToTargetS : Float32 := -1.0
  confidence : Float32 := 0.0
  currentErrorSeverity : UInt8 := 0
  xteNm : Float32 := 0.0
  seaCurrentKn : Float32 := 0.0
  l1WatchdogStatus : UInt8 := 0
  fsmState : UInt8
  taskValidity : UInt8

structure RouteReplanRequest where
  reason : ReplanReason
  deadlineS : Float32
  currentPosition : GeoPoint
  confidence : Float32

/-- A value of a decision record. -/
inductive DecisionValue where
  | text (value : String)
  | count (value : Int)
  | number (value : Float)
  | single (value : Float32)
  deriving DecidableEq

structure ASDRRecord where
  decisionType : String
  decision : List (String × DecisionValue)
  deriving DecidableEq

structure ToRRequest where
  reason : UInt8
  deadlineS : Float32
  targetLevel : UInt8
  confidence : Float32

inductive Published where
  | missionGoal (goal : MissionGoal)
  | replanRequest (request : RouteReplanRequest)
  | asdrRecord (record : ASDRRecord)
  | torRequest (request : ToRRequest)

end MassL3.M3
