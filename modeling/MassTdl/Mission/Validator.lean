/-
This file translates the validation of a voyage task: seven checks in a row, the first that fails
gives the verdict.
-/

import MassTdl.Mission.Types

namespace MassL3.M3

inductive ErrorCode where
  | ok
  | voyageTaskParseError
  | invalidDeparture
  | invalidDestination
  | etaOutOfBounds
  | etaWindowExceeded
  | exclusionZoneOverlap
  deriving DecidableEq, Repr

structure ValidationResult where
  isValid : Bool
  errorCode : ErrorCode
  failedCheck : String
  deriving DecidableEq

structure VoyageTaskValidatorConfig where
  departureDistanceMaxKm : Float := 2.0
  etaWindowMinS : Int := 600
  etaWindowMaxS : Int := 259200
  exclusionZoneBufferM : Float := 500.0

def ValidationResult.pass : ValidationResult where
  isValid := true
  errorCode := .ok
  failedCheck := ""

def ValidationResult.fail (errorCode : ErrorCode) (failedCheck : String) : ValidationResult where
  isValid := false
  errorCode := errorCode
  failedCheck := failedCheck

/-- The first result that is not valid, or else the second. -/
def ValidationResult.andThen (first second : ValidationResult) : ValidationResult :=
  if first.isValid then second else first

def kTimestampToleranceNs : Int := 5 * kNanoPerSec

def kMinLatitude : Float := -90.0

def kMaxLatitude : Float := 90.0

def kMinLongitude : Float := -180.0

def kMaxLongitude : Float := 180.0

/-- `isKnownOptimizationPriority`. -/
def isKnownOptimizationPriority (optimizationPriority : String) : Bool :=
  ["fuel_optimal", "time_optimal", "balanced"].any (optimizationPriority = ·)

/-- `arePointsEqual`. -/
def arePointsEqual (first second : GeoPoint) : Bool :=
  (first.latitude - second.latitude).abs < 1e-6 &&
    (first.longitude - second.longitude).abs < 1e-6

section Checks

variable (lib : MassL3.M6.Colregs.MathLibrary) (config : VoyageTaskValidatorConfig)

def checkTimestamp (taskStampNs nowNs : Int) : ValidationResult :=
  if taskStampNs > nowNs + kTimestampToleranceNs then
    .fail .voyageTaskParseError "voyage task timestamp is in the future"
  else .pass

def checkDepartureDistance (departure currentPosition : GeoPoint) : ValidationResult :=
  if haversineKm lib currentPosition departure > config.departureDistanceMaxKm then
    .fail .invalidDeparture "departure point exceeds max distance from current position"
  else .pass

def checkDestination (dest : GeoPoint) : ValidationResult :=
  if dest.latitude < kMinLatitude || dest.latitude > kMaxLatitude then
    .fail .invalidDestination "destination latitude out of range [-90, 90]"
  else if dest.longitude < kMinLongitude || dest.longitude > kMaxLongitude then
    .fail .invalidDestination "destination longitude out of range [-180, 180]"
  else .pass

def checkEtaWindow (etaRequirementS : Int) : ValidationResult :=
  if etaRequirementS < config.etaWindowMinS then
    .fail .etaOutOfBounds "ETA requirement below minimum window (too short voyage)"
  else if etaRequirementS > config.etaWindowMaxS then
    .fail .etaWindowExceeded "ETA requirement exceeds maximum window (72h operational ceiling)"
  else .pass

/-- The waypoints in their order, each with the one before it. -/
def checkWaypoints : Option GeoPoint → List GeoPoint → ValidationResult
  | _, [] => .pass
  | previous, wp :: later =>
      if wp.latitude < kMinLatitude || wp.latitude > kMaxLatitude ||
          wp.longitude < kMinLongitude || wp.longitude > kMaxLongitude then
        .fail .voyageTaskParseError "waypoint coordinate out of range"
      else if previous.any (arePointsEqual · wp) then
        .fail .voyageTaskParseError "consecutive duplicate waypoints detected"
      else checkWaypoints (some wp) later

def checkMandatoryWaypoints (waypoints : List GeoPoint) : ValidationResult :=
  if waypoints.isEmpty then
    .fail .voyageTaskParseError "voyage task has no mandatory waypoints"
  else checkWaypoints none waypoints

/-- A vertex of a zone within the buffer of the departure. -/
def vertexNear (departure vertex : GeoPoint) : Bool :=
  haversineKm lib departure vertex * 1000.0 < config.exclusionZoneBufferM

def checkExclusionZones (exclusionZones : List (List GeoPoint)) (departure : GeoPoint) :
    ValidationResult :=
  if exclusionZones.any fun zone => zone.any (vertexNear lib config departure) then
    .fail .exclusionZoneOverlap "departure point overlaps with exclusion zone"
  else .pass

def checkOptimizationPriority (optimizationPriority : String) : ValidationResult :=
  if !isKnownOptimizationPriority optimizationPriority then
    .fail .voyageTaskParseError ("unknown optimization priority: " ++ optimizationPriority)
  else .pass

/-- The checks before the one of the zones. -/
def checksBeforeZones (task : VoyageTask) (currentPosition : GeoPoint) (currentTimeNs : Int) :
    ValidationResult :=
  (checkTimestamp task.stamp.ns currentTimeNs).andThen <|
    (checkDepartureDistance lib config task.departure currentPosition).andThen <|
      (checkDestination task.destination).andThen <|
        (checkEtaWindow config
          (task.etaWindowLatest.sec.toInt - task.stamp.sec.toInt)).andThen <|
          checkMandatoryWaypoints task.mandatoryWaypoints

/-- `VoyageTaskValidator::validate`. -/
def validate (task : VoyageTask) (currentPosition : GeoPoint) (currentTimeNs : Int) :
    ValidationResult :=
  (checksBeforeZones lib config task currentPosition currentTimeNs).andThen <|
    (checkExclusionZones lib config task.exclusionZones task.departure).andThen <|
      (checkOptimizationPriority task.optimizationPriority).andThen .pass

end Checks

/-! ### The verdict -/

@[simp]
theorem andThen_isValid (first second : ValidationResult) :
    (first.andThen second).isValid = (first.isValid && second.isValid) := by
  unfold ValidationResult.andThen
  cases valid : first.isValid
  · simp [valid]
  · simp

section Verdict

variable {lib : MassL3.M6.Colregs.MathLibrary} {config : VoyageTaskValidatorConfig}

/-- Only a vertex near the departure makes the zones fail. -/
theorem checkExclusionZones_isValid {exclusionZones : List (List GeoPoint)}
    {departure : GeoPoint} :
    (checkExclusionZones lib config exclusionZones departure).isValid = true ↔
      ∀ zone ∈ exclusionZones, ∀ vertex ∈ zone, vertexNear lib config departure vertex = false := by
  have none_near : (exclusionZones.any fun zone => zone.any (vertexNear lib config departure)) =
      false ↔ ∀ zone ∈ exclusionZones, ∀ vertex ∈ zone,
        vertexNear lib config departure vertex = false := by
    simp only [List.any_eq_false, Bool.not_eq_true]
  rw [← none_near]
  unfold checkExclusionZones
  cases exclusionZones.any fun zone => zone.any (vertexNear lib config departure) <;>
    simp [ValidationResult.pass, ValidationResult.fail]

/-- A task is valid if every check passes. -/
theorem validate_isValid {task : VoyageTask} {currentPosition : GeoPoint} {currentTimeNs : Int} :
    (validate lib config task currentPosition currentTimeNs).isValid = true ↔
      (checksBeforeZones lib config task currentPosition currentTimeNs).isValid = true ∧
        (checkExclusionZones lib config task.exclusionZones task.departure).isValid = true ∧
        (checkOptimizationPriority task.optimizationPriority).isValid = true := by
  unfold validate
  simp [ValidationResult.pass]

end Verdict

end MassL3.M3
