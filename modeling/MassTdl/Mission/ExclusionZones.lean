/-
This file compares the check of the exclusion zones with what a zone is. A zone is a polygon, and
a voyage is to start outside of it and away from its boundary. The check looks at the vertices
alone: a zone whose vertices are far is not seen, even by a ship in the middle of it.
-/

import MassTdl.Binary64.Products
import MassTdl.Mission.Node
import MassTdl.Polygons
import Mathlib.Analysis.SpecialFunctions.Trigonometric.Inverse

namespace MassL3.M3

open Binary64
open MassL3.M6.Colregs (MathLibrary)

noncomputable section

/-! ### Zones -/

/-- A position in the plane of longitudes and latitudes, in degrees. -/
def plane (point : GeoPoint) : ℝ × ℝ := (toReal point.longitude, toReal point.latitude)

def radians (degrees : ℝ) : ℝ := degrees * Real.pi / 180.0

/-- The distance of two positions on the sphere of 6371 km, in metres. -/
def greatCircleM (first second : ℝ × ℝ) : ℝ :=
  2.0 * 6371000.0 * Real.arcsin (Real.sqrt
    (Real.sin (radians (second.2 - first.2) / 2.0) ^ 2 +
      Real.cos (radians first.2) * Real.cos (radians second.2) *
        Real.sin (radians (second.1 - first.1) / 2.0) ^ 2))

/-- The departure lies outside of the polygon of a zone, and no point of its boundary comes
within the buffer. -/
structure ClearOf (bufferM : ℝ) (departure : GeoPoint) (zone : List GeoPoint) : Prop where
  outside : ¬ Polygons.Inside (plane departure) (zone.map plane)
  apart : ∀ point, Polygons.OnBoundary point (zone.map plane) →
    bufferM ≤ greatCircleM (plane departure) point

/-! ### What the check does not see -/

section

variable (lib : MathLibrary) (config : VoyageTaskValidatorConfig)

/-- A zone that the departure is not clear of, with no vertex near it. -/
structure Hidden (departure : GeoPoint) (zone : List GeoPoint) : Prop where
  touches : ¬ ClearOf (toReal config.exclusionZoneBufferM) departure zone
  unseen : ∀ vertex ∈ zone, vertexNear lib config departure vertex = false

/-- A task that is refused by a check other than that of the zones. -/
def RefusedOtherwise (task : VoyageTask) (currentPosition : GeoPoint) (currentTimeNs : Int) :
    Prop :=
  (checksBeforeZones lib config task currentPosition currentTimeNs).isValid = false ∨
    (checkOptimizationPriority task.optimizationPriority).isValid = false

/-- An accepted voyage starts clear of every zone. -/
def StartsClear (task : VoyageTask) (currentPosition : GeoPoint) (currentTimeNs : Int) : Prop :=
  (validate lib config task currentPosition currentTimeNs).isValid = true →
    ∀ zone ∈ task.exclusionZones,
      ClearOf (toReal config.exclusionZoneBufferM) task.departure zone

end

/-- An accepted voyage starts clear of every zone exactly if the task is refused by another check,
a vertex of one of its zones is near the departure, or no zone is hidden. -/
theorem starts_clear_iff (lib : MathLibrary) (config : VoyageTaskValidatorConfig)
    (task : VoyageTask) (currentPosition : GeoPoint) (currentTimeNs : Int) :
    StartsClear lib config task currentPosition currentTimeNs ↔
      RefusedOtherwise lib config task currentPosition currentTimeNs ∨
        (∃ zone ∈ task.exclusionZones, ∃ vertex ∈ zone,
          vertexNear lib config task.departure vertex = true) ∨
        ∀ zone ∈ task.exclusionZones, ¬ Hidden lib config task.departure zone := by
  unfold StartsClear
  rw [validate_isValid, checkExclusionZones_isValid]
  constructor
  · intro clear
    by_cases before : (checksBeforeZones lib config task currentPosition
        currentTimeNs).isValid = true
    · by_cases priority : (checkOptimizationPriority task.optimizationPriority).isValid = true
      · by_cases unseen : ∀ zone ∈ task.exclusionZones, ∀ vertex ∈ zone,
            vertexNear lib config task.departure vertex = false
        · exact .inr (.inr fun zone member hidden =>
            hidden.touches (clear ⟨before, unseen, priority⟩ zone member))
        · push Not at unseen
          obtain ⟨zone, member, vertex, inside, near⟩ := unseen
          exact .inr (.inl ⟨zone, member, vertex, inside, Bool.not_eq_false _ ▸ near⟩)
      · exact .inl (.inr (Bool.eq_false_iff.mpr priority))
    · exact .inl (.inl (Bool.eq_false_iff.mpr before))
  · rintro ((refused | refused) | ⟨zone, member, vertex, inside, near⟩ | seen) ⟨before, unseen,
      priority⟩ zone' member'
    · cases refused.symm.trans before
    · cases refused.symm.trans priority
    · cases near.symm.trans (unseen zone member vertex inside)
    · by_contra touches
      exact seen zone' member' ⟨touches, unseen zone' member'⟩

/-! ### A zone around the departure -/

/-- A zone between two latitudes and two longitudes. -/
def block (low high : GeoPoint) : List GeoPoint :=
  [low, { latitude := low.latitude, longitude := high.longitude }, high,
    { latitude := high.latitude, longitude := low.longitude }]

/-- However large a zone around the departure is, it is not seen once its corners are far. -/
theorem hidden_block {lib : MathLibrary} {config : VoyageTaskValidatorConfig}
    {departure low high : GeoPoint} (west : toReal low.longitude < toReal departure.longitude)
    (east : toReal departure.longitude < toReal high.longitude)
    (south : toReal low.latitude < toReal departure.latitude)
    (north : toReal departure.latitude < toReal high.latitude)
    (corners : ∀ vertex ∈ block low high, vertexNear lib config departure vertex = false) :
    Hidden lib config departure (block low high) := by
  have inside : Polygons.Inside (plane departure) (Polygons.rectangle (plane low) (plane high)) :=
    Polygons.inside_rectangle west east south north
  exact ⟨fun clear => clear.outside inside, corners⟩

/-- The ship lies in the middle of a zone of two degrees by two. -/
def southWest : GeoPoint where
  latitude := -1.0
  longitude := -1.0

def northEast : GeoPoint where
  latitude := 1.0
  longitude := 1.0

def enclosedVoyage : VoyageTask :=
  { shortVoyage with exclusionZones := [block southWest northEast] }

theorem starts_clear_false :
    ¬ ∀ task currentPosition currentTimeNs,
      StartsClear smallAngleLibrary {} task currentPosition currentTimeNs := by
  intro clear
  have accepted : (validate smallAngleLibrary {} enclosedVoyage {} 0).isValid = true := by
    decide +kernel
  have corners : ∀ vertex ∈ block southWest northEast,
      vertexNear smallAngleLibrary {} shortVoyage.departure vertex = false := by
    decide +kernel
  have negative : toReal (-1.0) < toReal 0.0 := by
    rw [toReal_neg, toReal_one, toReal_zero]
    norm_num
  have positive : toReal 0.0 < toReal 1.0 := by
    rw [toReal_one, toReal_zero]
    norm_num
  have hidden : Hidden smallAngleLibrary {} shortVoyage.departure (block southWest northEast) :=
    hidden_block negative positive negative positive corners
  have startsClear := clear enclosedVoyage {} 0 accepted
  exact hidden.touches (startsClear _ List.mem_cons_self)

end

end MassL3.M3
