/-
This file is a small library about `std::min`, `std::max` and `std::clamp`. They are stated for any
kind of number that has a comparison, so that they can be read on machine numbers, where a number
may be neither above nor below another one, as well as over an order. There they are the minimum and
the maximum, and a clamp takes a value to the nearest one between two bounds.

Nothing in it names a particular program.
-/

import Mathlib.Order.MinMax
import Mathlib.Tactic.Common

namespace Clamps

section Model

variable {Number : Type} [LT Number] [DecidableLT Number]

/-- `std::min`. -/
def stdMin (first second : Number) : Number := if second < first then second else first

/-- `std::max`. -/
def stdMax (first second : Number) : Number := if first < second then second else first

/-- `std::clamp`. -/
def stdClamp (value low high : Number) : Number :=
  if value < low then low else if high < value then high else value

/-- A value brought to between zero and one. -/
def clamp01 [OfScientific Number] (value : Number) : Number := stdClamp value 0.0 1.0

end Model

section Order

variable {Number : Type} [LinearOrder Number] {value low high : Number}

theorem stdMin_eq_min (first second : Number) : stdMin first second = min first second := by
  unfold stdMin
  split_ifs with below
  · exact (min_eq_right below.le).symm
  · exact (min_eq_left (not_lt.mp below)).symm

theorem stdMax_eq_max (first second : Number) : stdMax first second = max first second := by
  unfold stdMax
  split_ifs with below
  · exact (max_eq_right below.le).symm
  · exact (max_eq_left (not_lt.mp below)).symm

theorem stdMax_eq_left (above : low ≤ value) : stdMax value low = value :=
  if_neg (not_lt.mpr above)

theorem le_stdMax_left (first second : Number) : first ≤ stdMax first second := by
  rw [stdMax_eq_max]
  exact le_max_left _ _

theorem le_stdMax_right (first second : Number) : second ≤ stdMax first second := by
  rw [stdMax_eq_max]
  exact le_max_right _ _

theorem stdClamp_eq (value : Number) (order : low ≤ high) :
    stdClamp value low high = max low (min value high) := by
  unfold stdClamp
  split_ifs with below above
  · rw [min_eq_left (below.le.trans order), max_eq_left below.le]
  · rw [min_eq_right above.le, max_eq_right order]
  · rw [min_eq_left (not_lt.mp above), max_eq_right (not_lt.mp below)]

theorem stdClamp_of_mem (above : low ≤ value) (below : value ≤ high) :
    stdClamp value low high = value := by
  rw [stdClamp, if_neg (not_lt.mpr above), if_neg (not_lt.mpr below)]

end Order

end Clamps
