/-
This file is about the turns of a route that passes the preflight check, over the reals. The room
for a turn shrinks as the heading change grows, up to where the heading is almost reversed. There
the check leaves the turn to the guidance layer, and passes it.
-/

import Mathlib.Analysis.SpecialFunctions.Complex.Analytic
import Mathlib.Geometry.Euclidean.Angle.Unoriented.Basic
import MassTdl.TacticalPlanner.Preflight

namespace MassL3.M5.Preflight

open Clamps

/-! ### The reals -/

noncomputable def realFunctions : Functions ℝ (WithTop ℝ) where
  pi := Real.pi
  cos := Real.cos
  acos := Real.arccos
  tan := Real.tan
  abs := fun value => |value|
  hypot := fun first second => √(first ^ 2 + second ^ 2)
  isFinite := fun _ => true
  count := fun number => number
  extend := fun value => value
  infinity := ⊤

/-! ### Turns -/

/-- A waypoint with the points before and after it, and its place in the route. -/
structure Vertex where
  before : WaypointLatLon ℝ
  waypoint : WaypointLatLon ℝ
  after : WaypointLatLon ℝ
  index : Nat

/-- The leg from one position to another in the local frame: north, and east. -/
noncomputable def leg (refLatDeg : ℝ) (start finish : WaypointLatLon ℝ) : ℂ where
  re := (toXy realFunctions refLatDeg finish).1 - (toXy realFunctions refLatDeg start).1
  im := (toXy realFunctions refLatDeg finish).2 - (toXy realFunctions refLatDeg start).2

namespace Vertex

noncomputable def legBefore (vertex : Vertex) (refLatDeg : ℝ) : ℂ :=
  leg refLatDeg vertex.before vertex.waypoint

noncomputable def legAfter (vertex : Vertex) (refLatDeg : ℝ) : ℂ :=
  leg refLatDeg vertex.waypoint vertex.after

noncomputable def headingChange (vertex : Vertex) (refLatDeg : ℝ) : ℝ :=
  InnerProductGeometry.angle (vertex.legBefore refLatDeg) (vertex.legAfter refLatDeg)

noncomputable def shorterLeg (vertex : Vertex) (refLatDeg : ℝ) : ℝ :=
  min ‖vertex.legBefore refLatDeg‖ ‖vertex.legAfter refLatDeg‖

/-- The turn radius that is required at the capped speed. -/
noncomputable def required (vertex : Vertex) (speeds : List ℝ)
    (cfg : GncAvoidancePreflightConfig ℝ) : WithTop ℝ :=
  requiredTurnRadiusM realFunctions (speedAtOrDefault realFunctions speeds vertex.index cfg) cfg

noncomputable def available (vertex : Vertex) (refLatDeg : ℝ) : WithTop ℝ :=
  gncAvailableTurnRadiusM realFunctions vertex.before vertex.waypoint vertex.after refLatDeg

/-- The turn at a vertex passes the check. -/
def Passes (vertex : Vertex) (refLatDeg : ℝ) (speeds : List ℝ)
    (cfg : GncAvoidancePreflightConfig ℝ) : Prop :=
  ¬ vertex.available refLatDeg + ((1.0e-6 : ℝ) : WithTop ℝ) < vertex.required speeds cfg

/-- The heading change is small, or the shorter leg leaves room for the turn. -/
def RoomToTurn (vertex : Vertex) (refLatDeg : ℝ) (speeds : List ℝ)
    (cfg : GncAvoidancePreflightConfig ℝ) : Prop :=
  vertex.headingChange refLatDeg < Real.pi / 180.0 ∨
    vertex.required speeds cfg ≤
      ((vertex.shorterLeg refLatDeg / Real.tan (vertex.headingChange refLatDeg / 2.0) + 1e-6 : ℝ) :
        WithTop ℝ)

/-- The heading is almost reversed. -/
def Reverses (vertex : Vertex) (refLatDeg : ℝ) : Prop :=
  Real.pi - Real.pi / 180.0 < vertex.headingChange refLatDeg

/-- One vertex has the legs of the other one and turns no more. -/
structure Straightens (straighter vertex : Vertex) (refLatDeg otherLatDeg : ℝ) : Prop where
  index : straighter.index = vertex.index
  before : ‖straighter.legBefore refLatDeg‖ = ‖vertex.legBefore otherLatDeg‖
  after : ‖straighter.legAfter refLatDeg‖ = ‖vertex.legAfter otherLatDeg‖
  turnsLess : straighter.headingChange refLatDeg ≤ vertex.headingChange otherLatDeg

end Vertex

/-- The vertices that are examined: the first maneuver point, seen from the origin, and every
interior waypoint. -/
inductive Examined (origin : WaypointLatLon ℝ) (wps : List (WaypointLatLon ℝ)) (firstIdx : Nat) :
    Vertex → Prop
  | first {waypoint after : WaypointLatLon ℝ} :
      wps[firstIdx]? = some waypoint → wps[firstIdx + 1]? = some after →
        Examined origin wps firstIdx ⟨origin, waypoint, after, firstIdx⟩
  | interior {before waypoint after : WaypointLatLon ℝ} {i : Nat} :
      wps[i]? = some before → wps[i + 1]? = some waypoint → wps[i + 2]? = some after →
        Examined origin wps firstIdx ⟨before, waypoint, after, i + 1⟩

/-! ### The room for a turn -/

theorem hypot_eq_norm (number : ℂ) : realFunctions.hypot number.re number.im = ‖number‖ :=
  (Complex.norm_eq_sqrt_sq_add_sq number).symm

/-- The angle between two legs is the one that is computed from their coordinates. -/
theorem acos_eq_angle (first second : ℂ) :
    realFunctions.acos (stdClamp ((first.re * second.re + first.im * second.im) /
      (‖first‖ * ‖second‖)) (-1.0) 1.0) = InnerProductGeometry.angle first second := by
  have product : first.re * second.re + first.im * second.im = inner ℝ first second := by
    rw [Complex.inner]
    simp [mul_comm]
  have bounded := abs_le.mp (abs_real_inner_div_norm_mul_norm_le_one first second)
  rw [product, stdClamp_of_mem (by linarith [bounded.1]) (by linarith [bounded.2])]
  rfl

theorem available_eq (vertex : Vertex) (refLatDeg : ℝ) :
    vertex.available refLatDeg =
      turnRadiusOf realFunctions ‖vertex.legBefore refLatDeg‖ ‖vertex.legAfter refLatDeg‖
        (vertex.headingChange refLatDeg) := by
  unfold Vertex.headingChange
  rw [← acos_eq_angle, ← hypot_eq_norm, ← hypot_eq_norm]
  rfl

/-- What is left for a turn, by its heading change. -/
theorem turnRadiusOf_cases {before after : ℝ} (beforeLong : 1e-6 ≤ before)
    (afterLong : 1e-6 ≤ after) (change : ℝ) :
    (change < Real.pi / 180.0 ∨ Real.pi - Real.pi / 180.0 < change) ∧
        turnRadiusOf realFunctions before after change = ⊤ ∨
      (Real.pi / 180.0 ≤ change ∧ change ≤ Real.pi - Real.pi / 180.0) ∧
        turnRadiusOf realFunctions before after change =
          ((min before after / Real.tan (change / 2.0) : ℝ) : WithTop ℝ) := by
  have long : ¬ (before < 1.0e-6 ∨ after < 1.0e-6) := by
    rintro (short | short) <;> norm_num at * <;> linarith
  have half : change * 0.5 = change / 2.0 := by norm_num [div_eq_mul_inv]
  unfold turnRadiusOf
  rw [if_neg long, stdMin_eq_min, half]
  split_ifs with straight reversed
  · exact .inl ⟨.inl straight, rfl⟩
  · exact .inl ⟨.inr reversed, rfl⟩
  · exact .inr ⟨⟨not_lt.mp straight, not_lt.mp reversed⟩, rfl⟩

theorem turnRadiusOf_of_short {before after : ℝ} (short : before < 1e-6 ∨ after < 1e-6)
    (change : ℝ) : turnRadiusOf realFunctions before after change = ⊤ :=
  if_pos (by norm_num at short ⊢; exact short)

/-- The tangent of half a heading change grows with the change. -/
theorem tan_half_le {change larger : ℝ} (positive : 0 < change) (grows : change ≤ larger)
    (below : larger < Real.pi) : Real.tan (change / 2) ≤ Real.tan (larger / 2) :=
  Real.strictMonoOn_tan.monotoneOn
    ⟨by linarith [Real.pi_pos], by linarith⟩ ⟨by linarith [Real.pi_pos], by linarith⟩ (by linarith)

/-- Short of a reversed heading, a smaller heading change leaves more room. -/
theorem turnRadiusOf_antitone (before after : ℝ) {change larger : ℝ} (grows : change ≤ larger)
    (notReversed : larger ≤ Real.pi - Real.pi / 180.0) :
    turnRadiusOf realFunctions before after larger ≤
      turnRadiusOf realFunctions before after change := by
  by_cases short : before < 1e-6 ∨ after < 1e-6
  · rw [turnRadiusOf_of_short short, turnRadiusOf_of_short short]
  · obtain ⟨beforeLong, afterLong⟩ := not_or.mp short
    rw [not_lt] at beforeLong afterLong
    obtain ⟨-, infinite⟩ | ⟨⟨notStraight, -⟩, room⟩ :=
      turnRadiusOf_cases beforeLong afterLong change
    · rw [infinite]
      exact le_top
    · obtain ⟨straight | reversed, -⟩ | ⟨-, lessRoom⟩ :=
        turnRadiusOf_cases beforeLong afterLong larger
      · exact absurd straight (not_lt.mpr (notStraight.trans grows))
      · exact absurd reversed (not_lt.mpr notReversed)
      · have degree : 0 < Real.pi / 180.0 := by positivity
        have two : (2.0 : ℝ) = 2 := by norm_num
        have positive : 0 < change := degree.trans_le notStraight
        have tangent := tan_half_le positive grows (by linarith)
        have tangentPos : 0 < Real.tan (change / 2) :=
          Real.tan_pos_of_pos_of_lt_pi_div_two (by linarith) (by linarith)
        have shorter : 0 ≤ min before after := le_min (by linarith) (by linarith)
        rw [room, lessRoom, two, WithTop.coe_le_coe]
        exact div_le_div_of_nonneg_left shorter tangentPos tangent

/-! ### Faults -/

section Searches

variable {Extended : Type}

/-- What a check finds makes the route infeasible. -/
def Rejects (found : Option (GncAvoidancePreflightResult Extended)) : Prop :=
  ∀ result ∈ found, result.feasible = false

theorem rejects_none : Rejects (none : Option (GncAvoidancePreflightResult Extended)) := by
  rintro result ⟨⟩

theorem rejects_fault (reason : String) (index : Nat) (requiredM availableM : Extended) :
    Rejects (some (fault reason index requiredM availableM)) := by
  rintro result ⟨⟩
  rfl

theorem Rejects.orElse {found other : Option (GncAvoidancePreflightResult Extended)}
    (rejects : Rejects found) (otherRejects : Rejects other) : Rejects (found <|> other) := by
  cases found with
  | none => exact otherRejects
  | some result => exact rejects

variable {check : Nat → Option (GncAvoidancePreflightResult Extended)} {first bound : Nat}

theorem rejects_firstFault (rejects : ∀ i, Rejects (check i)) :
    Rejects (firstFault first bound check) := by
  intro result found
  obtain ⟨i, -, atIndex⟩ := List.exists_of_findSome?_eq_some found
  exact rejects i result atIndex

/-- A loop that finds no fault finds none at any of its indices. -/
theorem firstFault_eq_none :
    firstFault first bound check = none ↔ ∀ i, first ≤ i → i < bound → check i = none := by
  unfold firstFault
  rw [List.findSome?_eq_none_iff]
  constructor
  · intro none i after before
    exact none i (List.mem_range'_1.mpr ⟨after, by omega⟩)
  · intro none i member
    obtain ⟨after, before⟩ := List.mem_range'_1.mp member
    exact none i after (by omega)

end Searches

section Faults

variable {Scalar Extended : Type} [Add Scalar] [Sub Scalar] [Mul Scalar] [Div Scalar]
  [Neg Scalar] [OfScientific Scalar] [LE Scalar] [LT Scalar] [DecidableLE Scalar]
  [DecidableLT Scalar] [Add Extended] [LT Extended] [DecidableLT Extended]
  {lib : Functions Scalar Extended} {origin : WaypointLatLon Scalar}
  {wps : List (WaypointLatLon Scalar)} {speeds : List Scalar}
  {cfg : GncAvoidancePreflightConfig Scalar} {firstIdx : Nat} {wpsHasAnchor : Bool}

omit [Sub Scalar] [Mul Scalar] [Div Scalar] [Neg Scalar] [LE Scalar] [LT Scalar]
  [DecidableLE Scalar] [DecidableLT Scalar] [Add Scalar] in
theorem rejects_tooSmall (reason : String) (index : Nat) (requiredM availableM : Extended) :
    Rejects (tooSmall lib reason index requiredM availableM) := by
  unfold tooSmall
  split_ifs
  · exact rejects_fault _ _ _ _
  · exact rejects_none

theorem rejects_firstFaultOfRoute :
    Rejects (firstFaultOfRoute lib origin wps speeds cfg firstIdx) := by
  have turn (reason : String) (i : Nat) (before after : WaypointLatLon Scalar) :
      Rejects (checkTurn lib wps speeds cfg firstIdx reason i before after) :=
    rejects_tooSmall _ _ _ _
  refine .orElse (rejects_tooSmall _ _ _ _) (.orElse ?_ (.orElse (rejects_firstFault ?_)
    (.orElse ?_ (.orElse (rejects_firstFault fun i => turn _ i _ _) (rejects_firstFault ?_)))))
  · unfold checkInitialXte
    dsimp only
    split_ifs
    exacts [rejects_fault _ _ _ _, rejects_none, rejects_none]
  · intro i
    unfold checkSegment
    dsimp only
    split_ifs
    exacts [rejects_fault _ _ _ _, rejects_fault _ _ _ _, rejects_none]
  · unfold checkFirstTurn
    split_ifs
    exacts [turn _ _ _ _, rejects_none]
  · intro i
    unfold checkDecel
    dsimp only
    split_ifs
    exacts [rejects_none, rejects_tooSmall _ _ _ _]

/-- A feasible route has no fault. -/
theorem firstFaultOfRoute_of_feasible
    (feasible :
      (validateGncAvoidancePlan lib origin wps speeds cfg wpsHasAnchor).feasible = true) :
    firstFaultOfRoute lib origin wps speeds cfg (anchorOffset wpsHasAnchor) = none := by
  unfold validateGncAvoidancePlan at feasible
  split_ifs at feasible
  · cases feasible
  · cases feasible
  · rw [Option.eq_none_iff_forall_ne_some]
    intro result found
    have rejected := rejects_firstFaultOfRoute result found
    rw [found] at feasible
    exact absurd feasible (by rw [rejected]; exact Bool.false_ne_true)

omit [Sub Scalar] [Mul Scalar] [Div Scalar] [Neg Scalar] [LE Scalar] [LT Scalar]
  [DecidableLE Scalar] [DecidableLT Scalar] [Add Scalar] in
theorem tooSmall_eq_none {reason : String} {index : Nat} {requiredM availableM : Extended} :
    tooSmall lib reason index requiredM availableM = none ↔
      ¬ availableM + lib.extend 1.0e-6 < requiredM := by
  unfold tooSmall
  split_ifs with less <;> simp [less]

theorem feasible_of_faultless (long : 2 + anchorOffset wpsHasAnchor ≤ wps.length)
    (matched : speeds.length = wps.length)
    (faultless :
      firstFaultOfRoute lib origin wps speeds cfg (anchorOffset wpsHasAnchor) = none) :
    (validateGncAvoidancePlan lib origin wps speeds cfg wpsHasAnchor).feasible = true := by
  rw [validateGncAvoidancePlan, if_neg (Nat.not_lt.mpr long),
    if_neg (fun mismatch => mismatch.2 matched), faultless]

/-- The turns of a route without a fault pass. -/
theorem checkTurn_of_feasible
    (feasible :
      (validateGncAvoidancePlan lib origin wps speeds cfg wpsHasAnchor).feasible = true) :
    checkFirstTurn lib origin wps speeds cfg (anchorOffset wpsHasAnchor) = none ∧
      ∀ i, 1 ≤ i → i + 1 < wps.length →
        checkInteriorTurn lib wps speeds cfg (anchorOffset wpsHasAnchor) i = none := by
  have faultless := firstFaultOfRoute_of_feasible feasible
  simp only [firstFaultOfRoute, Option.orElse_eq_orElse, Option.orElse_eq_or,
    Option.or_eq_none_iff, firstFault_eq_none] at faultless
  obtain ⟨-, -, -, firstTurn, interior, -⟩ := faultless
  exact ⟨firstTurn, fun i after before => interior i after (by omega)⟩

end Faults

/-! ### Routes that pass -/

theorem waypointAt_eq {wps : List (WaypointLatLon ℝ)} {i : Nat} {waypoint : WaypointLatLon ℝ}
    (found : wps[i]? = some waypoint) : waypointAt wps i = waypoint := by
  rw [waypointAt, List.getD_eq_getElem?_getD, found, Option.getD_some]

variable {speeds : List ℝ} {cfg : GncAvoidancePreflightConfig ℝ} {vertex : Vertex}

/-- In a feasible route, every turn that is examined passes. -/
theorem passes_of_feasible {origin : WaypointLatLon ℝ} {wps : List (WaypointLatLon ℝ)}
    {wpsHasAnchor : Bool}
    (feasible :
      (validateGncAvoidancePlan realFunctions origin wps speeds cfg wpsHasAnchor).feasible = true)
    (examined : Examined origin wps (anchorOffset wpsHasAnchor) vertex) :
    vertex.Passes (refLat wps (anchorOffset wpsHasAnchor)) speeds cfg := by
  obtain ⟨firstTurn, interior⟩ := checkTurn_of_feasible feasible
  cases examined with
  | first waypointFound afterFound =>
    have long := (List.getElem?_eq_some_iff.mp afterFound).1
    rw [checkFirstTurn, if_pos (by omega), checkTurn, tooSmall_eq_none,
      waypointAt_eq waypointFound, waypointAt_eq afterFound] at firstTurn
    exact firstTurn
  | @interior before waypoint after i beforeFound waypointFound afterFound =>
    have long := (List.getElem?_eq_some_iff.mp afterFound).1
    have turn := interior (i + 1) (by omega) (by omega)
    rw [checkInteriorTurn, checkTurn, tooSmall_eq_none, Nat.add_sub_cancel,
      waypointAt_eq beforeFound, waypointAt_eq waypointFound, waypointAt_eq afterFound] at turn
    exact turn

variable {refLatDeg : ℝ}

/-- A turn that passes has the room it needs, unless the heading is almost reversed. -/
theorem Vertex.Passes.room (passes : vertex.Passes refLatDeg speeds cfg)
    (beforeLong : 1e-6 ≤ ‖vertex.legBefore refLatDeg‖)
    (afterLong : 1e-6 ≤ ‖vertex.legAfter refLatDeg‖) :
    vertex.RoomToTurn refLatDeg speeds cfg ∨ vertex.Reverses refLatDeg := by
  have small : (1.0e-6 : ℝ) = 1e-6 := by norm_num
  unfold Vertex.Passes at passes
  rw [available_eq, not_lt, small] at passes
  obtain ⟨straight | reversed, -⟩ | ⟨-, room⟩ :=
    turnRadiusOf_cases beforeLong afterLong (vertex.headingChange refLatDeg)
  · exact .inl (.inl straight)
  · exact .inr reversed
  · rw [room] at passes
    exact .inl (.inr passes)

/-- Straightened, a turn that passes and is not almost a reversal still passes. -/
theorem Vertex.Straightens.passes {straighter vertex : Vertex} {refLatDeg otherLatDeg : ℝ}
    (straightens : straighter.Straightens vertex refLatDeg otherLatDeg)
    (notReversed : ¬ vertex.Reverses otherLatDeg) (passes : vertex.Passes otherLatDeg speeds cfg) :
    straighter.Passes refLatDeg speeds cfg := by
  have more := turnRadiusOf_antitone ‖vertex.legBefore otherLatDeg‖
    ‖vertex.legAfter otherLatDeg‖ straightens.turnsLess (not_lt.mp notReversed)
  unfold Vertex.Passes Vertex.required at passes ⊢
  rw [available_eq, not_lt] at passes ⊢
  rw [straightens.index, straightens.before, straightens.after]
  exact passes.trans (by gcongr)

/-- Nothing bounds the radius of a turn that almost reverses the heading. -/
theorem Vertex.Reverses.available_eq_top (reverses : vertex.Reverses refLatDeg) :
    vertex.available refLatDeg = ⊤ := by
  rw [available_eq]
  by_cases short : ‖vertex.legBefore refLatDeg‖ < 1e-6 ∨ ‖vertex.legAfter refLatDeg‖ < 1e-6
  · exact turnRadiusOf_of_short short _
  · obtain ⟨beforeLong, afterLong⟩ := not_or.mp short
    obtain ⟨-, infinite⟩ | ⟨⟨-, notReversed⟩, -⟩ := turnRadiusOf_cases (not_lt.mp beforeLong)
      (not_lt.mp afterLong) (vertex.headingChange refLatDeg)
    · exact infinite
    · exact absurd reverses (not_lt.mpr notReversed)

/-- So it passes, whatever the legs and the speeds are. -/
theorem Vertex.Reverses.passes (reverses : vertex.Reverses refLatDeg) (speeds : List ℝ)
    (cfg : GncAvoidancePreflightConfig ℝ) : vertex.Passes refLatDeg speeds cfg := by
  unfold Vertex.Passes
  rw [reverses.available_eq_top, top_add]
  exact not_top_lt

/-- Every turn of a feasible route that has legs of some length has the room it needs, or the
heading is almost reversed. Short of that, straightening it keeps it so. An almost reversed heading
always passes. -/
theorem validateGncAvoidancePlan_flyable (origin : WaypointLatLon ℝ)
    (wps : List (WaypointLatLon ℝ)) (speeds : List ℝ) (cfg : GncAvoidancePreflightConfig ℝ)
    (wpsHasAnchor : Bool) :
    ((validateGncAvoidancePlan realFunctions origin wps speeds cfg wpsHasAnchor).feasible = true →
      ∀ vertex, Examined origin wps (anchorOffset wpsHasAnchor) vertex →
        let refLatDeg := refLat wps (anchorOffset wpsHasAnchor)
        vertex.Passes refLatDeg speeds cfg ∧
          (1e-6 ≤ ‖vertex.legBefore refLatDeg‖ → 1e-6 ≤ ‖vertex.legAfter refLatDeg‖ →
            vertex.RoomToTurn refLatDeg speeds cfg ∨ vertex.Reverses refLatDeg)) ∧
      (∀ (straighter vertex : Vertex) (refLatDeg otherLatDeg : ℝ),
        straighter.Straightens vertex refLatDeg otherLatDeg → ¬ vertex.Reverses otherLatDeg →
          vertex.Passes otherLatDeg speeds cfg → straighter.Passes refLatDeg speeds cfg) ∧
      ∀ (vertex : Vertex) (refLatDeg : ℝ), vertex.Reverses refLatDeg →
        vertex.Passes refLatDeg speeds cfg :=
  ⟨fun feasible _ examined =>
      ⟨passes_of_feasible feasible examined, (passes_of_feasible feasible examined).room⟩,
    fun _ _ _ _ straightens notReversed passes => straightens.passes notReversed passes,
    fun _ _ reverses => reverses.passes speeds cfg⟩

/-! ### A reversed heading -/

/-- Out to the east along the equator, and back again. -/
def thereAndBack : List (WaypointLatLon ℝ) := [⟨0, 0.002⟩, ⟨0, 0⟩]

noncomputable def turningBack : Vertex := ⟨⟨0, 0⟩, ⟨0, 0.002⟩, ⟨0, 0⟩, 0⟩

theorem toXy_equator (lon : ℝ) : toXy realFunctions 0 ⟨0, lon⟩ = (0, lon * 111320) := by
  norm_num [toXy, metersPerDegLon, kMetersPerDegLat, realFunctions]

theorem leg_equator (start finish : ℝ) :
    leg 0 ⟨0, start⟩ ⟨0, finish⟩ = ⟨0, (finish - start) * 111320⟩ := by
  unfold leg
  rw [toXy_equator, toXy_equator, sub_zero, sub_mul]

theorem gncDistanceM_equator (start finish : ℝ) :
    gncDistanceM realFunctions ⟨0, start⟩ ⟨0, finish⟩ 0 = |(finish - start) * 111320| := by
  norm_num [gncDistanceM, kMetersPerDegLat, realFunctions, Real.sqrt_sq_eq_abs]

theorem turningBack_headingChange : turningBack.headingChange 0 = Real.pi := by
  have away : (⟨0, 0.002 * 111320⟩ : ℂ) ≠ 0 := by
    intro zero
    have zeroIm := congrArg Complex.im zero
    norm_num at zeroIm
  have back : (⟨0, (0 - 0.002) * 111320⟩ : ℂ) = -⟨0, 0.002 * 111320⟩ := by
    apply Complex.ext <;> norm_num
  unfold Vertex.headingChange Vertex.legBefore Vertex.legAfter turningBack
  rw [leg_equator, leg_equator, sub_zero, back]
  exact InnerProductGeometry.angle_self_neg_of_nonzero away

theorem norm_east (east : ℝ) : ‖(⟨0, east⟩ : ℂ)‖ = |east| := by
  rw [Complex.norm_eq_sqrt_sq_add_sq, zero_pow two_ne_zero, zero_add, Real.sqrt_sq_eq_abs]

theorem turningBack_legs :
    ‖turningBack.legBefore 0‖ = 222.64 ∧ ‖turningBack.legAfter 0‖ = 222.64 := by
  unfold Vertex.legBefore Vertex.legAfter turningBack
  rw [leg_equator, leg_equator, norm_east, norm_east]
  norm_num [abs_of_pos]

theorem turningBack_required : ((45 : ℝ) : WithTop ℝ) ≤
    turningBack.required [3, 3] (defaultConfig ℝ) := by
  have least : (45 : ℝ) ≤ (defaultConfig ℝ).emergencyMinTurnRadiusM := by norm_num [defaultConfig]
  exact (WithTop.coe_le_coe.mpr least).trans
    ((le_stdMax_left _ _).trans (le_stdMax_left _ _))

theorem turningBack_available : turningBack.available 0 = ⊤ := by
  have degree : 0 < Real.pi / 180.0 := by positivity
  refine Vertex.Reverses.available_eq_top ?_
  unfold Vertex.Reverses
  rw [turningBack_headingChange]
  exact sub_lt_self _ degree

theorem speedAtOrDefault_thereAndBack {i : Nat} (inRange : i < 2) :
    speedAtOrDefault realFunctions [3, 3] i (defaultConfig ℝ) = 3 := by
  obtain rfl | rfl : i = 0 ∨ i = 1 := by omega
  all_goals norm_num [speedAtOrDefault, realFunctions, stdMin, defaultConfig]

theorem gncDistanceM_thereAndBack :
    gncDistanceM realFunctions (waypointAt thereAndBack 0) (waypointAt thereAndBack 1)
      (refLat thereAndBack 0) = 222.64 := by
  show gncDistanceM realFunctions ⟨0, 0.002⟩ ⟨0, 0⟩ 0 = 222.64
  rw [gncDistanceM_equator]
  norm_num [abs_of_pos]

theorem tooSmall_of_le {required available : ℝ} (room : required ≤ available) (reason : String)
    (i : Nat) : tooSmall realFunctions reason i (realFunctions.extend required)
      (realFunctions.extend available) = none := by
  have more : required ≤ available + 1.0e-6 := by norm_num; linarith
  rw [tooSmall_eq_none, not_lt]
  exact WithTop.coe_le_coe.mpr more

/-- No check finds a fault on the way there and back. -/
theorem firstFaultOfRoute_thereAndBack :
    firstFaultOfRoute realFunctions ⟨0, 0⟩ thereAndBack [3, 3] (defaultConfig ℝ) 0 = none := by
  have slow : highSpeedFlyby realFunctions [3, 3] (defaultConfig ℝ) 0 = false := by
    rw [highSpeedFlyby, speedAtOrDefault_thereAndBack (by decide)]
    norm_num [defaultConfig]
  have firstDistance : checkFirstDistance realFunctions ⟨0, 0⟩ thereAndBack [3, 3]
      (defaultConfig ℝ) 0 = none := by
    have distance : gncDistanceM realFunctions ⟨0, 0⟩ (waypointAt thereAndBack 0) 0 = 222.64 := by
      show gncDistanceM realFunctions ⟨0, 0⟩ ⟨0, 0.002⟩ 0 = 222.64
      rw [gncDistanceM_equator]
      norm_num [abs_of_pos]
    unfold checkFirstDistance
    dsimp only
    rw [slow, distance]
    exact tooSmall_of_le (by norm_num [defaultConfig]) _ _
  have initialXte : checkInitialXte realFunctions ⟨0, 0⟩ thereAndBack [3, 3]
      (defaultConfig ℝ) 0 = none := by
    rw [checkInitialXte, slow]
    rfl
  have segment : checkSegment realFunctions thereAndBack [3, 3] (defaultConfig ℝ) 0 0 = none := by
    unfold checkSegment
    rw [speedAtOrDefault_thereAndBack (by decide), speedAtOrDefault_thereAndBack (by decide),
      gncDistanceM_thereAndBack]
    norm_num [stdMax, defaultConfig]
  have firstTurn : checkFirstTurn realFunctions ⟨0, 0⟩ thereAndBack [3, 3]
      (defaultConfig ℝ) 0 = none := by
    have several : thereAndBack.length ≥ 0 + 2 := le_refl 2
    rw [checkFirstTurn, if_pos several, checkTurn, tooSmall_eq_none]
    show ¬ turningBack.available 0 + _ < _
    rw [turningBack_available, top_add]
    exact not_top_lt
  have decel : checkDecel realFunctions thereAndBack [3, 3] (defaultConfig ℝ) 0 0 = none := by
    unfold checkDecel
    rw [speedAtOrDefault_thereAndBack (by decide), speedAtOrDefault_thereAndBack (by decide),
      requiredDecelDistanceM, if_pos le_rfl]
    exact if_pos le_rfl
  have single {check : Nat → Option (GncAvoidancePreflightResult (WithTop ℝ))}
      (none : check 0 = none) : firstFault 0 (thereAndBack.length - 1) check = .none :=
    firstFault_eq_none.mpr fun i _ before => by
      obtain rfl : i = 0 := Nat.lt_one_iff.mp before
      exact none
  rw [firstFaultOfRoute, firstDistance, initialXte, single segment, firstTurn, single decel]
  rfl

/-- A route that goes back on itself passes the check, without any room for the turn. -/
theorem reversal_passes :
    (validateGncAvoidancePlan realFunctions ⟨0, 0⟩ thereAndBack [3, 3] (defaultConfig ℝ)
        false).feasible = true ∧
      Examined ⟨0, 0⟩ thereAndBack (anchorOffset false) turningBack ∧
      refLat thereAndBack (anchorOffset false) = 0 ∧
      1e-6 < ‖turningBack.legBefore 0‖ ∧ 1e-6 < ‖turningBack.legAfter 0‖ ∧
      turningBack.headingChange 0 = Real.pi ∧
      ¬ turningBack.RoomToTurn 0 [3, 3] (defaultConfig ℝ) := by
  obtain ⟨before, after⟩ := turningBack_legs
  refine ⟨?_, .first rfl rfl, rfl, ?_, ?_, turningBack_headingChange, ?_⟩
  · exact feasible_of_faultless le_rfl rfl firstFaultOfRoute_thereAndBack
  · rw [before]
    norm_num
  · rw [after]
    norm_num
  · have two : (2.0 : ℝ) = 2 := by norm_num
    unfold Vertex.RoomToTurn
    rw [turningBack_headingChange, two, Real.tan_pi_div_two, div_zero, zero_add]
    rintro (straight | room)
    · linarith [Real.pi_pos]
    · have absurdly := WithTop.coe_le_coe.mp (turningBack_required.trans room)
      norm_num at absurdly

end MassL3.M5.Preflight
