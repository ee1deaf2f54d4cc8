/-
This file studies the clamp of a heading box over the real numbers. A box that is out of reach is
moved along its side until it touches the reachable arc. The two ends are then put in order, and if
the moved box runs across north this turns it into all that it left out. A wide box also runs over
to the other side, and a full circle is taken for the one heading it starts at.
-/

import MassTdl.Arbiter.ReachableBox

namespace MassL3.M4.Scalars

open AddCommGroup Clamps Headings

noncomputable section

variable {hMinDeg hMaxDeg ownHdgDeg rotStepDeg : ℝ}

/-! ### What the clamp computes -/

/-- The width of a box as the clamp takes it: a full circle has none. -/
def codedWidth (hMinDeg hMaxDeg : ℝ) : ℝ :=
  if wrapHeadingDeg realFunctions hMaxDeg - wrapHeadingDeg realFunctions hMinDeg < 0 then
    wrapHeadingDeg realFunctions hMaxDeg - wrapHeadingDeg realFunctions hMinDeg + 360.0
  else wrapHeadingDeg realFunctions hMaxDeg - wrapHeadingDeg realFunctions hMinDeg

theorem codedWidth_eq (hMinDeg hMaxDeg : ℝ) :
    codedWidth hMinDeg hMaxDeg =
      if wrapHeadingDeg realFunctions hMaxDeg - wrapHeadingDeg realFunctions hMinDeg < 0 then
        wrapHeadingDeg realFunctions hMaxDeg - wrapHeadingDeg realFunctions hMinDeg + 360
      else wrapHeadingDeg realFunctions hMaxDeg - wrapHeadingDeg realFunctions hMinDeg := by
  unfold codedWidth
  norm_num only

theorem codedWidth_bounds (hMinDeg hMaxDeg : ℝ) :
    0 ≤ codedWidth hMinDeg hMaxDeg ∧ codedWidth hMinDeg hMaxDeg < 360 := by
  have first := wrapHeadingDeg_bounds hMinDeg
  have last := wrapHeadingDeg_bounds hMaxDeg
  unfold codedWidth
  split_ifs with negative
  · constructor <;> linarith
  · exact ⟨not_lt.mp negative, by linarith⟩

theorem codedWidth_same (hMinDeg hMaxDeg : ℝ) :
    hMinDeg + codedWidth hMinDeg hMaxDeg ≡ hMaxDeg [PMOD 360] := by
  obtain ⟨turns, first⟩ := same_iff.mp (wrapHeadingDeg_same hMinDeg)
  obtain ⟨others, last⟩ := same_iff.mp (wrapHeadingDeg_same hMaxDeg)
  unfold codedWidth
  split_ifs
  · exact same_iff.mpr ⟨others - turns - 1, by push_cast; linarith⟩
  · exact same_iff.mpr ⟨others - turns, by push_cast; linarith⟩

/-- It is the width of the box, unless that is a full circle. -/
theorem sweep_eq_codedWidth (notFull : sweep hMinDeg hMaxDeg ≠ 360) :
    sweep hMinDeg hMaxDeg = codedWidth hMinDeg hMaxDeg := by
  obtain ⟨low, high⟩ := codedWidth_bounds hMinDeg hMaxDeg
  obtain ⟨nonneg, within⟩ := sweep_bounds hMinDeg hMaxDeg
  have less := lt_of_le_of_ne within notFull
  refine eq_of_near ?_ (abs_lt.mpr ⟨by linarith, by linarith⟩)
  obtain ⟨turns, equal⟩ := same_iff.mp
    ((codedWidth_same hMinDeg hMaxDeg).trans (sweep_same hMinDeg hMaxDeg).symm)
  exact same_iff.mpr ⟨turns, by linarith⟩

theorem codedWidth_le_sweep (hMinDeg hMaxDeg : ℝ) :
    codedWidth hMinDeg hMaxDeg ≤ sweep hMinDeg hMaxDeg := by
  by_cases full : sweep hMinDeg hMaxDeg = 360
  · exact full ▸ (codedWidth_bounds hMinDeg hMaxDeg).2.le
  · exact (sweep_eq_codedWidth full).ge

/-- How far the middle of a box is from the own heading. -/
def centreDelta (hMinDeg hMaxDeg ownHdgDeg : ℝ) : ℝ :=
  signedDeltaDeg realFunctions ownHdgDeg
    (wrapHeadingDeg realFunctions
      (wrapHeadingDeg realFunctions hMinDeg + 0.5 * codedWidth hMinDeg hMaxDeg))

theorem centreDelta_eq (hMinDeg hMaxDeg ownHdgDeg : ℝ) :
    centreDelta hMinDeg hMaxDeg ownHdgDeg =
      signedDeltaDeg realFunctions ownHdgDeg
        (wrapHeadingDeg realFunctions
          (wrapHeadingDeg realFunctions hMinDeg + 1 / 2 * codedWidth hMinDeg hMaxDeg)) := by
  unfold centreDelta
  norm_num only

theorem centreDelta_same (hMinDeg hMaxDeg ownHdgDeg : ℝ) :
    hMinDeg + codedWidth hMinDeg hMaxDeg / 2 ≡
      ownHdgDeg + centreDelta hMinDeg hMaxDeg ownHdgDeg [PMOD 360] := by
  refine AddCommGroup.ModEq.trans ?_
    ((signedDeltaDeg_same ownHdgDeg _).trans (wrapHeadingDeg_same _)).symm
  obtain ⟨turns, first⟩ := same_iff.mp (wrapHeadingDeg_same hMinDeg)
  exact same_iff.mpr ⟨-turns, by push_cast; linarith⟩

/-- The side on which the clamp sees a box. -/
def codedSide (hMinDeg hMaxDeg ownHdgDeg : ℝ) : Side :=
  if centreDelta hMinDeg hMaxDeg ownHdgDeg > 0 then .starboard else .port

/-- Where a box starts that touches the reachable arc from one side. -/
def movedStart (side : Side) (ownHdgDeg reach width : ℝ) : ℝ :=
  match side with
  | .starboard => ownHdgDeg + reach
  | .port => ownHdgDeg - reach - width

/-- Two headings in the order of their numbers. -/
def inOrder (first second : ℝ) : ℝ × ℝ := (min first second, max first second)

/-- The box that is moved until it touches the reachable arc, with its ends in order. -/
def movedBox (hMinDeg hMaxDeg ownHdgDeg rotStepDeg : ℝ) : ℝ × ℝ :=
  let start := movedStart (codedSide hMinDeg hMaxDeg ownHdgDeg) ownHdgDeg (rotStepDeg - 3 / 10)
    (codedWidth hMinDeg hMaxDeg)
  inOrder (wrapHeadingDeg realFunctions start)
    (wrapHeadingDeg realFunctions (start + codedWidth hMinDeg hMaxDeg))

/-- The ends of the moved box, before they are put in order. -/
theorem movedEnds_real (margin : 3 / 10 < rotStepDeg) :
    movedEnds realFunctions hMinDeg hMaxDeg ownHdgDeg rotStepDeg =
      let start := movedStart (codedSide hMinDeg hMaxDeg ownHdgDeg) ownHdgDeg
        (rotStepDeg - 3 / 10) (codedWidth hMinDeg hMaxDeg)
      (wrapHeadingDeg realFunctions start,
        wrapHeadingDeg realFunctions (start + codedWidth hMinDeg hMaxDeg)) := by
  unfold movedEnds
  norm_num only
  rw [stdMax_eq_max, max_eq_left (by linarith)]
  simp only [← codedWidth_eq, ← centreDelta_eq]
  unfold codedSide movedStart
  split_ifs
  · dsimp only
    ring_nf
  · dsimp only
    ring_nf

/-- The clamp in one line: a box within reach stays, and another one is moved. -/
theorem clampHeadingBoxReachable_real (margin : 3 / 10 < rotStepDeg) :
    clampHeadingBoxReachable realFunctions hMinDeg hMaxDeg ownHdgDeg rotStepDeg =
      if |centreDelta hMinDeg hMaxDeg ownHdgDeg| ≤
          codedWidth hMinDeg hMaxDeg / 2 + (rotStepDeg - 3 / 10) then (hMinDeg, hMaxDeg)
      else movedBox hMinDeg hMaxDeg ownHdgDeg rotStepDeg := by
  have enabled : ¬ rotStepDeg ≤ 0.0 := by norm_num only; linarith
  rw [clampHeadingBoxReachable_of_enabled realFunctions enabled, movedEnds_real margin]
  have overlaps : Overlaps realFunctions hMinDeg hMaxDeg ownHdgDeg rotStepDeg ↔
      |centreDelta hMinDeg hMaxDeg ownHdgDeg| ≤
        codedWidth hMinDeg hMaxDeg / 2 + (rotStepDeg - 3 / 10) := by
    unfold Overlaps
    norm_num only
    rw [stdMax_eq_max, max_eq_left (by linarith), abs_le]
    simp only [← codedWidth_eq, ← centreDelta_eq]
    constructor <;> rintro ⟨low, high⟩ <;> constructor <;> linarith
  refine if_congr overlaps rfl ?_
  dsimp only
  rw [stdMin_eq_min, stdMax_eq_max]
  rfl

/-! ### Boxes in order -/

theorem wrapHeadingDeg_of_before {start width : ℝ} (nonneg : 0 ≤ width)
    (before : wrapHeadingDeg realFunctions start + width < 360) :
    wrapHeadingDeg realFunctions (start + width) =
      wrapHeadingDeg realFunctions start + width := by
  obtain ⟨low, -⟩ := wrapHeadingDeg_bounds start
  obtain ⟨lastLow, lastHigh⟩ := wrapHeadingDeg_bounds (start + width)
  refine eq_of_near ?_ (abs_lt.mpr ⟨by linarith, by linarith⟩)
  exact ((wrapHeadingDeg_same start).add_right width).trans (wrapHeadingDeg_same _).symm

theorem wrapHeadingDeg_of_across {start width : ℝ} (below : width < 360)
    (across : 360 ≤ wrapHeadingDeg realFunctions start + width) :
    wrapHeadingDeg realFunctions (start + width) =
      wrapHeadingDeg realFunctions start + width - 360 := by
  obtain ⟨-, high⟩ := wrapHeadingDeg_bounds start
  obtain ⟨lastLow, lastHigh⟩ := wrapHeadingDeg_bounds (start + width)
  refine eq_of_near ?_ (abs_lt.mpr ⟨by linarith, by linarith⟩)
  obtain ⟨turns, equal⟩ := same_iff.mp
    (((wrapHeadingDeg_same start).add_right width).trans (wrapHeadingDeg_same _).symm)
  exact same_iff.mpr ⟨turns + 1, by push_cast; linarith⟩

/-- A box that is put in order and does not run across north keeps its width. -/
theorem inOrder_of_before {start width : ℝ} (nonneg : 0 ≤ width)
    (before : wrapHeadingDeg realFunctions start + width < 360) :
    inOrder (wrapHeadingDeg realFunctions start) (wrapHeadingDeg realFunctions (start + width)) =
      (wrapHeadingDeg realFunctions start, wrapHeadingDeg realFunctions start + width) := by
  unfold inOrder
  rw [wrapHeadingDeg_of_before nonneg before, min_eq_left (by linarith),
    max_eq_right (by linarith)]

/-- One that runs across north becomes all that it left out. -/
theorem inOrder_of_across {start width : ℝ} (below : width < 360)
    (across : 360 ≤ wrapHeadingDeg realFunctions start + width) :
    inOrder (wrapHeadingDeg realFunctions start) (wrapHeadingDeg realFunctions (start + width)) =
      (wrapHeadingDeg realFunctions start + width - 360, wrapHeadingDeg realFunctions start) := by
  obtain ⟨-, high⟩ := wrapHeadingDeg_bounds start
  unfold inOrder
  rw [wrapHeadingDeg_of_across below across, min_eq_right (by linarith),
    max_eq_left (by linarith)]

/-- The ends of the moved box are swapped exactly when it runs across north. -/
theorem swapsEnds_iff (margin : 3 / 10 < rotStepDeg) :
    SwapsEnds realFunctions hMinDeg hMaxDeg ownHdgDeg rotStepDeg ↔
      360 ≤ wrapHeadingDeg realFunctions (movedStart (codedSide hMinDeg hMaxDeg ownHdgDeg)
        ownHdgDeg (rotStepDeg - 3 / 10) (codedWidth hMinDeg hMaxDeg)) +
          codedWidth hMinDeg hMaxDeg := by
  obtain ⟨low, below⟩ := codedWidth_bounds hMinDeg hMaxDeg
  unfold SwapsEnds
  rw [movedEnds_real margin]
  dsimp only
  generalize movedStart (codedSide hMinDeg hMaxDeg ownHdgDeg) ownHdgDeg (rotStepDeg - 3 / 10)
    (codedWidth hMinDeg hMaxDeg) = start
  obtain before | across := lt_or_ge
    (wrapHeadingDeg realFunctions start + codedWidth hMinDeg hMaxDeg) 360
  · rw [wrapHeadingDeg_of_before low before]
    exact iff_of_false (by linarith) (by linarith)
  · rw [wrapHeadingDeg_of_across below across]
    exact iff_of_true (by linarith) across

theorem ends_of_inOrder {first second low high : ℝ} (equal : inOrder first second = (low, high)) :
    (first = low ∨ first = high) ∧ (second = low ∨ second = high) := by
  obtain ⟨rfl, rfl⟩ := Prod.mk.inj equal
  obtain ordered | ordered := le_total first second
  · rw [min_eq_left ordered, max_eq_right ordered]
    exact ⟨.inl rfl, .inr rfl⟩
  · rw [min_eq_right ordered, max_eq_left ordered]
    exact ⟨.inr rfl, .inl rfl⟩

/-- Both ends lie on the box that is put in order. -/
theorem onArc_inOrder (first second : ℝ) :
    OnArc (inOrder first second).1 (sweep (inOrder first second).1 (inOrder first second).2)
        first ∧
      OnArc (inOrder first second).1 (sweep (inOrder first second).1 (inOrder first second).2)
        second := by
  unfold inOrder
  obtain ⟨least, greatest⟩ := onArc_sweep (min first second) (max first second)
  obtain ordered | ordered := le_total first second
  · rw [min_eq_left ordered, max_eq_right ordered] at least greatest ⊢
    exact ⟨least, greatest⟩
  · rw [min_eq_right ordered, max_eq_left ordered] at least greatest ⊢
    exact ⟨greatest, least⟩

/-! ### Moved boxes -/

section Moved

variable {side : Side} {reach width : ℝ}

/-- A moved box lies between the reachable arc and its width from there. -/
theorem movedStart_add (side : Side) (ownHdgDeg : ℝ) {reach width along : ℝ} (nonneg : 0 ≤ along)
    (within : along ≤ width) :
    ∃ turn, reach ≤ turn ∧ turn ≤ reach + width ∧
      movedStart side ownHdgDeg reach width + along = ownHdgDeg + side.sign * turn := by
  cases side with
  | starboard =>
    exact ⟨reach + along, by linarith, by linarith, by simp only [movedStart, Side.sign]; ring⟩
  | port =>
    exact ⟨reach + width - along, by linarith, by linarith, by
      simp only [movedStart, Side.sign]
      ring⟩

/-- Of its two ends one touches the reachable arc, and the other is its width away from there. -/
theorem movedStart_ends (side : Side) (ownHdgDeg reach width : ℝ) :
    movedStart side ownHdgDeg reach width = ownHdgDeg + side.sign * reach ∧
        movedStart side ownHdgDeg reach width + width =
          ownHdgDeg + side.sign * (reach + width) ∨
      movedStart side ownHdgDeg reach width = ownHdgDeg + side.sign * (reach + width) ∧
        movedStart side ownHdgDeg reach width + width = ownHdgDeg + side.sign * reach := by
  cases side with
  | starboard => exact .inl ⟨by simp [movedStart, Side.sign], by
      simp only [movedStart, Side.sign]; ring⟩
  | port => exact .inr ⟨by simp only [movedStart, Side.sign]; ring, by
      simp only [movedStart, Side.sign]; ring⟩

/-- What holds of both ends of a moved box, whichever way it was put in order, holds of the
heading that touches the reachable arc and of the one that is farthest from it. -/
theorem moved_ends (Holds : ℝ → Prop)
    (congr : ∀ first second, first ≡ second [PMOD 360] → Holds first → Holds second)
    (start : Holds (wrapHeadingDeg realFunctions (movedStart side ownHdgDeg reach width)))
    (last : Holds (wrapHeadingDeg realFunctions (movedStart side ownHdgDeg reach width + width))) :
    Holds (ownHdgDeg + side.sign * reach) ∧ Holds (ownHdgDeg + side.sign * (reach + width)) := by
  have start := congr _ _ (wrapHeadingDeg_same _) start
  have last := congr _ _ (wrapHeadingDeg_same _) last
  obtain ⟨touches, ends⟩ | ⟨ends, touches⟩ := movedStart_ends side ownHdgDeg reach width
  · exact ⟨touches ▸ start, ends ▸ last⟩
  · exact ⟨touches ▸ last, ends ▸ start⟩

end Moved

/-! ### The contract of the clamp -/

/-- The clamped box is as wide as the box was, holds a heading within one step, is the box itself
if that meets the reachable arc, and is otherwise all on the side on which the middle of the box
was. -/
structure KeepsBox (hMinDeg hMaxDeg ownHdgDeg rotStepDeg reach : ℝ) (clamped : ℝ × ℝ) :
    Prop where
  width : sweep clamped.1 clamped.2 = sweep hMinDeg hMaxDeg
  reachable : MeetsArc clamped.1 (sweep clamped.1 clamped.2) ownHdgDeg rotStepDeg
  unchanged : MeetsArc hMinDeg (sweep hMinDeg hMaxDeg) ownHdgDeg reach →
    clamped = (hMinDeg, hMaxDeg)
  sameSide : ¬ MeetsArc hMinDeg (sweep hMinDeg hMaxDeg) ownHdgDeg reach →
    ∃ side, OnSide side ownHdgDeg (hMinDeg + sweep hMinDeg hMaxDeg / 2) ∧
      ∀ heading, OnArc clamped.1 (sweep clamped.1 clamped.2) heading →
        OnSide side ownHdgDeg heading

/-- The clamp finds the box within reach. -/
def FoundInReach (hMinDeg hMaxDeg ownHdgDeg rotStepDeg : ℝ) : Prop :=
  MeetsArc hMinDeg (codedWidth hMinDeg hMaxDeg) ownHdgDeg (rotStepDeg - 3 / 10)

theorem foundInReach_iff (margin : 3 / 10 < rotStepDeg) :
    FoundInReach hMinDeg hMaxDeg ownHdgDeg rotStepDeg ↔
      |centreDelta hMinDeg hMaxDeg ownHdgDeg| ≤
        codedWidth hMinDeg hMaxDeg / 2 + (rotStepDeg - 3 / 10) :=
  meetsArc_iff (codedWidth_bounds _ _).1 (by linarith) (abs_signedDeltaDeg_le _ _)
    (centreDelta_same _ _ _)

/-- The box is out of reach, does not run across north once it is moved, so that the ends of the
moved box are not swapped, and is not so wide that it then runs over to the other side. -/
def MovesClear (hMinDeg hMaxDeg ownHdgDeg rotStepDeg reach : ℝ) : Prop :=
  ¬ MeetsArc hMinDeg (sweep hMinDeg hMaxDeg) ownHdgDeg reach ∧
    ¬ SwapsEnds realFunctions hMinDeg hMaxDeg ownHdgDeg rotStepDeg ∧
    rotStepDeg - 3 / 10 + sweep hMinDeg hMaxDeg ≤ 180.0

variable {reach : ℝ}

/-- A box that is found in reach is left as it is. -/
theorem keepsBox_of_found (atLeast : rotStepDeg - 3 / 10 ≤ reach)
    (found : FoundInReach hMinDeg hMaxDeg ownHdgDeg rotStepDeg) :
    KeepsBox hMinDeg hMaxDeg ownHdgDeg rotStepDeg reach (hMinDeg, hMaxDeg) where
  width := rfl
  reachable := found.mono (codedWidth_le_sweep _ _) (by linarith)
  unchanged := fun _ => rfl
  sameSide := fun missed => absurd (found.mono (codedWidth_le_sweep _ _) atLeast) missed

/-- A full circle is never out of reach. -/
theorem sweep_ne_of_not_meets (nonneg : 0 ≤ reach)
    (missed : ¬ MeetsArc hMinDeg (sweep hMinDeg hMaxDeg) ownHdgDeg reach) :
    sweep hMinDeg hMaxDeg ≠ 360 :=
  fun full => missed ⟨0, by rwa [abs_zero], full ▸ onArc_full _ _⟩

section Moved

variable (margin : 3 / 10 < rotStepDeg)
  (away : ¬ FoundInReach hMinDeg hMaxDeg ownHdgDeg rotStepDeg)

include margin away

/-- A box that is not found in reach leaves room dead astern. -/
theorem away_bounds :
    rotStepDeg - 3 / 10 + codedWidth hMinDeg hMaxDeg / 2 < 180 ∧
      codedWidth hMinDeg hMaxDeg / 2 + (rotStepDeg - 3 / 10) <
        |centreDelta hMinDeg hMaxDeg ownHdgDeg| := by
  have far := not_le.mp (mt (foundInReach_iff margin).mpr away)
  have short : |centreDelta hMinDeg hMaxDeg ownHdgDeg| ≤ 180 := abs_signedDeltaDeg_le _ _
  exact ⟨by linarith, far⟩

/-- The side on which the clamp sees a box is one on which its middle is. -/
theorem onSide_centre :
    OnSide (codedSide hMinDeg hMaxDeg ownHdgDeg) ownHdgDeg
      (hMinDeg + codedWidth hMinDeg hMaxDeg / 2) := by
  obtain ⟨-, far⟩ := away_bounds margin away
  have nonneg := (codedWidth_bounds hMinDeg hMaxDeg).1
  have short : |centreDelta hMinDeg hMaxDeg ownHdgDeg| ≤ 180 := abs_signedDeltaDeg_le _ _
  have signed : centreDelta hMinDeg hMaxDeg ownHdgDeg =
      (codedSide hMinDeg hMaxDeg ownHdgDeg).sign * |centreDelta hMinDeg hMaxDeg ownHdgDeg| := by
    unfold codedSide
    split_ifs with positive
    · rw [Side.sign, one_mul, abs_of_pos positive]
    · rw [Side.sign, abs_of_nonpos (not_lt.mp positive), neg_mul, one_mul, neg_neg]
  have onSide : OnSide (codedSide hMinDeg hMaxDeg ownHdgDeg) ownHdgDeg
      (ownHdgDeg + centreDelta hMinDeg hMaxDeg ownHdgDeg) := by
    rw [signed]
    exact (onSide_iff (by linarith) (by linarith)).mpr (.inl ⟨rfl, short⟩)
  exact onSide.congr (centreDelta_same _ _ _).symm

/-- A box that moves clear is kept by the clamp. -/
theorem keepsBox_of_clear (nonneg : 0 ≤ reach)
    (clear : MovesClear hMinDeg hMaxDeg ownHdgDeg rotStepDeg reach) :
    KeepsBox hMinDeg hMaxDeg ownHdgDeg rotStepDeg reach
      (movedBox hMinDeg hMaxDeg ownHdgDeg rotStepDeg) := by
  obtain ⟨missed, ordered, narrow⟩ := clear
  have isWidth := sweep_eq_codedWidth (sweep_ne_of_not_meets nonneg missed)
  have centre := onSide_centre margin away
  have before := not_le.mp (mt (swapsEnds_iff margin).mpr ordered)
  rw [isWidth] at narrow
  obtain ⟨low, below⟩ := codedWidth_bounds hMinDeg hMaxDeg
  unfold movedBox
  dsimp only
  rw [inOrder_of_before low before]
  generalize codedSide hMinDeg hMaxDeg ownHdgDeg = side at before centre ⊢
  have swept : ∀ start, sweep start (start + codedWidth hMinDeg hMaxDeg) =
      codedWidth hMinDeg hMaxDeg := fun start => by
    rw [sweep_of_le (by linarith) (by linarith), add_sub_cancel_left]
  refine ⟨(swept _).trans isWidth.symm, ?_, fun meets => absurd meets missed, fun _ =>
    ⟨side, isWidth ▸ centre, fun heading on => ?_⟩⟩
  · rw [swept]
    refine ⟨side.sign * (rotStepDeg - 3 / 10), ?_, ?_⟩
    · rw [side.abs_sign_mul, abs_of_pos (by linarith)]
      linarith
    · obtain ⟨touches, -⟩ | ⟨-, touches⟩ := movedStart_ends side ownHdgDeg (rotStepDeg - 3 / 10)
        (codedWidth hMinDeg hMaxDeg)
      · rw [← touches]
        exact (onArc_start low).congr modEq_rfl (wrapHeadingDeg_same _)
      · rw [← touches]
        exact (onArc_last low).congr modEq_rfl ((wrapHeadingDeg_same _).add_right _)
  · rw [swept] at on
    obtain ⟨along, nonnegative, within, reached⟩ := on
    obtain ⟨turn, from_reach, upTo, isTurn⟩ := movedStart_add side ownHdgDeg
      nonnegative within
    refine OnSide.congr ?_ (((wrapHeadingDeg_same _).symm.add_right along).trans reached)
    rw [isTurn]
    exact (onSide_iff (by linarith) (by linarith)).mpr (.inl ⟨rfl, by linarith⟩)

/-- And only such a box is. -/
theorem clear_of_keepsBox (atLeast : rotStepDeg - 3 / 10 ≤ reach)
    (keeps : KeepsBox hMinDeg hMaxDeg ownHdgDeg rotStepDeg reach
      (movedBox hMinDeg hMaxDeg ownHdgDeg rotStepDeg)) :
    MovesClear hMinDeg hMaxDeg ownHdgDeg rotStepDeg reach := by
  obtain ⟨low, below⟩ := codedWidth_bounds hMinDeg hMaxDeg
  obtain ⟨room, -⟩ := away_bounds margin away
  have missed : ¬ MeetsArc hMinDeg (sweep hMinDeg hMaxDeg) ownHdgDeg reach := by
    intro meets
    -- an unchanged box has an end on the reachable arc, where it would have been found
    have onBox : ∀ heading, heading = hMinDeg ∨ heading = hMaxDeg →
        OnArc hMinDeg (codedWidth hMinDeg hMaxDeg) heading := by
      rintro heading (rfl | rfl)
      · exact onArc_start low
      · exact (onArc_last low).congr modEq_rfl (codedWidth_same _ _)
    obtain ⟨start, last⟩ := ends_of_inOrder (keeps.unchanged meets)
    obtain ⟨touches, -⟩ := moved_ends (OnArc hMinDeg (codedWidth hMinDeg hMaxDeg))
      (fun _ _ same on => on.congr modEq_rfl same) (onBox _ start) (onBox _ last)
    exact away ⟨_, (Side.abs_sign_mul _ _).trans_le (abs_of_pos (by linarith)).le, touches⟩
  have isWidth := sweep_eq_codedWidth (sweep_ne_of_not_meets (by linarith) missed)
  obtain ⟨side, -, allOnSide⟩ := keeps.sameSide missed
  obtain ⟨touches, ends⟩ := moved_ends (OnSide side ownHdgDeg)
    (fun _ _ same on => on.congr same) (allOnSide _ (onArc_inOrder _ _).1)
    (allOnSide _ (onArc_inOrder _ _).2)
  have narrow : rotStepDeg - 3 / 10 + codedWidth hMinDeg hMaxDeg ≤ 180.0 := by
    obtain ⟨rfl, -⟩ | ⟨-, half⟩ := (onSide_iff (by linarith) (by linarith)).mp touches
    · obtain ⟨-, upTo⟩ | ⟨other, -⟩ := (onSide_iff (by linarith) (by linarith)).mp ends
      · linarith
      · exact absurd rfl other
    · linarith
  refine ⟨missed, fun swapped => ?_, isWidth ▸ narrow⟩
  have across := (swapsEnds_iff margin).mp swapped
  obtain ⟨-, high⟩ := wrapHeadingDeg_bounds (movedStart (codedSide hMinDeg hMaxDeg ownHdgDeg)
    ownHdgDeg (rotStepDeg - 3 / 10) (codedWidth hMinDeg hMaxDeg))
  have width := keeps.width
  unfold movedBox at width
  dsimp only at width
  rw [inOrder_of_across below across, isWidth, sweep_of_le (by linarith) (by linarith)] at width
  linarith

end Moved

/-- The functions of the machine numbers within one turn. -/
def machineFunctions : Functions Float where
  pi := M6.Colregs.kPi
  fmod := fun value _ => value
  abs := Float.abs

/-- A box that touches north once it is moved: the machine puts its start at 360 and swaps. -/
example : SwapsEnds machineFunctions 357.0 2.3 28.5 23.5 ∧
    (clampHeadingBoxReachable machineFunctions 357.0 2.3 28.5 23.5).2 = 360.0 := by
  decide +kernel

/-! ### A box that is moved across north -/

theorem wrapHeadingDeg_of_mem {heading : ℝ} (low : 0 ≤ heading) (high : heading < 360) :
    wrapHeadingDeg realFunctions heading = heading := by
  obtain ⟨nonneg, within⟩ := wrapHeadingDeg_bounds heading
  exact eq_of_near (wrapHeadingDeg_same heading).symm (abs_lt.mpr ⟨by linarith, by linarith⟩)

end

end MassL3.M4.Scalars
