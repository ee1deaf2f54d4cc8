/-
This file follows a rule latch over whole runs of updates. A history of calls falls apart at its
first genuine onset and at the first release after that: before the onset the latch is as it was
built, then it is latched with the classification of the onset, and after the release it is open
for good.
-/

import MassTdl.Colregs.EncounterStateMachine
import MassTdl.Runs

namespace MassL3.M6.Colregs

/-! ### Calls -/

/-- The arguments of `RuleLatch::update`. -/
structure LatchCall where
  ruleActive : Bool
  cpaM : Float
  rangeClosing : Bool
  pastAndClear : Bool
  currentEval : Option RuleEvaluation := none
  projection : Bool := false
  allowProjection : Bool := true

namespace LatchCall

variable (cpaSafeM : Float) (call : LatchCall)

/-- The rule is active, the closest approach unsafe, and the range closes on a target that is
neither past and clear nor projected to be. -/
def IsOnset : Prop :=
  call.ruleActive = true ∧ call.cpaM < cpaSafeM ∧ call.rangeClosing = true ∧
    call.pastAndClear = false ∧ call.projection = false

/-- The range opens, and the target is past and clear with a safe closest approach, or projected
to be where that releases. -/
def IsRelease : Prop :=
  call.rangeClosing = false ∧
    (call.pastAndClear = true ∧ call.cpaM ≥ cpaSafeM ∨
      call.allowProjection = true ∧ call.projection = true)

instance : Decidable (call.IsOnset cpaSafeM) := inferInstanceAs (Decidable (_ ∧ _))

instance : Decidable (call.IsRelease cpaSafeM) := inferInstanceAs (Decidable (_ ∧ _))

end LatchCall

namespace RuleLatch

def call (latch : RuleLatch) (call : LatchCall) : RuleLatch :=
  latch.update call.ruleActive call.cpaM call.rangeClosing call.pastAndClear call.currentEval
    call.projection call.allowProjection

/-- The latch after a list of calls. -/
def after (cpaSafeM : Float) (calls : List LatchCall) : RuleLatch :=
  Runs.run RuleLatch.call { cpaSafeM } calls

/-! ### One call -/

section Call

variable {latch : RuleLatch} {call : LatchCall}

theorem latches_iff (latch : RuleLatch) (fresh : latch.released = false) :
    latch.Latches call.ruleActive call.cpaM call.rangeClosing call.pastAndClear call.projection ↔
      call.IsOnset latch.cpaSafeM := by
  unfold Latches LatchCall.IsOnset
  tauto

theorem releases_iff (latch : RuleLatch) :
    latch.Releases call.cpaM call.rangeClosing call.pastAndClear call.projection
        call.allowProjection ↔ call.IsRelease latch.cpaSafeM := by
  unfold Releases LatchCall.IsRelease
  tauto

/-- What a call does to an open latch. -/
theorem call_of_open (isOpen : latch.latched = false) : latch.call call =
    if latch.Latches call.ruleActive call.cpaM call.rangeClosing call.pastAndClear
        call.projection then
      { latch with
        latched := true
        onset := (call.currentEval.map RuleEvaluation.onset).or latch.onset }
    else latch :=
  if_neg fun latched => Bool.false_ne_true (isOpen.symm.trans latched)

/-- What a call does to a latched one. -/
theorem call_of_latched (latched : latch.latched = true) : latch.call call =
    if latch.Releases call.cpaM call.rangeClosing call.pastAndClear call.projection
        call.allowProjection then
      { latch with
        latched := false
        released := true
        onset := none }
    else latch :=
  if_pos latched

/-- A latch that was released stays as it is. -/
theorem call_of_released (released : latch.released = true) (isOpen : latch.latched = false) :
    latch.call call = latch := by
  rw [call_of_open isOpen]
  refine if_neg ?_
  rintro ⟨fresh, -⟩
  rw [released] at fresh
  cases fresh

variable {cpaSafeM : Float}

/-- A new latch waits for an onset. -/
theorem call_of_not_onset (waits : ¬ call.IsOnset cpaSafeM) :
    RuleLatch.call { cpaSafeM } call = { cpaSafeM } := by
  rw [call_of_open rfl, if_neg ((latches_iff { cpaSafeM } rfl).not.mpr waits)]

/-- A latch as an onset leaves it. -/
def latchedBy (cpaSafeM : Float) (onset : LatchCall) : RuleLatch where
  cpaSafeM := cpaSafeM
  latched := true
  onset := onset.currentEval.map RuleEvaluation.onset

theorem call_of_onset (onset : call.IsOnset cpaSafeM) :
    RuleLatch.call { cpaSafeM } call = latchedBy cpaSafeM call := by
  rw [call_of_open rfl, if_pos ((latches_iff { cpaSafeM } rfl).mpr onset), Option.or_none]
  rfl

variable {onset : LatchCall}

/-- It holds until a release. -/
theorem call_of_not_release (held : ¬ call.IsRelease cpaSafeM) :
    (latchedBy cpaSafeM onset).call call = latchedBy cpaSafeM onset := by
  rw [call_of_latched rfl, if_neg ((releases_iff (latchedBy cpaSafeM onset)).not.mpr held)]

theorem call_of_release (release : call.IsRelease cpaSafeM) :
    (latchedBy cpaSafeM onset).call call = { cpaSafeM, released := true } := by
  rw [call_of_latched rfl, if_pos ((releases_iff (latchedBy cpaSafeM onset)).mpr release)]
  rfl

end Call

/-! ### Runs -/

section Runs

open LatchCall (IsOnset IsRelease)

variable {cpaSafeM : Float}

/-- What no call of a run changes is there after the run. -/
theorem run_of_unchanged {latch : RuleLatch} {calls : List LatchCall}
    (unchanged : ∀ call ∈ calls, latch.call call = latch) :
    Runs.run RuleLatch.call latch calls = latch := by
  refine Runs.run_invariant_of_mem (· = latch) rfl fun state call member same => ?_
  rw [same]
  exact unchanged call member

/-- A list of calls falls apart at the first one with a property, if there is one. -/
theorem exists_first (Property : LatchCall → Prop) [DecidablePred Property]
    (calls : List LatchCall) :
    (∀ call ∈ calls, ¬ Property call) ∨
      ∃ earlier first later, calls = earlier ++ first :: later ∧
        (∀ call ∈ earlier, ¬ Property call) ∧ Property first := by
  cases found : calls.find? (fun call => decide (Property call)) with
  | none =>
    left
    intro call member
    exact of_decide_eq_false (Bool.not_eq_true _ ▸ List.find?_eq_none.mp found call member)
  | some first =>
    obtain ⟨holds, earlier, later, split, before⟩ := List.find?_eq_some_iff_append.mp found
    refine .inr ⟨earlier, first, later, split, fun call member => ?_, of_decide_eq_true holds⟩
    exact of_decide_eq_false ((Bool.not_eq_true' _).mp (before call member))

/-- Before the first onset a latch is as it was built. -/
theorem after_of_no_onset {calls : List LatchCall}
    (none : ∀ call ∈ calls, ¬ call.IsOnset cpaSafeM) : after cpaSafeM calls = { cpaSafeM } :=
  run_of_unchanged fun call member => call_of_not_onset (none call member)

variable {earlier later : List LatchCall} {onset : LatchCall}

/-- The first onset stays latched while no call releases. -/
theorem after_of_onset (none : ∀ call ∈ earlier, ¬ call.IsOnset cpaSafeM)
    (isOnset : onset.IsOnset cpaSafeM) (held : ∀ call ∈ later, ¬ call.IsRelease cpaSafeM) :
    after cpaSafeM (earlier ++ onset :: later) = latchedBy cpaSafeM onset := by
  have waiting : Runs.run RuleLatch.call { cpaSafeM } earlier = { cpaSafeM } :=
    after_of_no_onset none
  unfold after
  rw [Runs.run_append, waiting]
  show Runs.run RuleLatch.call (RuleLatch.call { cpaSafeM } onset) later = _
  rw [call_of_onset isOnset]
  exact run_of_unchanged fun call member => call_of_not_release (held call member)

variable {middle : List LatchCall} {release : LatchCall}

/-- After the first release that follows it no call latches any more. -/
theorem after_of_release (none : ∀ call ∈ earlier, ¬ call.IsOnset cpaSafeM)
    (isOnset : onset.IsOnset cpaSafeM) (held : ∀ call ∈ middle, ¬ call.IsRelease cpaSafeM)
    (isRelease : release.IsRelease cpaSafeM) :
    after cpaSafeM (earlier ++ onset :: (middle ++ release :: later)) =
      { cpaSafeM, released := true } := by
  have latched := after_of_onset none isOnset held
  unfold after at latched ⊢
  rw [← List.cons_append, ← List.append_assoc, Runs.run_append, latched]
  show Runs.run RuleLatch.call ((latchedBy cpaSafeM onset).call release) later = _
  rw [call_of_release isRelease]
  exact run_of_unchanged fun call _ => call_of_released rfl rfl

end Runs

/-! ### The law of a latch -/

section Law

open LatchCall (IsOnset IsRelease)

/-- The first onset of the calls stands between these two parts of them, and it was not
released. -/
structure HeldBy (cpaSafeM : Float) (calls earlier : List LatchCall) (onset : LatchCall)
    (later : List LatchCall) : Prop where
  split : calls = earlier ++ onset :: later
  noEarlier : ∀ call ∈ earlier, ¬ call.IsOnset cpaSafeM
  isOnset : onset.IsOnset cpaSafeM
  held : ∀ call ∈ later, ¬ call.IsRelease cpaSafeM

/-- What a latch is like after a list of calls: open and new, held by the first onset, or
released for good. -/
theorem after_cases (cpaSafeM : Float) (calls : List LatchCall) :
    (∀ call ∈ calls, ¬ call.IsOnset cpaSafeM) ∨
      (∃ earlier onset later, HeldBy cpaSafeM calls earlier onset later) ∨
      after cpaSafeM calls = { cpaSafeM, released := true } := by
  rcases exists_first (IsOnset cpaSafeM ·) calls with
    none | ⟨earlier, onset, rest, rfl, noEarlier, isOnset⟩
  · exact .inl none
  rcases exists_first (IsRelease cpaSafeM ·) rest with
    held | ⟨middle, release, later, rfl, held, isRelease⟩
  · exact .inr (.inl ⟨earlier, onset, rest, rfl, noEarlier, isOnset, held⟩)
  · exact .inr (.inr (after_of_release noEarlier isOnset held isRelease))

theorem HeldBy.after_eq {cpaSafeM : Float} {calls earlier later : List LatchCall}
    {onset : LatchCall} (heldBy : HeldBy cpaSafeM calls earlier onset later) :
    after cpaSafeM calls = latchedBy cpaSafeM onset := by
  rw [heldBy.split]
  exact after_of_onset heldBy.noEarlier heldBy.isOnset heldBy.held

theorem latched_iff (cpaSafeM : Float) (calls : List LatchCall) :
    (after cpaSafeM calls).latched = true ↔
      ∃ earlier onset later, HeldBy cpaSafeM calls earlier onset later := by
  constructor
  · intro latched
    rcases after_cases cpaSafeM calls with none | heldBy | released
    · rw [after_of_no_onset none] at latched
      cases latched
    · exact heldBy
    · rw [released] at latched
      cases latched
  · rintro ⟨earlier, onset, later, heldBy⟩
    rw [heldBy.after_eq]
    rfl

/-- A latch that was latched and is not any more was released for good. -/
theorem after_of_unlatched {cpaSafeM : Float} {before between : List LatchCall}
    (latched : (after cpaSafeM before).latched = true)
    (unlatched : (after cpaSafeM (before ++ between)).latched = false) :
    after cpaSafeM (before ++ between) = { cpaSafeM, released := true } := by
  obtain ⟨earlier, onset, later, heldBy⟩ := (latched_iff cpaSafeM before).mp latched
  rcases after_cases cpaSafeM (before ++ between) with none | held | released
  · have member : onset ∈ before ++ between := by
      rw [heldBy.split]
      exact List.mem_append_left _ (List.mem_append_right _ List.mem_cons_self)
    exact absurd heldBy.isOnset (none onset member)
  · rw [(latched_iff cpaSafeM _).mpr held] at unlatched
    cases unlatched
  · exact released

/-- The law of a latch over every list of calls on a new one. -/
structure LatchLaw (cpaSafeM : Float) (calls : List LatchCall) : Prop where
  /-- It is latched exactly when the first onset has not been released. -/
  latchedIff : (after cpaSafeM calls).latched = true ↔
    ∃ earlier onset later, HeldBy cpaSafeM calls earlier onset later
  /-- After one release it never latches again. -/
  neverAgain : ∀ before between later, calls = before ++ between ++ later →
    (after cpaSafeM before).latched = true →
    (after cpaSafeM (before ++ between)).latched = false → (after cpaSafeM calls).latched = false
  /-- While it is latched, the classification the onset came with is put back. -/
  restores : ∀ earlier onset later, HeldBy cpaSafeM calls earlier onset later →
    ∀ eval, (after cpaSafeM calls).applyOnset eval =
      match onset.currentEval with
      | some classified => eval.hold classified.onset
      | none => eval

theorem latchLaw (cpaSafeM : Float) (calls : List LatchCall) : LatchLaw cpaSafeM calls where
  latchedIff := latched_iff cpaSafeM calls
  neverAgain before between later split latched unlatched := by
    have released := after_of_unlatched latched unlatched
    unfold after at released ⊢
    rw [split, Runs.run_append, released,
      run_of_unchanged fun call _ => call_of_released rfl rfl]
  restores earlier onset later heldBy eval := by
    rw [heldBy.after_eq]
    unfold latchedBy applyOnset
    cases onset.currentEval with
    | none => rfl
    | some classified => rfl

/-- A target that closes in too near, and the same one when it has passed. -/
def closingIn : LatchCall where
  ruleActive := true
  cpaM := 100.0
  rangeClosing := true
  pastAndClear := false

def passed : LatchCall where
  ruleActive := false
  cpaM := 3000.0
  rangeClosing := false
  pastAndClear := true

/-- A later onset does not latch again what was released, whatever comes after it. -/
theorem not_latched_by_any_onset :
    ¬ ∀ cpaSafeM calls, (after cpaSafeM calls).latched = true ↔
      ∃ earlier onset later, calls = earlier ++ onset :: later ∧ onset.IsOnset cpaSafeM ∧
        ∀ call ∈ later, ¬ call.IsRelease cpaSafeM := by
  intro law
  have latched := (law 1852.0 [closingIn, passed, closingIn]).mpr
    ⟨[closingIn, passed], closingIn, [], rfl, by decide, fun _ none => by cases none⟩
  have released : after 1852.0 ([] ++ closingIn :: ([] ++ passed :: [closingIn])) =
      { cpaSafeM := 1852.0, released := true } :=
    after_of_release (fun _ none => by cases none) (by decide) (fun _ none => by cases none)
      (by decide)
  rw [show [closingIn, passed, closingIn] = [] ++ closingIn :: ([] ++ passed :: [closingIn])
    from rfl, released] at latched
  cases latched

end Law

end RuleLatch

end MassL3.M6.Colregs
