/-
This file is about the way back from BC-MPC. A hand-over is opened when two consecutive calls
of `notifyHandoverInputs` confirm it, and the calls are counted in a field that lives longer
than one stay in `BcMpcFollow`: a stay is left by revisions, heartbeats and a completed
hand-over with the count as it stands, and only a broken hand-over or a call that does not
confirm clears it.

The runs in which every hand-over has its own two confirmations are exactly those in which no
stay begins on a left-over count and is confirmed by its first call. The proof classifies
every state of a stay: no call yet, a last call that confirmed, or a cleared count.
-/

import MassTdl.CommittedRoute.Lifecycle

namespace MassL3.M5.CommittedRoute

open Runs CommittedAvoidanceRoute

/-! ### Calls -/

/-- The operation is a call of `notify_handover_inputs`. -/
def HandoverCall (operation : Operation) : Prop :=
  ∃ midConverged bcPredictedCpaM,
    operation = .notifyHandoverInputs midConverged bcPredictedCpaM

/-- The operation is such a call, and both hand-over conditions are met. -/
def Confirms (route : CommittedAvoidanceRoute) (operation : Operation) : Prop :=
  ∃ midConverged bcPredictedCpaM,
    operation = .notifyHandoverInputs midConverged bcPredictedCpaM ∧
      route.dualConditionMet midConverged bcPredictedCpaM = true

variable {route after : CommittedAvoidanceRoute} {operation : Operation}

/-- Nothing but a hand-over call writes the count. -/
theorem effect_count_of_not_call (effect : Effect route operation after)
    (notCall : ¬ HandoverCall operation) :
    after.handoverHysteresisCount = route.handoverHysteresisCount := by
  cases effect with
  | completed midConverged bcPredictedCpaM | broken midConverged bcPredictedCpaM
  | reached midConverged bcPredictedCpaM | counted midConverged bcPredictedCpaM
  | uncounted midConverged bcPredictedCpaM | tracked midConverged bcPredictedCpaM =>
    exact absurd ⟨midConverged, bcPredictedCpaM, rfl⟩ notCall
  | _ => rfl

/-- A hand-over call that stays behind BC-MPC confirms, or clears the count. -/
theorem effect_call_of_follow (effect : Effect route operation after)
    (call : HandoverCall operation) (follow : route.current.state = .bcMpcFollow)
    (stays : after.current.state = .bcMpcFollow) :
    Confirms route operation ∨ after.handoverHysteresisCount = 0 := by
  obtain ⟨midConverged, bcPredictedCpaM, rfl⟩ := call
  cases effect with
  | completed _ _ neutral | broken _ _ neutral =>
    rw [follow] at neutral
    cases neutral
  | reached => cases stays
  | counted _ _ _ met => exact .inl ⟨midConverged, bcPredictedCpaM, rfl, met⟩
  | uncounted => exact .inr rfl
  | tracked _ _ _ notFollow => exact absurd follow notFollow

/-- `BcMpcFollow` is left towards `HandoverNeutral` by a confirming call alone, and only when
the count reaches the threshold with it. -/
theorem effect_reached (effect : Effect route operation after)
    (follow : route.current.state = .bcMpcFollow) (opens : after.current.state = .handoverNeutral) :
    Confirms route operation ∧
      handoverHysteresisThreshold ≤ route.handoverHysteresisCount + 1 := by
  cases effect with
  | reached midConverged bcPredictedCpaM _ met reached =>
    exact ⟨⟨midConverged, bcPredictedCpaM, rfl, met⟩, reached⟩
  | refused candidate nowS failures state event nlpFailures notAccepted refused =>
    rw [follow] at refused
    have moved : state = .handoverNeutral := opens
    cases refused with
    | managed managed => cases moved
    | degradedHold | bcMpcFollow | keepLast => cases moved
  | held nowS state event active exempt => exact absurd (.inr (.inl follow)) exempt
  | tracked _ _ _ notFollow => exact absurd follow notFollow
  | accepted | revived | completed | broken | finalDegrade => cases opens
  | silent | notHeld | takeover | solver | health | counted | uncounted =>
    exact absurd (follow.symm.trans opens) LifecycleState.noConfusion

/-- A confirming call that reaches the threshold opens the hand-over. -/
theorem step_reached {route : CommittedAvoidanceRoute} (confirms : Confirms route operation)
    (follow : route.current.state = .bcMpcFollow)
    (reached : handoverHysteresisThreshold ≤ route.handoverHysteresisCount + 1) :
    (step route operation).current.state = .handoverNeutral := by
  obtain ⟨midConverged, bcPredictedCpaM, rfl, met⟩ := confirms
  rw [step, route.notifyHandoverInputs_of_follow midConverged bcPredictedCpaM follow, met,
    route.handoverHysteresis_of_reached reached]
  rfl

/-! ### Stays behind BC-MPC -/

section Stays

variable (start : CommittedAvoidanceRoute) (operations : List Operation)

/-- The operation at `index` confirms the hand-over. -/
def ConfirmedAt (index : Nat) : Prop :=
  ∃ operation, operations[index]? = some operation ∧
    Confirms (stateAt step start operations index) operation

/-- The route is in `BcMpcFollow` in every state from `first` to `last`. -/
def FollowsThrough (first last : Nat) : Prop :=
  ∀ index, first ≤ index → index ≤ last →
    (stateAt step start operations index).current.state = .bcMpcFollow

/-- No operation from `first` up to but not including `last` is a hand-over call. -/
def NoCallFrom (first last : Nat) : Prop :=
  ∀ index operation, first ≤ index → index < last → operations[index]? = some operation →
    ¬ HandoverCall operation

/-- The operation at `index` is at least the second consecutive confirmation of an
uninterrupted stay. -/
def SecondConfirmation (index : Nat) : Prop :=
  ConfirmedAt start operations index ∧
    ∃ earlier, earlier < index ∧ ConfirmedAt start operations earlier ∧
      FollowsThrough start operations earlier index ∧ NoCallFrom operations (earlier + 1) index

/-- A stay in `BcMpcFollow` begins at `first`. -/
def StayBegins (first : Nat) : Prop :=
  (stateAt step start operations first).current.state = .bcMpcFollow ∧
    ∀ previous, previous + 1 = first →
      (stateAt step start operations previous).current.state ≠ .bcMpcFollow

/-- The stay that began at `first` has gone on to `index` without a call. -/
structure Uncalled (first index : Nat) : Prop where
  begins : StayBegins start operations first
  ordered : first ≤ index
  follows : FollowsThrough start operations first index
  noCall : NoCallFrom operations first index

/-- How far a stay has come at `index`. -/
inductive Progress (index : Nat) : Prop where
  | opening (first : Nat) (uncalled : Uncalled start operations first index)
  | confirmed (earlier : Nat) (ordered : earlier < index)
      (confirmed : ConfirmedAt start operations earlier)
      (follows : FollowsThrough start operations earlier index)
      (noCall : NoCallFrom operations (earlier + 1) index)
  | cleared (zero : (stateAt step start operations index).handoverHysteresisCount = 0)

variable {start operations}

theorem FollowsThrough.extend {first last : Nat}
    (follows : FollowsThrough start operations first last)
    (next : (stateAt step start operations (last + 1)).current.state = .bcMpcFollow) :
    FollowsThrough start operations first (last + 1) := by
  intro index above below
  rcases Nat.le_succ_iff.mp below with within | rfl
  · exact follows index above within
  · exact next

theorem NoCallFrom.extend {first last : Nat} (noCall : NoCallFrom operations first last)
    (next : ∀ operation, operations[last]? = some operation → ¬ HandoverCall operation) :
    NoCallFrom operations first (last + 1) := by
  intro index operation above below present
  rcases Nat.lt_succ_iff_lt_or_eq.mp below with within | rfl
  · exact noCall index operation above within present
  · exact next operation present

/-- An operation that is no call keeps the progress of a stay. -/
theorem Progress.extend {index : Nat} (progress : Progress start operations index)
    (next : (stateAt step start operations (index + 1)).current.state = .bcMpcFollow)
    (noCall : ∀ operation, operations[index]? = some operation → ¬ HandoverCall operation)
    (kept : (stateAt step start operations (index + 1)).handoverHysteresisCount =
      (stateAt step start operations index).handoverHysteresisCount) :
    Progress start operations (index + 1) := by
  cases progress with
  | opening first uncalled =>
    exact .opening first ⟨uncalled.begins, Nat.le_succ_of_le uncalled.ordered,
      uncalled.follows.extend next, uncalled.noCall.extend noCall⟩
  | confirmed earlier ordered confirmed follows quiet =>
    exact .confirmed earlier (Nat.lt_succ_of_lt ordered) confirmed (follows.extend next)
      (quiet.extend noCall)
  | cleared zero => exact .cleared (kept.trans zero)

/-- A stay without a call keeps the count it began on. -/
theorem Uncalled.kept {first index : Nat} (uncalled : Uncalled start operations first index) :
    (stateAt step start operations index).handoverHysteresisCount =
      (stateAt step start operations first).handoverHysteresisCount := by
  refine stateAt_invariant_between (fun route : CommittedAvoidanceRoute =>
    route.handoverHysteresisCount =
      (stateAt step start operations first).handoverHysteresisCount) uncalled.ordered rfl ?_
  intro between operation above below present same
  have notCall := uncalled.noCall between operation above below present
  exact (effect_count_of_not_call (step_effect _ operation) notCall).trans same

/-- Every state of every stay is classified. -/
theorem progress_of_follow (index : Nat)
    (follow : (stateAt step start operations index).current.state = .bcMpcFollow) :
    Progress start operations index := by
  have opening : ∀ first, StayBegins start operations first →
      Progress start operations first := by
    intro first begins
    refine .opening first ⟨begins, Nat.le_refl first, ?_, ?_⟩
    · intro index above below
      rw [Nat.le_antisymm below above]
      exact begins.1
    · intro index operation above below
      exact absurd below (Nat.not_lt.mpr above)
  induction index with
  | zero => exact opening 0 ⟨follow, fun previous impossible => by cases impossible⟩
  | succ index inductionHypothesis =>
    by_cases before : (stateAt step start operations index).current.state = .bcMpcFollow
    case neg =>
      refine opening (index + 1) ⟨follow, fun previous same => ?_⟩
      rwa [Nat.succ.inj same]
    have progress := inductionHypothesis before
    cases present : operations[index]? with
    | none =>
      have resting := stateAt_succ_of_none step start operations present
      refine progress.extend follow (fun operation isSome => ?_) (by rw [resting])
      rw [present] at isSome
      cases isSome
    | some operation =>
      have effect := step_effect (stateAt step start operations index) operation
      rw [← stateAt_succ step start operations present] at effect
      by_cases call : HandoverCall operation
      · rcases effect_call_of_follow effect call before follow with confirms | zero
        · refine .confirmed index (Nat.lt_succ_self index) ⟨operation, present, confirms⟩ ?_ ?_
          · intro between above below
            rcases Nat.le_succ_iff.mp below with within | rfl
            · rw [Nat.le_antisymm within above]
              exact before
            · exact follow
          · intro between other above below
            exact absurd below (Nat.not_lt.mpr above)
        · exact .cleared zero
      · refine progress.extend follow (fun other isSome => ?_)
          (effect_count_of_not_call effect call)
        rw [present] at isSome
        rwa [← Option.some.inj isSome]

/-! ### Two fresh confirmations -/

variable (start operations)

/-- Every hand-over of a run is opened by at least the second consecutive confirmation of an
uninterrupted stay exactly when no stay begins with a count so high that its first call, if
it confirms, already opens the hand-over. -/
theorem handover_confirmed_twice_iff :
    (∀ index, (stateAt step start operations index).current.state = .bcMpcFollow →
        (stateAt step start operations (index + 1)).current.state = .handoverNeutral →
        SecondConfirmation start operations index) ↔
      ∀ first index, Uncalled start operations first index →
        ConfirmedAt start operations index →
        (stateAt step start operations first).handoverHysteresisCount + 1 <
          handoverHysteresisThreshold := by
  constructor
  · intro twice first index uncalled confirmedAt
    by_contra notBelow
    have reached := UInt32.not_lt.mp notBelow
    obtain ⟨operation, present, confirms⟩ := confirmedAt
    have follow := uncalled.follows index uncalled.ordered (Nat.le_refl index)
    have opens : (stateAt step start operations (index + 1)).current.state =
        .handoverNeutral := by
      rw [stateAt_succ step start operations present]
      exact step_reached confirms follow (by rwa [uncalled.kept])
    obtain ⟨_, earlier, ordered, ⟨other, isSome, otherConfirms⟩, follows, _⟩ :=
      twice index follow opens
    by_cases within : first ≤ earlier
    · obtain ⟨midConverged, bcPredictedCpaM, isCall, _⟩ := otherConfirms
      exact uncalled.noCall earlier other within ordered isSome
        ⟨midConverged, bcPredictedCpaM, isCall⟩
    · -- the stay would have begun earlier
      obtain ⟨previous, rfl⟩ : ∃ previous, first = previous + 1 :=
        Nat.exists_eq_succ_of_ne_zero (by omega)
      have ordered := uncalled.ordered
      exact uncalled.begins.2 previous rfl (follows previous (by omega) (by omega))
  · intro fresh index follow opens
    have present : ∃ operation, operations[index]? = some operation := by
      cases present : operations[index]? with
      | none =>
        rw [stateAt_succ_of_none step start operations present, follow] at opens
        cases opens
      | some operation => exact ⟨operation, rfl⟩
    obtain ⟨operation, present⟩ := present
    have effect := step_effect (stateAt step start operations index) operation
    rw [← stateAt_succ step start operations present] at effect
    obtain ⟨confirms, reached⟩ := effect_reached effect follow opens
    have confirmedAt : ConfirmedAt start operations index := ⟨operation, present, confirms⟩
    cases progress_of_follow index follow with
    | opening first uncalled =>
      have below := fresh first index uncalled confirmedAt
      rw [← uncalled.kept] at below
      exact absurd reached (UInt32.not_le.mpr below)
    | confirmed earlier ordered confirmed follows noCall =>
      exact ⟨confirmedAt, earlier, ordered, confirmed, follows, noCall⟩
    | cleared zero =>
      rw [zero] at reached
      exact absurd reached (by decide)

end Stays

/-- After a completed hand-over the count stays at two, and the next stay behind BC-MPC is
left by the first call that confirms. -/
theorem handover_opened_by_first_confirmation :
    ¬ ∀ (operations : List Operation) (index : Nat),
        (stateAt step (.construct 45.0 5 3 1852.0) operations index).current.state =
          .bcMpcFollow →
        (stateAt step (.construct 45.0 5 3 1852.0) operations (index + 1)).current.state =
          .handoverNeutral →
        SecondConfirmation (.construct 45.0 5 3 1852.0) operations index := by
  intro twice
  obtain ⟨_, earlier, ordered, _, follows, _⟩ := twice
    [.markBcMpcTakeover, .tryRevise { singleWaypointCandidate with nlpOk := false } 10.0 3,
      .notifyHandoverInputs true 2000.0, .notifyHandoverInputs true 2000.0,
      .notifyHandoverInputs true 2000.0, .markBcMpcTakeover,
      .tryRevise { singleWaypointCandidate with nlpOk := false } 20.0 3,
      .notifyHandoverInputs true 2000.0] 7
    (by decide) (by decide)
  -- the stay of the seventh state begins there
  have before := follows 6 (by omega) (by omega)
  revert before
  decide

end MassL3.M5.CommittedRoute
