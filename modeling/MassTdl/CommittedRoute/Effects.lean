/-
This file says, once for each operation of the committed-route manager, everything that
operation can do. `tryRevise` either passes all its gates, and then the manager it leaves is
`commitCandidate`'s, or it refuses, and then only the lifecycle, its reason and the two
failure counters can differ. The invariants of later files are derived from these statements
and never unfold an operation again.
-/

import MassTdl.CommittedRoute.Manager

namespace MassL3.M5.CommittedRoute

namespace CommittedAvoidanceRoute

variable (route : CommittedAvoidanceRoute) (candidate : CommittedRouteCandidate)
  (nowS : Float) (failures : UInt32)

/-! ### Gates -/

/-- `try_revise` leaves these two states to the hand-over. -/
def HandoverManaged (state : LifecycleState) : Prop :=
  state = .handoverNeutral ∨ state = .finalDegrade

instance (state : LifecycleState) : Decidable (HandoverManaged state) :=
  inferInstanceAs (Decidable (_ ∨ _))

/-- The candidate passes every gate of `try_revise`. -/
structure Accepts : Prop where
  notManaged : ¬ HandoverManaged route.current.state
  noRisk : riskTriggerEvent candidate = ""
  solvedOrHeld : candidate.nlpOk = true ∨ route.current.state = .degradedHold
  preflight : preflightCandidate candidate = true
  keepsPrefix :
    preservesCommittedPrefix route.current.committedPrefix candidate.geometry = true

theorem accepts_iff : route.Accepts candidate ↔
    ¬ HandoverManaged route.current.state ∧ riskTriggerEvent candidate = "" ∧
      (candidate.nlpOk = true ∨ route.current.state = .degradedHold) ∧
      preflightCandidate candidate = true ∧
      preservesCommittedPrefix route.current.committedPrefix candidate.geometry = true :=
  ⟨fun ⟨managed, risk, solved, preflight, kept⟩ => ⟨managed, risk, solved, preflight, kept⟩,
    fun ⟨managed, risk, solved, preflight, kept⟩ => ⟨managed, risk, solved, preflight, kept⟩⟩

instance : Decidable (route.Accepts candidate) :=
  decidable_of_iff' _ (route.accepts_iff candidate)

/-- Where a refused revision may leave the lifecycle: a hand-over state and a degraded hold
stay as they were, every other state settles in one of three. -/
inductive RefusedTo : LifecycleState → LifecycleState → Prop where
  | managed {state : LifecycleState} (managed : HandoverManaged state) : RefusedTo state state
  | degradedHold {state : LifecycleState} (free : ¬ HandoverManaged state) :
      RefusedTo state .degradedHold
  | bcMpcFollow {state : LifecycleState} (free : ¬ HandoverManaged state)
      (notHeld : state ≠ .degradedHold) : RefusedTo state .bcMpcFollow
  | keepLast {state : LifecycleState} (free : ¬ HandoverManaged state)
      (notHeld : state ≠ .degradedHold) : RefusedTo state .keepLast

theorem RefusedTo.ne_candidateEvaluating {before after : LifecycleState}
    (refused : RefusedTo before after) : after ≠ .candidateEvaluating := by
  cases refused with
  | managed managed =>
    rintro rfl
    rcases managed with neutral | final
    · cases neutral
    · cases final
  | degradedHold | bcMpcFollow | keepLast => exact LifecycleState.noConfusion

theorem RefusedTo.ne_committed {before after : LifecycleState}
    (refused : RefusedTo before after) : after ≠ .committed := by
  cases refused with
  | managed managed =>
    rintro rfl
    rcases managed with neutral | final
    · cases neutral
    · cases final
  | degradedHold | bcMpcFollow | keepLast => exact LifecycleState.noConfusion

theorem RefusedTo.eq_of_managed {before after : LifecycleState}
    (refused : RefusedTo before after) (managed : HandoverManaged before) : after = before := by
  cases refused with
  | managed => rfl
  | degradedHold free | bcMpcFollow free | keepLast free => exact absurd managed free

/-- The manager a refused revision leaves behind. -/
def refuse (state : LifecycleState) (event : String) (nlpFailures : UInt32) :
    CommittedAvoidanceRoute :=
  ((route.settle state event).withNlpFailures nlpFailures).withSolverFailures failures

/-! ### `tryRevise` -/

theorem passes_of_solvedOrHeld
    (solvedOrHeld : candidate.nlpOk = true ∨ route.current.state = .degradedHold) :
    (!candidate.nlpOk && !(route.current.state == .degradedHold)) = false := by
  rcases solvedOrHeld with solved | held
  · rw [solved, Bool.not_true, Bool.false_and]
  · rw [beq_iff_eq.mpr held, Bool.not_true, Bool.and_false]

/-- A candidate that passes every gate is committed. -/
theorem tryRevise_of_accepts (accepted : route.Accepts candidate) :
    route.tryRevise candidate nowS failures =
      ((route.withSolverFailures failures).commitCandidate candidate nowS, true) := by
  obtain ⟨managed, risk, solved, preflight, kept⟩ := accepted
  have free : ¬ (route.current.state = .handoverNeutral ∨
      route.current.state = .finalDegrade) := managed
  have passes := passes_of_solvedOrHeld _ _ solved
  unfold tryRevise
  simp only [withSolverFailures_current, withNlpFailures_current, settle_committedPrefix,
    free, risk, ne_eq, not_true_eq_false, if_false, passes, preflight, kept, Bool.not_true,
    Bool.false_eq_true]
  rfl

/-- A hand-over state refuses every candidate and keeps itself. -/
theorem tryRevise_of_managed (managed : HandoverManaged route.current.state) :
    route.tryRevise candidate nowS failures =
      (route.refuse failures route.current.state route.current.safetyConcernEvent
        route.consecutiveNlpFailures, false) := by
  have isManaged : route.current.state = .handoverNeutral ∨
      route.current.state = .finalDegrade := managed
  unfold tryRevise
  simp only [withSolverFailures_current, isManaged, if_true]
  rfl

/-- A risk event refuses the candidate and holds the route degraded. -/
theorem tryRevise_of_risk (managed : ¬ HandoverManaged route.current.state)
    (risk : riskTriggerEvent candidate ≠ "") :
    route.tryRevise candidate nowS failures =
      (route.refuse failures .degradedHold
        (if route.current.state = .degradedHold then route.current.safetyConcernEvent
          else riskTriggerEvent candidate)
        (if candidate.nlpOk then route.consecutiveNlpFailures
          else route.consecutiveNlpFailures + 1), false) := by
  have free : ¬ (route.current.state = .handoverNeutral ∨
      route.current.state = .finalDegrade) := managed
  unfold tryRevise
  simp only [withSolverFailures_current, free, if_false, if_pos risk, preserveDegradedHoldOr,
    beq_iff_eq]
  by_cases held : route.current.state = .degradedHold
  · simp only [if_pos held]
    rfl
  · simp only [if_neg held]
    rfl

/-- An unsolved candidate offered to a route that is not held degraded is refused, and the
third failure in a row escalates. -/
theorem tryRevise_of_unsolved (managed : ¬ HandoverManaged route.current.state)
    (noRisk : riskTriggerEvent candidate = "") (unsolved : candidate.nlpOk = false)
    (notHeld : route.current.state ≠ .degradedHold) :
    route.tryRevise candidate nowS failures =
      (if 3 ≤ max (route.consecutiveNlpFailures + 1) failures then
        if route.bcMpcTakeoverRequested then
          route.refuse failures .bcMpcFollow "bc_mpc_takeover_active"
            (route.consecutiveNlpFailures + 1)
        else
          route.refuse failures .degradedHold "nlp_consecutive_failures_ge_3_no_bcmpc"
            (route.consecutiveNlpFailures + 1)
      else
        route.refuse failures .keepLast route.current.safetyConcernEvent
          (route.consecutiveNlpFailures + 1), false) := by
  have free : ¬ (route.current.state = .handoverNeutral ∨
      route.current.state = .finalDegrade) := managed
  unfold tryRevise
  simp only [withSolverFailures_current, withSolverFailures_consecutiveNlpFailures,
    settle_consecutiveNlpFailures, withNlpFailures_consecutiveNlpFailures, free, noRisk, ne_eq,
    not_true_eq_false, if_false, unsolved, Bool.not_false,
    beq_eq_false_iff_ne.mpr notHeld, Bool.and_true, if_true]
  by_cases escalated : 3 ≤ max (route.consecutiveNlpFailures + 1) failures
  · simp only [escalated, if_true, escalate, settle_bcMpcTakeoverRequested,
      withNlpFailures_bcMpcTakeoverRequested, withSolverFailures_bcMpcTakeoverRequested]
    by_cases takeover : route.bcMpcTakeoverRequested = true
    · simp only [takeover, if_true]
      rfl
    · simp only [takeover, if_false, Bool.false_eq_true]
      rfl
  · simp only [escalated, if_false]
    rfl

/-- A candidate that comes as far as the last two gates and fails one of them is refused; a
route that was held degraded goes back there. -/
theorem tryRevise_of_gate (managed : ¬ HandoverManaged route.current.state)
    (noRisk : riskTriggerEvent candidate = "")
    (solvedOrHeld : candidate.nlpOk = true ∨ route.current.state = .degradedHold)
    (stopped : ¬ (preflightCandidate candidate = true ∧
      preservesCommittedPrefix route.current.committedPrefix candidate.geometry = true)) :
    route.tryRevise candidate nowS failures =
      (if route.current.state = .degradedHold then
        route.refuse failures .degradedHold route.current.safetyConcernEvent
          (if candidate.nlpOk then route.consecutiveNlpFailures else 0)
      else
        route.refuse failures .keepLast
          (if preflightCandidate candidate then "frozen_prefix_conflict"
            else "candidate_preflight_failed")
          (if candidate.nlpOk then route.consecutiveNlpFailures else 0), false) := by
  have free : ¬ (route.current.state = .handoverNeutral ∨
      route.current.state = .finalDegrade) := managed
  have passes := passes_of_solvedOrHeld _ _ solvedOrHeld
  unfold tryRevise
  simp only [withSolverFailures_current, withNlpFailures_current, settle_committedPrefix,
    free, noRisk, ne_eq, not_true_eq_false, if_false, passes, Bool.false_eq_true,
    preserveDegradedHoldOr, beq_iff_eq]
  have broken (preflight : preflightCandidate candidate = true) :
      preservesCommittedPrefix route.current.committedPrefix candidate.geometry ≠ true :=
    fun kept => stopped ⟨preflight, kept⟩
  by_cases held : route.current.state = .degradedHold <;>
    by_cases preflight : preflightCandidate candidate = true
  all_goals
    simp only [held, preflight, Bool.not_true, Bool.not_false, Bool.false_eq_true, if_false,
      if_true]
  · simp only [broken preflight, Bool.not_false, if_true]
    rfl
  · rfl
  · simp only [broken preflight, Bool.not_false, if_true]
    rfl
  · rfl

/-- A candidate stopped at any gate is refused, and what it leaves differs from before in the
lifecycle, its reason and the failure counters alone. A solved candidate leaves the commit
counter as it was. -/
theorem tryRevise_of_not_accepts (refused : ¬ route.Accepts candidate) :
    ∃ state event nlpFailures,
      route.tryRevise candidate nowS failures =
        (route.refuse failures state event nlpFailures, false) ∧
      RefusedTo route.current.state state ∧
      (candidate.nlpOk = true → nlpFailures = route.consecutiveNlpFailures) := by
  by_cases managed : HandoverManaged route.current.state
  · exact ⟨_, _, _, route.tryRevise_of_managed candidate nowS failures managed,
      .managed managed, fun _ => rfl⟩
  by_cases risk : riskTriggerEvent candidate = ""
  case neg =>
    exact ⟨_, _, _, route.tryRevise_of_risk candidate nowS failures managed risk,
      .degradedHold managed, fun solved => if_pos solved⟩
  by_cases held : route.current.state = .degradedHold
  · rw [route.tryRevise_of_gate candidate nowS failures managed risk (.inr held)
      fun passed => refused ⟨managed, risk, .inr held, passed.1, passed.2⟩, if_pos held]
    exact ⟨_, _, _, rfl, .degradedHold managed, fun solved => if_pos solved⟩
  by_cases solved : candidate.nlpOk = true
  · rw [route.tryRevise_of_gate candidate nowS failures managed risk (.inl solved)
      fun passed => refused ⟨managed, risk, .inl solved, passed.1, passed.2⟩, if_neg held]
    exact ⟨_, _, _, rfl, .keepLast managed held, fun _ => if_pos solved⟩
  · rw [route.tryRevise_of_unsolved candidate nowS failures managed risk
      (Bool.eq_false_iff.mpr solved) held]
    split
    · split
      · exact ⟨_, _, _, rfl, .bcMpcFollow managed held, fun isSolved => absurd isSolved solved⟩
      · exact ⟨_, _, _, rfl, .degradedHold managed, fun isSolved => absurd isSolved solved⟩
    · exact ⟨_, _, _, rfl, .keepLast managed held, fun isSolved => absurd isSolved solved⟩

/-- The answer of `tryRevise` is whether every gate was passed. -/
theorem tryRevise_snd :
    (route.tryRevise candidate nowS failures).2 = decide (route.Accepts candidate) := by
  by_cases accepted : route.Accepts candidate
  · rw [route.tryRevise_of_accepts candidate nowS failures accepted, decide_eq_true accepted]
  · obtain ⟨state, event, nlpFailures, result, _⟩ :=
      route.tryRevise_of_not_accepts candidate nowS failures accepted
    rw [result, decide_eq_false accepted]

theorem tryRevise_snd_eq_true_iff :
    (route.tryRevise candidate nowS failures).2 = true ↔ route.Accepts candidate := by
  rw [tryRevise_snd, decide_eq_true_iff]

/-! ### What a commit leaves -/

/-- A candidate's waypoints replace the active ones exactly when its hash differs. -/
def geometryChanged (candidate : CommittedRouteCandidate) : Bool :=
  route.current.activeGeometry.isEmpty ||
    hashGeometry candidate.geometry != route.current.routeHash

@[simp] theorem commitCandidate_state :
    (route.commitCandidate candidate nowS).current.state = .committed := rfl

theorem commitCandidate_activeGeometry :
    (route.commitCandidate candidate nowS).current.activeGeometry =
      if route.geometryChanged candidate then candidate.geometry
      else route.current.activeGeometry := rfl

theorem commitCandidate_committedPrefix :
    (route.commitCandidate candidate nowS).current.committedPrefix =
      (route.commitCandidate candidate nowS).current.activeGeometry.take
        (min candidate.frozenPrefixCount
          (route.commitCandidate candidate nowS).current.activeGeometry.length) := rfl

/-- The frozen prefix is the requested slice, cut off where the waypoints end. -/
theorem commitCandidate_committedPrefix_eq_take :
    (route.commitCandidate candidate nowS).current.committedPrefix =
      (route.commitCandidate candidate nowS).current.activeGeometry.take
        candidate.frozenPrefixCount := by
  rw [commitCandidate_committedPrefix, List.take_eq_take_iff, Nat.min_assoc,
    Nat.min_self]

/-- The active waypoints after a commit are the candidate's or the ones before. -/
theorem commitCandidate_activeGeometry_cases :
    (route.commitCandidate candidate nowS).current.activeGeometry = candidate.geometry ∨
      route.current.activeGeometry ≠ [] ∧
        (route.commitCandidate candidate nowS).current.activeGeometry =
          route.current.activeGeometry := by
  rw [commitCandidate_activeGeometry]
  by_cases changed : route.geometryChanged candidate = true
  · exact .inl (if_pos changed)
  · refine .inr ⟨fun empty => changed ?_, if_neg changed⟩
    rw [geometryChanged, empty, List.isEmpty_nil, Bool.true_or]

/-! ### `heartbeat` -/

/-- What a heartbeat writes: the payload's identity and its age, never its waypoints. -/
def revive (planId : String) (validUntilS nowS : Float) : CommittedAvoidanceRoute :=
  { route with
    current :=
      { route.current with
        planId := planId
        validUntilS := validUntilS
        staleCommittedAtS := nowS
        state := .committed
        safetyConcernEvent := "" } }

@[simp] theorem revive_state (planId : String) (validUntilS : Float) :
    (route.revive planId validUntilS nowS).current.state = .committed := rfl

theorem heartbeat_of_empty (planId : String) (validUntilS : Float)
    (empty : route.current.activeGeometry = []) :
    route.heartbeat planId validUntilS nowS = (route, false) := by
  unfold heartbeat
  rw [if_pos (Or.inl (by rw [empty]; rfl))]

theorem heartbeat_of_held (planId : String) (validUntilS : Float)
    (held : route.current.state = .degradedHold) :
    route.heartbeat planId validUntilS nowS = (route, false) := by
  unfold heartbeat
  rw [if_pos (Or.inr held)]

theorem heartbeat_of_live (planId : String) (validUntilS : Float)
    (active : route.current.activeGeometry ≠ [])
    (notHeld : route.current.state ≠ .degradedHold) :
    route.heartbeat planId validUntilS nowS = (route.revive planId validUntilS nowS, true) := by
  unfold heartbeat
  rw [if_neg]
  · rfl
  · rw [List.isEmpty_iff]
    exact fun blocked => blocked.elim active notHeld

/-! ### `shouldEnterDegradedHold` -/

/-- The states `should_enter_degraded_hold` leaves alone. -/
def HoldExempt (state : LifecycleState) : Prop :=
  state = .degradedHold ∨ state = .bcMpcFollow ∨ HandoverManaged state

theorem shouldEnterDegradedHold_of_exempt (exempt : HoldExempt route.current.state) :
    (route.shouldEnterDegradedHold nowS).1 = route := by
  unfold shouldEnterDegradedHold
  rcases exempt with held | follow | neutral | final
  · simp only [held, if_true]
    split <;> rfl
  · simp only [follow, reduceCtorEq, if_true, if_false, ite_self]
  · simp only [neutral, reduceCtorEq, if_true, if_false, ite_self]
  · simp only [final, reduceCtorEq, if_true, if_false, ite_self]

/-- The staleness check moves the lifecycle of a committed route that is not exempt to a hold
or behind BC-MPC, and does nothing else. -/
theorem shouldEnterDegradedHold_cases :
    (route.shouldEnterDegradedHold nowS).1 = route ∨
      route.current.activeGeometry ≠ [] ∧ ¬ HoldExempt route.current.state ∧
        ∃ state event, (route.shouldEnterDegradedHold nowS).1 = route.settle state event ∧
          (state = .degradedHold ∨ state = .bcMpcFollow) := by
  by_cases exempt : HoldExempt route.current.state
  · exact .inl (route.shouldEnterDegradedHold_of_exempt nowS exempt)
  by_cases empty : route.current.activeGeometry.isEmpty = true
  · left
    simp only [shouldEnterDegradedHold, empty, if_true]
  have held : ¬ route.current.state = .degradedHold := fun held => exempt (.inl held)
  have follow : ¬ route.current.state = .bcMpcFollow := fun follow => exempt (.inr (.inl follow))
  have neutral : ¬ route.current.state = .handoverNeutral :=
    fun neutral => exempt (.inr (.inr (.inl neutral)))
  have final : ¬ route.current.state = .finalDegrade :=
    fun final => exempt (.inr (.inr (.inr final)))
  have active : route.current.activeGeometry ≠ [] := by rwa [List.isEmpty_iff] at empty
  simp only [shouldEnterDegradedHold, empty, held, follow, neutral, final, if_false,
    Bool.false_eq_true]
  split
  · exact .inr ⟨active, exempt, _, _, rfl, .inl rfl⟩
  split
  · unfold escalate
    split
    · exact .inr ⟨active, exempt, _, _, rfl, .inr rfl⟩
    · exact .inr ⟨active, exempt, _, _, rfl, .inl rfl⟩
  split
  · exact .inr ⟨active, exempt, _, _, rfl, .inl rfl⟩
  split
  · exact .inr ⟨active, exempt, _, _, rfl, .inl rfl⟩
  split
  · exact .inr ⟨active, exempt, _, _, rfl, .inl rfl⟩
  · exact .inl rfl

/-! ### `notifyHandoverInputs` -/

section Handover

variable (midConverged : Bool) (bcPredictedCpaM : Float)

/-- A hand-over whose audit cycle still meets both conditions is completed. -/
theorem notifyHandoverInputs_of_completed (neutral : route.current.state = .handoverNeutral)
    (met : route.dualConditionMet midConverged bcPredictedCpaM = true) :
    route.notifyHandoverInputs midConverged bcPredictedCpaM =
      { route.settle .committed "" with bcMpcTakeoverRequested := false } := by
  unfold notifyHandoverInputs
  rw [if_pos neutral, if_pos met]

/-- A hand-over whose audit cycle fails a condition goes back behind BC-MPC. -/
theorem notifyHandoverInputs_of_broken (neutral : route.current.state = .handoverNeutral)
    (broken : route.dualConditionMet midConverged bcPredictedCpaM = false) :
    route.notifyHandoverInputs midConverged bcPredictedCpaM =
      { route.settle .bcMpcFollow "bc_mpc_takeover_active" with
        handoverHysteresisCount := 0 } := by
  unfold notifyHandoverInputs
  rw [if_pos neutral, broken, if_neg Bool.false_ne_true]

theorem notifyHandoverInputs_of_follow (follow : route.current.state = .bcMpcFollow) :
    route.notifyHandoverInputs midConverged bcPredictedCpaM =
      (route.handoverHysteresis
        (route.dualConditionMet midConverged bcPredictedCpaM)).trackMidUnrecovered
          midConverged := by
  unfold notifyHandoverInputs
  rw [if_neg (by rw [follow]; decide), if_pos follow]

/-- Outside the two hand-over states only the convergence counter moves. -/
theorem notifyHandoverInputs_of_other (notNeutral : route.current.state ≠ .handoverNeutral)
    (notFollow : route.current.state ≠ .bcMpcFollow) :
    route.notifyHandoverInputs midConverged bcPredictedCpaM =
      route.trackMidUnrecovered midConverged := by
  unfold notifyHandoverInputs
  rw [if_neg notNeutral, if_neg notFollow]

@[simp] theorem trackMidUnrecovered_current :
    (route.trackMidUnrecovered midConverged).current = route.current := rfl

/-- A confirmation that reaches the threshold opens the audit state. -/
theorem handoverHysteresis_of_reached
    (reached : handoverHysteresisThreshold ≤ route.handoverHysteresisCount + 1) :
    route.handoverHysteresis true =
      { route.settle .handoverNeutral "bc_handover_neutral" with
        handoverHysteresisCount := route.handoverHysteresisCount + 1 } := by
  unfold handoverHysteresis
  simp only [if_true, ge_iff_le, reached]
  rfl

/-- A confirmation below the threshold is counted. -/
theorem handoverHysteresis_of_below
    (below : ¬ handoverHysteresisThreshold ≤ route.handoverHysteresisCount + 1) :
    route.handoverHysteresis true =
      { route with handoverHysteresisCount := route.handoverHysteresisCount + 1 } := by
  unfold handoverHysteresis
  simp only [if_true, ge_iff_le, below, if_false]

/-- A call that does not confirm clears the count. -/
theorem handoverHysteresis_of_broken :
    route.handoverHysteresis false = { route with handoverHysteresisCount := 0 } := by
  unfold handoverHysteresis
  rw [if_neg Bool.false_ne_true]
  split
  · rfl
  · next notPositive =>
    have zero : route.handoverHysteresisCount = 0 := by
      rwa [gt_iff_lt, UInt32.not_lt, UInt32.le_zero_iff] at notPositive
    rw [← zero]

end Handover

/-! ### One operation -/

/-- What an operation can make of a manager, with the guards it was let through by. Facts
about all operations are proved by cases on it. -/
inductive Effect (route : CommittedAvoidanceRoute) :
    Operation → CommittedAvoidanceRoute → Prop where
  | accepted (candidate : CommittedRouteCandidate) (nowS : Float) (failures : UInt32)
      (accepted : route.Accepts candidate) :
      Effect route (.tryRevise candidate nowS failures)
        ((route.withSolverFailures failures).commitCandidate candidate nowS)
  | refused (candidate : CommittedRouteCandidate) (nowS : Float) (failures : UInt32)
      (state : LifecycleState) (event : String) (nlpFailures : UInt32)
      (notAccepted : ¬ route.Accepts candidate)
      (refused : RefusedTo route.current.state state) :
      Effect route (.tryRevise candidate nowS failures)
        (route.refuse failures state event nlpFailures)
  | revived (planId : String) (validUntilS nowS : Float)
      (active : route.current.activeGeometry ≠ [])
      (notHeld : route.current.state ≠ .degradedHold) :
      Effect route (.heartbeat planId validUntilS nowS)
        (route.revive planId validUntilS nowS)
  | silent (planId : String) (validUntilS nowS : Float)
      (blocked : route.current.activeGeometry = [] ∨ route.current.state = .degradedHold) :
      Effect route (.heartbeat planId validUntilS nowS) route
  | held (nowS : Float) (state : LifecycleState) (event : String)
      (active : route.current.activeGeometry ≠ []) (exempt : ¬ HoldExempt route.current.state)
      (reached : state = .degradedHold ∨ state = .bcMpcFollow) :
      Effect route (.shouldEnterDegradedHold nowS) (route.settle state event)
  | notHeld (nowS : Float) : Effect route (.shouldEnterDegradedHold nowS) route
  | takeover : Effect route .markBcMpcTakeover route.markBcMpcTakeover
  | solver (failures : UInt32) :
      Effect route (.notifySolverConsecutiveFailures failures)
        (route.notifySolverConsecutiveFailures failures)
  | health (count : UInt32) (worstCaseCpaM : Float) (overrideActive : Bool) :
      Effect route (.notifyBcMpcHealth count worstCaseCpaM overrideActive)
        (route.notifyBcMpcHealth count worstCaseCpaM overrideActive)
  | completed (midConverged : Bool) (bcPredictedCpaM : Float)
      (neutral : route.current.state = .handoverNeutral)
      (met : route.dualConditionMet midConverged bcPredictedCpaM = true) :
      Effect route (.notifyHandoverInputs midConverged bcPredictedCpaM)
        { route.settle .committed "" with bcMpcTakeoverRequested := false }
  | broken (midConverged : Bool) (bcPredictedCpaM : Float)
      (neutral : route.current.state = .handoverNeutral)
      (broken : route.dualConditionMet midConverged bcPredictedCpaM = false) :
      Effect route (.notifyHandoverInputs midConverged bcPredictedCpaM)
        { route.settle .bcMpcFollow "bc_mpc_takeover_active" with handoverHysteresisCount := 0 }
  | reached (midConverged : Bool) (bcPredictedCpaM : Float)
      (follow : route.current.state = .bcMpcFollow)
      (met : route.dualConditionMet midConverged bcPredictedCpaM = true)
      (reached : handoverHysteresisThreshold ≤ route.handoverHysteresisCount + 1) :
      Effect route (.notifyHandoverInputs midConverged bcPredictedCpaM)
        (({ route.settle .handoverNeutral "bc_handover_neutral" with
            handoverHysteresisCount :=
              route.handoverHysteresisCount + 1 } : CommittedAvoidanceRoute).trackMidUnrecovered
          midConverged)
  | counted (midConverged : Bool) (bcPredictedCpaM : Float)
      (follow : route.current.state = .bcMpcFollow)
      (met : route.dualConditionMet midConverged bcPredictedCpaM = true)
      (below : ¬ handoverHysteresisThreshold ≤ route.handoverHysteresisCount + 1) :
      Effect route (.notifyHandoverInputs midConverged bcPredictedCpaM)
        (({ route with
            handoverHysteresisCount :=
              route.handoverHysteresisCount + 1 } : CommittedAvoidanceRoute).trackMidUnrecovered
          midConverged)
  | uncounted (midConverged : Bool) (bcPredictedCpaM : Float)
      (follow : route.current.state = .bcMpcFollow)
      (broken : route.dualConditionMet midConverged bcPredictedCpaM = false) :
      Effect route (.notifyHandoverInputs midConverged bcPredictedCpaM)
        (({ route with handoverHysteresisCount := 0 } :
            CommittedAvoidanceRoute).trackMidUnrecovered midConverged)
  | tracked (midConverged : Bool) (bcPredictedCpaM : Float)
      (notNeutral : route.current.state ≠ .handoverNeutral)
      (notFollow : route.current.state ≠ .bcMpcFollow) :
      Effect route (.notifyHandoverInputs midConverged bcPredictedCpaM)
        (route.trackMidUnrecovered midConverged)
  | finalDegrade : Effect route .enterFinalDegrade route.enterFinalDegrade

end CommittedAvoidanceRoute

open CommittedAvoidanceRoute

theorem handover_effect (route : CommittedAvoidanceRoute) (midConverged : Bool)
    (bcPredictedCpaM : Float) :
    Effect route (.notifyHandoverInputs midConverged bcPredictedCpaM)
      (route.notifyHandoverInputs midConverged bcPredictedCpaM) := by
  by_cases neutral : route.current.state = .handoverNeutral
  · cases met : route.dualConditionMet midConverged bcPredictedCpaM with
    | true =>
      rw [route.notifyHandoverInputs_of_completed midConverged bcPredictedCpaM neutral met]
      exact .completed midConverged bcPredictedCpaM neutral met
    | false =>
      rw [route.notifyHandoverInputs_of_broken midConverged bcPredictedCpaM neutral met]
      exact .broken midConverged bcPredictedCpaM neutral met
  by_cases follow : route.current.state = .bcMpcFollow
  · rw [route.notifyHandoverInputs_of_follow midConverged bcPredictedCpaM follow]
    cases met : route.dualConditionMet midConverged bcPredictedCpaM with
    | true =>
      by_cases reached : handoverHysteresisThreshold ≤ route.handoverHysteresisCount + 1
      · rw [route.handoverHysteresis_of_reached reached]
        exact .reached midConverged bcPredictedCpaM follow met reached
      · rw [route.handoverHysteresis_of_below reached]
        exact .counted midConverged bcPredictedCpaM follow met reached
    | false =>
      rw [route.handoverHysteresis_of_broken]
      exact .uncounted midConverged bcPredictedCpaM follow met
  · rw [route.notifyHandoverInputs_of_other midConverged bcPredictedCpaM neutral follow]
    exact .tracked midConverged bcPredictedCpaM neutral follow

/-- Every step has one of the listed effects. -/
theorem step_effect (route : CommittedAvoidanceRoute) (operation : Operation) :
    Effect route operation (step route operation) := by
  cases operation with
  | tryRevise candidate nowS failures =>
    by_cases accepted : route.Accepts candidate
    · rw [step, route.tryRevise_of_accepts candidate nowS failures accepted]
      exact .accepted candidate nowS failures accepted
    · obtain ⟨state, event, nlpFailures, result, refused, _⟩ :=
        route.tryRevise_of_not_accepts candidate nowS failures accepted
      rw [step, result]
      exact .refused candidate nowS failures state event nlpFailures accepted refused
  | heartbeat planId validUntilS nowS =>
    by_cases empty : route.current.activeGeometry = []
    · rw [step, route.heartbeat_of_empty nowS planId validUntilS empty]
      exact .silent planId validUntilS nowS (.inl empty)
    by_cases held : route.current.state = .degradedHold
    · rw [step, route.heartbeat_of_held nowS planId validUntilS held]
      exact .silent planId validUntilS nowS (.inr held)
    · rw [step, route.heartbeat_of_live nowS planId validUntilS empty held]
      exact .revived planId validUntilS nowS empty held
  | shouldEnterDegradedHold nowS =>
    rcases route.shouldEnterDegradedHold_cases nowS with same |
      ⟨active, exempt, state, event, moved, reached⟩
    · rw [step, same]
      exact .notHeld nowS
    · rw [step, moved]
      exact .held nowS state event active exempt reached
  | markBcMpcTakeover => exact .takeover
  | notifySolverConsecutiveFailures failures => exact .solver failures
  | notifyBcMpcHealth count worstCaseCpaM overrideActive =>
    exact .health count worstCaseCpaM overrideActive
  | notifyHandoverInputs midConverged bcPredictedCpaM =>
    exact handover_effect route midConverged bcPredictedCpaM
  | enterFinalDegrade => exact .finalDegrade

end MassL3.M5.CommittedRoute
