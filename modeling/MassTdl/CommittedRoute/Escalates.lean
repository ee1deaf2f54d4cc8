/-
This file compares the two operations that escalate. A revision that is refused for an unsolved
candidate counts the failure and looks at the solver count it is given; the staleness check looks
at the counts that are stored. At three failures both follow BC-MPC if a take-over is requested
and hold the route degraded otherwise, and neither ever keeps the last route. They differ in one
guard. The staleness check asks for the age of the route first, and a route past its limit is held
degraded whatever has been requested.

It is also about the counter of cycles in which Mid-MPC has not recovered. It is written by the
last step of a hand-over call, behind the audit of `HandoverNeutral`, which returns before it. A
call that is consumed by the audit is therefore not counted. That goes unnoticed while the call is
told of a converged solver: `HandoverNeutral` is entered by such a call alone, so the counter is
zero there. A call that is told the contrary is lost.
-/

import MassTdl.CommittedRoute.Lifecycle
import Mathlib.Algebra.Group.Nat.Defs
import Mathlib.Data.List.DropRight

namespace MassL3.M5.CommittedRoute

open Runs CommittedAvoidanceRoute

namespace CommittedAvoidanceRoute

/-! ### Both operations -/

instance (state : LifecycleState) : Decidable (HoldExempt state) :=
  inferInstanceAs (Decidable (_ ∨ _ ∨ _))

variable (route : CommittedAvoidanceRoute)

/-- Where three failures lead. -/
def escalated : LifecycleState :=
  if route.bcMpcTakeoverRequested then .bcMpcFollow else .degradedHold

theorem escalate_state : route.escalate.current.state = route.escalated := by
  unfold escalate escalated
  split <;> rfl

/-- The route is older than its limit. -/
def PastStaleLimit (nowS : Float) : Prop :=
  nowS - route.current.staleCommittedAtS > route.staleRouteMaxAgeS

instance (nowS : Float) : Decidable (route.PastStaleLimit nowS) :=
  inferInstanceAs (Decidable (_ > _))

variable {route}

/-- The third failure of a revision. -/
theorem tryRevise_escalates {candidate : CommittedRouteCandidate} (nowS : Float)
    {failures : UInt32} (free : ¬ HandoverManaged route.current.state)
    (notHeld : route.current.state ≠ .degradedHold) (noRisk : riskTriggerEvent candidate = "")
    (unsolved : candidate.nlpOk = false)
    (third : 3 ≤ max (route.consecutiveNlpFailures + 1) failures) :
    (route.tryRevise candidate nowS failures).2 = false ∧
      (route.tryRevise candidate nowS failures).1.current.state = route.escalated := by
  rw [route.tryRevise_of_unsolved candidate nowS failures free noRisk unsolved notHeld,
    if_pos third]
  refine ⟨rfl, ?_⟩
  unfold escalated
  by_cases takeover : route.bcMpcTakeoverRequested = true
  · rw [if_pos takeover, if_pos takeover]
    rfl
  · rw [if_neg takeover, if_neg takeover]
    rfl

/-- The staleness check of a route that is not exempt from it, up to the triggers. -/
theorem shouldEnterDegradedHold_of_free {nowS : Float}
    (active : route.current.activeGeometry ≠ []) (free : ¬ HoldExempt route.current.state)
    (concerned : route.PastStaleLimit nowS ∨
      3 ≤ max route.consecutiveNlpFailures route.lastSolverConsecutiveFailures) :
    route.shouldEnterDegradedHold nowS =
      (if route.PastStaleLimit nowS then route.enterDegradedHold "committed_route_stale_gt_45s"
      else route.escalate, true) := by
  have empty : ¬ route.current.activeGeometry.isEmpty = true := by rwa [List.isEmpty_iff]
  have held : ¬ route.current.state = .degradedHold := fun held => free (.inl held)
  have follow : ¬ route.current.state = .bcMpcFollow := fun follow => free (.inr (.inl follow))
  have neutral : ¬ route.current.state = .handoverNeutral :=
    fun neutral => free (.inr (.inr (.inl neutral)))
  have final : ¬ route.current.state = .finalDegrade :=
    fun final => free (.inr (.inr (.inr final)))
  unfold shouldEnterDegradedHold
  rw [if_neg empty, if_neg held, if_neg follow, if_neg neutral, if_neg final]
  by_cases stale : route.PastStaleLimit nowS
  · rw [if_pos stale]
    exact if_pos stale
  · rw [if_neg stale]
    exact (if_neg stale).trans (if_pos (concerned.resolve_left stale))

end CommittedAvoidanceRoute

/-- Both operations escalate alike, behind the stale limit of the second. -/
theorem escalation_agrees (route : CommittedAvoidanceRoute) :
    (∀ candidate nowS failures, ¬ HandoverManaged route.current.state →
        route.current.state ≠ .degradedHold → riskTriggerEvent candidate = "" →
        candidate.nlpOk = false → 3 ≤ max (route.consecutiveNlpFailures + 1) failures →
        (route.tryRevise candidate nowS failures).2 = false ∧
          (route.tryRevise candidate nowS failures).1.current.state = route.escalated) ∧
      ∀ nowS, route.current.activeGeometry ≠ [] → ¬ HoldExempt route.current.state →
        3 ≤ max route.consecutiveNlpFailures route.lastSolverConsecutiveFailures →
        (route.shouldEnterDegradedHold nowS).2 = true ∧
          (route.shouldEnterDegradedHold nowS).1.current.state =
            if route.PastStaleLimit nowS then .degradedHold else route.escalated := by
  refine ⟨fun candidate nowS failures free notHeld noRisk unsolved third =>
    tryRevise_escalates nowS free notHeld noRisk unsolved third,
    fun nowS active free third => ?_⟩
  rw [shouldEnterDegradedHold_of_free active free (.inr third)]
  refine ⟨rfl, ?_⟩
  by_cases stale : route.PastStaleLimit nowS
  · rw [if_pos stale, if_pos stale]
    rfl
  · rw [if_neg stale, if_neg stale, escalate_state]

/-- A plan is committed, a take-over is requested and the solver reports its third failure: the
next unsolved candidate and the next staleness check both leave the route to BC-MPC. -/
theorem escalation_agrees_takeover :
    (((run step (.construct 45.0 5 3 1852.0) [.tryRevise singleWaypointCandidate 10.0 0,
        .markBcMpcTakeover, .notifySolverConsecutiveFailures 3]).tryRevise
      { singleWaypointCandidate with nlpOk := false } 20.0 3).2 = false ∧
      ((run step (.construct 45.0 5 3 1852.0) [.tryRevise singleWaypointCandidate 10.0 0,
          .markBcMpcTakeover, .notifySolverConsecutiveFailures 3]).tryRevise
        { singleWaypointCandidate with nlpOk := false } 20.0 3).1.current.state = .bcMpcFollow) ∧
      ((run step (.construct 45.0 5 3 1852.0) [.tryRevise singleWaypointCandidate 10.0 0,
          .markBcMpcTakeover, .notifySolverConsecutiveFailures 3]).shouldEnterDegradedHold
        20.0).2 = true ∧
      ((run step (.construct 45.0 5 3 1852.0) [.tryRevise singleWaypointCandidate 10.0 0,
          .markBcMpcTakeover, .notifySolverConsecutiveFailures 3]).shouldEnterDegradedHold
        20.0).1.current.state = .bcMpcFollow := by
  obtain ⟨revision, check⟩ := escalation_agrees
    (run step (.construct 45.0 5 3 1852.0) [.tryRevise singleWaypointCandidate 10.0 0,
      .markBcMpcTakeover, .notifySolverConsecutiveFailures 3])
  exact ⟨revision _ 20.0 3 (by decide) (by decide) (by decide) rfl (by decide),
    check 20.0 (by decide) (by decide) (by decide)⟩

/-- The same route, checked when it is fifty seconds old, is held degraded although the take-over
is requested. -/
theorem stale_route_held_despite_takeover :
    ¬ ∀ (route : CommittedAvoidanceRoute) (nowS : Float), Reachable route →
        route.current.activeGeometry ≠ [] → ¬ HoldExempt route.current.state →
        3 ≤ max route.consecutiveNlpFailures route.lastSolverConsecutiveFailures →
        (route.shouldEnterDegradedHold nowS).1.current.state = route.escalated := by
  intro agrees
  have follows := agrees
    (run step (.construct 45.0 5 3 1852.0) [.tryRevise singleWaypointCandidate 10.0 0,
      .markBcMpcTakeover, .notifySolverConsecutiveFailures 3]) 60.0
    ⟨45.0, 5, 3, 1852.0, _, rfl⟩ (by decide) (by decide) (by decide)
  revert follows
  decide

/-! ### What the counter says -/

/-- What a hand-over call is told of Mid-MPC. -/
def toldConverged : Operation → Option Bool
  | .notifyHandoverInputs midConverged _ => some midConverged
  | _ => none

/-- The hand-over calls among some operations. -/
def handoverCalls (operations : List Operation) : List Bool :=
  operations.filterMap toldConverged

/-- The length of the maximal trailing run of calls without convergence. -/
def unrecoveredCalls (operations : List Operation) : Nat :=
  ((handoverCalls operations).rtakeWhile fun midConverged => !midConverged).length

/-- The counter and the flag next to it say what the calls so far have told. -/
structure CountsUnrecovered (operations : List Operation) (route : CommittedAvoidanceRoute) :
    Prop where
  count : route.midUnrecoveredCount.toNat = unrecoveredCalls operations
  last : ∀ midConverged, (handoverCalls operations).getLast? = some midConverged →
    route.lastMidConverged = midConverged

variable {operation : Operation}

section Calls

variable (operations : List Operation)

theorem handoverCalls_concat_call (midConverged : Bool) (bcPredictedCpaM : Float) :
    handoverCalls (operations ++ [.notifyHandoverInputs midConverged bcPredictedCpaM]) =
      handoverCalls operations ++ [midConverged] := by
  unfold handoverCalls
  rw [List.filterMap_append]
  rfl

theorem handoverCalls_concat_other (notCall : toldConverged operation = none) :
    handoverCalls (operations ++ [operation]) = handoverCalls operations := by
  unfold handoverCalls
  rw [List.filterMap_append, List.filterMap_cons_none notCall, List.filterMap_nil,
    List.append_nil]

/-- A call without convergence prolongs the run, a call with convergence ends it. -/
theorem unrecoveredCalls_concat_call (midConverged : Bool) (bcPredictedCpaM : Float) :
    unrecoveredCalls (operations ++ [.notifyHandoverInputs midConverged bcPredictedCpaM]) =
      if midConverged then 0 else unrecoveredCalls operations + 1 := by
  unfold unrecoveredCalls
  rw [handoverCalls_concat_call, List.rtakeWhile_concat]
  cases midConverged with
  | true => rfl
  | false => simp

theorem unrecoveredCalls_concat_other (notCall : toldConverged operation = none) :
    unrecoveredCalls (operations ++ [operation]) = unrecoveredCalls operations := by
  unfold unrecoveredCalls
  rw [handoverCalls_concat_other operations notCall]

end Calls

/-! ### One operation -/

section Steps

variable {route : CommittedAvoidanceRoute}

/-- No other operation writes the counter or the flag. -/
theorem step_midUnrecovered_of_other (notCall : toldConverged operation = none) :
    (step route operation).midUnrecoveredCount = route.midUnrecoveredCount ∧
      (step route operation).lastMidConverged = route.lastMidConverged := by
  have effect := step_effect route operation
  generalize step route operation = after at effect ⊢
  cases effect with
  | completed | broken | reached | counted | uncounted | tracked => cases notCall
  | _ => exact ⟨rfl, rfl⟩

/-- The audit of `HandoverNeutral` returns before the counter. -/
theorem notifyHandoverInputs_midUnrecovered_of_neutral (midConverged : Bool)
    (bcPredictedCpaM : Float) (neutral : route.current.state = .handoverNeutral) :
    (route.notifyHandoverInputs midConverged bcPredictedCpaM).midUnrecoveredCount =
        route.midUnrecoveredCount ∧
      (route.notifyHandoverInputs midConverged bcPredictedCpaM).lastMidConverged =
        route.lastMidConverged := by
  unfold notifyHandoverInputs
  rw [if_pos neutral]
  split <;> exact ⟨rfl, rfl⟩

/-- Everywhere else the call is counted. -/
theorem notifyHandoverInputs_midUnrecovered_of_other (midConverged : Bool)
    (bcPredictedCpaM : Float) (notNeutral : route.current.state ≠ .handoverNeutral) :
    (route.notifyHandoverInputs midConverged bcPredictedCpaM).midUnrecoveredCount =
        (if midConverged then 0 else route.midUnrecoveredCount + 1) ∧
      (route.notifyHandoverInputs midConverged bcPredictedCpaM).lastMidConverged =
        midConverged := by
  have effect := handover_effect route midConverged bcPredictedCpaM
  generalize route.notifyHandoverInputs midConverged bcPredictedCpaM = after at effect ⊢
  cases effect with
  | completed _ _ neutral | broken _ _ neutral => exact absurd neutral notNeutral
  | reached | counted | uncounted | tracked => exact ⟨rfl, rfl⟩

/-- `HandoverNeutral` is entered by a call that is told of convergence, and nothing else is
counted in it. -/
def ClearInNeutral (route : CommittedAvoidanceRoute) : Prop :=
  route.current.state = .handoverNeutral →
    route.midUnrecoveredCount = 0 ∧ route.lastMidConverged = true

theorem effect_clearInNeutral {after : CommittedAvoidanceRoute}
    (effect : Effect route operation after) (clear : ClearInNeutral route) :
    ClearInNeutral after := by
  intro neutral
  cases effect with
  | refused candidate nowS failures state event nlpFailures notAccepted refused =>
    have managed : HandoverManaged state := .inl neutral
    cases refused with
    | managed => exact clear neutral
    | degradedHold | bcMpcFollow | keepLast => cases neutral
  | reached midConverged bcPredictedCpaM follow met =>
    have converged : midConverged = true := (Bool.and_eq_true_iff.mp met).1
    subst converged
    exact ⟨rfl, rfl⟩
  | counted _ _ follow | uncounted _ _ follow =>
    exact absurd (follow.symm.trans neutral) (by decide)
  | tracked _ _ notNeutral => exact absurd neutral notNeutral
  | held nowS state event active exempt reached =>
    obtain rfl | rfl := reached
    · cases neutral
    · cases neutral
  | accepted | revived | completed | broken | finalDegrade => cases neutral
  | silent | notHeld | takeover | solver | health => exact clear neutral

end Steps

/-! ### Runs -/

section Runs

variable (staleRouteMaxAgeS : Float) (bcFinalDegradeThreshold midUnrecoveredThreshold : UInt32)
  (cpaSafeM : Float) (operations : List Operation)

/-- The manager after the first operations of a run that begins with its construction. -/
def managerAt (count : Nat) : CommittedAvoidanceRoute :=
  stateAt step (.construct staleRouteMaxAgeS bcFinalDegradeThreshold midUnrecoveredThreshold
    cpaSafeM) operations count

theorem managerAt_succ {index : Nat} (present : operations[index]? = some operation) :
    managerAt staleRouteMaxAgeS bcFinalDegradeThreshold midUnrecoveredThreshold cpaSafeM
        operations (index + 1) =
      step (managerAt staleRouteMaxAgeS bcFinalDegradeThreshold midUnrecoveredThreshold cpaSafeM
        operations index) operation :=
  stateAt_succ step _ operations present

theorem managerAt_clearInNeutral (count : Nat) :
    ClearInNeutral (managerAt staleRouteMaxAgeS bcFinalDegradeThreshold midUnrecoveredThreshold
      cpaSafeM operations count) :=
  stateAt_invariant ClearInNeutral (fun neutral => by cases neutral)
    (fun _ _ _ => effect_clearInNeutral (step_effect _ _)) count

/-- A call that is counted, or one that has nothing to count, keeps the counter right. -/
theorem CountsUnrecovered.call {earlier : List Operation} {route : CommittedAvoidanceRoute}
    (counts : CountsUnrecovered earlier route) (clear : ClearInNeutral route)
    {midConverged : Bool} {bcPredictedCpaM : Float}
    (counted : midConverged = false → route.current.state ≠ .handoverNeutral)
    (fits : unrecoveredCalls
      (earlier ++ [.notifyHandoverInputs midConverged bcPredictedCpaM]) < 2 ^ 32) :
    CountsUnrecovered (earlier ++ [.notifyHandoverInputs midConverged bcPredictedCpaM])
      (route.notifyHandoverInputs midConverged bcPredictedCpaM) := by
  have last : ∀ told, (handoverCalls
      (earlier ++ [.notifyHandoverInputs midConverged bcPredictedCpaM])).getLast? = some told →
      midConverged = told := by
    intro told isLast
    rw [handoverCalls_concat_call, List.getLast?_concat] at isLast
    exact Option.some.inj isLast
  rw [unrecoveredCalls_concat_call] at fits
  by_cases neutral : route.current.state = .handoverNeutral
  · obtain rfl : midConverged = true := by
      cases midConverged with
      | true => rfl
      | false => exact absurd neutral (counted rfl)
    obtain ⟨sameCount, sameLast⟩ :=
      notifyHandoverInputs_midUnrecovered_of_neutral true bcPredictedCpaM neutral
    obtain ⟨zero, converged⟩ := clear neutral
    refine ⟨?_, fun told isLast => ?_⟩
    · rw [sameCount, zero, unrecoveredCalls_concat_call]
      rfl
    · rw [sameLast, converged, last told isLast]
  · obtain ⟨newCount, newLast⟩ :=
      notifyHandoverInputs_midUnrecovered_of_other midConverged bcPredictedCpaM neutral
    refine ⟨?_, fun told isLast => ?_⟩
    · rw [newCount, unrecoveredCalls_concat_call]
      cases midConverged with
      | true => rfl
      | false =>
        have small : unrecoveredCalls earlier + 1 < 2 ^ 32 := by simpa using fits
        simp only [Bool.false_eq_true, if_false, UInt32.toNat_add, counts.count]
        exact Nat.mod_eq_of_lt small
    · rw [newLast, last told isLast]

/-- Every operation keeps the counter right, unless it is a failure that falls into the audit or
one too many. -/
theorem CountsUnrecovered.step {earlier : List Operation} {route : CommittedAvoidanceRoute}
    (counts : CountsUnrecovered earlier route) (clear : ClearInNeutral route)
    (counted : ∀ bcPredictedCpaM, operation = .notifyHandoverInputs false bcPredictedCpaM →
      route.current.state ≠ .handoverNeutral)
    (fits : unrecoveredCalls (earlier ++ [operation]) < 2 ^ 32) :
    CountsUnrecovered (earlier ++ [operation]) (CommittedRoute.step route operation) := by
  cases told : toldConverged operation with
  | none =>
    obtain ⟨sameCount, sameLast⟩ := step_midUnrecovered_of_other told
    refine ⟨?_, ?_⟩
    · rw [sameCount, unrecoveredCalls_concat_other _ told]
      exact counts.count
    · rw [sameLast, handoverCalls_concat_other _ told]
      exact counts.last
  | some midConverged =>
    obtain ⟨bcPredictedCpaM, rfl⟩ : ∃ bcPredictedCpaM,
        operation = .notifyHandoverInputs midConverged bcPredictedCpaM := by
      cases operation <;> cases told
      exact ⟨_, rfl⟩
    exact counts.call clear (fun failed => counted bcPredictedCpaM (by rw [failed])) fits

/-- The counter is right in every state of a run exactly when no call of the run that is told of
a failure falls into the audit of `HandoverNeutral`, and the calls without convergence that follow
one another always fit a 32-bit counter. -/
theorem countsUnrecovered_iff :
    (∀ count, CountsUnrecovered (operations.take count)
        (managerAt staleRouteMaxAgeS bcFinalDegradeThreshold midUnrecoveredThreshold cpaSafeM
          operations count)) ↔
      (∀ index bcPredictedCpaM,
        operations[index]? = some (.notifyHandoverInputs false bcPredictedCpaM) →
        (managerAt staleRouteMaxAgeS bcFinalDegradeThreshold midUnrecoveredThreshold cpaSafeM
          operations index).current.state ≠ .handoverNeutral) ∧
        ∀ count, unrecoveredCalls (operations.take count) < 2 ^ 32 := by
  have taken : ∀ {index : Nat} {operation : Operation}, operations[index]? = some operation →
      operations.take (index + 1) = operations.take index ++ [operation] := by
    intro index operation present
    rw [List.take_add_one, present, Option.toList_some]
  constructor
  · intro counts
    refine ⟨fun index bcPredictedCpaM present neutral => ?_, fun count => ?_⟩
    · have before := (counts index).count
      have after := (counts (index + 1)).count
      rw [managerAt_succ _ _ _ _ operations present, step,
        (notifyHandoverInputs_midUnrecovered_of_neutral false bcPredictedCpaM neutral).1,
        taken present, unrecoveredCalls_concat_call, if_neg Bool.false_ne_true, ← before] at after
      exact Nat.ne_of_lt (Nat.lt_succ_self _) after
    · rw [← (counts count).count]
      exact UInt32.toNat_lt _
  · rintro ⟨audited, fits⟩ count
    induction count with
    | zero => exact ⟨rfl, fun _ absent => by cases absent⟩
    | succ count inductionHypothesis =>
      cases present : operations[count]? with
      | none =>
        rw [managerAt, stateAt_succ_of_none step _ operations present, List.take_add_one, present,
          Option.toList_none, List.append_nil]
        exact inductionHypothesis
      | some operation =>
        rw [managerAt_succ _ _ _ _ operations present, taken present]
        refine inductionHypothesis.step (managerAt_clearInNeutral _ _ _ _ _ _) ?_ ?_
        · rintro bcPredictedCpaM rfl
          exact audited count bcPredictedCpaM present
        · rw [← taken present]
          exact fits (count + 1)

end Runs

/-- BC-MPC takes over, two calls open the hand-over, and Mid-MPC fails in the audit cycle: the
call is not counted, and the flag still says that it converged. -/
theorem audited_failure_uncounted :
    ¬ ∀ (operations : List Operation) (count : Nat),
        CountsUnrecovered (operations.take count)
          (managerAt 45.0 5 3 1852.0 operations count) := by
  intro counts
  have audited := (counts
    [.markBcMpcTakeover, .tryRevise { singleWaypointCandidate with nlpOk := false } 10.0 3,
      .notifyHandoverInputs true 2000.0, .notifyHandoverInputs true 2000.0,
      .notifyHandoverInputs false 2000.0] 5).count
  revert audited
  decide

end MassL3.M5.CommittedRoute
