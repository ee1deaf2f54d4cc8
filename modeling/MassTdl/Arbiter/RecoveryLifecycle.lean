/-
This file is about the recovery of the route over whole runs, which move the machine of the
recovery. Along every run a recovery begins only at the release of a turn and ends at a conflict,
at a new scenario, or after four ticks back on the route one after another. A target of a
commitment that is out of sight counts as passed.
-/

import MassTdl.Arbiter.RecoveryMachine

namespace MassL3.M4

open MassL3.Risk
open Runs (Begins EndsIn)

/-! ### Evaluated ticks -/

/-- A tick past the early returns, as it comes to its recovery. -/
structure Evaluation where
  world : WorldState
  tracking : Option RouteTracking
  conflictDetected : Bool
  arbitration : Arbitration

def evaluate (params : Parameters) (inbox : Inbox) (decision : Decision) (now : Int)
    (expired : Nat → Nat → Bool) : Option Evaluation :=
  let heard := hearTick inbox decision now
  match inbox.odd, inbox.world with
  | some _, some world =>
      if !inbox.mission.isSome && !heard.inputs.colregsConflictDetected then none
      else
        let tracking := currentRouteTracking params.lib inbox.route world
        some
          { world := world
            tracking := tracking
            conflictDetected := heard.inputs.colregsConflictDetected
            arbitration :=
              (arbitrate params inbox.mission world tracking heard expired).keepCommitment
                params.lib world }
  | _, _ => none

namespace Evaluation

variable (lib : MathLibrary) (evaluation : Evaluation)

def signals : Signals :=
  evaluation.arbitration.signals evaluation.tracking evaluation.conflictDetected

/-- A turn by a live directive. -/
def turnActive : Bool := evaluation.arbitration.turnActive

/-- A conflict that the risk gates did not release. -/
def conflictActive : Bool := evaluation.arbitration.conflictActive evaluation.conflictDetected

/-- The cross-track error is not above 125 metres and the heading within ten degrees of the
route's. -/
def OnRoute : Prop :=
  ∃ tracking, evaluation.tracking = some tracking ∧ ¬ tracking.xteM.abs > 125.0 ∧
    tracking.headingErrorDeg.abs ≤ 10.0

/-- The commitment under Rule 15 that the tick finds. -/
def commitmentKey : Option String :=
  if evaluation.arbitration.decision.colregsRule15CommitActive then
    some evaluation.arbitration.decision.colregsRule15CommitTargetKey
  else none

/-- The target of a commitment, if there is one, is past and clear. -/
def CommitmentPastClear : Prop :=
  ∀ key, evaluation.commitmentKey = some key →
    rule15GiveWayPassedAstern lib evaluation.world {} true true key = true

/-- Or else it is no longer in the world state. -/
def CommitmentSettled : Prop :=
  ∀ key, evaluation.commitmentKey = some key →
    rule15GiveWayPassedAstern lib evaluation.world {} true true key = true ∨
      key ≠ "" ∧ evaluation.world.find key = none

end Evaluation

section Ticks

variable {params : Parameters} {inbox : Inbox} {decision : Decision} {now : Int}
  {expired : Nat → Nat → Bool} {evaluation : Evaluation}

/-- A tick that is not evaluated leaves the recovery alone and stays on the transit. -/
theorem tick_of_idle (idle : evaluate params inbox decision now expired = none) :
    (tick params inbox decision now expired).1.lifecycle = decision.lifecycle ∧
      (tick params inbox decision now expired).2.plan.behavior = .transit := by
  unfold tick
  simp only
  split
  · next odd world known seen =>
    unfold evaluate at idle
    simp only [known, seen] at idle
    split_ifs at idle with returns
    rw [if_pos returns]
    exact ⟨lifecycle_hearTick inbox decision now, rfl⟩
  · exact ⟨lifecycle_hearTick inbox decision now, rfl⟩

section

variable (evaluated : evaluate params inbox decision now expired = some evaluation)
include evaluated

/-- An evaluated tick holds its turn and recovers. -/
theorem tick_of_evaluated :
    ∃ mrc,
      let resolved := (evaluation.arbitration.holdTurn mrc).recover evaluation.tracking
        evaluation.conflictDetected
      (tick params inbox decision now expired).1.lifecycle = resolved.decision.lifecycle ∧
        (tick params inbox decision now expired).2.plan.behavior = resolved.primary := by
  unfold evaluate at evaluated
  simp only at evaluated
  split at evaluated
  · next odd world known seen =>
    split_ifs at evaluated with returns
    obtain rfl := Option.some.inj evaluated
    refine ⟨hasMrc (computeActiveSet (hearTick inbox decision now).inputs), ?_⟩
    unfold tick
    simp only [known, seen]
    rw [if_neg returns, (Arbitration.publishesBox params _ _ _).behavior,
      Arbitration.clampHeading_widenSpeed_primary]
    exact ⟨rfl, rfl⟩
  · cases evaluated

/-- The arbitration that an evaluated tick brings to its recovery. -/
theorem arbitration_of_evaluated :
    let heard := hearTick inbox decision now
    evaluation.tracking = currentRouteTracking params.lib inbox.route evaluation.world ∧
      evaluation.conflictDetected = heard.inputs.colregsConflictDetected ∧
        evaluation.arbitration = (arbitrate params inbox.mission evaluation.world
          evaluation.tracking heard expired).keepCommitment params.lib evaluation.world := by
  unfold evaluate at evaluated
  simp only at evaluated
  split at evaluated
  · split_ifs at evaluated
    obtain rfl := Option.some.inj evaluated
    exact ⟨rfl, rfl, rfl⟩
  · cases evaluated

/-- An evaluated tick moves the recovery by its signals. -/
theorem lifecycle_tick :
    (tick params inbox decision now expired).1.lifecycle =
      decision.lifecycle.step (.evaluated evaluation.signals) := by
  obtain ⟨mrc, moved, -⟩ := tick_of_evaluated evaluated
  obtain ⟨-, -, arbitrated⟩ := arbitration_of_evaluated evaluated
  have carried : evaluation.arbitration.decision.lifecycle = decision.lifecycle := by
    rw [arbitrated, (Arbitration.keepCommitment_primary _ _ _).2, lifecycle_arbitrate,
      lifecycle_hearTick]
  rw [moved, Arbitration.lifecycle_recover_holdTurn, carried]
  rfl

end

/-- No behaviour that can be active is a recovery. -/
theorem recovery_not_mem_computeActiveSet (inputs : ArbitrationInputs) :
    .recovery ∉ computeActiveSet inputs := by
  unfold computeActiveSet
  split
  · simp
  · simp only [List.mem_append, List.mem_ite_nil_right, List.mem_singleton, reduceCtorEq,
      and_false, or_self, not_false_iff]

theorem selectPrimary_ne_recovery (inputs : ArbitrationInputs) :
    selectPrimary (computeActiveSet inputs) inputs ≠ .recovery := by
  have absent := recovery_not_mem_computeActiveSet inputs
  unfold selectPrimary
  split
  · exact BehaviorType.noConfusion
  · split
    · next mrc found =>
      rintro rfl
      exact absent (List.mem_of_find?_eq_some found)
    · split
      · exact BehaviorType.noConfusion
      · intro head
        cases behaviors : computeActiveSet inputs with
        | nil =>
          rw [behaviors] at head
          cases head
        | cons first later =>
          rw [behaviors] at head absent
          exact absent (head ▸ List.mem_cons_self)

theorem arbitrate_primary_ne_recovery (mission : Option MissionGoal) (world : WorldState)
    (tracking : Option RouteTracking) (heard : Heard) :
    (arbitrate params mission world tracking heard expired).primary ≠ .recovery := by
  unfold arbitrate
  simp only
  split_ifs
  · exact BehaviorType.noConfusion
  · exact BehaviorType.noConfusion
  · rw [(runSolver_decides _ _ _ _ _ _ _).1]
    exact selectPrimary_ne_recovery heard.inputs

/-- A tick publishes a recovery exactly if it is evaluated and leaves one under way. -/
theorem published_recovery_iff :
    (tick params inbox decision now expired).2.plan.behavior = .recovery ↔
      (evaluate params inbox decision now expired).isSome = true ∧
        (tick params inbox decision now expired).1.recoveryActive = true := by
  cases evaluated : evaluate params inbox decision now expired with
  | none =>
    rw [(tick_of_idle evaluated).2]
    exact iff_of_false BehaviorType.noConfusion fun both => Bool.false_ne_true both.1
  | some evaluation =>
    obtain ⟨mrc, moved, published⟩ := tick_of_evaluated evaluated
    have active : (tick params inbox decision now expired).1.recoveryActive = _ :=
      congrArg Lifecycle.active moved
    have held : (evaluation.arbitration.holdTurn mrc).primary ≠ .recovery := by
      rw [Arbitration.holdTurn_primary, (arbitration_of_evaluated evaluated).2.2,
        (Arbitration.keepCommitment_primary _ _ _).1]
      split
      · exact BehaviorType.noConfusion
      · exact arbitrate_primary_ne_recovery _ _ _ _
    rw [published, active, Arbitration.recover_primary]
    show _ ↔ true = true ∧ ((evaluation.arbitration.holdTurn mrc).recover evaluation.tracking
      evaluation.conflictDetected).decision.recoveryActive = true
    rw [Arbitration.recoveryActive_recover]
    split_ifs with conflict recovering released
    · simp [conflict, held]
    · simp [conflict, recovering]
    · simp [recovering]
    · simp [recovering, held]

/-! ### What the signals mean -/

/-- The ship that is back on its route is near it and heads along it. -/
theorem Evaluation.onRoute_of_restored (restored : evaluation.signals.restored = true) :
    evaluation.OnRoute := by
  unfold signals Arbitration.signals at restored
  simp only [Bool.not_or, Bool.not_not, Bool.and_eq_true] at restored
  obtain ⟨⟨within, aligned⟩, -⟩ := restored
  unfold headingAligned at aligned
  split at aligned
  · next tracking tracked =>
    refine ⟨tracking, tracked, fun beyond => ?_, of_decide_eq_true aligned⟩
    have gate : kRecoveryCorridorHalfM * kRecoveryXteGateFraction = 125.0 := by decide +kernel
    unfold xteBeyondGate at within
    rw [tracked] at within
    simp only [gate, beyond, decide_true, Bool.not_true] at within
    cases within
  · cases aligned

/-- A released directive has no threat, and one with a conflict asks for a turn only before the
release. -/
theorem guide_threat (lib : MathLibrary) (world : WorldState) (tracking : Option RouteTracking)
    (msg : COLREGsConstraint) (decision : Decision) (conflictDetected : Bool)
    (reported : msg.conflictDetected = true → conflictDetected = true) {guided : Guided}
    (isGuided : guide lib world tracking conflictDetected msg decision = guided) :
    ((conflictDetected && !guided.riskReleased) = false →
        guided.directive.primaryThreatId = "") ∧
      (guided.directive.conflictActive = true →
        (conflictDetected && !guided.riskReleased) = true) := by
  have threat : (extractColregsDirective msg).primaryThreatId = "" := by
    unfold extractColregsDirective
    simp only
    split_ifs <;> rfl
  have active := extractColregsDirective_conflictActive msg
  unfold guide at isGuided
  cases conflict : msg.conflictDetected with
  | false =>
    rw [conflict] at active
    simp only [active, Bool.not_false, if_true] at isGuided
    rw [← isGuided]
    exact ⟨fun _ => threat, fun impossible => absurd (active ▸ impossible) Bool.false_ne_true⟩
  | true =>
    rw [conflict] at active
    rw [reported conflict] at isGuided ⊢
    simp only [active, Bool.not_true, Bool.false_eq_true, if_false] at isGuided
    split at isGuided
    · have unreleased : guided.riskReleased = false := by
        rw [← isGuided]
        exact Bool.and_false _
      rw [unreleased]
      exact ⟨fun quiet => absurd quiet Bool.noConfusion, fun _ => rfl⟩
    · split at isGuided
      · rw [← isGuided]
        exact ⟨fun _ => threat, fun turning => absurd turning Bool.false_ne_true⟩
      · rw [← isGuided]
        exact ⟨fun quiet => absurd quiet Bool.noConfusion, fun _ => rfl⟩

/-- Without an active conflict the directive of an arbitration has no threat, and with a turn
the conflict is active. -/
theorem arbitrate_threat (mission : Option MissionGoal) (world : WorldState)
    (tracking : Option RouteTracking) :
    let heard := hearTick inbox decision now
    let arbitration := arbitrate params mission world tracking heard expired
    (arbitration.conflictActive heard.inputs.colregsConflictDetected = false →
        arbitration.directive.primaryThreatId = "") ∧
      (arbitration.turnActive = true →
        arbitration.conflictActive heard.inputs.colregsConflictDetected = true) := by
  intro heard arbitration
  by_cases emergency : isMrcDriftApplicable heard.inputs = true
  · have drifts : arbitration = _ := arbitrate_of_mrc params emergency
    rw [drifts]
    exact ⟨fun _ => rfl, fun turning => absurd turning Bool.false_ne_true⟩
  by_cases inactive : computeActiveSet heard.inputs = []
  · have transits : arbitration = _ := arbitrate_of_inactive params inactive
    rw [transits]
    exact ⟨fun _ => rfl, fun turning => absurd turning Bool.false_ne_true⟩
  have solves : arbitration = _ :=
    arbitrate_of_active params (Bool.not_eq_true _ ▸ emergency) inactive
  rw [solves]
  show ((_ && !(guideHeard params.lib world tracking heard).riskReleased) = false →
      (guideHeard params.lib world tracking heard).directive.primaryThreatId = "") ∧
    ((guideHeard params.lib world tracking heard).directive.turnActive = true →
      (_ && !(guideHeard params.lib world tracking heard).riskReleased) = true)
  cases goesBy : heard.forDirective with
  | none =>
    unfold guideHeard
    rw [goesBy]
    exact ⟨fun _ => rfl, fun turning => absurd turning Bool.false_ne_true⟩
  | some msg =>
    have guided : guide params.lib world tracking heard.inputs.colregsConflictDetected msg
        heard.decision = guideHeard params.lib world tracking heard := by
      unfold guideHeard
      rw [goesBy]
    obtain ⟨threat, conflict⟩ := guide_threat params.lib world tracking msg heard.decision _
      (conflict_of_forDirective goesBy) guided
    refine ⟨threat, fun turning => conflict ?_⟩
    unfold ColregsDirective.turnActive at turning
    exact (Bool.and_eq_true_iff.mp turning).1

/-- The same holds of an evaluated tick. -/
theorem Evaluation.threat
    (evaluated : evaluate params inbox decision now expired = some evaluation) :
    (evaluation.signals.conflict = false →
        evaluation.arbitration.directive.primaryThreatId = "") ∧
      (evaluation.signals.turn = true → evaluation.signals.conflict = true) := by
  obtain ⟨-, heard, arbitrated⟩ := arbitration_of_evaluated evaluated
  have same := Arbitration.keepCommitment_sameBox (arbitrate params inbox.mission evaluation.world
    evaluation.tracking (hearTick inbox decision now) expired) params.lib evaluation.world
  rw [← arbitrated] at same
  have threat := @arbitrate_threat params inbox decision now expired inbox.mission
    evaluation.world evaluation.tracking
  simp only at threat
  unfold Arbitration.conflictActive at threat
  rw [← same.directive, ← same.turnActive, ← same.riskReleased, ← heard] at threat
  exact threat

/-- Without a threat the target of the commitment decides, whatever else the directive says. -/
theorem passedAstern_of_noThreat (lib : MathLibrary) (world : WorldState)
    {directive : ColregsDirective} (noThreat : directive.primaryThreatId = "") (key : String) :
    rule15GiveWayPassedAstern lib world directive true true key =
      rule15GiveWayPassedAstern lib world {} true true key := by
  unfold rule15GiveWayPassedAstern threatKey
  simp only [noThreat, Bool.or_true, Bool.not_true, Bool.false_and, Bool.false_eq_true, if_false,
    if_true]

/-- A commitment that lets the recovery complete without a threat is settled. -/
theorem Arbitration.settled_of_keepCommitment {arbitration : Arbitration} (lib : MathLibrary)
    {world : WorldState} (noThreat : arbitration.directive.primaryThreatId = "")
    (committed : arbitration.decision.colregsRule15CommitActive = true)
    (allows : (arbitration.keepCommitment lib world).rule15AllowsRecoveryComplete = true) :
    let key := arbitration.decision.colregsRule15CommitTargetKey
    rule15GiveWayPassedAstern lib world {} true true key = true ∨
      key ≠ "" ∧ world.find key = none := by
  unfold keepCommitment at allows
  simp only [committed, noThreat, decide_true, Bool.true_or, if_true, Bool.or_eq_true,
    passedAstern_of_noThreat lib world noThreat, Bool.and_eq_true, Option.isNone_iff_eq_none,
    decide_eq_true_eq] at allows
  rcases allows with ⟨⟨-, known⟩, gone⟩ | passed
  · exact .inr ⟨known, gone⟩
  · exact .inl passed

/-- The commitment of a tick that is back on its route is settled. -/
theorem Evaluation.settled_of_back
    (evaluated : evaluate params inbox decision now expired = some evaluation)
    (back : evaluation.signals.Back) : evaluation.CommitmentSettled params.lib := by
  obtain ⟨released, restored⟩ := back
  have noThreat := (Evaluation.threat evaluated).1 released
  unfold signals Arbitration.signals at restored
  simp only [Bool.not_or, Bool.not_not, Bool.and_eq_true] at restored
  obtain ⟨-, allows⟩ := restored
  obtain ⟨-, -, arbitrated⟩ := arbitration_of_evaluated evaluated
  intro key isKey
  unfold commitmentKey at isKey
  split_ifs at isKey with committed
  obtain rfl := Option.some.inj isKey
  have unchanged := Arbitration.keepCommitment_primary (arbitrate params inbox.mission
    evaluation.world evaluation.tracking (hearTick inbox decision now) expired) params.lib
    evaluation.world
  rw [arbitrated] at committed allows noThreat ⊢
  rw [unchanged.2] at committed ⊢
  rw [(Arbitration.keepCommitment_sameBox _ _ _).directive] at noThreat
  exact Arbitration.settled_of_keepCommitment params.lib noThreat committed allows

end Ticks

/-! ### The recovery along a run -/

def Node.evaluation (params : Parameters) (node : Node) : Event → Option Evaluation
  | .arbitrationTimer now expired => evaluate params node.inbox node.decision now expired
  | _ => none

def Node.occasion (params : Parameters) (node : Node) : Event → Occasion
  | .arbitrationTimer now expired =>
      (evaluate params node.inbox node.decision now expired).elim .idle fun evaluation =>
        .evaluated evaluation.signals
  | .scenarioLoaded => .reset
  | _ => .idle

/-- The evaluation of one event of a run, if it is an evaluated tick. -/
def evaluationAt (params : Parameters) (events : List Event) (index : ℕ) : Option Evaluation :=
  events[index]?.bind ((nodeAt params events index).evaluation params)

/-- The evaluated ticks among the first events of a run. -/
def evaluationsBefore (params : Parameters) (events : List Event) (count : ℕ) : List Evaluation :=
  (List.range count).filterMap (evaluationAt params events)

def occasionAt (params : Parameters) (events : List Event) (index : ℕ) : Occasion :=
  events[index]?.elim .idle ((nodeAt params events index).occasion params)

section NodeRuns

variable {params : Parameters} {events : List Event} {index : ℕ} {evaluation : Evaluation}

theorem lifecycle_step (params : Parameters) (node : Node) (event : Event) :
    (node.step params event).decision.lifecycle =
      node.decision.lifecycle.step (node.occasion params event) := by
  cases event with
  | arbitrationTimer now expired =>
    show (tick params node.inbox node.decision now expired).1.lifecycle =
      node.decision.lifecycle.step ((evaluate params node.inbox node.decision now expired).elim
        .idle fun evaluation => .evaluated evaluation.signals)
    cases evaluated : evaluate params node.inbox node.decision now expired with
    | none => exact (tick_of_idle evaluated).1
    | some evaluation => exact lifecycle_tick evaluated
  | scenarioLoaded => rfl
  | oddState msg | gncExecutionOdd msg | worldState msg | modeCmd msg | missionGoal msg
  | colregsConstraint msg | plannedRoute msg => rfl

/-- The recovery of a node moves as its lifecycle along every run. -/
theorem lifecycle_nodeAt (params : Parameters) (events : List Event) (index : ℕ) :
    (nodeAt params events index).decision.lifecycle =
      lifecycleAt (occasionAt params events) index := by
  induction index with
  | zero => rfl
  | succ index inductionHypothesis =>
    rw [lifecycleAt, ← inductionHypothesis]
    unfold nodeAt occasionAt
    cases present : events[index]? with
    | none =>
      rw [Runs.stateAt_succ_of_none _ _ _ present]
      rfl
    | some event =>
      rw [Runs.stateAt_succ _ _ _ present]
      exact lifecycle_step params _ event

/-- An occasion with signals is an evaluated tick. -/
theorem occasionAt_eq_evaluated_iff {signals : Signals} :
    occasionAt params events index = .evaluated signals ↔
      ∃ evaluation, evaluationAt params events index = some evaluation ∧
        evaluation.signals = signals := by
  unfold occasionAt evaluationAt
  cases events[index]? with
  | none => simp
  | some event =>
    cases event with
    | arbitrationTimer now expired =>
      cases evaluated : evaluate params (nodeAt params events index).inbox
        (nodeAt params events index).decision now expired <;>
        simp [Node.occasion, Node.evaluation, evaluated]
    | scenarioLoaded => simp [Node.occasion, Node.evaluation]
    | oddState msg | gncExecutionOdd msg | worldState msg | modeCmd msg | missionGoal msg
    | colregsConstraint msg | plannedRoute msg => simp [Node.occasion, Node.evaluation]

/-- A reset is the loading of a scenario. -/
theorem occasionAt_eq_reset_iff :
    occasionAt params events index = .reset ↔ events[index]? = some .scenarioLoaded := by
  unfold occasionAt
  cases events[index]? with
  | none => simp
  | some event =>
    cases event with
    | arbitrationTimer now expired =>
      cases evaluated : evaluate params (nodeAt params events index).inbox
        (nodeAt params events index).decision now expired <;> simp [Node.occasion, evaluated]
    | scenarioLoaded => simp [Node.occasion]
    | oddState msg | gncExecutionOdd msg | worldState msg | modeCmd msg | missionGoal msg
    | colregsConstraint msg | plannedRoute msg => simp [Node.occasion]

theorem signalsBefore_occasionAt (params : Parameters) (events : List Event) (count : ℕ) :
    signalsBefore (occasionAt params events) count =
      (evaluationsBefore params events count).map Evaluation.signals := by
  unfold signalsBefore evaluationsBefore
  rw [List.map_filterMap]
  refine List.filterMap_congr fun index _ => ?_
  cases evaluated : evaluationAt params events index with
  | some evaluation =>
    rw [occasionAt_eq_evaluated_iff.mpr ⟨evaluation, evaluated, rfl⟩]
    rfl
  | none =>
    cases seen : occasionAt params events index with
    | evaluated signals =>
      obtain ⟨evaluation, present, -⟩ := occasionAt_eq_evaluated_iff.mp seen
      rw [evaluated] at present
      cases present
    | idle | reset => rfl

/-- An evaluated tick of a run belongs to a tick of the node. -/
theorem evaluate_of_evaluationAt (evaluated : evaluationAt params events index = some evaluation) :
    ∃ inbox decision now expired,
      evaluate params inbox decision now expired = some evaluation := by
  unfold evaluationAt at evaluated
  obtain ⟨event, -, evaluated⟩ := Option.bind_eq_some_iff.mp evaluated
  cases event with
  | arbitrationTimer now expired => exact ⟨_, _, now, expired, evaluated⟩
  | oddState msg | gncExecutionOdd msg | worldState msg | modeCmd msg | missionGoal msg
  | colregsConstraint msg | plannedRoute msg | scenarioLoaded => cases evaluated

theorem turnsInConflict_occasionAt (params : Parameters) (events : List Event) :
    TurnsInConflict (occasionAt params events) := by
  intro index signals seen turning
  obtain ⟨evaluation, evaluated, rfl⟩ := occasionAt_eq_evaluated_iff.mp seen
  obtain ⟨inbox, decision, now, expired, evaluated⟩ := evaluate_of_evaluationAt evaluated
  exact (Evaluation.threat evaluated).2 turning

end NodeRuns

/-! ### The laws of the recovery -/

/-- The recovery is under way after the first events of a run. -/
def Recovers (params : Parameters) (events : List Event) (count : ℕ) : Prop :=
  (nodeAt params events count).decision.recoveryActive = true

/-- At an earlier tick a turn was active, and until now the conflict was, in the same scenario. -/
def FollowsTurn (params : Parameters) (events : List Event) (index : ℕ) : Prop :=
  ∃ turn < index,
    (∃ evaluation, evaluationAt params events turn = some evaluation ∧
      evaluation.turnActive = true) ∧
    ∀ between, turn < between → between < index →
      events[between]? ≠ some .scenarioLoaded ∧
        ∀ evaluation, evaluationAt params events between = some evaluation →
          evaluation.conflictActive = true

/-- The tick finds the ship back on its route, with the conflict and the commitment over. -/
structure Evaluation.Restored (lib : MathLibrary) (evaluation : Evaluation) : Prop where
  released : evaluation.conflictActive = false
  onRoute : evaluation.OnRoute
  commitment : evaluation.CommitmentSettled lib

/-- The recovery ended because it was done: the last evaluated ticks, at least four, have the
property. -/
def DwellsIn (Good : Evaluation → Prop) (params : Parameters) (events : List Event)
    (count : ℕ) : Prop :=
  ∃ dwell ≥ 4, EndsIn Good dwell (evaluationsBefore params events count)

section RecoveryLaws

variable (params : Parameters) (events : List Event) (index : ℕ)

theorem recovers_iff (count : ℕ) : Recovers params events count ↔
    (lifecycleAt (occasionAt params events) count).active = true := by
  rw [← lifecycle_nodeAt]
  rfl

/-- The recovery is published by exactly the evaluated ticks that leave it under way. -/
theorem publishes_recovery_iff {event : Event} {output : Output}
    (present : events[index]? = some event)
    (published : (nodeAt params events index).published params event = some output) :
    output.plan.behavior = .recovery ↔
      (evaluationAt params events index).isSome = true ∧ Recovers params events (index + 1) := by
  cases event with
  | arbitrationTimer now expired =>
    obtain rfl := Option.some.inj published
    unfold Recovers evaluationAt nodeAt
    rw [Runs.stateAt_succ _ _ _ present, present]
    exact published_recovery_iff
  | oddState msg | gncExecutionOdd msg | worldState msg | modeCmd msg | missionGoal msg
  | colregsConstraint msg | plannedRoute msg | scenarioLoaded => cases published

/-- It begins only at a release after a turn. -/
theorem followsTurn_of_begins (begins : Begins (Recovers params events) index) :
    FollowsTurn params events index ∧
      ∃ evaluation, evaluationAt params events index = some evaluation ∧
        evaluation.conflictActive = false := by
  have enters : Begins (fun count => (lifecycleAt (occasionAt params events) count).active = true)
      index :=
    ⟨(recovers_iff params events index).not.mp begins.1,
      (recovers_iff params events _).mp begins.2⟩
  obtain ⟨⟨turn, earlier, ⟨signals, seen, turning⟩, between⟩, others, released, quiet⟩ :=
    Lifecycle.enters (turnsInConflict_occasionAt params events) enters
  obtain ⟨evaluation, evaluated, rfl⟩ := occasionAt_eq_evaluated_iff.mp seen
  obtain ⟨release, atRelease, rfl⟩ := occasionAt_eq_evaluated_iff.mp released
  refine ⟨⟨turn, earlier, ⟨evaluation, evaluated, turning⟩, fun later after upTo => ?_⟩,
    release, atRelease, quiet⟩
  obtain ⟨sameScenario, lasting⟩ := between later after upTo
  exact ⟨occasionAt_eq_reset_iff.not.mp sameScenario, fun held present =>
    lasting _ (occasionAt_eq_evaluated_iff.mpr ⟨held, present, rfl⟩)⟩

/-- It ends only by a new scenario, a conflict, or at least four ticks back on the route. -/
theorem dwells_of_leaves (active : Recovers params events index)
    (left : ¬ Recovers params events (index + 1)) :
    events[index]? = some .scenarioLoaded ∨
      (∃ evaluation, evaluationAt params events index = some evaluation ∧
        evaluation.conflictActive = true) ∨
      DwellsIn (Evaluation.Restored params.lib) params events (index + 1) := by
  have inactive := Bool.eq_false_iff.mpr ((recovers_iff params events _).not.mp left)
  rcases Lifecycle.leaves ((recovers_iff params events index).mp active) inactive with
    reset | ⟨signals, seen, conflict⟩ | ⟨dwell, enough, ends⟩
  · exact .inl (occasionAt_eq_reset_iff.mp reset)
  · obtain ⟨evaluation, evaluated, rfl⟩ := occasionAt_eq_evaluated_iff.mp seen
    exact .inr (.inl ⟨evaluation, evaluated, conflict⟩)
  · rw [signalsBefore_occasionAt] at ends
    refine .inr (.inr ⟨dwell, enough, ends.of_map fun evaluation member back => ?_⟩)
    obtain ⟨place, -, evaluated⟩ := List.mem_filterMap.mp member
    obtain ⟨inbox, decision, now, expired, evaluated⟩ := evaluate_of_evaluationAt evaluated
    exact
      { released := back.1
        onRoute := evaluation.onRoute_of_restored back.2
        commitment := Evaluation.settled_of_back evaluated back }

/-- A conflict ends it and restarts the dwell. -/
theorem ends_of_conflict {evaluation : Evaluation}
    (evaluated : evaluationAt params events index = some evaluation)
    (conflict : evaluation.conflictActive = true) :
    ¬ Recovers params events (index + 1) ∧
      (nodeAt params events (index + 1)).decision.recoveryDwellCycles = 0 := by
  obtain ⟨ended, restarted⟩ := Lifecycle.conflict
    (occasionAt_eq_evaluated_iff.mpr ⟨evaluation, evaluated, rfl⟩) conflict
  rw [← lifecycle_nodeAt] at restarted
  exact ⟨(recovers_iff params events _).not.mpr (Bool.eq_false_iff.mp ended), restarted⟩

/-- A new scenario ends the recovery and the dwell. -/
theorem ends_of_scenario (loaded : events[index]? = some .scenarioLoaded) :
    ¬ Recovers params events (index + 1) ∧
      (nodeAt params events (index + 1)).decision.recoveryDwellCycles = 0 := by
  have reset : nodeAt params events (index + 1) =
      (nodeAt params events index).step params .scenarioLoaded :=
    Runs.stateAt_succ _ _ _ loaded
  unfold Recovers
  rw [reset]
  exact ⟨Bool.false_ne_true, rfl⟩

/-- The recovery along every run: where it is published, where it begins, where it ends, and what
a conflict and a new scenario do to it. -/
theorem recovery_lifecycle :
    (∀ event output, events[index]? = some event →
        (nodeAt params events index).published params event = some output →
        (output.plan.behavior = .recovery ↔
          (evaluationAt params events index).isSome = true ∧
            Recovers params events (index + 1))) ∧
      (Begins (Recovers params events) index → FollowsTurn params events index ∧
        ∃ evaluation, evaluationAt params events index = some evaluation ∧
          evaluation.conflictActive = false) ∧
      (Recovers params events index → ¬ Recovers params events (index + 1) →
        events[index]? = some .scenarioLoaded ∨
          (∃ evaluation, evaluationAt params events index = some evaluation ∧
            evaluation.conflictActive = true) ∨
          DwellsIn (Evaluation.Restored params.lib) params events (index + 1)) ∧
      (∀ evaluation, evaluationAt params events index = some evaluation →
        evaluation.conflictActive = true → ¬ Recovers params events (index + 1) ∧
          (nodeAt params events (index + 1)).decision.recoveryDwellCycles = 0) ∧
      (events[index]? = some .scenarioLoaded → ¬ Recovers params events (index + 1) ∧
        (nodeAt params events (index + 1)).decision.recoveryDwellCycles = 0) :=
  ⟨fun _ _ present published => publishes_recovery_iff params events index present published,
    followsTurn_of_begins params events index, dwells_of_leaves params events index,
    fun _ evaluated conflict => ends_of_conflict params events index evaluated conflict,
    ends_of_scenario params events index⟩

end RecoveryLaws

/-! ### A target that vanishes -/

/-- Ship 7 crosses right ahead. -/
def crossingShip : TrackedTarget where
  targetId := 7
  sogKn := 10.0
  cogDeg := 270.0
  cpaM := 100.0
  tcpaS := 300.0
  brgDeg := 0.0
  rngM := 2000.0
  confidence := 0.9
  encounter := {}

/-- The own ship on its course north, on its meridian or east of it. -/
def northbound (longitude : Float) (targets : List TrackedTarget) : WorldState where
  stamp := 0
  ownShip := { latitude := 0.0, longitude := longitude, sogKn := 10.0, headingDeg := 0.0 }
  targets := targets

/-- The ship turns for the other one, which then goes out of sight. The conflict is withdrawn, and
the ship comes back to its route. -/
def vanishingRun : List Event :=
  [.oddState ⟨0, 0⟩, .missionGoal plainMission, .plannedRoute ⟨[(0.0, 0.0), (1.0, 0.0)]⟩,
    .worldState (northbound 0.0 [crossingShip]), .colregsConstraint (giveWayDemand "STARBOARD"),
    .arbitrationTimer 0 patient,
    .worldState (northbound 0.01 []), .colregsConstraint withdrawnDemand,
    .arbitrationTimer 0 patient, .worldState (northbound 0.0 []),
    .arbitrationTimer 0 patient, .arbitrationTimer 0 patient, .arbitrationTimer 0 patient,
    .arbitrationTimer 0 patient]

/-- The recovery ends although the target of the commitment never was past and clear. -/
theorem recovery_ends_without_target :
    ¬ (Recovers quarterParameters vanishingRun 13 → ¬ Recovers quarterParameters vanishingRun 14 →
      vanishingRun[13]? = some .scenarioLoaded ∨
        (∃ evaluation, evaluationAt quarterParameters vanishingRun 13 = some evaluation ∧
          evaluation.conflictActive = true) ∨
        DwellsIn (Evaluation.CommitmentPastClear quarterParameters.lib) quarterParameters
          vanishingRun 14) := by
  have final : ((nodeAt quarterParameters vanishingRun 13).decision.recoveryActive,
      (nodeAt quarterParameters vanishingRun 14).decision.recoveryActive,
      (evaluationAt quarterParameters vanishingRun 13).map fun evaluation =>
        (evaluation.conflictActive, evaluation.commitmentKey,
          rule15GiveWayPassedAstern quarterParameters.lib evaluation.world {} true true "7")) =
      (true, false, some (false, some "7", false)) := by decide +kernel
  obtain ⟨active, rest⟩ := Prod.mk.injEq .. ▸ final
  obtain ⟨left, evaluated⟩ := Prod.mk.injEq .. ▸ rest
  obtain ⟨evaluation, present, seen⟩ := Option.map_eq_some_iff.mp evaluated
  simp only [Prod.mk.injEq] at seen
  obtain ⟨released, committed, ahead⟩ := seen
  intro law
  rcases law active (Bool.eq_false_iff.mp left) with
    loaded | ⟨other, again, conflict⟩ | ⟨dwell, enough, ends⟩
  · cases loaded
  · obtain rfl := Option.some.inj (present.symm.trans again)
    exact absurd conflict (Bool.eq_false_iff.mp released)
  · have whole : evaluationsBefore quarterParameters vanishingRun 14 =
        evaluationsBefore quarterParameters vanishingRun 13 ++ [evaluation] := by
      unfold evaluationsBefore
      rw [List.range_succ, List.filterMap_append, List.filterMap_cons_some present,
        List.filterMap_nil]
    rw [whole] at ends
    have passed := ends.last (Nat.lt_of_lt_of_le (by decide) enough) "7" committed
    exact absurd passed (Bool.eq_false_iff.mp ahead)

end MassL3.M4
