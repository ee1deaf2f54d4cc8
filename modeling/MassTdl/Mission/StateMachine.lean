/-
This file translates the mission state machine, the trigger of a replan request and the handling
of its response.
-/

import MassTdl.Mission.Types

namespace MassL3.M3

open Binary64

/-! ### The response to a replan request -/

structure ReplanOutcome where
  success : Bool
  escalateToMrc : Bool
  rationale : String
  deriving DecidableEq

/-- `ReplanResponseHandler::handle_failed_timeout`. -/
def handleFailedTimeout (attemptMaxCount attemptCount : Int) : ReplanOutcome :=
  if attemptCount ≥ attemptMaxCount then
    { success := false
      escalateToMrc := true
      rationale :=
        "replan failed: timeout, max attempts (" ++ toString attemptMaxCount ++ ") reached" }
  else
    { success := false
      escalateToMrc := false
      rationale :=
        "replan failed: timeout, attempt " ++ toString (attemptCount + 1) ++ "/" ++
          toString attemptMaxCount ++ " — retrying" }

/-- `ReplanResponseHandler::handle_response`. -/
def handleResponse (attemptMaxCount : Int) (response : ReplanResponse) (attemptCount : Int) :
    ReplanOutcome :=
  if response.status = statusSuccess then
    { success := true
      escalateToMrc := false
      rationale := "replan accepted by L2" }
  else if response.status = statusFailedTimeout then
    handleFailedTimeout attemptMaxCount attemptCount
  else if response.status = statusFailedInfeasible then
    { success := false
      escalateToMrc := true
      rationale := "L2: route infeasible" }
  else if response.status = statusFailedNoResources then
    { success := false
      escalateToMrc := true
      rationale := "L2: no resources available" }
  else
    { success := false
      escalateToMrc := true
      rationale := "unknown replan response status: " ++ toString response.status.toNat }

/-- An outcome the waiting mission acts on. -/
def ReplanOutcome.actionable (outcome : ReplanOutcome) : Bool :=
  outcome.success || outcome.escalateToMrc

/-! ### The trigger of a replan request -/

structure ReplanTriggerConfig where
  oddDegradedThreshold : Float := 0.7
  oddCriticalThreshold : Float := 0.3
  oddDegradedBufferS : Float := 1.0
  etaInfeasibleMarginS : Float := 600.0
  attemptMaxCount : Int := 3
  deadlineMrcRequiredS : Float := 30.0
  deadlineOddExitCriticalS : Float := 60.0
  deadlineOddExitDegradedS : Float := 120.0
  deadlineMissionInfeasibleS : Float := 120.0
  deadlineCongestionS : Float := 300.0

structure ReplanDecision where
  shouldTrigger : Bool
  reason : ReplanReason
  deadlineS : Float
  rationale : String
  deriving DecidableEq

/-- The trigger remembers since when the score is degraded. -/
structure ReplanRequestTrigger where
  degradedSince : Option Int := none
  deriving DecidableEq

namespace ReplanRequestTrigger

variable (config : ReplanTriggerConfig) (trigger : ReplanRequestTrigger)

/-- `reset_degraded_timer`. -/
def resetDegradedTimer : ReplanRequestTrigger := { degradedSince := none }

def checkMrcRequired (odd : ODDState) : Bool :=
  odd.envelopeState = envelopeMrcPrep || odd.envelopeState = envelopeMrcActive

/-- `check_odd_exit`: a degraded score has to last. -/
def checkOddExit (conformanceScore : Float) (now : Int) : Bool × ReplanRequestTrigger :=
  if conformanceScore < config.oddCriticalThreshold then
    (true, { degradedSince := none })
  else if conformanceScore < config.oddDegradedThreshold then
    match trigger.degradedSince with
    | none => (false, { degradedSince := some now })
    | some since => (seconds (now - since) ≥ config.oddDegradedBufferS, trigger)
  else (false, { degradedSince := none })

def checkMissionInfeasible (currentEtaS plannedEtaS : Float) : Bool :=
  currentEtaS > plannedEtaS + config.etaInfeasibleMarginS

def checkCongestion (replanAttemptCount : Int) : Bool :=
  replanAttemptCount ≥ config.attemptMaxCount

/-- `ReplanRequestTrigger::evaluate`. -/
def evaluate (odd : ODDState) (currentEtaS plannedEtaS : Float) (replanAttemptCount now : Int) :
    ReplanDecision × ReplanRequestTrigger :=
  if checkMrcRequired odd then
    ({ shouldTrigger := true
       reason := .mrcRequired
       deadlineS := config.deadlineMrcRequiredS
       rationale := "MRC required: envelope state signals MRC transition" }, trigger)
  else
    let (oddExit, trigger) := trigger.checkOddExit config (widen odd.conformanceScore) now
    if oddExit then
      if odd.conformanceScore < narrow config.oddCriticalThreshold then
        ({ shouldTrigger := true
           reason := .oddExit
           deadlineS := config.deadlineOddExitCriticalS
           rationale := "ODD exit: conformance score critically low" }, trigger)
      else
        ({ shouldTrigger := true
           reason := .oddExit
           deadlineS := config.deadlineOddExitDegradedS
           rationale := "ODD exit: conformance score degraded below threshold" }, trigger)
    else if checkMissionInfeasible config currentEtaS plannedEtaS then
      ({ shouldTrigger := true
         reason := .missionInfeasible
         deadlineS := config.deadlineMissionInfeasibleS
         rationale := "Mission infeasible: current ETA exceeds planned ETA by margin" }, trigger)
    else if checkCongestion config replanAttemptCount then
      ({ shouldTrigger := true
         reason := .congestion
         deadlineS := config.deadlineCongestionS
         rationale := "Replan congestion: too many consecutive replan attempts" }, trigger)
    else
      ({ shouldTrigger := false
         reason := .oddExit
         deadlineS := 0.0
         rationale := "" }, trigger)

end ReplanRequestTrigger

/-! ### The mission -/

inductive MissionState where
  | init
  | idle
  | taskValidation
  | awaitingRoute
  | active
  | replanWait
  | mrcTransit
  deriving DecidableEq, Repr

/-- `state_name`. -/
def MissionState.name : MissionState → String
  | .init => "Init"
  | .idle => "Idle"
  | .taskValidation => "TaskValidation"
  | .awaitingRoute => "AwaitingRoute"
  | .active => "Active"
  | .replanWait => "ReplanWait"
  | .mrcTransit => "MrcTransit"

inductive TaskValidity where
  | pending
  | valid
  | invalid
  | replanning
  deriving DecidableEq, Repr

/-- `map_task_validity`. -/
def TaskValidity.toUInt8 : TaskValidity → UInt8
  | .pending => 0
  | .valid => 1
  | .invalid => 2
  | .replanning => 3

inductive MissionEvent where
  | nodeReady
  | voyageTaskReceived
  | validationPassed
  | validationFailed
  | routeReceived
  | replanTriggered
  | replanResponseReceived (outcome : ReplanOutcome)
  | replanDeadlineExpired
  | mrcComplete
  | missionComplete
  deriving DecidableEq

/-- The state an event leads to, where it leads anywhere. -/
def MissionState.transition : MissionState → MissionEvent → Option MissionState
  | .init, .nodeReady => some .idle
  | .idle, .voyageTaskReceived => some .taskValidation
  | .taskValidation, .validationFailed => some .idle
  | .taskValidation, .validationPassed => some .awaitingRoute
  | .awaitingRoute, .routeReceived => some .active
  | .active, .replanTriggered => some .replanWait
  | .active, .missionComplete => some .idle
  | .replanWait, .replanResponseReceived outcome =>
      if outcome.success then some .active
      else if outcome.escalateToMrc then some .mrcTransit
      else none
  | .replanWait, .replanDeadlineExpired => some .mrcTransit
  | .mrcTransit, .mrcComplete => some .idle
  | _, _ => none

/-- A response moves a waiting mission alone, on with the voyage or to the minimum risk. -/
theorem MissionState.transition_response {state moved : MissionState} {outcome : ReplanOutcome}
    (moves : state.transition (.replanResponseReceived outcome) = some moved) :
    state = .replanWait ∧ (outcome.success = true ∧ moved = .active ∨
      outcome.success = false ∧ outcome.escalateToMrc = true ∧ moved = .mrcTransit) := by
  cases state with
  | replanWait =>
    refine ⟨rfl, ?_⟩
    simp only [MissionState.transition] at moves
    split_ifs at moves with success escalate
    · exact .inl ⟨success, (Option.some.inj moves).symm⟩
    · exact .inr ⟨Bool.eq_false_iff.mpr success, escalate, (Option.some.inj moves).symm⟩
  | init | idle | taskValidation | awaitingRoute | active | mrcTransit => cases moves

structure MissionStateMachine where
  state : MissionState := .init
  taskValidity : TaskValidity := .pending
  deriving DecidableEq

namespace MissionStateMachine

variable (machine : MissionStateMachine)

/-- `transit_`. -/
def transit (next : MissionState) : MissionStateMachine where
  state := next
  taskValidity := if next = .replanWait then .replanning else .pending

/-- `handle_event`. An event that leads nowhere changes nothing. -/
def handleEvent (event : MissionEvent) : MissionStateMachine :=
  match machine.state.transition event with
  | some next => transit next
  | none => machine

/-- `has_active_mission`. -/
def hasActiveMission : Bool := machine.state = .active || machine.state = .replanWait

/-- `update_task_validity`, with its result: whether the validity changed. -/
def updateTaskValidity (hasL1Task hasL2Route hasEncCheck autonomyOk : Bool) :
    MissionStateMachine × Bool :=
  if machine.state ≠ .active then (machine, false)
  else
    let next :=
      if hasL1Task && hasL2Route && hasEncCheck && autonomyOk then TaskValidity.valid
      else .invalid
    ({ machine with taskValidity := next }, machine.taskValidity ≠ next)

/-- The state after an event. -/
theorem handleEvent_state (event : MissionEvent) :
    (machine.handleEvent event).state = (machine.state.transition event).getD machine.state := by
  unfold handleEvent
  cases machine.state.transition event <;> rfl

/-- A state that is entered anew has no valid task yet. -/
theorem handleEvent_cases (event : MissionEvent) :
    machine.handleEvent event = machine ∨
      (machine.handleEvent event).taskValidity ≠ .valid := by
  unfold handleEvent
  cases machine.state.transition event with
  | none => exact .inl rfl
  | some next =>
    refine .inr ?_
    unfold transit
    dsimp only
    split_ifs <;> decide

/-- An event that leads nowhere changes nothing. -/
theorem handleEvent_of_none {event : MissionEvent}
    (nowhere : machine.state.transition event = none) : machine.handleEvent event = machine := by
  unfold handleEvent
  rw [nowhere]

variable {machine}

theorem foldl_handleEvent_of_none {sent : List MissionEvent}
    (nowhere : ∀ event ∈ sent, machine.state.transition event = none) :
    sent.foldl handleEvent machine = machine := by
  induction sent with
  | nil => rfl
  | cons event later inductionHypothesis =>
    rw [List.foldl_cons, machine.handleEvent_of_none (nowhere event List.mem_cons_self)]
    exact inductionHypothesis fun event member => nowhere event (List.mem_cons_of_mem _ member)

theorem foldl_handleEvent_cases (sent : List MissionEvent) :
    sent.foldl handleEvent machine = machine ∨
      (sent.foldl handleEvent machine).taskValidity ≠ .valid := by
  induction sent generalizing machine with
  | nil => exact .inl rfl
  | cons event later inductionHypothesis =>
    rw [List.foldl_cons]
    obtain same | entered := machine.handleEvent_cases event
    · rw [same]
      exact inductionHypothesis
    · refine .inr ?_
      obtain same | further := @inductionHypothesis (machine.handleEvent event)
      · rw [same]
        exact entered
      · exact further

/-- The validity of an active task is decided by the four conditions. -/
theorem updateTaskValidity_valid_iff {hasL1Task hasL2Route hasEncCheck autonomyOk : Bool}
    (active : machine.state = .active) :
    (machine.updateTaskValidity hasL1Task hasL2Route hasEncCheck autonomyOk).1.taskValidity =
        .valid ↔
      hasL1Task = true ∧ hasL2Route = true ∧ hasEncCheck = true ∧ autonomyOk = true := by
  unfold updateTaskValidity
  rw [if_neg (not_not_intro active)]
  have gate : ∀ met : Bool, (if met then TaskValidity.valid else .invalid) = .valid ↔
      met = true := by
    decide
  rw [gate]
  simp only [Bool.and_eq_true, and_assoc]

variable (machine)

@[simp]
theorem updateTaskValidity_state (hasL1Task hasL2Route hasEncCheck autonomyOk : Bool) :
    (machine.updateTaskValidity hasL1Task hasL2Route hasEncCheck autonomyOk).1.state =
      machine.state := by
  unfold updateTaskValidity
  split_ifs <;> rfl

end MissionStateMachine

end MassL3.M3
