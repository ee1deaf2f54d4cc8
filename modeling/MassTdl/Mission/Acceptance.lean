/-
This file compares what the mission manager records of a voyage task with what it does with it. A
valid task is recorded as accepted in every state, though only an idle mission takes it up, and a
task of any kind renews the time against which the validity of the mission is judged.
-/

import MassTdl.Mission.Steps

namespace MassL3.M3

open MissionManagerNode

/-! ### What is recorded -/

/-- The publications record that a task is accepted. -/
def recordsAcceptance (published : List Published) : Bool :=
  published.any fun
    | .asdrRecord record => record.decisionType = "voyage_task_accepted"
    | _ => false

namespace MissionManagerNode

variable {config : Config} {node : MissionManagerNode}

/-- A task is recorded as accepted if it is valid, whatever the mission does. -/
theorem recordsAcceptance_onVoyageTask (task : VoyageTask) (nowRos now : Int) :
    recordsAcceptance (node.published config (.voyageTask task nowRos now)) =
      (node.validateTask config task nowRos).isValid := by
  simp only [published, handle, onVoyageTask]
  cases (node.validateTask config task nowRos).isValid with
  | true =>
    simp only [if_true]
    split_ifs <;> rfl
  | false => rfl

/-- A valid task moves an idle mission on, and no other. -/
theorem onVoyageTask_awaitingRoute_iff {task : VoyageTask} {nowRos now : Int}
    (valid : (node.validateTask config task nowRos).isValid = true) :
    node.stateMachine.state = .idle ∧
        (node.next config (.voyageTask task nowRos now)).stateMachine.state = .awaitingRoute ↔
      node.stateMachine.state = .idle := by
  refine ⟨And.left, fun idle => ⟨idle, ?_⟩⟩
  rw [next_state]
  simp [move, idle, valid]

/-- An active mission keeps its machine, but for a world state and a request. -/
theorem next_stateMachine_of_active (active : node.stateMachine.state = .active) {event : Event}
    (notWorld : ∀ world now, event ≠ .worldState world now)
    (silent : ∀ odd now, event = .oddState odd now → ¬ node.Requests config odd now) :
    (node.next config event).stateMachine = node.stateMachine := by
  rw [next_stateMachine notWorld]
  refine MissionStateMachine.foldl_handleEvent_of_none fun sent member => ?_
  rw [active]
  cases event with
  | voyageTask task nowRos now =>
    simp only [sends, verdictEvent, List.mem_cons, List.not_mem_nil, or_false] at member
    obtain rfl | rfl := member
    · rfl
    · split_ifs <;> rfl
  | plannedRoute route now => simp [sends, active] at member
  | replanResponse response now =>
    rw [List.mem_singleton.mp member]
    rfl
  | oddState odd now =>
    rw [sends, if_neg (silent odd now rfl)] at member
    cases member
  | replanDeadlineTick now => simp [sends, active] at member
  | worldState | speedProfile | trackingError | missionGoalTick | asdrTick | heartbeatTick
  | l1WatchdogTick => cases member

/-- Only a world state makes a task valid. -/
theorem next_stateMachine_cases (config : Config) (node : MissionManagerNode) {event : Event}
    (notWorld : ∀ world now, event ≠ .worldState world now) :
    (node.next config event).stateMachine = node.stateMachine ∨
      (node.next config event).stateMachine.taskValidity ≠ .valid := by
  rw [next_stateMachine notWorld]
  exact MissionStateMachine.foldl_handleEvent_cases _

/-- A request takes the mission out of the active state. -/
theorem not_active_of_requests {odd : ODDState} {now : Int}
    (requests : node.Requests config odd now) :
    (node.next config (.oddState odd now)).stateMachine.state ≠ .active := by
  rw [next_state]
  simp only [move, requests, and_true]
  split_ifs with active
  · show MissionState.replanWait ≠ .active
    decide
  · exact active

end MissionManagerNode

/-! ### The task that was recorded last -/

/-- The node, and when the task arrived that was recorded as accepted last. -/
structure Watched where
  node : MissionManagerNode
  accepted : Option Int := none

namespace Watched

variable (config : Config) (watched : Watched)

def next (event : Event) : Watched where
  node := watched.node.next config event
  accepted :=
    match event with
    | .voyageTask _ _ now =>
        if recordsAcceptance (watched.node.published config event) then some now
        else watched.accepted
    | _ => watched.accepted

/-- The task recorded last is younger than the timeout of the first layer. -/
def AcceptedYounger (now : Int) : Prop :=
  watched.accepted.any (younger now · config.l1TimeoutS) = true

/-- A callback records what it does, and the validity rests on the task that was recorded. -/
structure Keeps (event : Event) : Prop where
  recorded : ∀ task nowRos now, event = .voyageTask task nowRos now →
    (recordsAcceptance (watched.node.published config event) = true ↔
      watched.node.stateMachine.state = .idle ∧
        (watched.node.next config event).stateMachine.state = .awaitingRoute)
  valid : (watched.next config event).node.stateMachine.state = .active →
    (watched.next config event).node.stateMachine.taskValidity = .valid →
    (watched.next config event).AcceptedYounger config event.now

/-- The callbacks that keep to the record. -/
structure Orderly (event : Event) : Prop where
  /-- A valid task arrives only while the mission is idle. -/
  onlyIdle : ∀ task nowRos now, event = .voyageTask task nowRos now →
    (watched.node.validateTask config task nowRos).isValid = true →
    watched.node.stateMachine.state = .idle
  /-- A world state that finds all conditions met, but on the word of a task that was not
  accepted, finds the accepted one younger than the timeout too. -/
  notRenewed : ∀ world now, event = .worldState world now →
    watched.node.stateMachine.state = .active → watched.node.hasL1Task config now = true →
    watched.node.hasL2Route config now = true → watched.node.autonomyOk = true →
    watched.node.lastVoyageTaskTime ≠ watched.accepted → watched.AcceptedYounger config now
  /-- A valid verdict is not kept past the timeout of the task it rests on. -/
  notKept : watched.node.stateMachine.state = .active →
    watched.node.stateMachine.taskValidity = .valid →
    (∀ world now, event ≠ .worldState world now) →
    (∀ odd now, event = .oddState odd now → ¬ watched.node.Requests config odd now) →
    watched.AcceptedYounger config event.now

variable {config watched}

/-- Only a task that is recorded renews the time. -/
theorem next_accepted {event : Event}
    (unrecorded : ∀ task nowRos now, event = .voyageTask task nowRos now →
      (watched.node.validateTask config task nowRos).isValid = false) :
    (watched.next config event).accepted = watched.accepted := by
  cases event with
  | voyageTask task nowRos now =>
    simp only [next, recordsAcceptance_onVoyageTask, unrecorded task nowRos now rfl]
    rfl
  | _ => rfl

/-- The record of a task is right exactly if a valid one arrives only while idle. -/
theorem recorded_iff {task : VoyageTask} {nowRos now : Int} :
    (recordsAcceptance (watched.node.published config (.voyageTask task nowRos now)) = true ↔
        watched.node.stateMachine.state = .idle ∧
          (watched.node.next config (.voyageTask task nowRos now)).stateMachine.state =
            .awaitingRoute) ↔
      ((watched.node.validateTask config task nowRos).isValid = true →
        watched.node.stateMachine.state = .idle) := by
  rw [recordsAcceptance_onVoyageTask]
  constructor
  · exact fun right valid => (right.mp valid).1
  · refine fun onlyIdle => ⟨fun valid => ?_, fun ⟨idle, taken⟩ => ?_⟩
    · exact (onVoyageTask_awaitingRoute_iff valid).mpr (onlyIdle valid)
    · by_contra invalid
      rw [next_state] at taken
      simp [move, idle, invalid] at taken

/-- What a world state finds is right exactly if no other task renewed the time. -/
theorem valid_worldState_iff {world : WorldState} {now : Int} :
    ((watched.next config (.worldState world now)).node.stateMachine.state = .active →
        (watched.next config (.worldState world now)).node.stateMachine.taskValidity = .valid →
        (watched.next config (.worldState world now)).AcceptedYounger config now) ↔
      (watched.node.stateMachine.state = .active → watched.node.hasL1Task config now = true →
        watched.node.hasL2Route config now = true → watched.node.autonomyOk = true →
        watched.node.lastVoyageTaskTime ≠ watched.accepted →
        watched.AcceptedYounger config now) := by
  have machine : (watched.next config (.worldState world now)).node.stateMachine = _ :=
    onWorldState_stateMachine config watched.node world now
  rw [machine, MissionStateMachine.updateTaskValidity_state]
  refine imp_congr_right fun active => ?_
  rw [MissionStateMachine.updateTaskValidity_valid_iff active]
  constructor
  · exact fun right task route autonomy _ => right ⟨task, route, rfl, autonomy⟩
  · rintro right ⟨task, route, -, autonomy⟩
    by_cases same : watched.node.lastVoyageTaskTime = watched.accepted
    · rw [hasL1Task, same] at task
      exact task
    · exact right task route autonomy same

/-- A callback keeps to the record exactly if it is orderly. -/
theorem keeps_iff_orderly (event : Event) :
    watched.Keeps config event ↔ watched.Orderly config event := by
  by_cases isWorld : ∃ world now, event = .worldState world now
  · obtain ⟨world, now, rfl⟩ := isWorld
    constructor
    · rintro ⟨-, valid⟩
      refine ⟨nofun, fun _ _ same => ?_, fun _ _ notWorld => absurd rfl (notWorld world now)⟩
      obtain ⟨rfl, rfl⟩ := Event.worldState.inj same
      exact valid_worldState_iff.mp valid
    · rintro ⟨-, notRenewed, -⟩
      exact ⟨nofun, valid_worldState_iff.mpr (notRenewed world now rfl)⟩
  · have notWorld : ∀ world now, event ≠ .worldState world now :=
      fun world now same => isWorld ⟨world, now, same⟩
    constructor
    · rintro ⟨recorded, valid⟩
      have onlyIdle : ∀ task nowRos now, event = .voyageTask task nowRos now →
          (watched.node.validateTask config task nowRos).isValid = true →
          watched.node.stateMachine.state = .idle := by
        rintro task nowRos now rfl
        exact recorded_iff.mp (recorded task nowRos now rfl)
      refine ⟨onlyIdle, fun world now same => absurd same (notWorld world now),
        fun active verdict _ silent => ?_⟩
      have machine : (watched.next config event).node.stateMachine = watched.node.stateMachine :=
        next_stateMachine_of_active active notWorld silent
      have younger := valid (machine ▸ active) (machine ▸ verdict)
      rw [AcceptedYounger, next_accepted] at younger
      · exact younger
      · rintro task nowRos now rfl
        by_contra valid
        cases active.symm.trans (onlyIdle task nowRos now rfl (Bool.not_eq_false _ ▸ valid))
    · rintro ⟨onlyIdle, -, notKept⟩
      refine ⟨?_, fun active verdict => ?_⟩
      · rintro task nowRos now rfl
        exact recorded_iff.mpr (onlyIdle task nowRos now rfl)
      · obtain machine | entered := next_stateMachine_cases config watched.node notWorld
        · have wasActive : watched.node.stateMachine.state = .active := machine ▸ active
          have younger := notKept wasActive (machine ▸ verdict) notWorld
            fun odd now same requests => not_active_of_requests requests (same ▸ active)
          rw [AcceptedYounger, next_accepted]
          · exact younger
          · rintro task nowRos now rfl
            by_contra valid
            cases wasActive.symm.trans
              (onlyIdle task nowRos now rfl (Bool.not_eq_false _ ▸ valid))
        · exact absurd verdict entered

end Watched

/-! ### Along a run -/

section Runs

variable (config : Config) (nowSteady : Int) (events : List Event)

/-- The node and its record after the first events of a run. -/
def watchedAt (count : Nat) : Watched :=
  Runs.stateAt (Watched.next config) { node := construct nowSteady } events count

/-- What is recorded as accepted has been accepted, and only that makes a task valid. -/
def AcceptedMeansAccepted : Prop :=
  ∀ count event, events[count]? = some event →
    (watchedAt config nowSteady events count).Keeps config event

/-- Accepted means accepted exactly in the runs whose callbacks are all orderly: a valid task
arrives only while the mission is idle, no task that was not accepted renews the time of one that
is past the timeout, and a valid verdict is judged again before its task gets there. -/
theorem accepted_means_accepted_iff :
    AcceptedMeansAccepted config nowSteady events ↔
      ∀ count event, events[count]? = some event →
        (watchedAt config nowSteady events count).Orderly config event :=
  forall₂_congr fun _ event => imp_congr_right fun _ => Watched.keeps_iff_orderly event

end Runs

/-- The ODD is open, and so far from the minimum risk that no other route is asked for. -/
def openState : ODDState where
  currentZone := 0
  envelopeState := 0
  conformanceScore := 1.0

/-- A task that is rejected for its priority arrives 39 seconds after the one that was accepted. -/
def renewedEvents : List Event :=
  departureEvents [0.1] ++
    [.oddState openState (secondsNs 1),
      .voyageTask { shortVoyage with optimizationPriority := "fastest" } 0 (secondsNs 39),
      .plannedRoute (meridianRoute 1 [0.1]) (secondsNs 39),
      .worldState (onMeridian 40 0.0) (secondsNs 40)]

theorem accepted_means_accepted_false :
    ¬ ∀ events, AcceptedMeansAccepted shortVoyageConfig 0 events := by
  intro means
  have valid := (means renewedEvents 5 _ rfl).valid
  have active : ((watchedAt shortVoyageConfig 0 renewedEvents 5).next shortVoyageConfig
      (.worldState (onMeridian 40 0.0) (secondsNs 40))).node.stateMachine =
        { state := .active, taskValidity := .valid } := by
    decide +kernel
  have late : ((watchedAt shortVoyageConfig 0 renewedEvents 5).next shortVoyageConfig
      (.worldState (onMeridian 40 0.0) (secondsNs 40))).accepted.any
        (younger (secondsNs 40) · shortVoyageConfig.l1TimeoutS) = false := by
    decide +kernel
  have younger := valid (by rw [active]) (by rw [active])
  exact Bool.false_ne_true (late.symm.trans younger)

end MassL3.M3
