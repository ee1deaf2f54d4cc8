/-
This file follows a request that nobody answers. It is to end in a transit to the minimum risk at
its deadline. But the node goes on judging ODD states while it waits, and each further request
overwrites the one deadline: what counts is the request issued last.
-/

import MassTdl.Mission.Steps

namespace MassL3.M3

open MissionManagerNode

namespace MissionManagerNode

variable (config : Config)

/-! ### Waiting -/

/-- The request that an event makes a waiting mission issue, by the time at which it expires. -/
def reissue (node : MissionManagerNode) : Event → Option Int
  | .oddState odd now =>
      if node.stateMachine.state = .replanWait ∧ node.Requests config odd now then
        some (node.expiry config odd now)
      else none
  | _ => none

/-- The requests that a mission issues while it waits, each by the time at which it expires. -/
def reissues (node : MissionManagerNode) : List Event → List Int
  | [] => []
  | event :: later => (node.reissue config event).toList ++ (node.next config event).reissues later

/-- No response to the mission is one it acts on. -/
def Unanswered (node : MissionManagerNode) : List Event → Prop
  | [] => True
  | event :: later =>
      (∀ response now, event = .replanResponse response now →
        (node.responseOutcome config response).actionable = false) ∧
      (node.next config event).Unanswered later

/-- The mission waits with this deadline. -/
structure WaitsUntil (node : MissionManagerNode) (deadline : Int) : Prop where
  waiting : node.stateMachine.state = .replanWait
  deadline : node.replanDeadline = some deadline

variable {config} {node : MissionManagerNode} {deadline : Int}

theorem actionable_false_iff (outcome : ReplanOutcome) :
    outcome.actionable = false ↔ outcome.success = false ∧ outcome.escalateToMrc = false := by
  unfold ReplanOutcome.actionable
  exact Bool.or_eq_false_iff

/-- Nothing but the deadline and an answer moves a mission that waits. -/
theorem next_waiting (waiting : node.stateMachine.state = .replanWait) {event : Event}
    (unanswered : ∀ response now, event = .replanResponse response now →
      (node.responseOutcome config response).actionable = false)
    (notTick : ∀ now, event ≠ .replanDeadlineTick now) :
    (node.next config event).stateMachine.state = .replanWait := by
  obtain same | ⟨moved, -, moves⟩ := next_state_cases config node event
  · exact same.trans waiting
  · cases moves with
    | task before =>
      rcases before with idle | validating
      · cases waiting.symm.trans idle
      · cases waiting.symm.trans validating
    | route awaiting => cases waiting.symm.trans awaiting
    | granted before success =>
      obtain ⟨failed, -⟩ := (actionable_false_iff _).mp (unanswered _ _ rfl)
      cases failed.symm.trans success
    | escalated before escalates =>
      obtain ⟨-, quiet⟩ := (actionable_false_iff _).mp (unanswered _ _ rfl)
      cases quiet.symm.trans escalates
    | request active requests => cases waiting.symm.trans active
    | expiry before due => exact absurd rfl (notTick _)

/-- Any event but the deadline leaves the mission waiting, until the request issued last
expires. -/
theorem next_waitsUntil (waits : node.WaitsUntil deadline) {event : Event}
    (unanswered : ∀ response now, event = .replanResponse response now →
      (node.responseOutcome config response).actionable = false)
    (notTick : ∀ now, event ≠ .replanDeadlineTick now) :
    (node.next config event).WaitsUntil ((node.reissue config event).getD deadline) := by
  obtain ⟨waiting, isDeadline⟩ := waits
  refine ⟨next_waiting waiting unanswered notTick, ?_⟩
  by_cases isOdd : ∃ odd now, event = .oddState odd now
  · obtain ⟨odd, now, rfl⟩ := isOdd
    rw [onOddState_replanDeadline, isDeadline]
    simp only [reissue, waiting, true_and]
    split_ifs <;> rfl
  · have quiet : node.reissue config event = none := by
      cases event with
      | oddState odd now => exact absurd ⟨odd, now, rfl⟩ isOdd
      | _ => rfl
    rw [quiet, Option.getD_none]
    by_cases isResponse : ∃ response now, event = .replanResponse response now
    · obtain ⟨response, now, rfl⟩ := isResponse
      obtain ⟨failed, ignored⟩ := (actionable_false_iff _).mp (unanswered response now rfl)
      simp only [next, handle, onReplanResponse, failed, ignored, Bool.false_eq_true, if_false]
      exact isDeadline
    · rw [next_replanDeadline (fun odd now same => isOdd ⟨odd, now, same⟩)
        (fun response now same => isResponse ⟨response, now, same⟩) notTick]
      exact isDeadline

/-- At its deadline the mission goes to the minimum risk, and not before. -/
theorem tick_waitsUntil (config : Config) (waits : node.WaitsUntil deadline) (now : Int) :
    deadline ≤ now ∧
        (node.next config (.replanDeadlineTick now)).stateMachine.state = .mrcTransit ∨
      now < deadline ∧ node.next config (.replanDeadlineTick now) = node := by
  obtain ⟨waiting, isDeadline⟩ := waits
  by_cases due : deadline ≤ now
  · refine .inl ⟨due, ?_⟩
    rw [next_state]
    simp [move, waiting, isDeadline, due]
  · refine .inr ⟨Int.not_le.mp due, ?_⟩
    simp [next, handle, checkReplanDeadline, waiting, isDeadline, due]

/-! ### At the minimum risk -/

/-- Nothing leads away from a transit to the minimum risk. -/
theorem next_transit (transit : node.stateMachine.state = .mrcTransit) (event : Event) :
    (node.next config event).stateMachine.state = .mrcTransit := by
  obtain same | ⟨moved, -, moves⟩ := next_state_cases config node event
  · exact same.trans transit
  · cases moves with
    | task before =>
      rcases before with idle | validating
      · cases transit.symm.trans idle
      · cases transit.symm.trans validating
    | route awaiting => cases transit.symm.trans awaiting
    | granted waiting success => cases transit.symm.trans waiting
    | escalated waiting escalates => cases transit.symm.trans waiting
    | request active requests => cases transit.symm.trans active
    | expiry waiting due => cases transit.symm.trans waiting

theorem run_transit (transit : node.stateMachine.state = .mrcTransit) (events : List Event) :
    (Runs.run (next config) node events).stateMachine.state = .mrcTransit :=
  Runs.run_invariant
    (fun node : MissionManagerNode => node.stateMachine.state = .mrcTransit) transit
    fun _ event transit => next_transit transit event

/-- No further request is issued from there. -/
theorem reissues_of_transit (transit : node.stateMachine.state = .mrcTransit)
    (events : List Event) : node.reissues config events = [] := by
  induction events generalizing node with
  | nil => rfl
  | cons event later inductionHypothesis =>
    have quiet : node.reissue config event = none := by
      cases event with
      | oddState odd now => simp [reissue, transit]
      | _ => rfl
    rw [reissues, quiet, inductionHypothesis (next_transit transit event)]
    rfl

/-! ### The deadline in force -/

/-- A request counts only where no other is issued after it. -/
theorem getLast?_toList_append (first : Option Int) (others : List Int) (deadline : Int) :
    (first.toList ++ others).getLast?.getD deadline =
      others.getLast?.getD (first.getD deadline) := by
  rw [List.getLast?_append]
  cases others.getLast? <;> cases first <;> rfl

/-- At a tick the mission has gone to the minimum risk exactly if the request issued last has
expired by then. The induction follows the events with the deadline in force. -/
theorem run_transit_iff {later : List Event} {tick : Int} (waits : node.WaitsUntil deadline)
    (unanswered : node.Unanswered config later) (earlier : ∀ event ∈ later, event.now ≤ tick) :
    (Runs.run (next config) node
        (later ++ [.replanDeadlineTick tick])).stateMachine.state = .mrcTransit ↔
      (node.reissues config later).getLast?.getD deadline ≤ tick := by
  induction later generalizing node deadline with
  | nil =>
    rw [reissues, List.nil_append, Runs.run, List.foldl_cons, List.foldl_nil]
    obtain ⟨due, transit⟩ | ⟨early, same⟩ := tick_waitsUntil config waits tick
    · exact iff_of_true transit due
    · rw [same, waits.waiting]
      exact iff_of_false nofun (Int.not_le.mpr early)
  | cons event later inductionHypothesis =>
    have soon := earlier event List.mem_cons_self
    have rest : ∀ event ∈ later, event.now ≤ tick :=
      fun event member => earlier event (List.mem_cons_of_mem _ member)
    rw [reissues, getLast?_toList_append, List.cons_append, Runs.run, List.foldl_cons,
      ← Runs.run]
    by_cases isTick : ∃ now, event = .replanDeadlineTick now
    · obtain ⟨now, rfl⟩ := isTick
      obtain ⟨due, transit⟩ | ⟨early, same⟩ := tick_waitsUntil config waits now
      · rw [reissues_of_transit transit]
        exact iff_of_true (run_transit transit _) (Int.le_trans due soon)
      · have unanswered := unanswered.2
        rw [same] at unanswered ⊢
        exact inductionHypothesis waits unanswered rest
    · exact inductionHypothesis (next_waitsUntil waits unanswered.1 fun now same =>
        isTick ⟨now, same⟩) unanswered.2 rest

end MissionManagerNode

/-! ### An unanswered request -/

/-- A request that nobody answers escalates on time exactly if the request issued last, of those
issued while the mission waits, has expired at the tick. -/
theorem unanswered_request_escalates_iff (config : Config) (node : MissionManagerNode)
    (odd : ODDState) (asked : Int) (later : List Event) (tick : Int)
    (active : node.stateMachine.state = .active)
    (triggered : (node.next config (.oddState odd asked)).stateMachine.state = .replanWait)
    (clock : (asked :: (later.map Event.now ++ [tick])).Pairwise (· ≤ ·))
    (unanswered : (node.next config (.oddState odd asked)).Unanswered config later)
    (due : node.expiry config odd asked ≤ tick) :
    (Runs.run (next config) node
        (.oddState odd asked :: (later ++ [.replanDeadlineTick tick]))).stateMachine.state =
          .mrcTransit ↔
      ∀ expiry, ((node.next config (.oddState odd asked)).reissues config later).getLast? =
        some expiry → expiry ≤ tick := by
  have requests : node.Requests config odd asked := by
    obtain same | ⟨moved, -, moves⟩ := next_state_cases config node (.oddState odd asked)
    · cases (same.symm.trans triggered).symm.trans active
    · cases moves with
      | request active requests => exact requests
  have waits : (node.next config (.oddState odd asked)).WaitsUntil
      (node.expiry config odd asked) := by
    refine ⟨triggered, ?_⟩
    rw [onOddState_replanDeadline, if_pos requests]
  have earlier : ∀ event ∈ later, event.now ≤ tick := by
    intro event member
    rw [List.pairwise_cons, List.pairwise_append] at clock
    exact clock.2.2.2 event.now (List.mem_map_of_mem member) tick List.mem_cons_self
  rw [Runs.run, List.foldl_cons, ← Runs.run, run_transit_iff waits unanswered earlier]
  cases ((node.next config (.oddState odd asked)).reissues config later).getLast? with
  | none => exact iff_of_true due nofun
  | some expiry =>
    rw [Option.getD_some]
    exact ⟨fun expired _ same => Option.some.inj same ▸ expired, fun all => all expiry rfl⟩

theorem requested_waiting :
    ((after shortVoyageConfig 0 (departureEvents [0.1])).next shortVoyageConfig
      (.oddState mrcPrepState (secondsNs 1))).stateMachine.state = .replanWait := by
  decide +kernel

theorem requested_expiry :
    (after shortVoyageConfig 0 (departureEvents [0.1])).expiry shortVoyageConfig mrcPrepState
      (secondsNs 1) = secondsNs 31 := by
  decide +kernel

/-- The same ODD state four seconds later comes within the cooldown. -/
theorem unanswered_request_escalates_iff_once :
    (Runs.run (next shortVoyageConfig) (after shortVoyageConfig 0 (departureEvents [0.1]))
      [.oddState mrcPrepState (secondsNs 1), .oddState mrcPrepState (secondsNs 5),
        .replanDeadlineTick (secondsNs 31)]).stateMachine.state = .mrcTransit := by
  have clock : (secondsNs 1 ::
      ([.oddState mrcPrepState (secondsNs 5)].map Event.now ++ [secondsNs 31])).Pairwise
        (· ≤ ·) := by
    decide
  have issuedOnce : (((after shortVoyageConfig 0 (departureEvents [0.1])).next shortVoyageConfig
      (.oddState mrcPrepState (secondsNs 1))).reissues shortVoyageConfig
        [.oddState mrcPrepState (secondsNs 5)]) = [] := by
    decide +kernel
  have escalates := unanswered_request_escalates_iff shortVoyageConfig
    (after shortVoyageConfig 0 (departureEvents [0.1])) mrcPrepState (secondsNs 1)
    [.oddState mrcPrepState (secondsNs 5)] (secondsNs 31) (after_departure_state [0.1])
    requested_waiting clock ⟨fun _ _ => nofun, trivial⟩ (Int.le_of_eq requested_expiry)
  rw [List.singleton_append] at escalates
  refine escalates.mpr fun expiry issued => ?_
  cases issued.symm.trans (congrArg List.getLast? issuedOnce)

/-- A request that nobody answers has escalated at the first tick at or after its deadline. -/
def UnansweredRequestsEscalate (config : Config) (nowSteady : Int) : Prop :=
  ∀ history odd asked later tick,
    (after config nowSteady history).stateMachine.state = .active →
    ((after config nowSteady history).next config (.oddState odd asked)).stateMachine.state =
      .replanWait →
    (asked :: (later.map Event.now ++ [tick])).Pairwise (· ≤ ·) →
    ((after config nowSteady history).next config (.oddState odd asked)).Unanswered config later →
    (∀ now, .replanDeadlineTick now ∈ later →
      now < (after config nowSteady history).expiry config odd asked) →
    (after config nowSteady history).expiry config odd asked ≤ tick →
    (Runs.run (next config) (after config nowSteady history)
      (.oddState odd asked :: (later ++ [.replanDeadlineTick tick]))).stateMachine.state =
        .mrcTransit

/-- The same ODD state ten seconds later puts the deadline off. -/
theorem unanswered_requests_escalate_false : ¬ UnansweredRequestsEscalate shortVoyageConfig 0 := by
  intro escalate
  have clock : (secondsNs 1 ::
      ([.oddState mrcPrepState (secondsNs 11)].map Event.now ++ [secondsNs 31])).Pairwise
        (· ≤ ·) := by
    decide
  have transit := escalate (departureEvents [0.1]) mrcPrepState (secondsNs 1)
    [.oddState mrcPrepState (secondsNs 11)] (secondsNs 31) (after_departure_state [0.1])
    requested_waiting clock ⟨fun _ _ => nofun, trivial⟩ (by simp)
    (Int.le_of_eq requested_expiry)
  have waits : (Runs.run (next shortVoyageConfig)
      (after shortVoyageConfig 0 (departureEvents [0.1]))
      [.oddState mrcPrepState (secondsNs 1), .oddState mrcPrepState (secondsNs 11),
        .replanDeadlineTick (secondsNs 31)]).stateMachine.state = .replanWait := by
    decide +kernel
  rw [List.cons_append, List.nil_append, waits] at transit
  cases transit

end MassL3.M3
