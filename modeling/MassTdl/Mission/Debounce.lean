/-
This file proves when the debounce of a degraded score is honest. The timer of the debounce is
set and cleared where a score is judged, but an ODD state is not judged while no mission is
active, during the cooldown after a request, or when it asks for the minimum risk condition. A
recovered score that arrives then does not clear the timer, and the next degraded score is taken
to have lasted since before it.
-/

import MassTdl.Mission.Steps
import MassTdl.Streaks

namespace MassL3.M3

open Binary64
open Streaks

/-! ### Degraded scores -/

/-- A received ODD state. -/
structure Received where
  odd : ODDState
  now : Int

def scoreOf (odd : ODDState) : Float := widen odd.conformanceScore

/-- The score is below the threshold of a degraded one. -/
def degraded (config : ReplanTriggerConfig) (received : Received) : Bool :=
  scoreOf received.odd < config.oddDegradedThreshold

/-- The ODD states received end in degraded ones, the first of which is as old as the buffer. -/
def DegradedForBuffer (config : ReplanTriggerConfig) (now : Int) (history : List Received) : Prop :=
  HeldSince (degraded config)
    (fun first => seconds (now - first.now) ≥ config.oddDegradedBufferS) history

def Event.received? : Event → Option Received
  | .oddState odd now => some ⟨odd, now⟩
  | _ => none

/-- The ODD states of a run. -/
def receivedOf (events : List Event) : List Received := events.filterMap (·.received?)

theorem receivedOf_append (events : List Event) (event : Event) :
    receivedOf (events ++ [event]) = receivedOf events ++ event.received?.toList := by
  unfold receivedOf
  rw [List.filterMap_append]
  cases event <;> rfl

/-! ### The timer -/

namespace ReplanRequestTrigger

variable (config : ReplanTriggerConfig) (trigger : ReplanRequestTrigger)

/-- The timer of the debounce after a score was judged. -/
theorem checkOddExit_timer (score : Float) (now : Int) :
    (trigger.checkOddExit config score now).2.degradedSince =
      if score < config.oddCriticalThreshold then none
      else if score < config.oddDegradedThreshold then trigger.degradedSince.or (some now)
      else none := by
  unfold checkOddExit
  split_ifs
  · rfl
  · cases since : trigger.degradedSince <;> simp [since]
  · rfl

/-- A score that is not critical leaves the ODD only after the buffer. -/
theorem checkOddExit_of_not_critical {score : Float} {now : Int}
    (notCritical : ¬ score < config.oddCriticalThreshold)
    (exits : (trigger.checkOddExit config score now).1 = true) :
    score < config.oddDegradedThreshold ∧ ∃ since, trigger.degradedSince = some since ∧
      seconds (now - since) ≥ config.oddDegradedBufferS := by
  unfold checkOddExit at exits
  rw [if_neg notCritical] at exits
  split_ifs at exits with below
  cases since : trigger.degradedSince with
  | none =>
    rw [since] at exits
    exact absurd exits Bool.false_ne_true
  | some started =>
    rw [since] at exits
    exact ⟨below, started, rfl, of_decide_eq_true exits⟩

/-- Only a state that does not ask for the minimum risk condition has its score judged. -/
theorem evaluate_trigger (odd : ODDState) (currentEtaS plannedEtaS : Float)
    (replanAttemptCount now : Int) :
    (trigger.evaluate config odd currentEtaS plannedEtaS replanAttemptCount now).2 =
      if checkMrcRequired odd then trigger
      else (trigger.checkOddExit config (scoreOf odd) now).2 := by
  unfold evaluate scoreOf
  dsimp only
  split_ifs <;> rfl

/-- An ODD exit is decided where the score was judged so. -/
theorem evaluate_oddExit {odd : ODDState} {currentEtaS plannedEtaS : Float}
    {replanAttemptCount now : Int}
    (triggers : (trigger.evaluate config odd currentEtaS plannedEtaS replanAttemptCount
      now).1.shouldTrigger = true)
    (oddExit : (trigger.evaluate config odd currentEtaS plannedEtaS replanAttemptCount
      now).1.reason = .oddExit) :
    (trigger.checkOddExit config (scoreOf odd) now).1 = true := by
  unfold evaluate at triggers oddExit
  dsimp only at triggers oddExit
  change (trigger.checkOddExit config (widen odd.conformanceScore) now).1 = true
  split_ifs at triggers oddExit <;> assumption

end ReplanRequestTrigger

namespace MissionManagerNode

variable (config : Config) (node : MissionManagerNode)

/-- The node judges the score of an ODD state that arrives now. -/
def judges (odd : ODDState) (now : Int) : Bool :=
  node.stateMachine.hasActiveMission && node.cooledDown config now &&
    !ReplanRequestTrigger.checkMrcRequired odd

/-- A replan on leaving the ODD is triggered by a score that is not critical. -/
def DegradedExit (odd : ODDState) (now : Int) : Prop :=
  node.Requests config odd now ∧ (node.oddDecision config odd now).reason = .oddExit ∧
    ¬ scoreOf odd < config.trigger.oddCriticalThreshold

theorem publishMissionGoal_replanTrigger (now : Int) :
    (node.publishMissionGoal config now).1.replanTrigger = node.replanTrigger :=
  congrArg (·.replanTrigger) (publishMissionGoal_mission config node now)

theorem checkAndTriggerReplan_replanTrigger (odd : ODDState) (currentEtaS plannedEtaS : Float)
    (now : Int) :
    (node.checkAndTriggerReplan config odd currentEtaS plannedEtaS now).1.replanTrigger =
      if node.cooledDown config now then
        (node.evaluateTrigger config odd currentEtaS plannedEtaS now).2
      else node.replanTrigger := by
  unfold checkAndTriggerReplan
  cases node.cooledDown config now with
  | false => rfl
  | true =>
    dsimp only
    cases (node.evaluateTrigger config odd currentEtaS plannedEtaS now).1.shouldTrigger <;> rfl

/-- The timer moves where the score is judged. -/
theorem next_oddState_replanTrigger (odd : ODDState) (now : Int) :
    (node.next config (.oddState odd now)).replanTrigger =
      if node.judges config odd now then
        (node.replanTrigger.checkOddExit config.trigger (scoreOf odd) now).2
      else node.replanTrigger := by
  unfold judges
  cases engaged : node.stateMachine.hasActiveMission with
  | false =>
    simp only [next, handle, onOddState, engaged]
    rfl
  | true =>
    have same := congrArg (·.replanTrigger) (onOddState_mission_of_engaged config node engaged
      odd now)
    refine Eq.trans same ((checkAndTriggerReplan_replanTrigger config _ odd _ _ now).trans ?_)
    unfold evaluateTrigger
    rw [ReplanRequestTrigger.evaluate_trigger]
    show (if node.cooledDown config now then _ else node.replanTrigger) = _
    cases node.cooledDown config now with
    | false => rfl
    | true =>
      cases ReplanRequestTrigger.checkMrcRequired odd <;> rfl

/-- Besides an ODD state, only an answer to a request clears the timer. -/
theorem next_replanTrigger {event : Event} (other : event.received? = none) :
    (node.next config event).replanTrigger = node.replanTrigger ∨
      (node.next config event).replanTrigger = ReplanRequestTrigger.resetDegradedTimer := by
  cases event with
  | oddState odd now => exact absurd other (Option.some_ne_none _)
  | voyageTask task nowRos now =>
    exact .inl (congrArg (·.replanTrigger) (onVoyageTask_mission config node task nowRos now))
  | plannedRoute route now =>
    left
    simp only [next, handle, onPlannedRoute]
    split_ifs <;> rfl
  | replanResponse response now =>
    simp only [next, handle, onReplanResponse]
    split_ifs
    · exact .inr rfl
    · exact .inl rfl
    · exact .inl rfl
  | worldState world now =>
    obtain ⟨_, same⟩ := onWorldState_mission config node world now
    exact .inl (congrArg (·.replanTrigger) same)
  | replanDeadlineTick now =>
    left
    simp only [next, handle, checkReplanDeadline]
    split
    · rfl
    · cases node.replanDeadline with
      | none => rfl
      | some deadline => dsimp only; split_ifs <;> rfl
  | trackingError msg now =>
    exact .inl (congrArg (·.replanTrigger) (onTrackingError_mission config node msg now))
  | missionGoalTick now => exact .inl (publishMissionGoal_replanTrigger config node now)
  | l1WatchdogTick now =>
    exact .inl (congrArg (·.replanTrigger) (evaluateL1Watchdog_mission config node now))
  | speedProfile | asdrTick | heartbeatTick => exact .inl rfl

/-! ### Runs -/

/-- While the timer runs, an ODD state whose score is not judged is degraded. -/
def Undisturbed (odd : ODDState) (now : Int) : Prop :=
  node.replanTrigger.degradedSince ≠ none → node.judges config odd now = false →
    scoreOf odd < config.trigger.oddDegradedThreshold

/-- The timer was set at an ODD state since which all that were received are degraded. -/
def TimerHonest (history : List Received) : Prop :=
  ∀ since, node.replanTrigger.degradedSince = some since →
    HeldSince (degraded config.trigger) (fun first => first.now = since) history

variable {config node}

theorem TimerHonest.next_oddState {history : List Received}
    (honest : node.TimerHonest config history) {odd : ODDState} {now : Int}
    (undisturbed : node.Undisturbed config odd now) :
    (node.next config (.oddState odd now)).TimerHonest config (history ++ [⟨odd, now⟩]) := by
  intro since running
  rw [next_oddState_replanTrigger] at running
  cases judged : node.judges config odd now with
  | false =>
    rw [judged, if_neg Bool.false_ne_true] at running
    have isDegraded := undisturbed (running ▸ Option.some_ne_none since) judged
    exact (honest since running).append (decide_eq_true isDegraded)
  | true =>
    rw [judged, if_pos rfl, ReplanRequestTrigger.checkOddExit_timer] at running
    split_ifs at running with critical isDegraded
    have held : degraded config.trigger ⟨odd, now⟩ = true := decide_eq_true isDegraded
    cases before : node.replanTrigger.degradedSince with
    | none =>
      rw [before, Option.none_or] at running
      exact .single held (Option.some.inj running)
    | some started =>
      rw [before, Option.some_or] at running
      exact (honest since (before.trans running)).append held

theorem TimerHonest.next {history : List Received} (honest : node.TimerHonest config history)
    {event : Event} (other : event.received? = none) :
    (node.next config event).TimerHonest config history := by
  intro since running
  rcases next_replanTrigger config node other with same | reset
  · exact honest since (same ▸ running)
  · rw [reset] at running
    exact absurd running (Option.some_ne_none since).symm

/-- Along a run no ODD state disturbs the debounce. -/
def UndisturbedRun (config : Config) (nowSteady : Int) (events : List Event) : Prop :=
  ∀ earlier odd now later, events = earlier ++ .oddState odd now :: later →
    (after config nowSteady earlier).Undisturbed config odd now

theorem UndisturbedRun.of_append {nowSteady : Int} {earlier later : List Event}
    (undisturbed : UndisturbedRun config nowSteady (earlier ++ later)) :
    UndisturbedRun config nowSteady earlier := fun before odd now rest isSplit =>
  undisturbed before odd now (rest ++ later) (by rw [isSplit, List.append_assoc, List.cons_append])

theorem timerHonest_after {nowSteady : Int} {events : List Event}
    (undisturbed : UndisturbedRun config nowSteady events) :
    (after config nowSteady events).TimerHonest config (receivedOf events) := by
  induction events using List.reverseRecOn with
  | nil => exact fun since running => absurd running (Option.some_ne_none since).symm
  | append_singleton earlier event inductionHypothesis =>
    have honest := inductionHypothesis undisturbed.of_append
    have step : after config nowSteady (earlier ++ [event]) =
        (after config nowSteady earlier).next config event := Runs.run_append _ _ _ _
    rw [step, receivedOf_append]
    cases heard : event.received? with
    | none =>
      rw [Option.toList_none, List.append_nil]
      exact honest.next heard
    | some received =>
      cases event with
      | oddState odd now =>
        rw [← Option.some.inj heard]
        exact honest.next_oddState (undisturbed earlier odd now [] rfl)
      | _ => exact absurd heard (Option.some_ne_none received).symm

/-- The decision on an ODD exit with a score that is not critical is that of the debounce. -/
theorem DegradedExit.timer {odd : ODDState} {now : Int} (exits : node.DegradedExit config odd now) :
    scoreOf odd < config.trigger.oddDegradedThreshold ∧
      ∃ since, node.replanTrigger.degradedSince = some since ∧
        seconds (now - since) ≥ config.trigger.oddDegradedBufferS := by
  obtain ⟨⟨-, -, triggers⟩, oddExit, notCritical⟩ := exits
  exact node.replanTrigger.checkOddExit_of_not_critical config.trigger notCritical
    (node.replanTrigger.evaluate_oddExit config.trigger triggers oddExit)

/-- In a run that no ODD state disturbs, a replan on leaving the ODD is triggered by a score that
is not critical only after the scores have been degraded for the length of the buffer. -/
theorem degradedExit_debounced (config : Config) (nowSteady : Int) (events : List Event)
    (undisturbed : UndisturbedRun config nowSteady events) :
    ∀ earlier odd now later, events = earlier ++ .oddState odd now :: later →
      (after config nowSteady earlier).DegradedExit config odd now →
      DegradedForBuffer config.trigger now (receivedOf (earlier ++ [.oddState odd now])) := by
  intro earlier odd now later isSplit exits
  have honest : (after config nowSteady earlier).TimerHonest config (receivedOf earlier) :=
    timerHonest_after (isSplit ▸ undisturbed : UndisturbedRun _ _ (earlier ++ _)).of_append
  obtain ⟨isDegraded, since, running, long⟩ := exits.timer
  have held : degraded config.trigger ⟨odd, now⟩ = true := decide_eq_true isDegraded
  rw [receivedOf_append]
  exact ((honest since running).append held).mono fun first _ isStart => isStart ▸ long

/-- An ODD state with a score, and without a demand. -/
def scored (conformanceScore : Float32) : ODDState where
  currentZone := 0
  envelopeState := 0
  conformanceScore

/-- The score is degraded from one second on, and two seconds later another route is asked for. -/
theorem degradedExit_debounced_degraded :
    DegradedForBuffer shortVoyageConfig.trigger (secondsNs 3)
      (receivedOf (departureEvents [0.1] ++
        [.oddState (scored 0.5) (secondsNs 1), .oddState (scored 0.5) (secondsNs 3)])) := by
  refine degradedExit_debounced shortVoyageConfig 0 (departureEvents [0.1] ++
    [.oddState (scored 0.5) (secondsNs 1), .oddState (scored 0.5) (secondsNs 3)]) ?_
    (departureEvents [0.1] ++ [.oddState (scored 0.5) (secondsNs 1)]) (scored 0.5) (secondsNs 3)
    [] rfl ?_
  · intro earlier odd now later isSplit _ _
    have member : Event.oddState odd now ∈ departureEvents [0.1] ++
        [.oddState (scored 0.5) (secondsNs 1), .oddState (scored 0.5) (secondsNs 3)] := by
      rw [isSplit]
      exact List.mem_append_right _ List.mem_cons_self
    have isScored : odd = scored 0.5 := by
      simp only [departureEvents, List.cons_append, List.nil_append, List.mem_cons, reduceCtorEq,
        Event.oddState.injEq, List.not_mem_nil, or_false, false_or] at member
      rcases member with ⟨same, -⟩ | ⟨same, -⟩ <;> exact same
    rw [isScored]
    decide +kernel
  · unfold DegradedExit
    decide +kernel

/-! ### A recovery during the cooldown -/

def milliseconds (count : Int) : Int := count * 1000000

/-- The score is degraded once; the minimum risk condition is asked for, and the score recovers
during the cooldown after that request. -/
def recoveredEvents : List Event :=
  departureEvents [0.1] ++
    [.oddState (scored 0.5) (secondsNs 1), .oddState mrcPrepState (secondsNs 2),
      .oddState (scored 1.0) (milliseconds 11500)]

/-- The next degraded score triggers a replan, half a second after the recovered one. -/
theorem degradedExit_not_debounced :
    (after shortVoyageConfig 0 recoveredEvents).DegradedExit shortVoyageConfig (scored 0.5)
        (secondsNs 12) ∧
      ¬ DegradedForBuffer shortVoyageConfig.trigger (secondsNs 12)
        (receivedOf (recoveredEvents ++ [.oddState (scored 0.5) (secondsNs 12)])) := by
  constructor
  · unfold DegradedExit
    decide +kernel
  · rintro ⟨first, later, isEnd, all, long⟩
    have received : receivedOf (recoveredEvents ++ [.oddState (scored 0.5) (secondsNs 12)]) =
        [⟨scored 0.5, secondsNs 1⟩, ⟨mrcPrepState, secondsNs 2⟩,
          ⟨scored 1.0, milliseconds 11500⟩, ⟨scored 0.5, secondsNs 12⟩] := rfl
    have recovered (member : ⟨scored 1.0, milliseconds 11500⟩ ∈ first :: later) : False :=
      absurd (all _ member) (by decide +kernel)
    rw [received] at isEnd
    simp only [List.suffix_cons_iff, List.suffix_nil, List.cons.injEq, reduceCtorEq,
      or_false] at isEnd
    rcases isEnd with ⟨rfl, rfl⟩ | ⟨rfl, rfl⟩ | ⟨rfl, rfl⟩ | ⟨rfl, rfl⟩
    · exact recovered (by simp)
    · exact recovered (by simp)
    · exact recovered (by simp)
    · exact absurd long (by decide +kernel)

end MissionManagerNode

end MassL3.M3
