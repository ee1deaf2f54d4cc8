/-
This file compares two runs of the watchdog: one with evaluations besides those of the main loop,
as the hard constraints make them, and the same run without. Each evaluation that finds a module
overdue counts one lost beat, whoever asks, so the verdicts of the main loop agree exactly when
the extra evaluations since the last message of every overdue module cancel out in the 32 bits of
its counter.
-/

import MassTdl.Runs
import MassTdl.Supervisor.HardConstraints
import MassTdl.Words

namespace MassL3.M7

open Runs

/-! ### Two runs -/

inductive WatchdogEvent where
  | message (module : MonitoredModule) (now : Int)
  | mainEvaluation (now : Int)
  | extraEvaluation (now : Int)

namespace WatchdogEvent

def time : WatchdogEvent → Int
  | message _ now | mainEvaluation now | extraEvaluation now => now

def isMain : WatchdogEvent → Bool
  | mainEvaluation _ => true
  | _ => false

def isExtra : WatchdogEvent → Bool
  | extraEvaluation _ => true
  | _ => false

/-- When the watchdog is evaluated, by whomever. -/
def evaluatedAt? : WatchdogEvent → Option Int
  | mainEvaluation now | extraEvaluation now => some now
  | message _ _ => none

/-- When the module sends a message. -/
def heardAt? (module : MonitoredModule) : WatchdogEvent → Option Int
  | message other now => if other = module then some now else none
  | _ => none

end WatchdogEvent

/-- The watchdog after an event; the extra evaluations are those of the hard constraints. -/
def watchdogStep (monitor : WatchdogMonitor) : WatchdogEvent → WatchdogMonitor
  | .message module now => monitor.onMessageReceived module now
  | .mainEvaluation now => monitor.afterEvaluate now
  | .extraEvaluation now => (Core.evaluateWatchdogConstraint monitor now).1

def watchdogAfter (cfg : WatchdogConfig) (events : List WatchdogEvent) : WatchdogMonitor :=
  run watchdogStep (.create cfg) events

def withoutExtra (events : List WatchdogEvent) : List WatchdogEvent :=
  events.filter fun event => !event.isExtra

/-- The evaluations of the main loop return what they would without the extra ones. -/
def VerdictsUnchanged (cfg : WatchdogConfig) (events : List WatchdogEvent) : Prop :=
  ∀ earlier now later, events = earlier ++ .mainEvaluation now :: later →
    (watchdogAfter cfg earlier).evaluate now =
      (watchdogAfter cfg (withoutExtra earlier)).evaluate now

/-- Every extra evaluation finds all modules in time and nothing counted. -/
def Harmless (cfg : WatchdogConfig) (events : List WatchdogEvent) : Prop :=
  ∀ earlier now later, events = earlier ++ .extraEvaluation now :: later →
    ∀ module, ((watchdogAfter cfg earlier).watches module).initialized = true →
      (watchdogAfter cfg earlier).overdue now module = false ∧
        ((watchdogAfter cfg earlier).watches module).lossCount = 0

/-! ### Beats lost since the last message -/

variable (cfg : WatchdogConfig) (module : MonitoredModule) (events : List WatchdogEvent)

def lastHeard : Option Int := events.reverse.findSome? (·.heardAt? module)

def sinceHeard : List WatchdogEvent :=
  events.reverse.takeWhile fun event => (event.heardAt? module).isNone

/-- A module that was last heard at a time is overdue. -/
def overdueSince (heard : Option Int) (now : Int) : Bool :=
  heard.any fun last => now - last > milliseconds (cfg.timeoutMs module)

/-- The evaluations of a kind that found the module overdue since its last message. -/
def losses (kind : WatchdogEvent → Bool) : Nat :=
  (sinceHeard module events).countP fun event =>
    kind event && event.evaluatedAt?.any (overdueSince cfg module (lastHeard module events))

variable {cfg module events}

theorem lastHeard_append (event : WatchdogEvent) :
    lastHeard module (events ++ [event]) =
      (event.heardAt? module).or (lastHeard module events) := by
  unfold lastHeard
  rw [List.reverse_append, List.reverse_singleton, List.singleton_append, List.findSome?_cons]
  cases event.heardAt? module <;> rfl

/-- A message starts the count again. -/
theorem losses_append_heard {event : WatchdogEvent} (heard : (event.heardAt? module).isSome = true)
    (kind : WatchdogEvent → Bool) : losses cfg module (events ++ [event]) kind = 0 := by
  unfold losses sinceHeard
  rw [List.reverse_append, List.reverse_singleton, List.singleton_append,
    List.takeWhile_cons_of_neg (by rw [Option.isNone_eq_false_iff.mpr heard]; decide)]
  rfl

theorem losses_append {event : WatchdogEvent} (unheard : event.heardAt? module = none)
    (kind : WatchdogEvent → Bool) :
    losses cfg module (events ++ [event]) kind =
      losses cfg module events kind +
        if kind event && event.evaluatedAt?.any (overdueSince cfg module (lastHeard module events))
        then 1 else 0 := by
  unfold losses
  rw [lastHeard_append, unheard, Option.none_or]
  unfold sinceHeard
  rw [List.reverse_append, List.reverse_singleton, List.singleton_append,
    List.takeWhile_cons_of_pos (by rw [unheard]; rfl), List.countP_cons]

/-- The losses of the main loop and the extra ones make up all. -/
theorem losses_add : losses cfg module events (fun _ => true) =
    losses cfg module events (·.isMain) + losses cfg module events (·.isExtra) := by
  induction events using List.reverseRecOn with
  | nil => rfl
  | append_singleton earlier event inductionHypothesis =>
    cases heard : event.heardAt? module with
    | some now =>
      have isHeard : (event.heardAt? module).isSome = true := Option.isSome_of_eq_some heard
      rw [losses_append_heard isHeard, losses_append_heard isHeard, losses_append_heard isHeard]
    | none =>
      rw [losses_append heard, losses_append heard, losses_append heard, inductionHypothesis]
      cases event with
      | message other now => rfl
      | mainEvaluation now => exact Nat.add_right_comm _ _ _
      | extraEvaluation now => exact Nat.add_assoc _ _ _

theorem withoutExtra_append (event : WatchdogEvent) :
    withoutExtra (events ++ [event]) =
      if event.isExtra then withoutExtra events else withoutExtra events ++ [event] := by
  unfold withoutExtra
  rw [List.filter_append]
  cases event <;> first | rfl | exact List.append_nil _

theorem lastHeard_withoutExtra : lastHeard module (withoutExtra events) =
    lastHeard module events := by
  induction events using List.reverseRecOn with
  | nil => rfl
  | append_singleton earlier event inductionHypothesis =>
    rw [withoutExtra_append, lastHeard_append, ← inductionHypothesis]
    cases event with
    | message other now => exact lastHeard_append _
    | mainEvaluation now => exact lastHeard_append _
    | extraEvaluation now => rfl

/-- Without the extra evaluations only the losses of the main loop are left. -/
theorem losses_withoutExtra : losses cfg module (withoutExtra events) (fun _ => true) =
    losses cfg module events (·.isMain) := by
  induction events using List.reverseRecOn with
  | nil => rfl
  | append_singleton earlier event inductionHypothesis =>
    rw [withoutExtra_append]
    cases heard : event.heardAt? module with
    | some now =>
      have isHeard : (event.heardAt? module).isSome = true := Option.isSome_of_eq_some heard
      cases event with
      | message other sent =>
        show losses cfg module (withoutExtra earlier ++ [.message other sent]) _ = _
        rw [losses_append_heard isHeard, losses_append_heard isHeard]
      | mainEvaluation | extraEvaluation => exact absurd heard (Option.some_ne_none now).symm
    | none =>
      rw [losses_append heard, ← inductionHypothesis]
      cases event with
      | message other sent =>
        show losses cfg module (withoutExtra earlier ++ [.message other sent]) _ = _
        rw [losses_append heard]
        rfl
      | mainEvaluation now =>
        show losses cfg module (withoutExtra earlier ++ [.mainEvaluation now]) _ = _
        rw [losses_append heard, lastHeard_withoutExtra]
        rfl
      | extraEvaluation now => rfl

/-! ### What the watchdog keeps -/

/-- What is kept of a module says when it was last heard, and how often it has been found
overdue since. -/
structure Tracks (cfg : WatchdogConfig) (module : MonitoredModule) (events : List WatchdogEvent)
    (watch : ModuleWatch) : Prop where
  initialized : watch.initialized = (lastHeard module events).isSome
  lastReceived : ∀ last, lastHeard module events = some last → watch.lastReceived = last
  lossCount : watch.lossCount = UInt32.ofNat (losses cfg module events fun _ => true)

theorem watchdogAfter_append (event : WatchdogEvent) :
    watchdogAfter cfg (events ++ [event]) = watchdogStep (watchdogAfter cfg events) event :=
  run_append _ _ _ _

@[simp] theorem watchdogAfter_cfg : (watchdogAfter cfg events).cfg = cfg :=
  run_invariant (fun monitor : WatchdogMonitor => monitor.cfg = cfg) rfl
    fun _ event same => by cases event <;> exact same

theorem Tracks.overdue
    (tracks : Tracks cfg module events ((watchdogAfter cfg events).watches module)) (now : Int) :
    (watchdogAfter cfg events).overdue now module =
      overdueSince cfg module (lastHeard module events) now := by
  unfold WatchdogMonitor.overdue overdueSince
  rw [tracks.initialized, watchdogAfter_cfg]
  cases heard : lastHeard module events with
  | none => rfl
  | some last =>
    rw [tracks.lastReceived last heard]
    rfl

theorem overdueSince_later {heard : Option Int} {first second : Int} (later : first ≤ second)
    (overdue : overdueSince cfg module heard first = true) :
    overdueSince cfg module heard second = true := by
  unfold overdueSince at overdue ⊢
  obtain ⟨last, isLast, late⟩ := (Option.any_eq_true _ _).mp overdue
  refine (Option.any_eq_true _ _).mpr ⟨last, isLast, decide_eq_true ?_⟩
  have := of_decide_eq_true late
  omega

/-- With a clock that does not go back, a module in time has lost nothing since its message. -/
theorem losses_eq_zero {now : Int} (before : ∀ event ∈ events, event.time ≤ now)
    (inTime : overdueSince cfg module (lastHeard module events) now = false)
    (kind : WatchdogEvent → Bool) : losses cfg module events kind = 0 := by
  unfold losses
  rw [List.countP_eq_zero]
  intro event member counted
  obtain ⟨evaluated, isEvaluated, overdue⟩ :=
    (Option.any_eq_true _ _).mp (Bool.and_eq_true_iff.mp counted).2
  have isTime : event.time = evaluated := by
    cases event with
    | message other sent => exact absurd isEvaluated (Option.some_ne_none evaluated).symm
    | mainEvaluation at_ | extraEvaluation at_ => exact Option.some.inj isEvaluated
  have inRun : event ∈ events :=
    List.mem_reverse.mp ((List.takeWhile_prefix _).subset member)
  have late := overdueSince_later (isTime ▸ before event inRun) overdue
  rw [inTime] at late
  exact Bool.false_ne_true late

theorem Tracks.message
    (tracks : Tracks cfg module events ((watchdogAfter cfg events).watches module))
    (other : MonitoredModule) (now : Int) :
    Tracks cfg module (events ++ [.message other now])
      (((watchdogAfter cfg events).onMessageReceived other now).watches module) := by
  have kept : ((watchdogAfter cfg events).onMessageReceived other now).watches module =
      if module = other then { lastReceived := now, lossCount := 0, initialized := true }
      else (watchdogAfter cfg events).watches module := rfl
  by_cases same : other = module
  · have heard : (WatchdogEvent.message other now).heardAt? module = some now := if_pos same
    rw [kept, if_pos same.symm]
    refine ⟨?_, fun last isLast => ?_, ?_⟩
    · rw [lastHeard_append, heard]
      rfl
    · rw [lastHeard_append, heard] at isLast
      exact Option.some.inj isLast
    · rw [losses_append_heard (Option.isSome_of_eq_some heard)]
      rfl
  · have unheard : (WatchdogEvent.message other now).heardAt? module = none := if_neg same
    have sameHeard :
        lastHeard module (events ++ [.message other now]) = lastHeard module events := by
      rw [lastHeard_append, unheard, Option.none_or]
    rw [kept, if_neg (Ne.symm same)]
    refine ⟨by rw [sameHeard, tracks.initialized], fun last isLast => ?_, ?_⟩
    · exact tracks.lastReceived last (sameHeard ▸ isLast)
    · rw [losses_append unheard, tracks.lossCount]
      rfl

/-- An evaluation counts a beat if it finds the module overdue. -/
theorem Tracks.evaluate
    (tracks : Tracks cfg module events ((watchdogAfter cfg events).watches module))
    {event : WatchdogEvent} {now : Int} (evaluated : event.evaluatedAt? = some now)
    (before : ∀ event ∈ events, event.time ≤ now) :
    Tracks cfg module (events ++ [event])
      ((watchdogAfter cfg events).evaluateModule now module) := by
  have unheard : event.heardAt? module = none := by
    cases event with
    | message other sent => exact absurd evaluated (Option.some_ne_none now).symm
    | mainEvaluation | extraEvaluation => rfl
  have sameHeard : lastHeard module (events ++ [event]) = lastHeard module events := by
    rw [lastHeard_append, unheard, Option.none_or]
  refine ⟨?_, fun last isLast => ?_, ?_⟩
  · rw [WatchdogMonitor.evaluateModule_initialized, sameHeard, tracks.initialized]
  · rw [WatchdogMonitor.evaluateModule_lastReceived]
    exact tracks.lastReceived last (sameHeard ▸ isLast)
  · rw [losses_append unheard, evaluated, Option.any_some, Bool.true_and]
    unfold WatchdogMonitor.evaluateModule
    simp only
    rw [tracks.overdue now, tracks.initialized]
    cases overdue : overdueSince cfg module (lastHeard module events) now with
    | true =>
      have heard : (lastHeard module events).isSome = true := by
        unfold overdueSince at overdue
        obtain ⟨last, isLast, _⟩ := (Option.any_eq_true _ _).mp overdue
        exact Option.isSome_of_eq_some isLast
      rw [heard, if_neg (by decide), if_pos rfl, if_pos rfl, Words.ofNat_succ, ← tracks.lossCount]
    | false =>
      have none : losses cfg module events (fun _ => true) = 0 := losses_eq_zero before overdue _
      have zero := tracks.lossCount
      rw [none] at zero ⊢
      cases (lastHeard module events).isSome with
      | true => rfl
      | false => exact zero

theorem tracks_watchdogAfter
    (steady : events.Pairwise fun first second => first.time ≤ second.time) :
    Tracks cfg module events ((watchdogAfter cfg events).watches module) := by
  induction events using List.reverseRecOn with
  | nil => exact ⟨rfl, fun last isLast => absurd isLast (Option.some_ne_none last).symm, rfl⟩
  | append_singleton earlier event inductionHypothesis =>
    obtain ⟨steadyEarlier, -, before⟩ := List.pairwise_append.mp steady
    have tracks := inductionHypothesis steadyEarlier
    rw [watchdogAfter_append]
    cases event with
    | message other now => exact tracks.message other now
    | mainEvaluation now | extraEvaluation now =>
      exact tracks.evaluate rfl fun event member => before event member _ List.mem_cons_self

/-! ### What an evaluation returns -/

/-- Two watchdogs that find the same modules overdue return the same exactly when they have
counted the same beats of those modules. -/
theorem evaluate_eq_iff {first second : WatchdogMonitor} {now : Int}
    (sameCfg : first.cfg = second.cfg) (sameInitialized : ∀ module,
      (first.watches module).initialized = (second.watches module).initialized)
    (sameOverdue : ∀ module, first.overdue now module = second.overdue now module) :
    first.evaluate now = second.evaluate now ↔
      ∀ module, first.overdue now module = true →
        (first.watches module).lossCount = (second.watches module).lossCount := by
  have counted (monitor : WatchdogMonitor) (module : MonitoredModule)
      (overdue : monitor.overdue now module = true) :
      (monitor.evaluateModule now module).lossCount = (monitor.watches module).lossCount + 1 := by
    have heard : (monitor.watches module).initialized = true := (Bool.and_eq_true_iff.mp overdue).1
    unfold WatchdogMonitor.evaluateModule
    simp only [heard, overdue, Bool.not_true, Bool.false_eq_true, if_true, if_false]
  constructor
  · intro same module overdue
    have sameCount := congrFun (congrArg WatchdogResult.lossCount same) module
    unfold WatchdogMonitor.evaluate at sameCount
    simp only at sameCount
    rw [← sameOverdue module, if_pos overdue, if_pos overdue, counted first module overdue,
      counted second module (sameOverdue module ▸ overdue)] at sameCount
    exact (UInt32.add_left_inj _).mp sameCount
  · intro sameCounts
    have modules : ∀ module, first.overdue now module = true →
        (first.evaluateModule now module).lossCount =
          (second.evaluateModule now module).lossCount := by
      intro module overdue
      rw [counted first module overdue, counted second module (sameOverdue module ▸ overdue),
        sameCounts module overdue]
    have critical : first.criticalAt now = second.criticalAt now := by
      funext module
      unfold WatchdogMonitor.criticalAt
      simp only [WatchdogMonitor.evaluateModule_initialized]
      rw [sameInitialized module, sameCfg]
      cases overdue : first.overdue now module with
      | true => rw [modules module overdue]
      | false =>
        have inTime : second.overdue now module = false := (sameOverdue module).symm.trans overdue
        unfold WatchdogMonitor.evaluateModule
        simp only [overdue, inTime, sameInitialized module]
        cases (second.watches module).initialized <;> rfl
    unfold WatchdogMonitor.evaluate
    rw [critical]
    congr 1
    · funext module
      rw [sameOverdue module]
    · funext module
      rw [← sameOverdue module]
      split_ifs with overdue
      · exact modules module overdue
      · rfl

/-- After a run with a steady clock, an evaluation of the main loop returns what it would
without the extra ones exactly when those cancel out for every module it finds overdue. -/
theorem evaluate_unchanged_iff
    (steady : events.Pairwise fun first second => first.time ≤ second.time) (now : Int) :
    (watchdogAfter cfg events).evaluate now =
        (watchdogAfter cfg (withoutExtra events)).evaluate now ↔
      ∀ module, overdueSince cfg module (lastHeard module events) now = true →
        2 ^ 32 ∣ losses cfg module events (·.isExtra) := by
  have full : ∀ module, Tracks cfg module events ((watchdogAfter cfg events).watches module) :=
    fun module => tracks_watchdogAfter steady
  have bare : ∀ module, Tracks cfg module (withoutExtra events)
      ((watchdogAfter cfg (withoutExtra events)).watches module) :=
    fun module => tracks_watchdogAfter (steady.filter _)
  rw [evaluate_eq_iff (by rw [watchdogAfter_cfg, watchdogAfter_cfg])
    (fun module => by rw [(full module).initialized, (bare module).initialized,
      lastHeard_withoutExtra])
    fun module => by rw [(full module).overdue, (bare module).overdue, lastHeard_withoutExtra]]
  refine forall_congr' fun module => ?_
  rw [(full module).overdue, (full module).lossCount, (bare module).lossCount,
    losses_withoutExtra, losses_add, Words.ofNat_add_eq_iff]

/-! ### Extra evaluations that change nothing -/

/-- An evaluation that finds all modules in time and nothing counted leaves the watchdog alone. -/
theorem afterEvaluate_of_harmless {monitor : WatchdogMonitor} {now : Int}
    (harmless : ∀ module, (monitor.watches module).initialized = true →
      monitor.overdue now module = false ∧ (monitor.watches module).lossCount = 0) :
    monitor.afterEvaluate now = monitor := by
  have unchanged : monitor.evaluateModule now = monitor.watches := by
    funext module
    unfold WatchdogMonitor.evaluateModule
    simp only
    split_ifs with unheard overdue
    · rfl
    · have heard : (monitor.watches module).initialized = true := by
        rwa [Bool.not_eq_true', Bool.not_eq_false] at unheard
      exact absurd overdue (by rw [(harmless module heard).1]; decide)
    · have heard : (monitor.watches module).initialized = true := by
        rwa [Bool.not_eq_true', Bool.not_eq_false] at unheard
      rw [← (harmless module heard).2]
  show { monitor with watches := monitor.evaluateModule now } = monitor
  rw [unchanged]

theorem watchdogAfter_withoutExtra (harmless : Harmless cfg events) :
    watchdogAfter cfg (withoutExtra events) = watchdogAfter cfg events := by
  induction events using List.reverseRecOn with
  | nil => rfl
  | append_singleton earlier event inductionHypothesis =>
    have same := inductionHypothesis fun first now later split =>
      harmless first now (later ++ [event]) (by rw [split, List.append_assoc, List.cons_append])
    rw [withoutExtra_append, watchdogAfter_append]
    cases event with
    | message module now | mainEvaluation now =>
      show watchdogAfter cfg (withoutExtra earlier ++ [_]) = _
      rw [watchdogAfter_append, same]
    | extraEvaluation now =>
      show watchdogAfter cfg (withoutExtra earlier) = (watchdogAfter cfg earlier).afterEvaluate now
      rw [same, afterEvaluate_of_harmless (harmless earlier now [] rfl)]

/-! ### The verdicts of the main loop -/

/-- Extra evaluations leave the verdicts of the main loop alone if each of them finds all
modules in time and nothing counted. With a clock that does not go back, the verdicts stay the
same exactly when, for every module that the main loop finds overdue, the extra evaluations
since its last message that found it overdue are a multiple of 2^32. -/
theorem extra_evaluations_unnoticed_iff (cfg : WatchdogConfig) (events : List WatchdogEvent) :
    (Harmless cfg events → VerdictsUnchanged cfg events) ∧
      (events.Pairwise (fun first second => first.time ≤ second.time) →
        (VerdictsUnchanged cfg events ↔
          ∀ earlier now later, events = earlier ++ .mainEvaluation now :: later →
            ∀ module, overdueSince cfg module (lastHeard module earlier) now = true →
              2 ^ 32 ∣ losses cfg module earlier (·.isExtra))) := by
  constructor
  · intro harmless earlier now later split
    rw [watchdogAfter_withoutExtra fun first at_ rest isSplit =>
      harmless first at_ (rest ++ .mainEvaluation now :: later)
        (by rw [split, isSplit, List.append_assoc, List.cons_append])]
  · intro steady
    refine forall_congr' fun earlier => forall_congr' fun now => forall_congr' fun later =>
      forall_congr' fun split => evaluate_unchanged_iff ?_ now
    rw [split] at steady
    exact (List.pairwise_append.mp steady).1

/-- Plans arrive three times while a module is silent, and the main loop finds it critical in
the first evaluation after the timeout. -/
def plansDuringSilence : List WatchdogEvent :=
  [.message .m1 0, .extraEvaluation (milliseconds 1600), .extraEvaluation (milliseconds 1700),
    .extraEvaluation (milliseconds 1800), .mainEvaluation (milliseconds 1850)]

theorem extra_evaluations_unnoticed_iff_plansDuringSilence :
    ¬ VerdictsUnchanged .makeDefault plansDuringSilence := by
  intro unchanged
  have cancelled := ((extra_evaluations_unnoticed_iff .makeDefault plansDuringSilence).2
    (by decide)).mp unchanged (plansDuringSilence.take 4) (milliseconds 1850) [] rfl .m1 (by decide)
  exact absurd cancelled (by decide)

theorem extra_evaluations_make_critical :
    ¬ ∀ (cfg : WatchdogConfig) (events : List WatchdogEvent), VerdictsUnchanged cfg events := by
  intro unchanged
  have same := unchanged .makeDefault plansDuringSilence (plansDuringSilence.take 4)
    (milliseconds 1850) [] rfl
  have critical := congrArg WatchdogResult.anyCritical same
  exact absurd critical (by decide)

end MassL3.M7
