/-
This file compares the two ledgers of checker vetoes over the runs of the node. Both windows are
circular and both counters count the vetoes in them, but the handler is told in every cycle that
no veto came, so its rate is zero; and its histogram takes in what the counter ignores, the vetoes
of other layers and of classes out of range.
-/

import MassTdl.Binary64.Ratios
import MassTdl.CircularWindow
import MassTdl.Supervisor.Freeze
import MassTdl.Words

namespace MassL3.M7

open Binary64 CircularWindow Runs

/-! ### Counters of a window -/

/-- A 32-bit counter that loses what is evicted and gains what comes. -/
theorem slide32 {count : UInt32} {before after : Nat} {evicted event : Bool}
    (isCount : count.toNat = before) (few : after ≤ kCapacity)
    (replaced : after + (if evicted then 1 else 0) = before + if event then 1 else 0) :
    (if event then (if evicted then count - 1 else count) + 1
      else if evicted then count - 1 else count).toNat = after := by
  unfold kCapacity at few
  cases evicted <;> cases event <;>
    simp only [if_true, if_false, Bool.false_eq_true, UInt32.toNat_add, UInt32.toNat_sub,
      UInt32.toNat_one, isCount] at replaced ⊢ <;>
    omega

/-- The same of a 16-bit counter. -/
theorem slide16 {count : UInt16} {before after : Nat} {evicted event : Bool}
    (isCount : count.toNat = before) (few : after ≤ kCapacity)
    (replaced : after + (if evicted then 1 else 0) = before + if event then 1 else 0) :
    (if event then (if evicted then count - 1 else count) + 1
      else if evicted then count - 1 else count).toNat = after := by
  unfold kCapacity at few
  cases evicted <;> cases event <;>
    simp only [if_true, if_false, Bool.false_eq_true, UInt16.toNat_add, UInt16.toNat_sub,
      UInt16.toNat_one, isCount] at replaced ⊢ <;>
    omega

theorem recent_countP_append (samples : List Bool) (event : Bool) :
    (recent kCapacity (samples ++ [event])).countP id +
        (if kCapacity ≤ samples.length ∧
            (samples[samples.length - kCapacity]?).any id = true then 1 else 0) =
      (recent kCapacity samples).countP id + if id event then 1 else 0 :=
  countP_recent_append id (by decide) event

theorem recent_countP_le (samples : List Bool) :
    (recent kCapacity samples).countP id ≤ kCapacity :=
  List.countP_le_length.trans (by rw [length_recent]; exact min_le_right _ _)

/-! ### The window of the handler -/

variable {window : SlidingWindow15s} {samples : List Bool}

namespace Checker.SlidingWindow15s

/-- The window holds the recent samples and counts the events among them. -/
structure Counts (window : SlidingWindow15s) (samples : List Bool) : Prop where
  cursor : window.cursor.val = samples.length % kCapacity
  mirrors : Mirrors window.buffer false samples
  eventCount : window.eventCount.toNat = (recent kCapacity samples).countP id

theorem counts_empty : Counts {} [] where
  cursor := rfl
  mirrors := mirrors_replicate
  eventCount := rfl

theorem Counts.tick (counts : window.Counts samples) (event : Bool) :
    (window.tick event).Counts (samples ++ [event]) := by
  refine ⟨?_, counts.mirrors.write window.cursor.isLt counts.cursor event, ?_⟩
  · show (window.cursor.val + 1) % kCapacity = (samples ++ [event]).length % kCapacity
    rw [counts.cursor, List.length_append, List.length_singleton, Nat.mod_add_mod]
  · have replaced := recent_countP_append samples event
    have evicted : id window.buffer[window.cursor.val] = true ↔ kCapacity ≤ samples.length ∧
        (samples[samples.length - kCapacity]?).any id = true :=
      counts.mirrors.oldest_property window.cursor.isLt counts.cursor rfl
    simp only [← evicted, id_eq] at replaced
    exact slide32 counts.eventCount (recent_countP_le _) replaced

/-- A window that is only told of no events has a rate of zero. -/
theorem Counts.rate_of_none {count : Nat} (counts : window.Counts (List.replicate count false)) :
    window.rate = 0.0 := by
  have none : (recent kCapacity (List.replicate count false)).countP id = 0 := by
    rw [List.countP_eq_zero]
    intro sample member
    rw [List.eq_of_mem_replicate (List.mem_of_mem_drop member)]
    exact Bool.false_ne_true
  have zero : window.eventCount = 0 := UInt32.toNat_inj.mp (counts.eventCount.trans none)
  exact if_pos zero

end Checker.SlidingWindow15s

/-! ### The window of the counter -/

namespace SlidingWindow15s

/-- The window holds the recent samples, as many as there have been, and counts the events
among them. -/
structure Counts (window : SlidingWindow15s) (samples : List Bool) : Prop where
  next : window.wrappedHead = samples.length % kCapacity
  size : window.size = min samples.length kCapacity
  mirrors : Mirrors window.buffer false samples
  runningTotal : window.runningTotal.toNat = (recent kCapacity samples).countP id

theorem counts_empty : Counts {} [] where
  next := rfl
  size := rfl
  mirrors := mirrors_replicate
  runningTotal := rfl

theorem Counts.push (counts : window.Counts samples) (event : Bool) :
    (window.push event).Counts (samples ++ [event]) := by
  have inRange : window.wrappedHead < kCapacity := window.wrappedHead_lt
  have advanced : (if window.wrappedHead + 1 = kCapacity then 0 else window.wrappedHead + 1) =
      (samples ++ [event]).length % kCapacity := by
    rw [List.length_append, List.length_singleton, ← Nat.mod_add_mod, ← counts.next]
    split_ifs with atEnd
    · rw [atEnd, Nat.mod_self]
    · rw [Nat.mod_eq_of_lt (by omega)]
  have replaced := recent_countP_append samples event
  have evicted : id window.buffer[window.wrappedHead] = true ↔ kCapacity ≤ samples.length ∧
      (samples[samples.length - kCapacity]?).any id = true :=
    counts.mirrors.oldest_property window.wrappedHead_lt counts.next rfl
  have written := counts.mirrors.write window.wrappedHead_lt counts.next event
  simp only [← evicted, id_eq] at replaced
  unfold SlidingWindow15s.push
  by_cases room : window.size < kCapacity
  · have head : window.wrappedHead = window.head := if_neg (by
      have := window.appending room
      omega)
    have short : samples.length < kCapacity := by
      have := counts.size
      omega
    have blank : ¬ window.buffer[window.wrappedHead] = true := fun leaves =>
      absurd (evicted.mp leaves).1 (not_le.mpr short)
    rw [dif_pos room]
    rw [if_neg blank] at replaced
    simp only [head] at advanced written
    refine ⟨advanced, ?_, written, ?_⟩
    · show window.size + 1 = min (samples ++ [event]).length kCapacity
      rw [counts.size, List.length_append, List.length_singleton]
      omega
    · have nothingEvicted : (recent kCapacity (samples ++ [event])).countP id +
          (if false = true then 1 else 0) =
          (recent kCapacity samples).countP id + if event = true then 1 else 0 := replaced
      exact slide16 counts.runningTotal (recent_countP_le _) nothingEvicted
  · rw [dif_neg room]
    refine ⟨advanced, ?_, written, slide16 counts.runningTotal (recent_countP_le _) replaced⟩
    show window.size = min (samples ++ [event]).length kCapacity
    rw [counts.size, List.length_append, List.length_singleton] at *
    omega

/-- The rate of the window is zero exactly when no recent sample is an event. -/
theorem Counts.rate_eq_zero_iff (counts : window.Counts samples) :
    widen window.rate = 0.0 ↔ true ∉ recent kCapacity samples := by
  have few : window.runningTotal.toNat ≤ window.size := by
    rw [counts.runningTotal, counts.size, ← length_recent]
    exact List.countP_le_length
  have small : window.size ≤ kCapacity := by
    rw [counts.size]
    exact min_le_right _ _
  have noneRecent : window.runningTotal.toNat = 0 ↔ true ∉ recent kCapacity samples := by
    rw [counts.runningTotal, List.countP_eq_zero]
    exact ⟨fun none member => none true member rfl, fun absent sample member isEvent =>
      absent (show true ∈ _ from isEvent ▸ member)⟩
  rw [← noneRecent]
  unfold SlidingWindow15s.rate
  unfold kCapacity at small
  split_ifs with empty
  · exact ⟨fun _ => by omega, fun _ => by decide⟩
  · constructor
    · intro zero
      by_contra positive
      exact ratio_ne_zero positive (by omega) empty (by omega) zero
    · intro zero
      rw [zero]
      exact no_occurrence empty (by omega)

end SlidingWindow15s

/-! ### What the events bring -/

/-- A veto of the layer the counter listens to. -/
def Event.isL3Veto : Event → Bool
  | .checkerVeto msg => msg.checkerLayer = "L3"
  | _ => false

/-- A veto that the counter leaves out of its histogram. -/
def Event.isUncountedVeto : Event → Bool
  | .checkerVeto msg => msg.checkerLayer ≠ "L3" || (VetoReasonClass.ofMessage msg).isNone
  | _ => false

/-- A veto that the counter counts. -/
def Event.isCountedVeto : Event → Bool
  | .checkerVeto msg => msg.checkerLayer = "L3" && (VetoReasonClass.ofMessage msg).isSome
  | _ => false

/-- The cycles so far, each with whether a veto of the layer came in it, and whether one has
come since. -/
structure CycleLog where
  cycles : List Bool := []
  pending : Bool := false

def CycleLog.step (log : CycleLog) (event : Event) : CycleLog :=
  match event with
  | .mainLoopTick _ => { cycles := log.cycles ++ [log.pending], pending := false }
  | event => { log with pending := log.pending || event.isL3Veto }

def cycleLog (events : List Event) : CycleLog := run CycleLog.step {} events

/-- A veto came in one of the cycles that the windows cover. -/
def RecentVeto (events : List Event) : Prop :=
  true ∈ recent kCapacity (cycleLog events).cycles

/-! ### What the ledgers keep -/

/-- What the two ledgers say about the events. -/
structure Kept (events : List Event) (handler : VetoHandler) (counter : CheckerVetoCounter) :
    Prop where
  told : ∃ count, handler.window.Counts (List.replicate count false)
  histogram : handler.histogram.total = UInt32.ofNat
    (events.countP (·.isCountedVeto) + events.countP (·.isUncountedVeto))
  window : counter.window.Counts (cycleLog events).cycles
  pending : counter.vetoOccurredThisCycle = (cycleLog events).pending
  reasonCounts : counter.reasonCounts.total = UInt32.ofNat (events.countP (·.isCountedVeto))

variable {events : List Event} {handler : VetoHandler} {counter : CheckerVetoCounter}

theorem cycleLog_append (event : Event) :
    cycleLog (events ++ [event]) = (cycleLog events).step event := run_append _ _ _ _

theorem countP_append_singleton (property : Event → Bool) (event : Event) :
    (events ++ [event]).countP property =
      events.countP property + if property event then 1 else 0 := by
  rw [List.countP_append, List.countP_singleton]

theorem Kept.tick (kept : Kept events handler counter) (now : Int) :
    Kept (events ++ [.mainLoopTick now]) (handler.onCycleTick false) counter.onCycleTick := by
  obtain ⟨count, told⟩ := kept.told
  refine ⟨⟨count + 1, ?_⟩, ?_, ?_, ?_, ?_⟩
  · rw [List.replicate_succ']
    exact told.tick false
  · rw [countP_append_singleton, countP_append_singleton]
    exact kept.histogram
  · rw [cycleLog_append]
    show (counter.window.push counter.vetoOccurredThisCycle).Counts _
    rw [kept.pending]
    exact kept.window.push _
  · rw [cycleLog_append]
    rfl
  · rw [countP_append_singleton]
    exact kept.reasonCounts

theorem Kept.veto (kept : Kept events handler counter) (msg : CheckerVetoNotification) :
    Kept (events ++ [.checkerVeto msg]) (handler.onVetoReceived msg) (counter.onVeto msg) := by
  have one : (if Event.isCountedVeto (.checkerVeto msg) then 1 else 0) +
      (if Event.isUncountedVeto (.checkerVeto msg) then 1 else 0) = 1 := by
    unfold Event.isCountedVeto Event.isUncountedVeto
    by_cases layer : msg.checkerLayer = "L3" <;>
      cases found : VetoReasonClass.ofMessage msg <;>
      simp only [layer, found, decide_true, decide_false, ne_eq, not_true_eq_false,
        not_false_eq_true, Option.isSome_none, Option.isSome_some, Option.isNone_none,
        Option.isNone_some,
        Bool.true_and, Bool.false_and, Bool.or_true, Bool.or_false, if_true,
        if_false, Bool.false_eq_true, Nat.add_zero, Nat.zero_add]
  refine ⟨kept.told, ?_, ?_, ?_, ?_⟩
  · show (handler.histogram.count _).total = _
    rw [VetoHistogram.total_count, kept.histogram, countP_append_singleton,
      countP_append_singleton, ← Words.ofNat_succ]
    congr 1
    omega
  · rw [cycleLog_append]
    unfold CheckerVetoCounter.onVeto
    split_ifs <;> exact kept.window
  · rw [cycleLog_append]
    show _ = ((cycleLog events).pending || decide (msg.checkerLayer = "L3"))
    unfold CheckerVetoCounter.onVeto
    split_ifs with other
    · rw [decide_eq_false other, Bool.or_false]
      exact kept.pending
    · rw [decide_eq_true (not_not.mp other), Bool.or_true]
  · have counted : Event.isCountedVeto (.checkerVeto msg) =
        (decide (msg.checkerLayer = "L3") && (VetoReasonClass.ofMessage msg).isSome) := rfl
    rw [countP_append_singleton, counted]
    unfold CheckerVetoCounter.onVeto
    by_cases layer : msg.checkerLayer = "L3"
    · rw [if_neg (not_not_intro layer), decide_eq_true layer, Bool.true_and]
      cases VetoReasonClass.ofMessage msg with
      | none => exact kept.reasonCounts
      | some reason =>
        show (counter.reasonCounts.count reason).total = UInt32.ofNat (_ + 1)
        rw [VetoHistogram.total_count, kept.reasonCounts, Words.ofNat_succ]
    · rw [if_pos layer, decide_eq_false layer]
      exact kept.reasonCounts

/-- Every other event leaves both ledgers and the log alone. -/
theorem Kept.other (kept : Kept events handler counter) {event : Event}
    (unlogged : (cycleLog events).step event = cycleLog events)
    (uncounted : event.isCountedVeto = false ∧ event.isUncountedVeto = false) :
    Kept (events ++ [event]) handler counter := by
  refine ⟨kept.told, ?_, ?_, ?_, ?_⟩
  · rw [countP_append_singleton, countP_append_singleton, uncounted.1, uncounted.2]
    exact kept.histogram
  · rw [cycleLog_append, unlogged]
    exact kept.window
  · rw [cycleLog_append, unlogged]
    exact kept.pending
  · rw [countP_append_singleton, uncounted.1]
    exact kept.reasonCounts

theorem kept_after (lib : Risk.MathLibrary) (events : List Event) :
    Kept events (after lib events).vetoHandler (after lib events).checkerVetoCounter := by
  induction events using List.reverseRecOn with
  | nil =>
    exact ⟨⟨0, Checker.SlidingWindow15s.counts_empty⟩, rfl, SlidingWindow15s.counts_empty, rfl, rfl⟩
  | append_singleton earlier event inductionHypothesis =>
    rw [after_append, SafetySupervisorNode.next_vetoHandler,
      SafetySupervisorNode.next_checkerVetoCounter]
    have quiet : ((cycleLog earlier).pending || false) = (cycleLog earlier).pending :=
      Bool.or_false _
    cases event with
    | checkerVeto msg => exact inductionHypothesis.veto msg
    | mainLoopTick now => exact inductionHypothesis.tick now
    | _ => exact inductionHypothesis.other (congrArg (CycleLog.mk _) quiet) ⟨rfl, rfl⟩

/-! ### Agreement -/

/-- After a run the two ledgers report one rate and one total exactly when no veto of the
counter's layer came in a cycle that the windows cover and the vetoes that only the handler
counts are a multiple of 2^32. -/
theorem ledgers_agree_iff (lib : Risk.MathLibrary) (events : List Event) :
    ((after lib events).vetoHandler.currentRate =
          widen (after lib events).checkerVetoCounter.currentRate ∧
        (after lib events).vetoHandler.histogram.total =
          (after lib events).checkerVetoCounter.reasonCounts.total) ↔
      ¬ RecentVeto events ∧ 2 ^ 32 ∣ events.countP (·.isUncountedVeto) := by
  have kept := kept_after lib events
  obtain ⟨count, told⟩ := kept.told
  refine and_congr ?_ ?_
  · have zero : (after lib events).vetoHandler.currentRate = 0.0 := told.rate_of_none
    rw [zero, eq_comm]
    exact kept.window.rate_eq_zero_iff
  · rw [kept.histogram, kept.reasonCounts]
    exact Words.ofNat_add_eq_iff _ _

/-- A veto comes in the first cycle: the counter reports every cycle, the handler none. -/
def vetoInFirstCycle : List Event :=
  [.checkerVeto { checkerLayer := "L3", vetoReasonClass := 0 }, .mainLoopTick (milliseconds 250)]

theorem ledgers_disagree :
    ¬ ∀ (lib : Risk.MathLibrary) (events : List Event),
        (after lib events).vetoHandler.currentRate =
            widen (after lib events).checkerVetoCounter.currentRate ∧
          (after lib events).vetoHandler.histogram.total =
            (after lib events).checkerVetoCounter.reasonCounts.total := by
  intro agree
  have handlerRate : (after aheadLibrary vetoInFirstCycle).vetoHandler.currentRate = 0.0 := by
    decide
  have counterRate : widen (after aheadLibrary vetoInFirstCycle).checkerVetoCounter.currentRate =
      1.0 := by
    decide
  have same := (agree aheadLibrary vetoInFirstCycle).1
  rw [handlerRate, counterRate] at same
  exact absurd same (by decide)

end MassL3.M7
