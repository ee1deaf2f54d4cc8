/-
This file is about the trend of the nearest closest approach. The slope compares the newest sample
with the oldest one that the history holds. Between two samples with targets it falls only if the
nearest target came nearer. A sample without targets is a large constant, so where a target appears
within the window the slope falls although nothing came nearer.
-/

import MassTdl.Binary64.Single
import MassTdl.Runs
import MassTdl.Supervisor.Performance

namespace MassL3.M7

open Binary64
open MassL3.Risk (MathLibrary)
open Runs

/-! ### The sign of a slope -/

theorem ofNat_positive {count : ℕ} (some : 0 < count) (small : count ≤ 2 ^ 64) :
    (Float.ofNat count).isFinite = true ∧ 0.0 < Float.ofNat count := by
  have rounded := ofNat_roundedFrom count
  have above : 1.0 ≤ Float.ofNat count :=
    rounded.ge rfl (toReal_one.trans_le (by exact_mod_cast some))
  have below : Float.ofNat count ≤ powerOfTwo 64 :=
    rounded.le (by decide) (toReal_powerOfTwo_64 ▸ by exact_mod_cast small)
  exact ⟨finite_of_between rfl (by decide) above below, chain_lt_le (by decide) above⟩

/-- A slope that falls below a threshold that is not positive comes from a smaller sample. -/
theorem lt_of_slope_lt {newest oldest : Float32} {count : ℕ} {threshold : Float}
    (some : 0 < count) (small : count ≤ 2 ^ 64) (notPositive : ¬ 0.0 < threshold)
    (falls : widen (newest - oldest) / Float.ofNat count < threshold) : newest < oldest := by
  obtain ⟨number, thresholdNumber, -⟩ := (lt_iff _ _).mp falls
  have differenceNumber := number_of_widen (number_of_div number)
  obtain ⟨newestNumber, oldestNumber⟩ := single_number_of_sub differenceNumber
  by_contra notLess
  have order := single_le_of_not_lt oldestNumber newestNumber notLess
  have nonneg := widen_nonneg differenceNumber (single_sub_nonneg differenceNumber order)
  obtain ⟨finite, positive⟩ := ofNat_positive some small
  exact notPositive (chain_le_lt (zero_le_div nonneg finite positive) falls)

/-! ### The window -/

/-- What the monitor is called for. -/
inductive TrendEvent where
  | evaluate (world : WorldState) (now : Int)
  | reset

/-- A monitor, with the worlds whose samples its history holds. -/
structure WatchedMonitor where
  monitor : PerformanceMonitor
  held : Vector (Option WorldState) kHistory := .replicate kHistory none

namespace WatchedMonitor

/-- The slot that is written next. -/
def cursor (watched : WatchedMonitor) : Nat := watched.monitor.historyIdx.toNat % kHistory

theorem cursor_lt (watched : WatchedMonitor) : watched.cursor < kHistory :=
  Nat.mod_lt _ (by decide)

variable (lib : MathLibrary) (watched : WatchedMonitor)

def next : TrendEvent → WatchedMonitor
  | .evaluate world now =>
      { monitor := (watched.monitor.evaluate lib world now).1
        held := watched.held.set watched.cursor (some world) watched.cursor_lt }
  | .reset => { monitor := watched.monitor.reset }

/-- The flag that an evaluation raises. -/
def degrading (world : WorldState) (now : Int) : Bool :=
  (watched.monitor.evaluate lib world now).2.cpaTrendDegrading

/-- The slot of the oldest sample, once another one has been written. -/
def oldestSlot : Nat :=
  if watched.monitor.historyCount + 1 < 30 then 0
  else (watched.monitor.historyIdx + 1).toNat % kHistory

theorem oldestSlot_lt : watched.oldestSlot < kHistory := by
  unfold oldestSlot
  split_ifs
  · decide
  · exact Nat.mod_lt _ (by decide)

/-- The number of samples after the oldest one, once another one has been written. -/
def spans : Nat := min watched.monitor.historyCount.toNat 29

/-- The history and the worlds its samples are of. -/
structure Tracks : Prop where
  sampled : ∀ (slot : Nat) world, watched.held[slot]? = some (some world) →
    watched.monitor.cpaHistory[slot]? = some (computeMinCpa world)
  filled : ∀ slot : Nat, slot < watched.monitor.historyCount.toNat →
    ∃ world, watched.held[slot]? = some (some world)
  written : watched.monitor.historyCount.toNat < 30 →
    watched.monitor.historyIdx = watched.monitor.historyCount
  capped : watched.monitor.historyCount.toNat ≤ 30

theorem tracks_of_empty {monitor : PerformanceMonitor} (count : monitor.historyCount = 0)
    (idx : monitor.historyIdx = 0) : Tracks { monitor } where
  sampled slot world present := by
    obtain ⟨inRange, same⟩ := Vector.getElem?_eq_some_iff.mp present
    rw [Vector.getElem_replicate] at same
    cases same
  filled slot below := by
    rw [show ({ monitor } : WatchedMonitor).monitor.historyCount = 0 from count] at below
    exact absurd below (Nat.not_lt_zero _)
  written _ := idx.trans count.symm
  capped := by
    rw [show ({ monitor } : WatchedMonitor).monitor.historyCount = 0 from count]
    exact Nat.zero_le _

variable {lib watched} {world : WorldState} {now : Int}

/-- What an evaluation does to the history. -/
theorem evaluate_history :
    (watched.monitor.evaluate lib world now).1.cpaHistory =
        watched.monitor.cpaHistory.set watched.cursor (computeMinCpa world) watched.cursor_lt ∧
      (watched.monitor.evaluate lib world now).1.historyIdx = watched.monitor.historyIdx + 1 ∧
      (watched.monitor.evaluate lib world now).1.historyCount =
        if watched.monitor.historyCount < 30 then watched.monitor.historyCount + 1
        else watched.monitor.historyCount := by
  unfold PerformanceMonitor.evaluate
  cases PerformanceMonitor.primaryOf lib world <;> exact ⟨rfl, rfl, rfl⟩

theorem toNat_count_succ (capped : watched.monitor.historyCount.toNat ≤ 30) :
    (if watched.monitor.historyCount < 30 then watched.monitor.historyCount + 1
        else watched.monitor.historyCount).toNat =
      min (watched.monitor.historyCount.toNat + 1) 30 := by
  split_ifs with below
  · have small : watched.monitor.historyCount.toNat < 30 := UInt32.lt_iff_toNat_lt.mp below
    rw [UInt32.toNat_add, UInt32.toNat_one]
    omega
  · have full : ¬ watched.monitor.historyCount.toNat < 30 := fun small =>
      below (UInt32.lt_iff_toNat_lt.mpr small)
    omega

theorem record_count (tracks : watched.Tracks) (sample : Float32) :
    (watched.monitor.record sample).historyCount.toNat =
      min (watched.monitor.historyCount.toNat + 1) 30 :=
  toNat_count_succ tracks.capped

theorem cursor_of_room (tracks : watched.Tracks)
    (room : watched.monitor.historyCount.toNat < 30) :
    watched.cursor = watched.monitor.historyCount.toNat := by
  unfold cursor
  rw [tracks.written room]
  exact Nat.mod_eq_of_lt room

theorem next_evaluate_tracks (tracks : watched.Tracks) :
    (watched.next lib (.evaluate world now)).Tracks := by
  have recorded : (watched.monitor.evaluate lib world now).1.cpaHistory = _ ∧ _ ∧ _ :=
    evaluate_history
  obtain ⟨history, idx, count⟩ := recorded
  have counted := toNat_count_succ tracks.capped
  rw [← count] at counted
  constructor
  · intro slot other present
    change (watched.held.set watched.cursor (some world) watched.cursor_lt)[slot]? =
      some (some other) at present
    change (watched.monitor.evaluate lib world now).1.cpaHistory[slot]? = _
    rw [history]
    by_cases here : watched.cursor = slot
    · subst here
      rw [Vector.getElem?_set_self] at present ⊢
      rw [Option.some.inj (Option.some.inj present)]
    · rw [Vector.getElem?_set_ne _ here] at present ⊢
      exact tracks.sampled slot other present
  · intro slot below
    change ∃ other, (watched.held.set watched.cursor (some world) watched.cursor_lt)[slot]? = _
    change slot < (watched.monitor.evaluate lib world now).1.historyCount.toNat at below
    rw [counted] at below
    by_cases here : watched.cursor = slot
    · subst here
      exact ⟨world, Vector.getElem?_set_self _⟩
    · rw [Vector.getElem?_set_ne _ here]
      refine tracks.filled slot ?_
      by_cases room : watched.monitor.historyCount.toNat < 30
      · rw [cursor_of_room tracks room] at here
        omega
      · omega
  · intro room
    change (watched.monitor.evaluate lib world now).1.historyCount.toNat < 30 at room
    change (watched.monitor.evaluate lib world now).1.historyIdx =
      (watched.monitor.evaluate lib world now).1.historyCount
    rw [counted] at room
    have small : watched.monitor.historyCount.toNat < 30 := by omega
    rw [idx, count, if_pos (UInt32.lt_iff_toNat_lt.mpr small), tracks.written small]
  · change (watched.monitor.evaluate lib world now).1.historyCount.toNat ≤ 30
    rw [counted]
    omega

theorem next_tracks (tracks : watched.Tracks) (event : TrendEvent) :
    (watched.next lib event).Tracks := by
  cases event with
  | evaluate world now => exact next_evaluate_tracks tracks
  | reset => exact tracks_of_empty rfl rfl

/-- The samples at the two ends of the window. -/
theorem degrading_eq : watched.degrading lib world now =
    decide ((watched.monitor.record (computeMinCpa world)).computeSlope <
      watched.monitor.cfg.cpaTrendSlopeThresholdNmS) := by
  unfold degrading PerformanceMonitor.evaluate
  cases PerformanceMonitor.primaryOf lib world <;> rfl

theorem oldestSlot_ne_cursor (tracks : watched.Tracks)
    (nonempty : 0 < watched.monitor.historyCount.toNat) : watched.oldestSlot ≠ watched.cursor := by
  unfold oldestSlot
  split_ifs with room
  · rw [UInt32.lt_iff_toNat_lt, UInt32.toNat_add, UInt32.toNat_one] at room
    have capped := tracks.capped
    have below : watched.monitor.historyCount.toNat < 30 := by
      change _ < 30 at room
      omega
    rw [cursor_of_room tracks below]
    omega
  · have bounded := watched.monitor.historyIdx.toNat_lt
    unfold cursor kHistory
    rw [UInt32.toNat_add, UInt32.toNat_one]
    omega

theorem oldestSlot_lt_count (tracks : watched.Tracks)
    (nonempty : 0 < watched.monitor.historyCount.toNat) :
    watched.oldestSlot < watched.monitor.historyCount.toNat := by
  have inRange := watched.oldestSlot_lt
  have capped := tracks.capped
  unfold oldestSlot at inRange ⊢
  split_ifs at inRange ⊢ with room
  · exact nonempty
  · rw [UInt32.lt_iff_toNat_lt, UInt32.toNat_add, UInt32.toNat_one] at room
    change ¬ _ < 30 at room
    by_cases full : watched.monitor.historyCount.toNat = 30
    · rw [full]
      exact inRange
    · have idx := congrArg UInt32.toNat (tracks.written (by omega))
      unfold kHistory
      rw [UInt32.toNat_add, UInt32.toNat_one]
      omega

theorem sample_of_slot {monitor : PerformanceMonitor} {index : UInt32} {value : Float32}
    (held : monitor.cpaHistory[index.toNat % kHistory]? = some value) :
    monitor.sample index = value := by
  obtain ⟨inRange, same⟩ := Vector.getElem?_eq_some_iff.mp held
  exact same

theorem record_history (sample : Float32) : (watched.monitor.record sample).cpaHistory =
    watched.monitor.cpaHistory.set watched.cursor sample watched.cursor_lt := rfl

theorem record_idx (sample : Float32) :
    (watched.monitor.record sample).historyIdx = watched.monitor.historyIdx + 1 := rfl

/-- The slope is divided by the number of samples after the oldest one. -/
theorem record_spans (tracks : watched.Tracks) (sample : Float32) :
    ((watched.monitor.record sample).historyCount - 1).toNat = watched.spans := by
  have counted := record_count tracks sample
  rw [UInt32.toNat_sub_of_le, counted]
  · unfold spans
    show _ - 1 = _
    omega
  · rw [UInt32.le_iff_toNat_le, counted]
    show 1 ≤ _
    omega

theorem sample_newest (sample : Float32) :
    (watched.monitor.record sample).sample ((watched.monitor.record sample).historyIdx - 1) =
      sample := by
  refine sample_of_slot ?_
  rw [record_idx, UInt32.add_sub_cancel, record_history]
  exact Vector.getElem?_set_self _

theorem sample_oldest (tracks : watched.Tracks) {earlier : WorldState}
    (nonempty : 0 < watched.monitor.historyCount.toNat)
    (isOldest : watched.held[watched.oldestSlot]? = some (some earlier)) (sample : Float32) :
    (watched.monitor.record sample).sample
        (if (watched.monitor.record sample).historyCount < 30 then 0
          else (watched.monitor.record sample).historyIdx) =
      computeMinCpa earlier := by
  have capped := tracks.capped
  have room : (watched.monitor.record sample).historyCount < 30 ↔
      watched.monitor.historyCount + 1 < 30 := by
    rw [UInt32.lt_iff_toNat_lt, UInt32.lt_iff_toNat_lt, record_count tracks, UInt32.toNat_add,
      UInt32.toNat_one]
    show _ < 30 ↔ _ < 30
    omega
  have slot : (if (watched.monitor.record sample).historyCount < 30 then 0
      else (watched.monitor.record sample).historyIdx).toNat % kHistory = watched.oldestSlot := by
    unfold oldestSlot
    simp only [room, record_idx]
    split_ifs <;> rfl
  refine sample_of_slot ?_
  rw [slot, record_history,
    Vector.getElem?_set_ne _ (watched.oldestSlot_ne_cursor tracks nonempty).symm]
  exact tracks.sampled _ _ isOldest

/-- The slope is taken from the oldest world that is held to the one that is evaluated. -/
theorem computeSlope_record (tracks : watched.Tracks) {earlier : WorldState}
    (nonempty : 0 < watched.monitor.historyCount.toNat)
    (isOldest : watched.held[watched.oldestSlot]? = some (some earlier)) :
    (watched.monitor.record (computeMinCpa world)).computeSlope =
      widen (computeMinCpa world - computeMinCpa earlier) / Float.ofNat watched.spans := by
  have several : ¬ (watched.monitor.record (computeMinCpa world)).historyCount < 2 := by
    rw [UInt32.lt_iff_toNat_lt, record_count tracks]
    show ¬ _ < 2
    omega
  rw [PerformanceMonitor.computeSlope, if_neg several, record_spans tracks]
  dsimp only
  rw [sample_newest, sample_oldest tracks nonempty isOldest]

theorem next_cfg (event : TrendEvent) :
    (watched.next lib event).monitor.cfg = watched.monitor.cfg := by
  cases event with
  | reset => rfl
  | evaluate world now =>
    change (watched.monitor.evaluate lib world now).1.cfg = _
    unfold PerformanceMonitor.evaluate
    cases PerformanceMonitor.primaryOf lib world <;> rfl

end WatchedMonitor

/-! ### Decreases -/

/-- Both worlds have targets, and the nearest comes nearer in the later one. -/
def ComesNearer (earlier later : WorldState) : Prop :=
  earlier.targets ≠ [] ∧ later.targets ≠ [] ∧ computeMinCpa later < computeMinCpa earlier

/-- One of the two worlds has targets and the other has none, and between the constant that stands
for none and the real minimum the slope falls below the threshold. -/
def FallsByPresence (cfg : PerformanceConfig) (spans : Nat) (earlier later : WorldState) : Prop :=
  (earlier.targets = [] ↔ later.targets ≠ []) ∧
    widen (computeMinCpa later - computeMinCpa earlier) / Float.ofNat spans <
      cfg.cpaTrendSlopeThresholdNmS

namespace WatchedMonitor

/-- The history holds a sample of the world. -/
def Holds (watched : WatchedMonitor) (world : WorldState) : Prop :=
  ∃ slot : Nat, watched.held[slot]? = some (some world)

/-- The slope that an evaluation of the world computes does not fall by presence alone. -/
def Unmixed (watched : WatchedMonitor) (world : WorldState) : Prop :=
  ∀ earlier, watched.held[watched.oldestSlot]? = some (some earlier) →
    ¬ FallsByPresence watched.monitor.cfg watched.spans earlier world

variable {lib : MathLibrary} {watched : WatchedMonitor} {world : WorldState} {now : Int}

/-- One evaluation. -/
theorem comesNearer_of_degrading (tracks : watched.Tracks)
    (notPositive : ¬ 0.0 < watched.monitor.cfg.cpaTrendSlopeThresholdNmS)
    (unmixed : watched.Unmixed world) (degrades : watched.degrading lib world now = true) :
    ∃ earlier, watched.Holds earlier ∧ ComesNearer earlier world := by
  rw [degrading_eq, decide_eq_true_iff] at degrades
  by_cases empty : watched.monitor.historyCount.toNat = 0
  · have counted : (watched.monitor.record (computeMinCpa world)).historyCount.toNat = 1 := by
      rw [record_count tracks, empty]
      rfl
    have few : (watched.monitor.record (computeMinCpa world)).historyCount < 2 := by
      rw [UInt32.lt_iff_toNat_lt, counted]
      decide
    rw [PerformanceMonitor.computeSlope, if_pos few] at degrades
    exact absurd degrades notPositive
  have nonempty := Nat.pos_of_ne_zero empty
  obtain ⟨earlier, isOldest⟩ := tracks.filled _ (watched.oldestSlot_lt_count tracks nonempty)
  rw [computeSlope_record tracks nonempty isOldest] at degrades
  have spansPositive : 0 < watched.spans := Nat.lt_min.mpr ⟨nonempty, by decide⟩
  have spansSmall : watched.spans ≤ 2 ^ 64 := (Nat.min_le_right _ _).trans (by decide)
  have less := lt_of_slope_lt spansPositive spansSmall notPositive degrades
  have samePresence : ¬ (earlier.targets = [] ↔ world.targets ≠ []) := fun mixed =>
    unmixed earlier isOldest ⟨mixed, degrades⟩
  refine ⟨earlier, ⟨_, isOldest⟩, ?_⟩
  by_cases none : world.targets = []
  · have earlierNone : earlier.targets = [] := by
      by_contra present
      exact samePresence (iff_of_false present (not_not_intro none))
    unfold computeMinCpa at less
    rw [none, earlierNone] at less
    exact absurd less (lt_irrefl_float32 _)
  · have earlierPresent : earlier.targets ≠ [] := fun earlierNone =>
      samePresence (iff_of_true earlierNone none)
    exact ⟨earlierPresent, none, less⟩

/-! ### Runs -/

variable (lib) (cfg : PerformanceConfig) (events : List TrendEvent)

/-- The monitor before an event of a run. -/
def before (count : Nat) : WatchedMonitor :=
  stateAt (next lib) { monitor := { cfg } } events count

variable {cfg events}

theorem before_tracks (count : Nat) :
    (before lib cfg events count).Tracks ∧ (before lib cfg events count).monitor.cfg = cfg := by
  have kept (watched : WatchedMonitor) (event : TrendEvent)
      (holds : watched.Tracks ∧ watched.monitor.cfg = cfg) :
      (watched.next lib event).Tracks ∧ (watched.next lib event).monitor.cfg = cfg :=
    ⟨next_tracks holds.1 event, (next_cfg event).trans holds.2⟩
  exact run_invariant (fun watched : WatchedMonitor => watched.Tracks ∧ watched.monitor.cfg = cfg)
    ⟨tracks_of_empty rfl rfl, rfl⟩ kept

/-- What the history holds after a step it held before, or it is what has been evaluated. -/
theorem holds_next {event : TrendEvent} {earlier : WorldState}
    (holds : (watched.next lib event).Holds earlier) :
    watched.Holds earlier ∨ ∃ now, event = .evaluate earlier now := by
  obtain ⟨slot, present⟩ := holds
  cases event with
  | reset =>
    obtain ⟨inRange, same⟩ := Vector.getElem?_eq_some_iff.mp present
    change (Vector.replicate kHistory none)[slot] = _ at same
    rw [Vector.getElem_replicate] at same
    cases same
  | evaluate world now =>
    change (watched.held.set watched.cursor (some world) watched.cursor_lt)[slot]? = _ at present
    by_cases here : watched.cursor = slot
    · subst here
      rw [Vector.getElem?_set_self] at present
      rw [← Option.some.inj (Option.some.inj present)]
      exact .inr ⟨now, rfl⟩
    · rw [Vector.getElem?_set_ne _ here] at present
      exact .inl ⟨slot, present⟩

/-- What the history holds was evaluated before. -/
theorem evaluated_of_holds (count : Nat) {earlier : WorldState}
    (holds : (before lib cfg events count).Holds earlier) :
    ∃ index < count, ∃ now, events[index]? = some (.evaluate earlier now) := by
  induction count with
  | zero =>
    obtain ⟨slot, present⟩ := holds
    obtain ⟨inRange, same⟩ := Vector.getElem?_eq_some_iff.mp present
    change (Vector.replicate kHistory none)[slot] = _ at same
    rw [Vector.getElem_replicate] at same
    cases same
  | succ count inductionHypothesis =>
    have earlierStep (held : (before lib cfg events count).Holds earlier) :
        ∃ index < count + 1, ∃ now, events[index]? = some (.evaluate earlier now) := by
      obtain ⟨index, below, evaluated⟩ := inductionHypothesis held
      exact ⟨index, Nat.lt_succ_of_lt below, evaluated⟩
    unfold before at holds
    cases present : events[count]? with
    | none =>
      rw [stateAt_succ_of_none _ _ _ present] at holds
      exact earlierStep holds
    | some event =>
      rw [stateAt_succ _ _ _ present] at holds
      rcases holds_next lib holds with held | ⟨now, rfl⟩
      · exact earlierStep held
      · exact ⟨count, Nat.lt_succ_self count, now, present⟩

end WatchedMonitor

open WatchedMonitor

/-- In every run that compares no sample with targets to one without where the step between them
falls below the threshold, the trend degrades only at a world in which the nearest target is nearer
than in one that the history holds. So it never degrades if no target ever comes nearer. -/
theorem degrading_means_nearer (lib : MathLibrary) (cfg : PerformanceConfig)
    (events : List TrendEvent) (notPositive : ¬ 0.0 < cfg.cpaTrendSlopeThresholdNmS)
    (unmixed : ∀ count world now, events[count]? = some (.evaluate world now) →
      (before lib cfg events count).Unmixed world) :
    (∀ count world now, events[count]? = some (.evaluate world now) →
        (before lib cfg events count).degrading lib world now = true →
          ∃ earlier, (before lib cfg events count).Holds earlier ∧ ComesNearer earlier world) ∧
      ((∀ first second : Nat, first < second → ∀ earlier later firstNow secondNow,
          events[first]? = some (.evaluate earlier firstNow) →
            events[second]? = some (.evaluate later secondNow) → ¬ ComesNearer earlier later) →
        ∀ count world now, events[count]? = some (.evaluate world now) →
          (before lib cfg events count).degrading lib world now = false) := by
  have real : ∀ count world now, events[count]? = some (.evaluate world now) →
      (before lib cfg events count).degrading lib world now = true →
        ∃ earlier, (before lib cfg events count).Holds earlier ∧ ComesNearer earlier world := by
    intro count world now present degrades
    obtain ⟨tracks, sameCfg⟩ : (before lib cfg events count).Tracks ∧
        (before lib cfg events count).monitor.cfg = cfg := before_tracks lib count
    rw [← sameCfg] at notPositive
    exact comesNearer_of_degrading tracks notPositive (unmixed count world now present) degrades
  refine ⟨real, fun never count world now present => ?_⟩
  rw [← Bool.not_eq_true]
  intro degrades
  obtain ⟨earlier, holds, nearer⟩ := real count world now present degrades
  obtain ⟨index, below, earlierNow, evaluated⟩ := evaluated_of_holds lib count holds
  exact never index count below earlier world earlierNow now evaluated present nearer

/-! ### A target that appears -/

/-- First there is no target, and then the vessel ahead is reported. -/
def appearing : List TrendEvent := [.evaluate {} 0, .evaluate closingAhead 1000000000]

theorem appearing_degrades :
    (before aheadLibrary {} appearing 1).degrading aheadLibrary closingAhead 1000000000 = true := by
  rw [degrading_eq]
  decide +kernel

/-- A target that appears makes the trend degrade, although nothing came nearer. -/
theorem degrading_without_decrease :
    ¬ ∀ (lib : MathLibrary) (events : List TrendEvent) (count : Nat) (world : WorldState)
        (now : Int), events[count]? = some (.evaluate world now) →
      (before lib {} events count).degrading lib world now = true →
        ∃ earlier, (before lib {} events count).Holds earlier ∧ ComesNearer earlier world := by
  intro real
  obtain ⟨earlier, holds, present, -⟩ :=
    real aheadLibrary appearing 1 closingAhead 1000000000 rfl appearing_degrades
  obtain ⟨index, below, now, evaluated⟩ := evaluated_of_holds aheadLibrary 1 holds
  obtain rfl : index = 0 := Nat.lt_one_iff.mp below
  cases evaluated
  exact present rfl

/-- The vessel ahead is to pass at five nautical miles, then at four. -/
def veering (cpaM : Float) : WorldState :=
  { closingAhead with targets := closingAhead.targets.map fun target => { target with cpaM } }

def narrowing : List TrendEvent :=
  [.evaluate (veering 9260.0) 0, .evaluate (veering 7408.0) 1000000000]

theorem narrowing_present {index : Nat} {world : WorldState} {now : Int}
    (evaluated : narrowing[index]? = some (.evaluate world now)) : world.targets ≠ [] := by
  have member := List.mem_of_getElem? evaluated
  rw [narrowing, List.mem_cons, List.mem_singleton] at member
  rcases member with first | second
  · rw [(TrendEvent.evaluate.inj first).1]
    exact List.cons_ne_nil _ _
  · rw [(TrendEvent.evaluate.inj second).1]
    exact List.cons_ne_nil _ _

theorem narrowing_unmixed (count : Nat) (world : WorldState) (now : Int)
    (evaluated : narrowing[count]? = some (.evaluate world now)) :
    (before aheadLibrary {} narrowing count).Unmixed world := by
  rintro earlier isOldest ⟨mixed, -⟩
  obtain ⟨index, -, earlierNow, earlierEvaluated⟩ := evaluated_of_holds _ count ⟨_, isOldest⟩
  exact narrowing_present earlierEvaluated (mixed.mpr (narrowing_present evaluated))

theorem narrowing_degrades :
    (before aheadLibrary {} narrowing 1).degrading aheadLibrary (veering 7408.0) 1000000000 =
      true := by
  rw [degrading_eq]
  decide +kernel

theorem degrading_means_nearer_narrowing :
    ∃ earlier, (before aheadLibrary {} narrowing 1).Holds earlier ∧
      ComesNearer earlier (veering 7408.0) :=
  (degrading_means_nearer aheadLibrary {} narrowing (by decide +kernel) narrowing_unmixed).1 1 _ _
    rfl narrowing_degrades

end MassL3.M7
