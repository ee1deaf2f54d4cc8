/-
This file translates the protocol by which the operator is asked to take over, and follows a
request through every order of clicks and ticks. The deadline is looked at by the tick alone. A
click that comes after the deadline, but before the tick that would notice it, is still taken for
an answer.
-/

import MassTdl.Colregs.Node
import MassTdl.Runs

namespace MassL3.M8

open MassL3.M6.Colregs (seconds)

/-! ### The protocol -/

inductive TorState where
  | idle
  | requested
  | acknowledged
  | timeoutMrc
  deriving DecidableEq

inductive TorReason where
  | oddExit
  | manualRequest
  | safetyAlert

structure TorConfig where
  deadlineS : Float := 60.0
  sat1MinDisplayS : Float := 5.0

/-- What the display shows at a click. -/
structure SatView where
  sat1Threats : List String
  oddZone : String
  conformanceScore : Float32
  operatorId : String

structure AcknowledgmentSnapshot where
  clickTime : Int
  sat1DisplayDurationS : Float
  sat1ThreatsVisible : List String
  oddZoneAtClick : String
  conformanceScoreAtClick : Float32
  operatorId : String

/-- Times are in nanoseconds. -/
structure TorProtocol where
  state : TorState := .idle
  lastReason : TorReason := .oddExit
  requestedTime : Int := 0
  retries : Nat := 0

namespace TorProtocol

variable (config : TorConfig) (protocol : TorProtocol)

/-- The seconds since the request. -/
def elapsed (now : Int) : Float := seconds (now - protocol.requestedTime)

def trigger (reason : TorReason) (now : Int) : TorProtocol × Bool :=
  if protocol.state ≠ .idle then (protocol, false)
  else
    ({ protocol with
        state := .requested
        lastReason := reason
        requestedTime := now
        retries := 0 },
      true)

def isAcknowledgmentButtonEnabled (now : Int) : Bool :=
  if protocol.state ≠ .requested then false else protocol.elapsed now ≥ config.sat1MinDisplayS

def onAcknowledgmentClicked (now : Int) (view : SatView) :
    TorProtocol × Option AcknowledgmentSnapshot :=
  if !protocol.isAcknowledgmentButtonEnabled config now then (protocol, none)
  else
    ({ protocol with state := .acknowledged },
      some
        { clickTime := now
          sat1DisplayDurationS := protocol.elapsed now
          sat1ThreatsVisible := view.sat1Threats
          oddZoneAtClick := view.oddZone
          conformanceScoreAtClick := view.conformanceScore
          operatorId := view.operatorId })

def tick (now : Int) : TorProtocol × Bool :=
  if protocol.state ≠ .requested then (protocol, false)
  else if protocol.elapsed now ≥ config.deadlineS then
    ({ protocol with state := .timeoutMrc }, true)
  else (protocol, false)

def reset : TorProtocol := { protocol with state := .idle, retries := 0 }

def remainingDeadlineS (now : Int) : Float :=
  if protocol.state = .idle ∨ protocol.state = .acknowledged then 0.0
  else
    let remaining := config.deadlineS - protocol.elapsed now
    if remaining > 0.0 then remaining else 0.0

end TorProtocol

/-! ### Runs -/

inductive TorEvent where
  | trigger (reason : TorReason) (now : Int)
  | click (now : Int) (view : SatView)
  | tick (now : Int)
  | reset

namespace TorProtocol

def next (config : TorConfig) (protocol : TorProtocol) : TorEvent → TorProtocol
  | .trigger reason now => (protocol.trigger reason now).1
  | .click now view => (protocol.onAcknowledgmentClicked config now view).1
  | .tick now => (protocol.tick config now).1
  | .reset => protocol.reset

/-- The protocol after the first `count` events from its construction. -/
def after (config : TorConfig) (events : List TorEvent) (count : Nat) : TorProtocol :=
  Runs.stateAt (next config) {} events count

end TorProtocol

/-- The deadline of a request has come. -/
def Late (config : TorConfig) (requested now : Int) : Prop :=
  seconds (now - requested) ≥ config.deadlineS

/-- The threats have been shown for long enough. -/
def Displayed (config : TorConfig) (requested now : Int) : Prop :=
  seconds (now - requested) ≥ config.sat1MinDisplayS

instance (config : TorConfig) (requested now : Int) : Decidable (Late config requested now) :=
  inferInstanceAs (Decidable (_ ≥ _))

instance (config : TorConfig) (requested now : Int) : Decidable (Displayed config requested now) :=
  inferInstanceAs (Decidable (_ ≥ _))

/-- The event `first` makes a request at a time, and there is no reset between it and the state
after `count` events. -/
structure Pending (config : TorConfig) (events : List TorEvent) (first count : Nat)
    (requested : Int) : Prop where
  triggered : ∃ reason, events[first]? = some (.trigger reason requested) ∧
    ((TorProtocol.after config events first).trigger reason requested).2 = true
  later : first < count
  kept : ∀ index, first < index → index < count → events[index]? ≠ some .reset

/-- A request is answered in its window or times out, and the tick reports it. -/
structure AnsweredInTime (config : TorConfig) (events : List TorEvent) : Prop where
  /-- Only a click in the window acknowledges. -/
  acknowledged : ∀ first count requested, Pending config events first count requested →
    (TorProtocol.after config events count).state = .requested →
    (TorProtocol.after config events (count + 1)).state = .acknowledged →
    ∃ now view, events[count]? = some (.click now view) ∧ Displayed config requested now ∧
      ¬ Late config requested now
  /-- A late click is rejected, whether or not a tick has come first. -/
  rejected : ∀ first count requested now view, Pending config events first count requested →
    events[count]? = some (.click now view) → Late config requested now →
    ((TorProtocol.after config events count).onAcknowledgmentClicked config now view).2 = none
  /-- A tick from the deadline on finds the request answered, or ends it. -/
  answered : ∀ first count requested now, Pending config events first count requested →
    events[count]? = some (.tick now) → Late config requested now →
    (TorProtocol.after config events (count + 1)).state = .acknowledged ∨
      (TorProtocol.after config events (count + 1)).state = .timeoutMrc
  /-- No request is both acknowledged and timed out. -/
  exclusive : ∀ first count other requested, Pending config events first count requested →
    Pending config events first other requested →
    (TorProtocol.after config events count).state = .acknowledged →
    (TorProtocol.after config events other).state ≠ .timeoutMrc
  /-- A request that has timed out was reported by one tick. -/
  reported : ∀ first count requested, Pending config events first count requested →
    (TorProtocol.after config events count).state = .timeoutMrc →
    ∃! index, first < index ∧ index < count ∧ ∃ now, events[index]? = some (.tick now) ∧
      ((TorProtocol.after config events index).tick config now).2 = true

/-- No click comes from the deadline on while the request is still open. -/
def NoLateOpenClick (config : TorConfig) (events : List TorEvent) : Prop :=
  ∀ count now view, events[count]? = some (.click now view) →
    (TorProtocol.after config events count).state = .requested →
    Displayed config (TorProtocol.after config events count).requestedTime now →
    ¬ Late config (TorProtocol.after config events count).requestedTime now

/-! ### One event -/

variable {event : TorEvent}

section Steps

variable {config : TorConfig} {protocol : TorProtocol}

/-- What an event can do to the state: nothing, or one of the four moves. -/
inductive TorMoves (config : TorConfig) (protocol : TorProtocol) : TorEvent → TorProtocol → Prop
  | stays (event : TorEvent) (kept : event ≠ .reset) : TorMoves config protocol event protocol
  | requests (reason : TorReason) (now : Int) (idle : protocol.state = .idle) :
      TorMoves config protocol (.trigger reason now) (protocol.trigger reason now).1
  | acknowledges (now : Int) (view : SatView) (opened : protocol.state = .requested)
      (displayed : Displayed config protocol.requestedTime now) :
      TorMoves config protocol (.click now view) { protocol with state := .acknowledged }
  | timesOut (now : Int) (opened : protocol.state = .requested)
      (late : Late config protocol.requestedTime now) :
      TorMoves config protocol (.tick now) { protocol with state := .timeoutMrc }
  | resets : TorMoves config protocol .reset protocol.reset

variable {now : Int}

/-- A click is accepted exactly while the request is open and has been displayed. -/
theorem isAcknowledgmentButtonEnabled_iff :
    protocol.isAcknowledgmentButtonEnabled config now = true ↔
      protocol.state = .requested ∧ Displayed config protocol.requestedTime now := by
  unfold TorProtocol.isAcknowledgmentButtonEnabled
  split_ifs with closed
  · exact iff_of_false id fun both => closed both.1
  · exact decide_eq_true_iff.trans (and_iff_right (not_not.mp closed)).symm

theorem click_accepted (view : SatView) (opened : protocol.state = .requested)
    (displayed : Displayed config protocol.requestedTime now) :
    (protocol.onAcknowledgmentClicked config now view).1 =
        { protocol with state := .acknowledged } ∧
      (protocol.onAcknowledgmentClicked config now view).2 ≠ none := by
  unfold TorProtocol.onAcknowledgmentClicked
  rw [isAcknowledgmentButtonEnabled_iff.mpr ⟨opened, displayed⟩]
  exact ⟨rfl, Option.some_ne_none _⟩

theorem click_rejected (view : SatView)
    (closed : ¬ (protocol.state = .requested ∧ Displayed config protocol.requestedTime now)) :
    protocol.onAcknowledgmentClicked config now view = (protocol, none) := by
  unfold TorProtocol.onAcknowledgmentClicked
  rw [Bool.eq_false_iff.mpr (mt isAcknowledgmentButtonEnabled_iff.mp closed)]
  rfl

theorem tick_timesOut (opened : protocol.state = .requested)
    (late : Late config protocol.requestedTime now) :
    protocol.tick config now = ({ protocol with state := .timeoutMrc }, true) := by
  unfold TorProtocol.tick
  rw [if_neg (not_not.mpr opened)]
  exact if_pos late

theorem tick_quiet
    (quiet : ¬ (protocol.state = .requested ∧ Late config protocol.requestedTime now)) :
    protocol.tick config now = (protocol, false) := by
  unfold TorProtocol.tick
  split_ifs with closed late
  · rfl
  · exact absurd ⟨not_not.mp closed, late⟩ quiet
  · rfl

/-- A tick that reports finds the request open and late. -/
theorem tick_reports_iff :
    (protocol.tick config now).2 = true ↔
      protocol.state = .requested ∧ Late config protocol.requestedTime now := by
  constructor
  · intro reports
    by_contra quiet
    rw [tick_quiet quiet] at reports
    cases reports
  · rintro ⟨opened, late⟩
    exact congrArg Prod.snd (tick_timesOut opened late)

theorem torMoves_next (config : TorConfig) (event : TorEvent) :
    TorMoves config protocol event (protocol.next config event) := by
  cases event with
  | trigger reason now =>
    by_cases idle : protocol.state = .idle
    · exact .requests reason now idle
    · have refused : protocol.trigger reason now = (protocol, false) := if_pos idle
      have unmoved : protocol.next config (.trigger reason now) = protocol :=
        congrArg Prod.fst refused
      exact unmoved.symm ▸ .stays _ nofun
  | click now view =>
    by_cases both : protocol.state = .requested ∧ Displayed config protocol.requestedTime now
    · have accepted : protocol.next config (.click now view) = _ :=
        (click_accepted view both.1 both.2).1
      exact accepted.symm ▸ .acknowledges now view both.1 both.2
    · have unmoved : protocol.next config (.click now view) = protocol :=
        congrArg Prod.fst (click_rejected view both)
      exact unmoved.symm ▸ .stays _ nofun
  | tick now =>
    by_cases both : protocol.state = .requested ∧ Late config protocol.requestedTime now
    · have timedOut : protocol.next config (.tick now) = _ :=
        congrArg Prod.fst (tick_timesOut both.1 both.2)
      exact timedOut.symm ▸ .timesOut now both.1 both.2
    · have unmoved : protocol.next config (.tick now) = protocol :=
        congrArg Prod.fst (tick_quiet both)
      exact unmoved.symm ▸ .stays _ nofun
  | reset => exact .resets

/-- Between two resets a request keeps its time, and an answered one does not move. -/
theorem TorMoves.of_busy {moved : TorProtocol} (moves : TorMoves config protocol event moved)
    (kept : event ≠ .reset) (busy : protocol.state ≠ .idle) :
    moved.requestedTime = protocol.requestedTime ∧ moved.state ≠ .idle ∧
      (protocol.state ≠ .requested → moved = protocol) := by
  cases moves with
  | stays event => exact ⟨rfl, busy, fun _ => rfl⟩
  | requests reason now idle => exact absurd idle busy
  | acknowledges now view opened => exact ⟨rfl, nofun, absurd opened⟩
  | timesOut now opened => exact ⟨rfl, nofun, absurd opened⟩
  | resets => exact absurd rfl kept

end Steps

/-! ### A request -/

section Requests

variable {config : TorConfig} {events : List TorEvent} {first count : ℕ} {requested : Int}

theorem after_succ (present : events[count]? = some event) :
    TorProtocol.after config events (count + 1) =
      (TorProtocol.after config events count).next config event :=
  Runs.stateAt_succ _ _ _ present

theorem after_succ_of_none (absent : events[count]? = none) :
    TorProtocol.after config events (count + 1) = TorProtocol.after config events count :=
  Runs.stateAt_succ_of_none _ _ _ absent

theorem torMoves_after (config : TorConfig) (present : events[count]? = some event) :
    TorMoves config (TorProtocol.after config events count) event
      (TorProtocol.after config events (count + 1)) := by
  rw [after_succ present]
  exact torMoves_next config event

section

variable (pending : Pending config events first count requested)
include pending

/-- A request that is taken is open. -/
theorem Pending.opens :
    (TorProtocol.after config events (first + 1)).requestedTime = requested ∧
      (TorProtocol.after config events (first + 1)).state = .requested := by
  obtain ⟨reason, triggered, taken⟩ := pending.triggered
  have idle : (TorProtocol.after config events first).state = .idle := by
    by_contra busy
    have refused : (TorProtocol.after config events first).trigger reason requested = (_, false) :=
      if_pos busy
    rw [refused] at taken
    cases taken
  have accepted : (TorProtocol.after config events first).trigger reason requested = (_, true) :=
    if_neg (not_not.mpr idle)
  rw [after_succ triggered]
  change ((TorProtocol.after config events first).trigger reason requested).1.requestedTime = _ ∧ _
  rw [accepted]
  refine ⟨rfl, ?_⟩
  change ((TorProtocol.after config events first).trigger reason requested).1.state = _
  rw [accepted]

/-- From a request to the next reset its time is kept, and the protocol is not idle. -/
theorem Pending.request :
    (TorProtocol.after config events count).requestedTime = requested ∧
      (TorProtocol.after config events count).state ≠ .idle := by
  obtain ⟨time, opened⟩ := pending.opens
  refine Runs.stateAt_invariant_between (fun protocol : TorProtocol =>
    protocol.requestedTime = requested ∧ protocol.state ≠ .idle) (Nat.succ_le_of_lt pending.later)
    ⟨time, fun idle => absurd (opened.symm.trans idle) (by decide)⟩
    fun index event above below present invariant => ?_
  have kept : event ≠ .reset := by
    rintro rfl
    exact pending.kept index (Nat.lt_of_succ_le above) below present
  obtain ⟨sameTime, busy, -⟩ := (torMoves_next config event).of_busy kept invariant.2
  exact ⟨sameTime.trans invariant.1, busy⟩

theorem Pending.upTo {index : ℕ} (after : first < index) (within : index ≤ count) :
    Pending config events first index requested :=
  ⟨pending.triggered, after, fun other above below =>
    pending.kept other above (below.trans_le within)⟩

theorem Pending.extend (kept : events[count]? ≠ some .reset) :
    Pending config events first (count + 1) requested := by
  refine ⟨pending.triggered, Nat.lt_succ_of_lt pending.later, fun index above below => ?_⟩
  rcases Nat.lt_succ_iff_lt_or_eq.mp below with earlier | rfl
  · exact pending.kept index above earlier
  · exact kept

/-- An answered request stays as it is until the next reset. -/
theorem Pending.settled {index : ℕ} (after : first < index) (within : index ≤ count)
    (answered : (TorProtocol.after config events index).state ≠ .requested) :
    TorProtocol.after config events count = TorProtocol.after config events index := by
  have busy := (pending.upTo after within).request.2
  refine Runs.stateAt_invariant_between (fun protocol : TorProtocol =>
    protocol = TorProtocol.after config events index) within rfl
    fun later event above below present same => ?_
  have kept : event ≠ .reset := by
    rintro rfl
    exact pending.kept later (after.trans_le above) below present
  rw [same]
  exact ((torMoves_next config event).of_busy kept busy).2.2 answered

end

/-- An open request was made by a trigger. -/
theorem exists_pending (opened : (TorProtocol.after config events count).state = .requested) :
    ∃ first, Pending config events first count
      (TorProtocol.after config events count).requestedTime := by
  induction count with
  | zero => cases opened
  | succ count inductionHypothesis =>
    cases present : events[count]? with
    | none =>
      rw [after_succ_of_none present] at opened ⊢
      obtain ⟨first, pending⟩ := inductionHypothesis opened
      exact ⟨first, pending.extend (present ▸ nofun)⟩
    | some event =>
      have moves := torMoves_after config present
      generalize TorProtocol.after config events (count + 1) = moved at moves opened ⊢
      cases moves with
      | stays event kept =>
        obtain ⟨first, pending⟩ := inductionHypothesis opened
        refine ⟨first, pending.extend ?_⟩
        rw [present]
        exact fun isReset => kept (Option.some.inj isReset)
      | requests reason now idle =>
        have taken : (TorProtocol.after config events count).trigger reason now = (_, true) :=
          if_neg (not_not.mpr idle)
        have time : ((TorProtocol.after config events count).trigger reason now).1.requestedTime =
            now := by rw [taken]
        rw [time]
        exact ⟨count, ⟨reason, present, by rw [taken]⟩, Nat.lt_succ_self count,
          fun index above below => absurd above (Nat.not_lt.mpr (Nat.lt_succ_iff.mp below))⟩
      | acknowledges now view => cases opened
      | timesOut now => cases opened
      | resets => cases opened

/-- A request that has timed out was ended by one tick, which reported it. -/
theorem Pending.exists_report (pending : Pending config events first count requested)
    (timedOut : (TorProtocol.after config events count).state = .timeoutMrc) :
    ∃ index, first < index ∧ index < count ∧ ∃ now, events[index]? = some (.tick now) ∧
      ((TorProtocol.after config events index).tick config now).2 = true := by
  induction count, Nat.succ_le_of_lt pending.later using Nat.le_induction with
  | base => exact absurd (pending.opens.2.symm.trans timedOut) (by decide)
  | succ count reached inductionHypothesis =>
    have earlier := pending.upTo (Nat.lt_of_succ_le reached) (Nat.le_succ count)
    have further (same : (TorProtocol.after config events count).state = .timeoutMrc) :=
      inductionHypothesis earlier same
    by_cases before : (TorProtocol.after config events count).state = .timeoutMrc
    · obtain ⟨index, above, below, report⟩ := further before
      exact ⟨index, above, Nat.lt_succ_of_lt below, report⟩
    · refine ⟨count, Nat.lt_of_succ_le reached, Nat.lt_succ_self count, ?_⟩
      cases present : events[count]? with
      | none =>
        rw [after_succ_of_none present] at timedOut
        exact absurd timedOut before
      | some event =>
        have moves := torMoves_after config present
        generalize TorProtocol.after config events (count + 1) = moved at moves timedOut
        cases moves with
        | stays event => exact absurd timedOut before
        | requests reason now idle => exact absurd idle earlier.request.2
        | acknowledges now view => cases timedOut
        | timesOut now opened late =>
          exact ⟨now, rfl, congrArg Prod.snd (tick_timesOut opened late)⟩
        | resets => cases timedOut

theorem after_tick_of_reports {now : Int} (present : events[count]? = some (.tick now))
    (reports : ((TorProtocol.after config events count).tick config now).2 = true) :
    (TorProtocol.after config events (count + 1)).state = .timeoutMrc := by
  obtain ⟨opened, late⟩ := tick_reports_iff.mp reports
  rw [after_succ present]
  exact congrArg (fun ticked => TorProtocol.state (Prod.fst ticked)) (tick_timesOut opened late)

/-- No tick reports a request that an earlier one has reported. -/
theorem Pending.not_reports_twice {index other : ℕ} {now later : Int}
    (pending : Pending config events first other requested) (above : first < index)
    (below : index < other) (present : events[index]? = some (.tick now))
    (reports : ((TorProtocol.after config events index).tick config now).2 = true) :
    ((TorProtocol.after config events other).tick config later).2 ≠ true := by
  have timedOut := after_tick_of_reports present reports
  have closed : (TorProtocol.after config events (index + 1)).state ≠ .requested := by
    rw [timedOut]
    decide
  intro again
  have opened := (tick_reports_iff.mp again).1
  rw [pending.settled (Nat.lt_succ_of_lt above) below closed] at opened
  exact closed opened

section

variable (pending : Pending config events first count requested)
include pending

/-- An answer excludes another one, whichever comes first. -/
theorem Pending.same_answer {other : ℕ} (later : Pending config events first other requested)
    (answered : (TorProtocol.after config events count).state ≠ .requested)
    (answeredLater : (TorProtocol.after config events other).state ≠ .requested) :
    TorProtocol.after config events count = TorProtocol.after config events other := by
  rcases Nat.le_total count other with upTo | upTo
  · exact (later.settled pending.later upTo answered).symm
  · exact pending.settled later.later upTo answeredLater

theorem Pending.not_both {other : ℕ} (later : Pending config events first other requested)
    (acknowledged : (TorProtocol.after config events count).state = .acknowledged) :
    (TorProtocol.after config events other).state ≠ .timeoutMrc := by
  intro timedOut
  have same := pending.same_answer later
    (fun opened => absurd (acknowledged.symm.trans opened) (by decide))
    (fun opened => absurd (timedOut.symm.trans opened) (by decide))
  rw [same, timedOut] at acknowledged
  cases acknowledged

theorem Pending.existsUnique_report
    (timedOut : (TorProtocol.after config events count).state = .timeoutMrc) :
    ∃! index, first < index ∧ index < count ∧ ∃ now, events[index]? = some (.tick now) ∧
      ((TorProtocol.after config events index).tick config now).2 = true := by
  obtain ⟨index, above, below, now, present, reports⟩ := pending.exists_report timedOut
  refine ⟨index, ⟨above, below, now, present, reports⟩, ?_⟩
  rintro other ⟨aboveOther, belowOther, later, presentOther, reportsOther⟩
  rcases Nat.lt_trichotomy other index with earlier | same | afterwards
  · exact absurd reports ((pending.upTo above below.le).not_reports_twice aboveOther earlier
      presentOther reportsOther)
  · exact same
  · exact absurd reportsOther ((pending.upTo aboveOther belowOther.le).not_reports_twice above
      afterwards present reports)

/-- A tick from the deadline on ends a request that is still open. -/
theorem Pending.tick_late {now : Int} (present : events[count]? = some (.tick now))
    (late : Late config requested now) :
    (TorProtocol.after config events (count + 1)).state = .acknowledged ∨
      (TorProtocol.after config events (count + 1)).state = .timeoutMrc := by
  obtain ⟨time, busy⟩ := pending.request
  have quiet (closed : (TorProtocol.after config events count).state ≠ .requested) :
      ((TorProtocol.after config events count).tick config now).1.state =
        (TorProtocol.after config events count).state :=
    congrArg (fun ticked => TorProtocol.state (Prod.fst ticked))
      (tick_quiet fun both => closed both.1)
  rw [after_succ present]
  cases stateIs : (TorProtocol.after config events count).state with
  | idle => exact absurd stateIs busy
  | requested =>
    refine Or.inr (congrArg (fun ticked => TorProtocol.state (Prod.fst ticked))
      (tick_timesOut stateIs ?_))
    rw [time]
    exact late
  | acknowledged => exact Or.inl ((quiet (by simp [stateIs])).trans stateIs)
  | timeoutMrc => exact Or.inr ((quiet (by simp [stateIs])).trans stateIs)

/-- What acknowledges an open request is a click on it. -/
theorem Pending.acknowledging (opened : (TorProtocol.after config events count).state = .requested)
    (acknowledged : (TorProtocol.after config events (count + 1)).state = .acknowledged) :
    ∃ now view, events[count]? = some (.click now view) ∧ Displayed config requested now := by
  cases present : events[count]? with
  | none =>
    rw [after_succ_of_none present, opened] at acknowledged
    cases acknowledged
  | some event =>
    have moves := torMoves_after config present
    have time := pending.request.1
    generalize TorProtocol.after config events (count + 1) = moved at moves acknowledged
    cases moves with
    | stays event =>
      rw [opened] at acknowledged
      cases acknowledged
    | requests reason now idle =>
      rw [opened] at idle
      cases idle
    | acknowledges now view opened displayed => exact ⟨now, view, rfl, time ▸ displayed⟩
    | timesOut now => cases acknowledged
    | resets => cases acknowledged

end

/-- For every run: each request is answered in its window or times out exactly if no click comes
from the deadline on while a request is still open. -/
theorem answeredInTime_iff (config : TorConfig) (events : List TorEvent) :
    AnsweredInTime config events ↔ NoLateOpenClick config events := by
  constructor
  · intro answered count now view present opened displayed late
    obtain ⟨first, pending⟩ := exists_pending opened
    exact (click_accepted view opened displayed).2
      (answered.rejected first count _ now view pending present late)
  · intro noLate
    refine ⟨?_, ?_, ?_, ?_, ?_⟩
    · intro first count requested pending opened acknowledged
      obtain ⟨now, view, present, displayed⟩ := pending.acknowledging opened acknowledged
      have time := pending.request.1
      refine ⟨now, view, present, displayed, ?_⟩
      exact time ▸ noLate count now view present opened (time.symm ▸ displayed)
    · intro first count requested now view pending present late
      refine congrArg Prod.snd (click_rejected view ?_)
      rintro ⟨opened, displayed⟩
      exact noLate count now view present opened displayed (pending.request.1 ▸ late)
    · exact fun first count requested now pending => pending.tick_late
    · exact fun first count other requested pending => pending.not_both
    · exact fun first count requested pending => pending.existsUnique_report

end Requests

/-! ### A click after the deadline -/

def TorEvent.now : TorEvent → Option Int
  | .trigger _ now => some now
  | .click now _ => some now
  | .tick now => some now
  | .reset => none

/-- A click a second after the deadline, before any tick. -/
def lateClick : List TorEvent :=
  [.trigger .oddExit 0, .click 61000000000 ⟨[], "ODD_A", 1.0, "OP-001"⟩]

/-- No time is left to the operator, and the click is accepted. -/
theorem answeredInTime_false :
    (TorProtocol.after {} lateClick 1).remainingDeadlineS {} 61000000000 = 0.0 ∧
      ¬ ∀ (config : TorConfig) (events : List TorEvent),
        (events.filterMap TorEvent.now).IsChain (fun earlier later => earlier ≤ later) →
        AnsweredInTime config events := by
  refine ⟨by decide +kernel, fun answered => ?_⟩
  have pending : Pending {} lateClick 0 1 0 :=
    ⟨⟨.oddExit, rfl, rfl⟩, Nat.zero_lt_one, fun index above below =>
      absurd below (Nat.not_lt.mpr above)⟩
  have rejected := (answered {} lateClick (by decide)).rejected 0 1 0 61000000000 _ pending rfl
    (by decide +kernel)
  have opened : (TorProtocol.after {} lateClick 1).state = .requested := rfl
  exact (click_accepted _ opened (by decide +kernel)).2 rejected

end MassL3.M8
