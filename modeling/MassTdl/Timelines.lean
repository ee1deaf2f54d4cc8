/-
This file is a small library about a value that changes over time, kept as the list of
its segments. Updates come in with their times; an encoder opens a segment at the first
update, lets it run while the updates repeat the value it holds and closes it at the next
different one, and at the end of the record closes the open segment too. A reader takes the
segments that cover an instant, each half-open except that the last stop of all belongs to
its segment, and of these the last one. Read at any instant up to the end of the record,
the segments give the last update at or before that instant, or a value the encoder took
for the same.

Segments of length zero, left by updates at one instant, need no case of their own: they
cover nothing before the end of the record, and at its end the last segment comes after
them.

A stable sort by anything the segments are already in order of keeps them in order; that
is the last section, for readers that sort what they read.
-/

import Mathlib.Data.List.MinMax
import Mathlib.Tactic.Common

namespace Timelines

/-- A value and the times it begins and ends to hold. -/
structure Segment (Time Value : Type) where
  start : Time
  stop : Time
  value : Value

/-! ### The encoder -/

section Encoder

variable {Time Value : Type}

/-- The segments closed so far, and where the open one began with what it holds. -/
structure Encoder (Time Value : Type) where
  closed : List (Segment Time Value) := []
  held : Option (Time × Value) := none

/-- One update: a repeat of the held value changes nothing, another value closes the open
segment and opens the next. -/
def Encoder.note (same : Value → Value → Bool) (encoder : Encoder Time Value)
    (update : Time × Value) : Encoder Time Value :=
  match encoder.held with
  | none => { encoder with held := some update }
  | some (start, value) =>
    if same value update.2 then encoder
    else ⟨encoder.closed ++ [⟨start, update.1, value⟩], some update⟩

def encode (same : Value → Value → Bool) (updates : List (Time × Value)) :
    Encoder Time Value :=
  updates.foldl (Encoder.note same) {}

/-- The record ends: the open segment is closed at its end. -/
def Encoder.finish (encoder : Encoder Time Value) (final : Time) : List (Segment Time Value) :=
  encoder.closed ++ (encoder.held.map fun held => ⟨held.1, final, held.2⟩).toList

theorem encode_append_singleton (same : Value → Value → Bool)
    (updates : List (Time × Value)) (update : Time × Value) :
    encode same (updates ++ [update]) = (encode same updates).note same update := by
  rw [encode, List.foldl_append]
  rfl

/-! ### One update -/

variable {same : Value → Value → Bool} {encoder : Encoder Time Value} {update : Time × Value}

theorem Encoder.note_of_none (nothing : encoder.held = none) :
    encoder.note same update = { encoder with held := some update } := by
  rw [Encoder.note, nothing]

variable {start : Time} {value : Value}

theorem Encoder.note_of_same (holding : encoder.held = some (start, value))
    (repeated : same value update.2) :
    encoder.note same update = encoder := by
  rw [Encoder.note, holding]
  exact if_pos repeated

theorem Encoder.note_of_new (holding : encoder.held = some (start, value))
    (different : ¬ same value update.2) :
    encoder.note same update =
      ⟨encoder.closed ++ [⟨start, update.1, value⟩], some update⟩ := by
  rw [Encoder.note, holding]
  exact if_neg different

/-- What the encoder keeps is the updates it did not take for repeats. -/
def Encoder.starts (encoder : Encoder Time Value) : List (Time × Value) :=
  (encoder.closed.map fun segment => (segment.start, segment.value)) ++ encoder.held.toList

theorem Encoder.starts_of_held (holding : encoder.held = some (start, value)) :
    encoder.starts =
      (encoder.closed.map fun segment => (segment.start, segment.value)) ++ [(start, value)] := by
  rw [Encoder.starts, holding]
  rfl

theorem Encoder.finish_starts (encoder : Encoder Time Value) (final : Time) :
    (encoder.finish final).map (fun segment => (segment.start, segment.value)) =
      encoder.starts := by
  unfold Encoder.finish Encoder.starts
  rw [List.map_append]
  cases encoder.held <;> rfl

/-- One update is kept, or it repeats the value kept last. -/
theorem Encoder.note_starts (same : Value → Value → Bool) (encoder : Encoder Time Value)
    (update : Time × Value) :
    (encoder.note same update).starts = encoder.starts ++ [update] ∨
      (encoder.note same update).starts = encoder.starts ∧
        ∃ kept, encoder.starts.getLast? = some kept ∧ same kept.2 update.2 := by
  rcases holding : encoder.held with _ | ⟨start, value⟩
  · left
    rw [note_of_none holding, Encoder.starts, Encoder.starts, holding]
    simp
  · by_cases repeated : same value update.2
    · right
      refine ⟨by rw [note_of_same holding repeated], (start, value), ?_, repeated⟩
      rw [starts_of_held holding, List.getLast?_append_cons, List.getLast?_singleton]
    · left
      rw [note_of_new holding repeated, starts_of_held holding, Encoder.starts]
      simp

end Encoder

variable {Time Value : Type} [LinearOrder Time]

/-! ### The readers -/

/-- The last update at or before an instant. -/
def latest (updates : List (Time × Value)) (time : Time) : Option (Time × Value) :=
  (updates.filter fun update => update.1 ≤ time).getLast?

/-- A segment covers the times from its start to before its stop, and its stop as well when
no segment stops later. -/
def covers (segments : List (Segment Time Value)) (time : Time)
    (segment : Segment Time Value) : Bool :=
  segment.start ≤ time &&
    (time < segment.stop ||
      (time == segment.stop && (segments.map Segment.stop).maximum == segment.stop))

/-- What a reader of the segments finds at an instant. -/
def read (segments : List (Segment Time Value)) (time : Time) :
    Option (Segment Time Value) :=
  (segments.filter (covers segments time)).getLast?

variable {updates : List (Time × Value)} {update : Time × Value} {time : Time}

theorem latest_append_of_le (reached : update.1 ≤ time) :
    latest (updates ++ [update]) time = some update := by
  rw [latest, List.filter_append, List.filter_cons_of_pos (by simpa using reached),
    List.filter_nil, List.getLast?_append_cons, List.getLast?_singleton]

theorem latest_append_of_lt (later : time < update.1) :
    latest (updates ++ [update]) time = latest updates time := by
  rw [latest, List.filter_append, List.filter_cons_of_neg (by simpa using later),
    List.filter_nil, List.append_nil]
  rfl

/-! ### Chained segments -/

/-- Each segment stops where the next one starts, and the last stops at the given time. -/
inductive Chained : List (Segment Time Value) → Time → Prop
  | nil (stop : Time) : Chained [] stop
  | snoc {segments : List (Segment Time Value)} (segment : Segment Time Value) :
      Chained segments segment.start → segment.start ≤ segment.stop →
      Chained (segments ++ [segment]) segment.stop

variable {segments : List (Segment Time Value)} {stop : Time}

theorem Chained.stop_le (chained : Chained segments stop) :
    ∀ segment ∈ segments, segment.stop ≤ stop := by
  induction chained with
  | nil => exact fun _ member => absurd member List.not_mem_nil
  | snoc last chained forward inductionHypothesis =>
    intro segment member
    rcases List.mem_append.mp member with earlier | final
    · exact (inductionHypothesis segment earlier).trans forward
    · rw [List.mem_singleton.mp final]

theorem Chained.start_le_stop (chained : Chained segments stop) :
    ∀ segment ∈ segments, segment.start ≤ segment.stop := by
  induction chained with
  | nil => exact fun _ member => absurd member List.not_mem_nil
  | snoc last chained forward inductionHypothesis =>
    intro segment member
    rcases List.mem_append.mp member with earlier | final
    · exact inductionHypothesis segment earlier
    · exact List.mem_singleton.mp final ▸ forward

/-- Chained segments are in the order of their starts. -/
theorem Chained.pairwise_start (chained : Chained segments stop) :
    segments.Pairwise fun earlier later => earlier.start ≤ later.start := by
  induction chained with
  | nil => exact List.Pairwise.nil
  | snoc last chained forward inductionHypothesis =>
    refine List.pairwise_append.mpr ⟨inductionHypothesis, List.pairwise_singleton _ _, ?_⟩
    intro segment member final isLast
    rw [List.mem_singleton.mp isLast]
    exact (chained.start_le_stop segment member).trans (chained.stop_le segment member)

/-- Before the end of the record the last segment that has started is also the last that
has not stopped. -/
theorem Chained.getLast?_halfOpen {stop time : Time} (chained : Chained segments stop)
    (before : time < stop) :
    (segments.filter fun segment => segment.start ≤ time && time < segment.stop).getLast? =
      (segments.filter fun segment => segment.start ≤ time).getLast? := by
  induction chained with
  | nil => rfl
  | snoc last chained forward inductionHypothesis =>
    rw [List.filter_append, List.filter_append]
    rcases le_or_gt last.start time with started | later
    · rw [List.filter_cons_of_pos (by simp [started, before]), List.filter_nil,
        List.filter_cons_of_pos (by simpa using started), List.filter_nil,
        List.getLast?_append_cons, List.getLast?_append_cons]
    · rw [List.filter_cons_of_neg (by simp [later]), List.filter_nil,
        List.filter_cons_of_neg (by simpa using later), List.filter_nil,
        List.append_nil, List.append_nil]
      exact inductionHypothesis later

/-- A bound that one of the stops attains is the largest stop. -/
theorem maximum_stops (attained : ∃ segment ∈ segments, segment.stop = stop)
    (bounded : ∀ segment ∈ segments, segment.stop ≤ stop) :
    (segments.map Segment.stop).maximum = stop := by
  obtain ⟨segment, member, rfl⟩ := attained
  refine List.maximum_eq_coe_iff.mpr ⟨List.mem_map_of_mem member, ?_⟩
  intro other isStop
  obtain ⟨another, present, rfl⟩ := List.mem_map.mp isStop
  exact bounded another present

/-- Up to the end of the record, what a reader finds is the last segment that has started. -/
theorem Chained.read_eq {stop time : Time} (chained : Chained segments stop)
    (within : time ≤ stop) :
    read segments time = (segments.filter fun segment => segment.start ≤ time).getLast? := by
  rcases within.lt_or_eq with before | rfl
  · -- the closed end is out of reach, so the segments are read as half-open
    rw [← chained.getLast?_halfOpen before, read]
    congr 1
    refine List.filter_congr fun segment member => ?_
    unfold covers
    rcases eq_or_ne time segment.stop with rfl | apart
    · have isNotLast : (segments.map Segment.stop).maximum ≠ segment.stop := by
        cases chained with
        | nil => exact fun _ => List.not_mem_nil member
        | snoc last chained forward =>
          rw [maximum_stops ⟨last, by simp, rfl⟩ (Chained.snoc last chained forward).stop_le]
          exact fun same => absurd (WithBot.coe_inj.mp same) before.ne'
      simp [isNotLast]
    · rw [beq_eq_false_iff_ne.mpr apart, Bool.false_and, Bool.or_false]
  · -- the last segment stops at the end of the record and covers it
    cases chained with
    | nil => rfl
    | @snoc earlier last chained forward =>
      have largest := maximum_stops ⟨last, by simp, rfl⟩ (Chained.snoc last chained forward).stop_le
      have covered : covers (earlier ++ [last]) last.stop last = true := by
        unfold covers
        rw [largest]
        simp [forward]
      rw [read, List.filter_append, List.filter_append, List.filter_cons_of_pos covered,
        List.filter_nil, List.filter_cons_of_pos (by simpa using forward), List.filter_nil,
        List.getLast?_append_cons, List.getLast?_append_cons]

/-! ### The encoder's segments -/

/-- What an encoder over updates in order of time keeps true. -/
structure Encodes (same : Value → Value → Bool) (updates : List (Time × Value))
    (encoder : Encoder Time Value) : Prop where
  /-- Nothing is kept that was not an update. -/
  kept : ∀ start ∈ encoder.starts, start ∈ updates
  /-- At every instant the last kept update says what the last update says. -/
  agrees : ∀ time,
    latest encoder.starts time = none ∧ latest updates time = none ∨
      ∃ start update, latest encoder.starts time = some start ∧
        latest updates time = some update ∧
        (start.2 = update.2 ∨ same start.2 update.2)
  /-- With nothing open nothing was closed. -/
  fresh : encoder.held = none → encoder.closed = []
  chained : ∀ held, encoder.held = some held → Chained encoder.closed held.1

theorem Encodes.empty (same : Value → Value → Bool) :
    Encodes same [] ({} : Encoder Time Value) where
  kept := fun _ member => member
  agrees := fun _ => Or.inl ⟨rfl, rfl⟩
  fresh := fun _ => rfl
  chained := fun _ absent => by cases absent

theorem latest_eq_getLast? (reached : ∀ update ∈ updates, update.1 ≤ time) :
    latest updates time = updates.getLast? := by
  rw [latest, List.filter_eq_self.mpr fun update member => by simpa using reached update member]

variable {same : Value → Value → Bool} {encoder : Encoder Time Value}

/-- One more update, no earlier than the others. -/
theorem Encodes.note (encodes : Encodes same updates encoder)
    (inOrder : ∀ earlier ∈ updates, earlier.1 ≤ update.1) :
    Encodes same (updates ++ [update]) (encoder.note same update) where
  kept := by
    intro start member
    rcases encoder.note_starts same update with isNew | ⟨unchanged, -⟩
    · rw [isNew] at member
      rcases List.mem_append.mp member with old | new
      · exact List.mem_append_left _ (encodes.kept start old)
      · exact List.mem_append_right _ new
    · exact List.mem_append_left _ (encodes.kept start (unchanged ▸ member))
  agrees := by
    intro time
    rcases le_or_gt update.1 time with reached | later
    · right
      rcases encoder.note_starts same update with isNew | ⟨unchanged, keptLast, isLast, repeated⟩
      · exact ⟨update, update, isNew ▸ latest_append_of_le reached,
          latest_append_of_le reached, Or.inl rfl⟩
      · refine ⟨keptLast, update, ?_, latest_append_of_le reached, Or.inr repeated⟩
        -- everything kept had started by the time of this update
        rw [unchanged, latest_eq_getLast? fun start member =>
          (inOrder start (encodes.kept start member)).trans reached, isLast]
    · rw [latest_append_of_lt later]
      rcases encoder.note_starts same update with isNew | ⟨unchanged, -⟩
      · rw [isNew, latest_append_of_lt later]
        exact encodes.agrees time
      · rw [unchanged]
        exact encodes.agrees time
  fresh := by
    rcases holding : encoder.held with _ | ⟨start, value⟩
    · rw [Encoder.note_of_none holding]
      exact fun absent => by cases absent
    · by_cases repeated : same value update.2
      · rw [Encoder.note_of_same holding repeated]
        exact encodes.fresh
      · rw [Encoder.note_of_new holding repeated]
        exact fun absent => by cases absent
  chained := by
    rcases holding : encoder.held with _ | ⟨start, value⟩
    · rw [Encoder.note_of_none holding, encodes.fresh holding]
      exact fun opened _ => Chained.nil opened.1
    · by_cases repeated : same value update.2
      · rw [Encoder.note_of_same holding repeated]
        exact encodes.chained
      · rw [Encoder.note_of_new holding repeated]
        rintro opened ⟨⟩
        have wasUpdate : (start, value) ∈ updates :=
          encodes.kept _ (by rw [Encoder.starts_of_held holding]; simp)
        exact Chained.snoc ⟨start, update.1, value⟩ (encodes.chained _ holding)
          (inOrder _ wasUpdate)

/-- The encoder over updates in order of time. -/
theorem encodes_encode (same : Value → Value → Bool)
    (inOrder : updates.Pairwise fun earlier later => earlier.1 ≤ later.1) :
    Encodes same updates (encode same updates) := by
  induction updates using List.reverseRecOn with
  | nil => exact Encodes.empty same
  | append_singleton updates update inductionHypothesis =>
    rw [encode_append_singleton]
    obtain ⟨earlierInOrder, -, last⟩ := List.pairwise_append.mp inOrder
    exact (inductionHypothesis earlierInOrder).note fun earlier member =>
      last earlier member update (List.mem_singleton.mpr rfl)

theorem Encodes.chained_finish (encodes : Encodes same updates encoder) {final : Time}
    (ended : ∀ update ∈ updates, update.1 ≤ final) : Chained (encoder.finish final) final := by
  unfold Encoder.finish
  rcases held : encoder.held with _ | ⟨start, value⟩
  · rw [encodes.fresh held]
    exact Chained.nil final
  · have wasUpdate : (start, value) ∈ updates :=
      encodes.kept _ (by rw [Encoder.starts_of_held held]; simp)
    exact Chained.snoc ⟨start, final, value⟩ (encodes.chained _ held) (ended _ wasUpdate)

/-- The last started segment is the segment of the last kept update. -/
theorem getLast?_started (segments : List (Segment Time Value)) (time : Time) :
    ((segments.filter fun segment => segment.start ≤ time).getLast?).map
        (fun segment => (segment.start, segment.value)) =
      latest (segments.map fun segment => (segment.start, segment.value)) time := by
  rw [latest, List.filter_map, List.getLast?_map]
  rfl

/-- Reading the encoder's segments is reading the record: nothing before the first update,
and otherwise the value of the last update, or one the encoder took for it. -/
theorem Encodes.read_finish (encodes : Encodes same updates encoder) {final time : Time}
    (ended : ∀ update ∈ updates, update.1 ≤ final) (within : time ≤ final) :
    read (encoder.finish final) time = none ∧ latest updates time = none ∨
      ∃ segment update, read (encoder.finish final) time = some segment ∧
        latest updates time = some update ∧
        (segment.value = update.2 ∨ same segment.value update.2) := by
  have isRead := (encodes.chained_finish ended).read_eq within
  have starts := getLast?_started (encoder.finish final) time
  rw [← isRead, encoder.finish_starts] at starts
  rcases encodes.agrees time with ⟨unkept, none⟩ | ⟨start, update, isKept, isLatest, agree⟩
  · exact Or.inl ⟨Option.map_eq_none_iff.mp (starts.trans unkept), none⟩
  · obtain ⟨segment, found, rfl⟩ := Option.map_eq_some_iff.mp (starts.trans isKept)
    exact Or.inr ⟨segment, update, found, isLatest, agree⟩

/-! ### Stable sorting -/

/-- A stable sort keeps the order of entries that are in order already. -/
theorem filter_mergeSort {Entry : Type} (le : Entry → Entry → Bool)
    (transitive : ∀ a b c, le a b → le b c → le a c) (total : ∀ a b, le a b || le b a)
    (entries : List Entry) (keep : Entry → Bool)
    (inOrder : (entries.filter keep).Pairwise fun earlier later => le earlier later) :
    (entries.mergeSort le).filter keep = entries.filter keep := by
  have kept : (entries.filter keep).Sublist ((entries.mergeSort le).filter keep) := by
    have within := (List.sublist_mergeSort transitive total inOrder
      List.filter_sublist).filter keep
    rwa [List.filter_filter, List.filter_congr fun entry _ => Bool.and_self (keep entry)]
      at within
  have sameLength := ((List.mergeSort_perm entries le).filter keep).length_eq
  exact (kept.eq_of_length sameLength.symm).symm

end Timelines
