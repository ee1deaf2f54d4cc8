/-
This file proves that the track buffer keeps the targets that were seen last, and no more than it
may hold. The capacity is enforced within a message, target by target. Among entries of the same
time an entry of the message itself could be dropped, but as long as a message names no more
targets than there is room for, an entry of an earlier message is left to drop.
-/

import MassTdl.Runs
import MassTdl.WorldModel.TrackBuffer
import Mathlib.Data.List.Dedup

namespace MassL3.M2

open MassL3.M6.Colregs (seconds)
open Runs

/-! ### The oldest entry -/

variable {entry other : TrackEntry}

theorem older_lastSeen_le (older : entry.older other = true) :
    entry.lastSeen ≤ other.lastSeen := by
  unfold TrackEntry.older at older
  rcases Bool.or_eq_true_iff.mp older with earlier | same
  · exact le_of_lt (of_decide_eq_true earlier)
  · exact le_of_eq (of_decide_eq_true (Bool.and_eq_true_iff.mp same).1)

theorem le_of_not_older (notOlder : ¬ entry.older other = true) :
    other.lastSeen ≤ entry.lastSeen := by
  refine not_lt.mp fun earlier => notOlder ?_
  rw [TrackEntry.older, decide_eq_true earlier, Bool.true_or]

/-- The entry that is dropped is one of them, and none was seen earlier. -/
theorem oldest_spec {entries : List TrackEntry} {found : TrackEntry}
    (isOldest : oldest entries = some found) :
    found ∈ entries ∧ ∀ entry ∈ entries, found.lastSeen ≤ entry.lastSeen := by
  cases entries with
  | nil => exact absurd isOldest (Option.some_ne_none found).symm
  | cons first later =>
    have isFound : later.foldl
        (fun oldest entry => if entry.older oldest then entry else oldest) first = found :=
      Option.some.inj isOldest
    clear isOldest
    induction later generalizing first with
    | nil =>
      subst isFound
      refine ⟨List.mem_singleton_self _, fun entry member => ?_⟩
      rw [List.mem_singleton.mp member]
      exact le_rfl
    | cons next later inductionHypothesis =>
      rw [List.foldl_cons] at isFound
      obtain ⟨member, least⟩ := inductionHypothesis _ isFound
      have leastHead := least _ List.mem_cons_self
      have leastLater : ∀ entry ∈ later, found.lastSeen ≤ entry.lastSeen := fun entry inside =>
        least entry (List.mem_cons_of_mem _ inside)
      split_ifs at member leastHead with older
      · refine ⟨List.mem_cons_of_mem _ member, ?_⟩
        rintro entry (_ | ⟨_, _ | ⟨_, inside⟩⟩)
        · exact leastHead.trans (older_lastSeen_le older)
        · exact leastHead
        · exact leastLater entry inside
      · refine ⟨?_, ?_⟩
        · rcases List.mem_cons.mp member with head | inside
          · exact head ▸ List.mem_cons_self
          · exact List.mem_cons_of_mem _ (List.mem_cons_of_mem _ inside)
        rintro entry (_ | ⟨_, _ | ⟨_, inside⟩⟩)
        · exact leastHead
        · exact leastHead.trans (le_of_not_older older)
        · exact leastLater entry inside

/-! ### One target -/

/-- What the buffer holds of a target. -/
def entryOf (now : Int) (target : FusedTarget) : TrackEntry where
  snapshot := snapshotFromMsg target now
  lastSeen := now

@[simp] theorem entryOf_id (now : Int) (target : FusedTarget) :
    (entryOf now target).id = target.targetId := rfl

@[simp] theorem entryOf_lastSeen (now : Int) (target : FusedTarget) :
    (entryOf now target).lastSeen = now := rfl

namespace TrackBuffer

variable {config : TrackBufferConfig} {buffer : TrackBuffer} {now : Int} {target : FusedTarget}

theorem eq_of_id (member : entry ∈ buffer.entries) (otherMember : other ∈ buffer.entries)
    (same : entry.id = other.id) : entry = other :=
  List.inj_on_of_nodup_map buffer.distinct member otherMember same

theorem contains_iff (id : UInt64) :
    buffer.contains id = true ↔ ∃ entry ∈ buffer.entries, entry.id = id := by
  unfold contains
  rw [List.any_eq_true]
  simp only [decide_eq_true_eq]

/-- The entry that is dropped for another target. -/
def evictee (config : TrackBufferConfig) (buffer : TrackBuffer) (id : UInt64) :
    Option TrackEntry :=
  if buffer.contains id ∨ buffer.entries.length < config.maxTargets then none
  else oldest buffer.entries

variable {id : UInt64}

theorem evictee_spec {evicted : TrackEntry} (dropped : buffer.evictee config id = some evicted) :
    buffer.contains id = false ∧ config.maxTargets ≤ buffer.entries.length ∧
      evicted ∈ buffer.entries ∧ ∀ entry ∈ buffer.entries, evicted.lastSeen ≤ entry.lastSeen := by
  unfold evictee at dropped
  split_ifs at dropped with room
  obtain ⟨absent, full⟩ := not_or.mp room
  exact ⟨Bool.eq_false_iff.mpr absent, not_lt.mp full, oldest_spec dropped⟩

theorem evictee_of_present (present : buffer.contains id = true) :
    buffer.evictee config id = none := if_pos (.inl present)

/-- Room is made by dropping one entry, and only in a full buffer. -/
theorem mem_makeRoom_iff (absent : buffer.contains id = false) (entry : TrackEntry) :
    entry ∈ (buffer.makeRoom config).entries ↔ entry ∈ buffer.entries ∧
      ∀ evicted, buffer.evictee config id = some evicted → entry.id ≠ evicted.id := by
  unfold makeRoom evictee
  rw [absent]
  by_cases full : buffer.entries.length ≥ config.maxTargets
  · rw [if_pos full, if_neg fun room => room.elim Bool.false_ne_true (not_lt.mpr full)]
    unfold evictOldest
    cases isOldest : oldest buffer.entries with
    | none => simp
    | some evicted =>
      show entry ∈ buffer.entries.filter (fun held => held.id ≠ evicted.id) ↔ _
      rw [List.mem_filter, decide_eq_true_eq]
      refine and_congr_right fun _ => ⟨fun kept other isOther => ?_, fun kept => kept _ rfl⟩
      rwa [← Option.some.inj isOther]
  · rw [if_neg full, if_pos (.inr (not_le.mp full))]
    exact ⟨fun member => ⟨member, fun evicted isNone => absurd isNone.symm
      (Option.some_ne_none evicted)⟩, And.left⟩

theorem record_of_present (present : buffer.contains target.targetId = true) :
    (buffer.record config now target).entries = buffer.entries.map fun held =>
      if held.id = target.targetId then entryOf now target else held := by
  unfold record
  dsimp only
  split
  · rfl
  next absent => exact absurd (present.symm.trans absent) (by decide)

theorem record_of_absent (absent : buffer.contains target.targetId = false) :
    (buffer.record config now target).entries =
      (buffer.makeRoom config).entries ++ [entryOf now target] := by
  unfold record
  dsimp only
  split
  next present => exact absurd (absent.symm.trans present) (by decide)
  · rfl

/-- A target replaces what was held of it, and the others stay but for the one that is dropped. -/
theorem mem_record_iff (entry : TrackEntry) :
    entry ∈ (buffer.record config now target).entries ↔ entry = entryOf now target ∨
      entry ∈ buffer.entries ∧ entry.id ≠ target.targetId ∧
        ∀ evicted, buffer.evictee config target.targetId = some evicted →
          entry.id ≠ evicted.id := by
  cases present : buffer.contains target.targetId with
  | true =>
    rw [evictee_of_present present, record_of_present present, List.mem_map]
    constructor
    · rintro ⟨held, member, rfl⟩
      split_ifs with same
      · exact .inl rfl
      · exact .inr ⟨member, same, fun _ isNone => isNone.elim⟩
    · rintro (rfl | ⟨member, other, -⟩)
      · obtain ⟨held, member, same⟩ := (buffer.contains_iff _).mp present
        exact ⟨held, member, if_pos same⟩
      · exact ⟨entry, member, if_neg other⟩
  | false =>
    rw [record_of_absent present, List.mem_append, List.mem_singleton, mem_makeRoom_iff present,
      or_comm]
    refine or_congr_right (and_congr_right fun member => ?_)
    refine ⟨fun kept => ⟨fun same => ?_, kept⟩, And.right⟩
    have held := (buffer.contains_iff target.targetId).mpr ⟨entry, member, same⟩
    exact Bool.false_ne_true (present.symm.trans held)

theorem length_makeRoom_lt (room : 1 ≤ config.maxTargets)
    (bounded : buffer.entries.length ≤ config.maxTargets) :
    (buffer.makeRoom config).entries.length < config.maxTargets := by
  unfold makeRoom
  split_ifs with full
  · unfold evictOldest
    cases isOldest : oldest buffer.entries with
    | none =>
      have nothing : buffer.entries = [] := by
        cases held : buffer.entries with
        | nil => rfl
        | cons first later =>
          rw [held] at isOldest
          exact absurd isOldest (Option.some_ne_none _)
      show buffer.entries.length < _
      rw [nothing]
      exact room
    | some evicted =>
      have dropped : (buffer.entries.filter fun held => held.id ≠ evicted.id).length <
          buffer.entries.length :=
        List.length_filter_lt_length_iff_exists.mpr
          ⟨evicted, (oldest_spec isOldest).1, by simp⟩
      exact dropped.trans_le bounded
  · exact not_le.mp full

theorem length_record_le (room : 1 ≤ config.maxTargets)
    (bounded : buffer.entries.length ≤ config.maxTargets) :
    (buffer.record config now target).entries.length ≤ config.maxTargets := by
  cases present : buffer.contains target.targetId with
  | true => rwa [record_of_present present, List.length_map]
  | false =>
    rw [record_of_absent present, List.length_append, List.length_singleton]
    exact length_makeRoom_lt room bounded

end TrackBuffer

/-! ### One message -/

/-- The last target of a message with the id. -/
def lastOccurrence (targets : List FusedTarget) (id : UInt64) : Option FusedTarget :=
  targets.reverse.find? fun target => target.targetId = id

theorem lastOccurrence_append (targets : List FusedTarget) (target : FusedTarget) (id : UInt64) :
    lastOccurrence (targets ++ [target]) id =
      if target.targetId = id then some target else lastOccurrence targets id := by
  unfold lastOccurrence
  rw [List.reverse_append, List.reverse_singleton, List.singleton_append, List.find?_cons]
  by_cases same : target.targetId = id
  · rw [decide_eq_true same, if_pos same]
  · rw [decide_eq_false same, if_neg same]

/-- The ids a message names. -/
def idsOf (targets : List FusedTarget) : List UInt64 := (targets.map (·.targetId)).dedup

/-- The buffer in the middle of a message. -/
structure Recorded (config : TrackBufferConfig) (now : Int) (seen : List FusedTarget)
    (buffer : TrackBuffer) : Prop where
  bounded : buffer.entries.length ≤ config.maxTargets
  past : ∀ entry ∈ buffer.entries, entry.lastSeen ≤ now
  current : ∀ entry ∈ buffer.entries, entry.lastSeen = now → entry.id ∈ idsOf seen
  held : ∀ id target, lastOccurrence seen id = some target → entryOf now target ∈ buffer.entries

variable {config : TrackBufferConfig} {now : Int} {seen : List FusedTarget} {buffer : TrackBuffer}

variable {target : FusedTarget}

theorem targetId_of_lastOccurrence {id : UInt64} (last : lastOccurrence seen id = some target) :
    target.targetId = id := by
  unfold lastOccurrence at last
  simpa using List.find?_some last

theorem mem_idsOf {id : UInt64} : id ∈ idsOf seen ↔ ∃ target ∈ seen, target.targetId = id := by
  unfold idsOf
  rw [List.mem_dedup, List.mem_map]

theorem idsOf_subset_append (target : FusedTarget) :
    idsOf seen ⊆ idsOf (seen ++ [target]) := fun id member => by
  obtain ⟨other, inside, same⟩ := mem_idsOf.mp member
  exact mem_idsOf.mpr ⟨other, List.mem_append_left _ inside, same⟩

/-- A message that fits drops no entry of its own. -/
theorem Recorded.evictee_earlier (recorded : Recorded config now seen buffer)
    (fits : (idsOf (seen ++ [target])).length ≤ config.maxTargets) {evicted : TrackEntry}
    (dropped : buffer.evictee config target.targetId = some evicted) :
    evicted.lastSeen < now := by
  obtain ⟨absent, full, member, least⟩ := TrackBuffer.evictee_spec dropped
  refine lt_of_le_of_ne (recorded.past evicted member) fun isNow => ?_
  have allCurrent : ∀ entry ∈ buffer.entries, entry.id ∈ idsOf seen := fun entry inside =>
    recorded.current entry inside
      (le_antisymm (recorded.past entry inside) (isNow ▸ least entry inside))
  have unheld : target.targetId ∉ buffer.entries.map TrackEntry.id := fun inside => by
    obtain ⟨entry, entryMember, same⟩ := List.mem_map.mp inside
    have present := (buffer.contains_iff target.targetId).mpr ⟨entry, entryMember, same⟩
    exact Bool.false_ne_true (absent.symm.trans present)
  have named : target.targetId :: buffer.entries.map TrackEntry.id ⊆ idsOf (seen ++ [target]) := by
    intro id inside
    rcases List.mem_cons.mp inside with rfl | inside
    · exact mem_idsOf.mpr ⟨target, List.mem_append_right _ List.mem_cons_self, rfl⟩
    · obtain ⟨entry, entryMember, rfl⟩ := List.mem_map.mp inside
      exact idsOf_subset_append target (allCurrent entry entryMember)
  have distinct := List.nodup_cons.mpr ⟨unheld, buffer.distinct⟩
  have tooMany := (List.Nodup.subperm distinct named).length_le
  rw [List.length_cons, List.length_map] at tooMany
  omega

theorem Recorded.record (recorded : Recorded config now seen buffer) (room : 1 ≤ config.maxTargets)
    (fits : (idsOf (seen ++ [target])).length ≤ config.maxTargets) :
    Recorded config now (seen ++ [target]) (buffer.record config now target) where
  bounded := TrackBuffer.length_record_le room recorded.bounded
  past entry member := by
    rcases (TrackBuffer.mem_record_iff entry).mp member with rfl | ⟨inside, -⟩
    · exact le_rfl
    · exact recorded.past entry inside
  current entry member isNow := by
    rcases (TrackBuffer.mem_record_iff entry).mp member with rfl | ⟨inside, -⟩
    · exact mem_idsOf.mpr ⟨target, List.mem_append_right _ List.mem_cons_self, rfl⟩
    · exact idsOf_subset_append target (recorded.current entry inside isNow)
  held id other last := by
    rw [lastOccurrence_append] at last
    refine (TrackBuffer.mem_record_iff _).mpr ?_
    split_ifs at last with same
    · exact .inl (congrArg (entryOf now) (Option.some.inj last).symm)
    · have inside := recorded.held id other last
      have isId := targetId_of_lastOccurrence last
      refine .inr ⟨inside, fun isTarget => same (isTarget.symm.trans isId), ?_⟩
      intro evicted dropped isEvicted
      have earlier := recorded.evictee_earlier fits dropped
      have same := buffer.eq_of_id inside (TrackBuffer.evictee_spec dropped).2.2.1 isEvicted
      rw [← same] at earlier
      exact absurd earlier (lt_irrefl now)

variable {targets : List FusedTarget} {entry : TrackEntry}

/-- After a message, an entry is of the message, or it was held before and is not named. -/
theorem mem_update (member : entry ∈ (buffer.update config targets now).entries) :
    (entry.lastSeen = now ∧ entry.id ∈ idsOf targets) ∨
      (entry ∈ buffer.entries ∧ entry.id ∉ idsOf targets) := by
  induction targets using List.reverseRecOn with
  | nil => exact .inr ⟨member, fun named => absurd named List.not_mem_nil⟩
  | append_singleton seen target inductionHypothesis =>
    have step : buffer.update config (seen ++ [target]) now =
        (buffer.update config seen now).record config now target := by
      unfold TrackBuffer.update
      rw [List.foldl_append]
      rfl
    rw [step] at member
    rcases (TrackBuffer.mem_record_iff entry).mp member with rfl | ⟨inside, other, -⟩
    · exact .inl ⟨rfl, mem_idsOf.mpr ⟨target, List.mem_append_right _ List.mem_cons_self, rfl⟩⟩
    · rcases inductionHypothesis inside with ⟨isNow, named⟩ | ⟨held, unnamed⟩
      · exact .inl ⟨isNow, idsOf_subset_append target named⟩
      · refine .inr ⟨held, fun named => ?_⟩
        obtain ⟨found, foundMember, same⟩ := mem_idsOf.mp named
        rcases List.mem_append.mp foundMember with earlier | last
        · exact unnamed (mem_idsOf.mpr ⟨found, earlier, same⟩)
        · exact other (List.mem_singleton.mp last ▸ same).symm

/-! ### Runs -/

inductive BufferOperation where
  | update (targets : List FusedTarget) (now : Int)
  | evictStale (now : Int)

/-- The entries whose ids are gone. -/
def lost (before after : TrackBuffer) : List TrackEntry :=
  before.entries.filter fun entry => !after.contains entry.id

/-- The buffer, with the entries that were dropped for another target. -/
structure BufferLedger where
  buffer : TrackBuffer := .empty
  dropped : List TrackEntry := []

namespace BufferLedger

variable (config : TrackBufferConfig) (ledger : BufferLedger)

def record (now : Int) (target : FusedTarget) : BufferLedger :=
  let buffer := ledger.buffer.record config now target
  { buffer, dropped := ledger.dropped ++ lost ledger.buffer buffer }

def next : BufferOperation → BufferLedger
  | .update targets now =>
      targets.foldl (fun ledger target => ledger.record config now target) ledger
  | .evictStale now => { ledger with buffer := ledger.buffer.evictStale config now }

end BufferLedger

def bufferStep (config : TrackBufferConfig) (buffer : TrackBuffer) : BufferOperation → TrackBuffer
  | .update targets now => buffer.update config targets now
  | .evictStale now => buffer.evictStale config now

def bufferAfter (config : TrackBufferConfig) (operations : List BufferOperation) : TrackBuffer :=
  run (bufferStep config) .empty operations

def ledgerAfter (config : TrackBufferConfig) (operations : List BufferOperation) : BufferLedger :=
  run (BufferLedger.next config) {} operations

theorem BufferLedger.foldl_record_buffer (config : TrackBufferConfig) (ledger : BufferLedger)
    (now : Int) (targets : List FusedTarget) :
    (targets.foldl (fun ledger target => ledger.record config now target) ledger).buffer =
      ledger.buffer.update config targets now := by
  induction targets generalizing ledger with
  | nil => rfl
  | cons target targets inductionHypothesis => exact inductionHypothesis _

/-- The ledger is kept next to the buffer and leaves it alone. -/
theorem ledgerAfter_buffer (config : TrackBufferConfig) (operations : List BufferOperation) :
    (ledgerAfter config operations).buffer = bufferAfter config operations := by
  induction operations using List.reverseRecOn with
  | nil => rfl
  | append_singleton earlier operation inductionHypothesis =>
    unfold ledgerAfter bufferAfter at inductionHypothesis ⊢
    rw [run_append, run_append, ← inductionHypothesis]
    cases operation with
    | update targets now => exact BufferLedger.foldl_record_buffer _ _ _ _
    | evictStale now => rfl

/-- The times of the updates. -/
def updateTimes (operations : List BufferOperation) : List Int :=
  operations.filterMap fun
    | .update _ now => some now
    | .evictStale _ => none

/-- The updates come in the order of time, and no message names more targets than there is room
for. -/
structure Admissible (config : TrackBufferConfig) (operations : List BufferOperation) : Prop where
  increasing : (updateTimes operations).Pairwise (· < ·)
  fits : ∀ targets now, .update targets now ∈ operations →
    (idsOf targets).length ≤ config.maxTargets

/-! ### Dropped entries -/

namespace BufferLedger

variable {config : TrackBufferConfig} {ledger : BufferLedger} {now : Int}

/-- No entry was seen before a dropped one, and none of these is dated ahead. -/
structure Ordered (now : Int) (ledger : BufferLedger) : Prop where
  order : ∀ dropped ∈ ledger.dropped, ∀ entry ∈ ledger.buffer.entries,
    dropped.lastSeen ≤ entry.lastSeen
  past : ∀ dropped ∈ ledger.dropped, dropped.lastSeen ≤ now

/-- Only the entry that is dropped loses its id. -/
theorem evictee_of_lost {buffer : TrackBuffer}
    (gone : entry ∈ lost buffer (buffer.record config now target)) :
    entry ∈ buffer.entries ∧ buffer.evictee config target.targetId = some entry := by
  obtain ⟨member, absent⟩ := List.mem_filter.mp gone
  have absent : ¬ (buffer.record config now target).contains entry.id = true := by
    simpa using absent
  rw [TrackBuffer.contains_iff] at absent
  refine ⟨member, ?_⟩
  have other : entry.id ≠ target.targetId := fun same =>
    absent ⟨entryOf now target, (TrackBuffer.mem_record_iff _).mpr (.inl rfl), same.symm⟩
  cases dropped : buffer.evictee config target.targetId with
  | none =>
    refine absurd ⟨entry, (TrackBuffer.mem_record_iff _).mpr (.inr ⟨member, other, ?_⟩), rfl⟩ absent
    exact fun evicted isEvicted => absurd (dropped.symm.trans isEvicted).symm
      (Option.some_ne_none evicted)
  | some evicted =>
    by_cases same : entry.id = evicted.id
    · rw [buffer.eq_of_id member (TrackBuffer.evictee_spec dropped).2.2.1 same]
    · refine absurd ⟨entry, (TrackBuffer.mem_record_iff _).mpr (.inr ⟨member, other, ?_⟩), rfl⟩
        absent
      intro found isFound
      rwa [← Option.some.inj (dropped.symm.trans isFound)]

theorem Ordered.record (ordered : ledger.Ordered now)
    (past : ∀ entry ∈ ledger.buffer.entries, entry.lastSeen ≤ now) (target : FusedTarget) :
    (ledger.record config now target).Ordered now where
  order dropped droppedMember entry member := by
    have kept := (TrackBuffer.mem_record_iff entry).mp member
    rcases List.mem_append.mp droppedMember with earlier | gone
    · rcases kept with rfl | ⟨inside, -⟩
      · exact ordered.past dropped earlier
      · exact ordered.order dropped earlier entry inside
    · obtain ⟨inside, isEvictee⟩ := evictee_of_lost gone
      rcases kept with rfl | ⟨entryInside, -⟩
      · exact past dropped inside
      · exact (TrackBuffer.evictee_spec isEvictee).2.2.2 entry entryInside
  past dropped droppedMember := by
    rcases List.mem_append.mp droppedMember with earlier | gone
    · exact ordered.past dropped earlier
    · exact past dropped (evictee_of_lost gone).1

theorem message (room : 1 ≤ config.maxTargets)
    (bounded : ledger.buffer.entries.length ≤ config.maxTargets)
    (before : ∀ entry ∈ ledger.buffer.entries, entry.lastSeen < now) (ordered : ledger.Ordered now)
    (fits : (idsOf targets).length ≤ config.maxTargets) :
    Recorded config now targets (ledger.next config (.update targets now)).buffer ∧
      (ledger.next config (.update targets now)).Ordered now ∧
      ∀ dropped ∈ (ledger.next config (.update targets now)).dropped,
        dropped ∈ ledger.dropped ∨ dropped ∈ ledger.buffer.entries := by
  induction targets using List.reverseRecOn with
  | nil =>
    refine ⟨⟨bounded, fun entry member => le_of_lt (before entry member), fun entry member isNow =>
      absurd isNow (ne_of_lt (before entry member)), fun id target last => ?_⟩, ordered,
      fun dropped member => .inl member⟩
    exact absurd last (Option.some_ne_none target).symm
  | append_singleton seen target inductionHypothesis =>
    have fewer : (idsOf seen).length ≤ (idsOf (seen ++ [target])).length :=
      (List.Nodup.subperm (List.nodup_dedup _) (idsOf_subset_append target)).length_le
    obtain ⟨recorded, orderedSeen, heldBefore⟩ := inductionHypothesis (fewer.trans fits)
    have step : ledger.next config (.update (seen ++ [target]) now) =
        (ledger.next config (.update seen now)).record config now target := by
      show List.foldl _ _ _ = _
      rw [List.foldl_append]
      rfl
    rw [step]
    refine ⟨recorded.record room fits, orderedSeen.record recorded.past target, ?_⟩
    intro dropped droppedMember
    rcases List.mem_append.mp droppedMember with earlier | gone
    · exact heldBefore dropped earlier
    · obtain ⟨inside, isEvictee⟩ := evictee_of_lost gone
      rw [next, foldl_record_buffer] at inside
      rcases mem_update inside with ⟨isNow, -⟩ | ⟨held, -⟩
      · exact absurd isNow (ne_of_lt (recorded.evictee_earlier fits isEvictee))
      · exact .inr held

end BufferLedger

/-! ### The buffer along a run -/

/-- What holds of the buffer and of the entries it dropped after any operations. -/
structure LeastRecentlySeen (config : TrackBufferConfig) (operations : List BufferOperation)
    (ledger : BufferLedger) : Prop where
  bounded : ledger.buffer.entries.length ≤ config.maxTargets
  seen : ∀ entry ∈ ledger.buffer.entries, ∃ time ∈ updateTimes operations, entry.lastSeen ≤ time
  droppedSeen : ∀ dropped ∈ ledger.dropped,
    ∃ time ∈ updateTimes operations, dropped.lastSeen ≤ time
  order : ∀ dropped ∈ ledger.dropped, ∀ entry ∈ ledger.buffer.entries,
    dropped.lastSeen ≤ entry.lastSeen

variable {config : TrackBufferConfig} {earlier : List BufferOperation}

theorem updateTimes_append_update (targets : List FusedTarget) (now : Int) :
    updateTimes (earlier ++ [.update targets now]) = updateTimes earlier ++ [now] := by
  unfold updateTimes
  rw [List.filterMap_append]
  rfl

theorem updateTimes_append_evictStale (earlier : List BufferOperation) (now : Int) :
    updateTimes (earlier ++ [.evictStale now]) = updateTimes earlier := by
  unfold updateTimes
  rw [List.filterMap_append]
  exact List.append_nil _

theorem Admissible.of_append {later : List BufferOperation}
    (admissible : Admissible config (earlier ++ later)) : Admissible config earlier where
  increasing := by
    have whole := admissible.increasing
    unfold updateTimes at whole
    rw [List.filterMap_append] at whole
    exact (List.pairwise_append.mp whole).1
  fits targets now member := admissible.fits targets now (List.mem_append_left _ member)

/-- After an update, the message is recorded and the ledger is in order. -/
theorem LeastRecentlySeen.message {ledger : BufferLedger}
    (kept : LeastRecentlySeen config earlier ledger) (room : 1 ≤ config.maxTargets) {now : Int}
    (admissible : Admissible config (earlier ++ [.update targets now])) :
    Recorded config now targets (ledger.next config (.update targets now)).buffer ∧
      (ledger.next config (.update targets now)).Ordered now ∧
      ∀ dropped ∈ (ledger.next config (.update targets now)).dropped,
        dropped ∈ ledger.dropped ∨ dropped ∈ ledger.buffer.entries := by
  have increasing := admissible.increasing
  rw [updateTimes_append_update] at increasing
  have before (time : Int) (past : ∃ other ∈ updateTimes earlier, time ≤ other) : time < now := by
    obtain ⟨other, member, below⟩ := past
    exact below.trans_lt
      ((List.pairwise_append.mp increasing).2.2 other member now List.mem_cons_self)
  exact BufferLedger.message room kept.bounded
    (fun entry member => before _ (kept.seen entry member))
    ⟨kept.order, fun dropped member => le_of_lt (before _ (kept.droppedSeen dropped member))⟩
    (admissible.fits targets now (List.mem_append_right _ List.mem_cons_self))

variable {operations : List BufferOperation}

theorem leastRecentlySeen_ledgerAfter (room : 1 ≤ config.maxTargets)
    (admissible : Admissible config operations) :
    LeastRecentlySeen config operations (ledgerAfter config operations) := by
  induction operations using List.reverseRecOn with
  | nil =>
    exact ⟨Nat.zero_le _, fun _ member => absurd member List.not_mem_nil,
      fun _ member => absurd member List.not_mem_nil,
      fun _ member => absurd member List.not_mem_nil⟩
  | append_singleton earlier operation inductionHypothesis =>
    have kept := inductionHypothesis admissible.of_append
    have step : ledgerAfter config (earlier ++ [operation]) =
        (ledgerAfter config earlier).next config operation := run_append _ _ _ _
    rw [step]
    cases operation with
    | update targets now =>
      obtain ⟨recorded, ordered, -⟩ := kept.message room admissible
      have isTime : now ∈ updateTimes (earlier ++ [.update targets now]) := by
        rw [updateTimes_append_update]
        exact List.mem_append_right _ List.mem_cons_self
      exact ⟨recorded.bounded, fun entry member => ⟨now, isTime, recorded.past entry member⟩,
        fun dropped member => ⟨now, isTime, ordered.past dropped member⟩, ordered.order⟩
    | evictStale now =>
      have sameTimes := updateTimes_append_evictStale earlier now
      have fewer : ((ledgerAfter config earlier).buffer.evictStale config now).entries.length ≤
          (ledgerAfter config earlier).buffer.entries.length := List.length_filter_le _ _
      exact ⟨fewer.trans kept.bounded,
        fun entry member => sameTimes ▸ kept.seen entry (List.mem_of_mem_filter member),
        fun dropped member => sameTimes ▸ kept.droppedSeen dropped member,
        fun dropped droppedMember entry member =>
          kept.order dropped droppedMember entry (List.mem_of_mem_filter member)⟩

/-- An eviction removes exactly the entries that are too old. -/
theorem mem_evictStale_iff (buffer : TrackBuffer) (now : Int) (entry : TrackEntry) :
    entry ∈ (buffer.evictStale config now).entries ↔
      entry ∈ buffer.entries ∧ ¬ seconds (now - entry.lastSeen) ≥ config.maxTargetAgeS := by
  show entry ∈ buffer.entries.filter _ ↔ _
  rw [List.mem_filter, Bool.not_eq_true']
  exact and_congr_right fun _ => decide_eq_false_iff_not

theorem mem_evictions_iff (buffer : TrackBuffer) (evictions : List Int) (entry : TrackEntry) :
    entry ∈ (evictions.foldl (fun buffer now => buffer.evictStale config now) buffer).entries ↔
      entry ∈ buffer.entries ∧
        ∀ now ∈ evictions, ¬ seconds (now - entry.lastSeen) ≥ config.maxTargetAgeS := by
  induction evictions generalizing buffer with
  | nil => simp
  | cons now evictions inductionHypothesis =>
    rw [List.foldl_cons, inductionHypothesis, mem_evictStale_iff, List.forall_mem_cons, and_assoc]

theorem bufferAfter_evictions (operations : List BufferOperation) (evictions : List Int) :
    bufferAfter config (operations ++ evictions.map .evictStale) =
      evictions.foldl (fun buffer now => buffer.evictStale config now)
        (bufferAfter config operations) := by
  unfold bufferAfter
  rw [run_append]
  exact List.foldl_map

/-! ### When a target was last seen -/

/-- The time of the last message that names the id. -/
def lastSeenAt (operations : List BufferOperation) (id : UInt64) : Option Int :=
  operations.reverse.findSome? fun
    | .update targets now => if id ∈ idsOf targets then some now else none
    | .evictStale _ => none

/-- An entry keeps the time when its target was last seen. -/
theorem lastSeenAt_of_mem (member : entry ∈ (bufferAfter config operations).entries) :
    lastSeenAt operations entry.id = some entry.lastSeen := by
  induction operations using List.reverseRecOn with
  | nil => exact absurd member List.not_mem_nil
  | append_singleton earlier operation inductionHypothesis =>
    have step : bufferAfter config (earlier ++ [operation]) =
        bufferStep config (bufferAfter config earlier) operation := run_append _ _ _ _
    rw [step] at member
    unfold lastSeenAt at inductionHypothesis ⊢
    rw [List.reverse_append, List.reverse_singleton, List.singleton_append, List.findSome?_cons]
    cases operation with
    | update targets now =>
      rcases mem_update member with ⟨isNow, named⟩ | ⟨held, unnamed⟩
      · simp only [if_pos named, isNow]
      · simp only [if_neg unnamed]
        exact inductionHypothesis held
    | evictStale now => exact inductionHypothesis (List.mem_of_mem_filter member)

/-- What is dropped for another target was held before the message that dropped it. -/
theorem dropped_held (room : 1 ≤ config.maxTargets) (admissible : Admissible config operations)
    {dropped : TrackEntry} (gone : dropped ∈ (ledgerAfter config operations).dropped) :
    ∃ before, before <+: operations ∧ dropped ∈ (bufferAfter config before).entries := by
  induction operations using List.reverseRecOn with
  | nil => exact absurd gone List.not_mem_nil
  | append_singleton earlier operation inductionHypothesis =>
    have onward (found : dropped ∈ (ledgerAfter config earlier).dropped) :
        ∃ before, before <+: earlier ++ [operation] ∧
          dropped ∈ (bufferAfter config before).entries := by
      obtain ⟨before, isPrefix, held⟩ := inductionHypothesis admissible.of_append found
      exact ⟨before, isPrefix.trans (List.prefix_append _ _), held⟩
    have step : ledgerAfter config (earlier ++ [operation]) =
        (ledgerAfter config earlier).next config operation := run_append _ _ _ _
    rw [step] at gone
    cases operation with
    | update targets now =>
      have kept := leastRecentlySeen_ledgerAfter room admissible.of_append
      rcases (kept.message room admissible).2.2 dropped gone with already | held
      · exact onward already
      · exact ⟨earlier, List.prefix_append _ _, ledgerAfter_buffer config earlier ▸ held⟩
    | evictStale now => exact onward gone

/-- The dropped entry was held, with the time its target was last seen until then. -/
def DroppedAfter (config : TrackBufferConfig) (before : List BufferOperation)
    (dropped : TrackEntry) : Prop :=
  dropped ∈ (bufferAfter config before).entries ∧
    lastSeenAt before dropped.id = some dropped.lastSeen

/-- The buffer is a bounded store of the targets seen last: it never holds more than it may, it
holds the last of each target of the latest message that has not become too old since, nothing it
holds was seen before what it dropped for another target, and an eviction removes exactly what
is too old. -/
theorem trackBuffer_boundedLru (room : 1 ≤ config.maxTargets) {operations : List BufferOperation}
    (admissible : Admissible config operations) :
    (bufferAfter config operations).entries.length ≤ config.maxTargets ∧
      (∀ (earlier : List BufferOperation) (targets : List FusedTarget) (now : Int)
        (evictions : List Int),
        operations = earlier ++ .update targets now :: evictions.map .evictStale →
        ∀ id target, lastOccurrence targets id = some target →
          (∀ time ∈ evictions, ¬ seconds (time - now) ≥ config.maxTargetAgeS) →
          entryOf now target ∈ (bufferAfter config operations).entries) ∧
      (∀ entry ∈ (bufferAfter config operations).entries,
        lastSeenAt operations entry.id = some entry.lastSeen ∧
          ∀ dropped ∈ (ledgerAfter config operations).dropped,
            (∃ before, before <+: operations ∧ DroppedAfter config before dropped) ∧
              dropped.lastSeen ≤ entry.lastSeen) ∧
      ∀ now entry, entry ∈ ((bufferAfter config operations).evictStale config now).entries ↔
        entry ∈ (bufferAfter config operations).entries ∧
          ¬ seconds (now - entry.lastSeen) ≥ config.maxTargetAgeS := by
  have kept := leastRecentlySeen_ledgerAfter room admissible
  have sameBuffer := ledgerAfter_buffer config operations
  refine ⟨sameBuffer ▸ kept.bounded, ?_, fun entry member => ⟨lastSeenAt_of_mem member, ?_⟩,
    fun now entry => mem_evictStale_iff _ now entry⟩
  · rintro earlier targets now evictions rfl id target last young
    have whole : earlier ++ .update targets now :: evictions.map .evictStale =
        (earlier ++ [.update targets now]) ++ evictions.map .evictStale := by
      rw [List.append_assoc, List.singleton_append]
    rw [whole] at admissible ⊢
    have recorded := ((leastRecentlySeen_ledgerAfter room
      admissible.of_append.of_append).message room admissible.of_append).1
    have updated : bufferAfter config (earlier ++ [.update targets now]) =
        ((ledgerAfter config earlier).next config (.update targets now)).buffer := by
      rw [← ledgerAfter_buffer]
      exact congrArg BufferLedger.buffer (run_append _ _ _ _)
    rw [bufferAfter_evictions, mem_evictions_iff, updated]
    exact ⟨recorded.held id target last, young⟩
  · intro dropped gone
    obtain ⟨before, isPrefix, held⟩ := dropped_held room admissible gone
    exact ⟨⟨before, isPrefix, held, lastSeenAt_of_mem held⟩,
      kept.order dropped gone entry (sameBuffer.symm ▸ member)⟩

/-- A target with nothing known but its id. -/
def bareTarget (id : UInt64) : FusedTarget where
  targetId := id
  latitude := 0.0
  longitude := 0.0
  sogKn := 0.0
  cogDeg := 0.0
  headingDeg := 0.0
  classification := ""

/-- Room for one target, and two messages of one target each, the second of them twice. -/
theorem trackBuffer_boundedLru_one :
    (bufferAfter { maxTargets := 1 }
        [.update [bareTarget 1] 0, .update [bareTarget 2, bareTarget 2] 1]).entries.length ≤ 1 := by
  have admissible : Admissible { maxTargets := 1 }
      [.update [bareTarget 1] 0, .update [bareTarget 2, bareTarget 2] 1] := by
    refine ⟨by decide, fun targets now member => ?_⟩
    simp only [List.mem_cons, BufferOperation.update.injEq, List.not_mem_nil, or_false] at member
    rcases member with ⟨rfl, rfl⟩ | ⟨rfl, rfl⟩ <;> decide
  exact (trackBuffer_boundedLru (by decide) admissible).1

end MassL3.M2
