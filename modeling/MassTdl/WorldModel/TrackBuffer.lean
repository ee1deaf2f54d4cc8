/-
This file translates what the world model keeps of its targets: the buffer of their last
snapshots, which drops the oldest when it is full and whatever is not seen for too long, and the
scores of how they comply.

The buffer is a map from ids; its order is that of a list here, and no two entries share an id.
-/

import Mathlib.Data.List.Nodup
import MassTdl.WorldModel.Types

namespace MassL3.M2

open Clamps
open MassL3.M6.Colregs (MathLibrary seconds)

/-! ### The buffer -/

structure TrackEntry where
  snapshot : TargetSnapshot
  lastSeen : Int

def TrackEntry.id (entry : TrackEntry) : UInt64 := entry.snapshot.targetId

structure TrackBuffer where
  entries : List TrackEntry
  distinct : (entries.map TrackEntry.id).Nodup

structure TrackBufferConfig where
  maxTargets : Nat := 256
  maxTargetAgeS : Float := 10.0 / 4.0

/-- `snapshot_from_msg`. -/
def snapshotFromMsg (target : FusedTarget) (now : Int) : TargetSnapshot where
  targetId := target.targetId
  latitudeDeg := target.latitude
  longitudeDeg := target.longitude
  sogKn := target.sogKn
  cogDeg := target.cogDeg
  headingDeg := target.headingDeg
  classification := target.classification
  stamp := now

/-- Seen earlier, or at the same time with the smaller id. -/
def TrackEntry.older (entry other : TrackEntry) : Bool :=
  entry.lastSeen < other.lastSeen || entry.lastSeen = other.lastSeen && entry.id < other.id

/-- The oldest of the entries. -/
def oldest : List TrackEntry → Option TrackEntry
  | [] => none
  | first :: later =>
      some (later.foldl (fun oldest entry => if entry.older oldest then entry else oldest) first)

namespace TrackBuffer

/-- An empty buffer, as `clear` leaves it. -/
def empty : TrackBuffer where
  entries := []
  distinct := List.nodup_nil

variable (config : TrackBufferConfig) (buffer : TrackBuffer)

/-- The entries that pass a test. -/
def keep (test : TrackEntry → Bool) : TrackBuffer where
  entries := buffer.entries.filter test
  distinct := buffer.distinct.sublist (List.filter_sublist.map TrackEntry.id)

/-- `evict_oldest_locked`. -/
def evictOldest : TrackBuffer :=
  match oldest buffer.entries with
  | none => buffer
  | some evicted => buffer.keep fun entry => entry.id ≠ evicted.id

def contains (id : UInt64) : Bool := buffer.entries.any fun entry => entry.id = id

/-- An entry in the place of the one with its id. -/
def replace (entry : TrackEntry) : TrackBuffer where
  entries := buffer.entries.map fun held => if held.id = entry.id then entry else held
  distinct := by
    have ids : (buffer.entries.map fun held => if held.id = entry.id then entry else held).map
        TrackEntry.id = buffer.entries.map TrackEntry.id := by
      rw [List.map_map]
      refine List.map_congr_left fun held _ => ?_
      change (if held.id = entry.id then entry else held).id = held.id
      split_ifs with same
      · exact same.symm
      · rfl
    rw [ids]
    exact buffer.distinct

theorem contains_keep (test : TrackEntry → Bool) {id : UInt64}
    (absent : buffer.contains id = false) : (buffer.keep test).contains id = false := by
  unfold contains at absent ⊢
  rw [List.any_eq_false] at absent ⊢
  exact fun entry member => absent entry (List.mem_of_mem_filter member)

theorem contains_evictOldest {id : UInt64} (absent : buffer.contains id = false) :
    buffer.evictOldest.contains id = false := by
  unfold evictOldest
  split
  · exact absent
  · exact buffer.contains_keep _ absent

/-- A new entry. -/
def insert (entry : TrackEntry) (absent : buffer.contains entry.id = false) : TrackBuffer where
  entries := buffer.entries ++ [entry]
  distinct := by
    rw [List.map_append]
    refine buffer.distinct.append (List.nodup_singleton _) ?_
    rw [List.map_singleton, List.disjoint_singleton]
    intro present
    obtain ⟨held, member, same⟩ := List.mem_map.mp present
    unfold contains at absent
    exact List.any_eq_false.mp absent held member (decide_eq_true same)

/-- The buffer before a new entry. -/
def makeRoom : TrackBuffer :=
  if buffer.entries.length ≥ config.maxTargets then buffer.evictOldest else buffer

theorem contains_makeRoom {id : UInt64} (absent : buffer.contains id = false) :
    (buffer.makeRoom config).contains id = false := by
  unfold makeRoom
  split_ifs
  · exact buffer.contains_evictOldest absent
  · exact absent

/-- One target of `update`. -/
def record (now : Int) (target : FusedTarget) : TrackBuffer :=
  let entry : TrackEntry := { snapshot := snapshotFromMsg target now, lastSeen := now }
  match present : buffer.contains entry.id with
  | true => buffer.replace entry
  | false => (buffer.makeRoom config).insert entry (buffer.contains_makeRoom config present)

/-- `TrackBuffer::update`. -/
def update (targets : List FusedTarget) (now : Int) : TrackBuffer :=
  targets.foldl (fun buffer target => buffer.record config now target) buffer

/-- Not seen for too long. -/
def stale (now : Int) (entry : TrackEntry) : Bool :=
  seconds (now - entry.lastSeen) ≥ config.maxTargetAgeS

/-- `TrackBuffer::evict_stale`. -/
def evictStale (now : Int) : TrackBuffer := buffer.keep fun entry => !stale config now entry

/-- `TrackBuffer::active_targets`. -/
def activeTargets : List TargetSnapshot := buffer.entries.map TrackEntry.snapshot

end TrackBuffer

/-! ### Compliance -/

structure TargetComplianceSample where
  tS : Float
  cpaM : Float
  tcpaS : Float
  rangeM : Float
  headingDeg : Float

/-- The samples of the last half minute, the oldest first. -/
structure WoernerComplianceScorer where
  history : List TargetComplianceSample := []

def kHistoryWindowS : Float := 30.0

def kNeutralCompliance : Float := 0.5

def kMinHistoryDtS : Float := 1e-6

def kTrendScaleMps : Float := 20.0

def kHeadingChangeFullCreditDeg : Float := 20.0

/-- `finite_sample`. -/
def TargetComplianceSample.finite (sample : TargetComplianceSample) : Bool :=
  sample.tS.isFinite && sample.cpaM.isFinite && sample.tcpaS.isFinite &&
    sample.rangeM.isFinite && sample.headingDeg.isFinite

namespace WoernerComplianceScorer

variable (scorer : WoernerComplianceScorer)

/-- `add_sample`, with `prune_`. -/
def addSample (sample : TargetComplianceSample) : WoernerComplianceScorer :=
  if !sample.finite then scorer
  else
    let rewound := scorer.history.getLast?.any fun last => sample.tS < last.tS
    let history := if rewound then [sample] else scorer.history ++ [sample]
    let cutoffS := sample.tS - kHistoryWindowS
    { history := history.dropWhile fun held => held.tS < cutoffS }

/-- `wrapped_heading_delta_abs_deg`. -/
def wrappedHeadingDeltaAbsDeg (lib : MathLibrary) (fromDeg toDeg : Float) : Float :=
  let delta := lib.fmod (toDeg - fromDeg + 540.0) 360.0 - 180.0
  if delta < 0.0 then -delta else delta

def score (lib : MathLibrary) : Float :=
  match scorer.history with
  | oldest :: next :: later =>
      let newest := (next :: later).getLast (List.cons_ne_nil next later)
      let dtS := newest.tS - oldest.tS
      if dtS ≤ kMinHistoryDtS then kNeutralCompliance
      else
        let cpaSlopeMps := (newest.cpaM - oldest.cpaM) / dtS
        let rangeSlopeMps := (newest.rangeM - oldest.rangeM) / dtS
        let headingDeltaDeg :=
          wrappedHeadingDeltaAbsDeg lib oldest.headingDeg newest.headingDeg
        let cpaComponent := clamp01 (0.5 + cpaSlopeMps / kTrendScaleMps)
        let rangeComponent := clamp01 (0.5 + rangeSlopeMps / kTrendScaleMps)
        let headingComponent := clamp01 (headingDeltaDeg / kHeadingChangeFullCreditDeg)
        clamp01 (0.65 * cpaComponent + 0.20 * rangeComponent + 0.15 * headingComponent)
  | _ => kNeutralCompliance

end WoernerComplianceScorer

end MassL3.M2
