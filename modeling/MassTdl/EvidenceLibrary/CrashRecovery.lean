/-
This file puts deletions and rescans one after the other, each of them cut off anywhere or run
with failing operations. Between two of them the session is indexed and its payload whole, or
its row is gone and what is left is on record, and the next rescan brings the first to the
payload at its place and reports the second. The session has to be healthy to begin with: the row
of a directory without a manifest is pruned by the rescan like any other, with the directory
in its place.
-/

import MassTdl.EvidenceLibrary.RescanSteps
import MassTdl.Runs

namespace MassL3.EvidenceLibrary

open Resumptions (Program)
open Resumptions.Program

variable {Content : Type} {session : SessionConfig Content} {payload : Payload Content}

/-! ### The root of a session whose payload is in staging -/

theorem sessionPathIsHealthy_congr {layout : Layout} {files other : Files Content}
    (same : files.target = other.target) :
    sessionPathIsHealthy layout files = sessionPathIsHealthy layout other := by
  unfold sessionPathIsHealthy
  rw [same]

theorem resolveDeletionTarget_congr {files other : Files Content}
    (same : files.target = other.target) :
    resolveDeletionTarget session files = resolveDeletionTarget session other := by
  unfold resolveDeletionTarget deletionTargetAllowed sessionExists
  rw [same]

/-- A root above a path is found without the path. -/
theorem matchedRootPath_above {matching : Matching}
    (isAbove : matchedRootPath matching true = some .above) :
    matchedRootPath matching false = some .above := by
  unfold matchedRootPath at isAbove ⊢
  split at isAbove
  · exact absurd isAbove (by decide)
  rename_i notMatching
  rw [if_neg notMatching]
  cases isGlobbed : matching.globbed with
  | nil => simp [isGlobbed] at isAbove
  | cons place places =>
    have isPlace : place = .above := by simpa [isGlobbed] using isAbove
    simp [isPlace]

theorem matchedRootPath_same {matching : Matching} (pathMatches : matching.pathMatches = true)
    (pathExists : Bool) : matchedRootPath matching pathExists = some .same := by
  unfold matchedRootPath
  rw [if_pos pathMatches]

/-- The root of the session is enabled and trusted, and has the session where it is. -/
structure Rooted (session : SessionConfig Content) (root : EvidenceRootConfig)
    (sessionThere : Bool) : Prop where
  found : session.roots.find? (fun root => root.rootId == session.rootId) = some root
  enabled : root.enabled = true
  trusted : root.trusted = true
  matched : matchedRootPath root.session sessionThere =
    match session.layout with
    | .legacy => some .above
    | .unified => some .same

theorem resolveDeletionTarget_iff {files : Files Content} :
    resolveDeletionTarget session files = true ↔
      (∃ root, Rooted session root (sessionExists session.layout files)) ∧
        deletionTargetAllowed session files = true := by
  unfold resolveDeletionTarget
  cases isRoot : session.roots.find? fun root => root.rootId == session.rootId with
  | none =>
    refine ⟨fun resolves => absurd resolves Bool.false_ne_true, fun ⟨⟨root, rooted⟩, _⟩ => ?_⟩
    exact absurd (isRoot.symm.trans rooted.found) (by simp)
  | some root =>
    simp only [Bool.and_eq_true]
    constructor
    · rintro ⟨⟨enabled, trusted⟩, resolves⟩
      split at resolves
      · rename_i matched isLayout
        exact ⟨⟨root, isRoot, enabled, trusted, by rw [matched, isLayout]⟩, resolves⟩
      · rename_i matched isLayout
        exact ⟨⟨root, isRoot, enabled, trusted, by rw [matched, isLayout]⟩, resolves⟩
      · exact absurd resolves Bool.false_ne_true
    · rintro ⟨⟨other, rooted⟩, isAllowed⟩
      have isOther : other = root := Option.some.inj (rooted.found.symm.trans isRoot)
      subst isOther
      refine ⟨⟨rooted.enabled, rooted.trusted⟩, ?_⟩
      rw [rooted.matched]
      cases session.layout <;> exact isAllowed

/-- A session whose payload was moved aside is found where it was. -/
theorem Rooted.moved {root : EvidenceRootConfig} {files : Files Content}
    (rooted : Rooted session root (sessionExists session.layout files))
    (target : files.target = some payload)
    (matched : session.layout = .unified → root.session.pathMatches = true) :
    Rooted session root false := by
  refine { rooted with matched := ?_ }
  have isMatched := rooted.matched
  cases isLayout : session.layout with
  | legacy =>
    have isThere : sessionExists session.layout files = true := by
      simp [sessionExists, target, isLayout]
    rw [isThere, isLayout] at isMatched
    exact matchedRootPath_above isMatched
  | unified => exact matchedRootPath_same (matched isLayout) false

/-- Without the target there is no run metadata to look at. -/
theorem deletionTargetAllowed_moved {files other : Files Content}
    (isAllowed : deletionTargetAllowed session files = true) (target : other.target = none) :
    deletionTargetAllowed session other = true ∧ indexedTargetKnown session = true := by
  unfold deletionTargetAllowed at isAllowed ⊢
  unfold indexedTargetKnown
  cases isLayout : session.layout with
  | legacy =>
    rw [isLayout] at isAllowed
    exact ⟨isAllowed, rfl⟩
  | unified =>
    rw [isLayout] at isAllowed
    obtain ⟨idMatches, _⟩ := Bool.and_eq_true_iff.mp isAllowed
    simp [idMatches, target]

/-- What is known of the session while its payload is at its place stays so while it is in
staging. -/
theorem configured_of_atPlace {files : Files Content} (target : files.target = some payload)
    (healthy : sessionPathIsHealthy session.layout files = true)
    (resolves : resolveDeletionTarget session files = true)
    (matched : session.layout = .unified → ∀ root,
      session.roots.find? (fun root => root.rootId == session.rootId) = some root →
        root.session.pathMatches = true) : Configured session payload := by
  obtain ⟨⟨root, rooted⟩, isAllowed⟩ := resolveDeletionTarget_iff.mp resolves
  have moved := rooted.moved target fun isUnified => matched isUnified root rooted.found
  have notThere {other : Files Content} (isTarget : other.target = none) :
      sessionExists session.layout other = false := by
    unfold sessionExists
    rw [isTarget]
  refine ⟨?_, ?_, fun other isTarget => ?_, fun other whole => ?_, fun other isTarget => ?_⟩
  · simp only [sessionPathIsHealthy, target, Bool.and_eq_true] at healthy
    exact healthy.1
  · have isMoved : ({ files with target := none } : Files Content).target = none := rfl
    exact (deletionTargetAllowed_moved isAllowed isMoved).2
  · exact (sessionPathIsHealthy_congr (isTarget.trans target.symm)).trans healthy
  · rcases whole with atPlace | inStaging
    · exact (resolveDeletionTarget_congr (atPlace.target.trans target.symm)).trans resolves
    · have isNotThere := notThere inStaging.target
      exact resolveDeletionTarget_iff.mpr ⟨⟨root, isNotThere ▸ moved⟩,
        (deletionTargetAllowed_moved isAllowed inStaging.target).1⟩
  · unfold postcommitPathsValid
    refine List.any_eq_true.mpr ⟨root, List.mem_of_find?_eq_some rooted.found, ?_⟩
    have isMatched := moved.matched
    have isNotThere := notThere isTarget
    cases isLayout : session.layout with
    | legacy =>
      rw [isLayout] at isMatched
      simp [rooted.enabled, rooted.trusted, isTarget, isMatched]
    | unified =>
      rw [isLayout] at isMatched isNotThere
      simp [rooted.enabled, rooted.trusted, isNotThere, isMatched]

/-! ### Crashes -/

/-- What is begun while nothing else is running. -/
inductive Attempt where
  | deletion
  | rescan

/-- The connection of a process that has ended is closed. -/
def stopped (disk : Disk Content) : Disk Content :=
  disk.onDatabase fun database => { database with writer := none }

/-- One attempt, cut off where the inputs end. -/
def attempted (session : SessionConfig Content) (disk : Disk Content)
    (attempt : Attempt × List Fault) : Disk Content :=
  match attempt.1 with
  | .deletion => stopped ((deleteEvidenceSessionLocked session).run disk attempt.2).2
  | .rescan => stopped ((rescanAllLocked session).run disk attempt.2).2

def interrupted (session : SessionConfig Content) (disk : Disk Content)
    (attempts : List (Attempt × List Fault)) : Disk Content :=
  Runs.run (attempted session) disk attempts

section Histories

variable (configured : Configured session payload) {disk : Disk Content}

include configured

theorem consistent_attempted (consistent : Consistent session payload disk)
    (attempt : Attempt × List Fault) :
    Consistent session payload (attempted session disk attempt) := by
  obtain ⟨attempt, inputs⟩ := attempt
  have anyInput : ∀ input ∈ inputs, (fun _ : Fault => True) input := fun _ _ => trivial
  have closed {disk : Disk Content} (consistent : Consistent session payload disk) :
      Consistent session payload (stopped disk) :=
    consistent.imp (fun indexed => ⟨indexed.row, indexed.whole⟩)
      fun gone => ⟨gone.row, gone.removed⟩
  cases attempt with
  | deletion =>
    refine closed ?_
    rcases consistent with indexed | gone
    · exact ((keeps_deleteEvidenceSessionLocked configured.isDirectory configured.resolves
        indexed).run (Or.inl indexed) anyInput).1
    · exact Or.inr ((keeps_deleteEvidenceSessionLocked_gone gone).run gone anyInput).1
  | rescan =>
    refine closed ?_
    rcases consistent with indexed | gone
    · exact Or.inl ((keeps_rescanAllLocked_indexed configured indexed).run indexed anyInput).1
    · exact Or.inr ((keeps_rescanAllLocked_gone configured gone).run gone anyInput).1

theorem consistent_interrupted (consistent : Consistent session payload disk)
    (attempts : List (Attempt × List Fault)) :
    Consistent session payload (interrupted session disk attempts) :=
  Runs.run_invariant _ consistent fun _ attempt isConsistent =>
    consistent_attempted configured isConsistent attempt

end Histories

theorem writer_interrupted {disk : Disk Content} (idle : disk.database.writer = none)
    (attempts : List (Attempt × List Fault)) :
    (interrupted session disk attempts).database.writer = none := by
  refine Runs.run_invariant (fun disk : Disk Content => disk.database.writer = none) idle ?_
  rintro disk ⟨attempt, inputs⟩ _
  cases attempt <;> rfl

/-! ### Recovery -/

/-- What a rescan without failing operations leads to. -/
def Settled (session : SessionConfig Content) (payload : Payload Content)
    (rescanned : Except Raised RescanReport × Disk Content) : Prop :=
  (session.evidenceId ∈ rescanned.2.database.rows ∧ Restored payload rescanned.2.files) ∨
    (session.evidenceId ∉ rescanned.2.database.rows ∧ rescanned.2.files.target = none ∧
      ∃ report, rescanned.1 = .ok report ∧ Reported rescanned.2.files report.cleanupPending)

theorem settled_of_consistent {disk : Disk Content} (configured : Configured session payload)
    (consistent : Consistent session payload disk) (idle : disk.database.writer = none) :
    Settled session payload ((rescanAllLocked session).finish .none disk) := by
  have quiet : (fun input : Fault => input = .none) .none := rfl
  rcases consistent with indexed | gone
  · obtain ⟨isIndexed, restored⟩ :=
      (keeps_rescanAllLocked_indexed configured indexed).finish quiet
    exact Or.inl ⟨isIndexed.row, restored (by decide)⟩
  · have ended := (keeps_rescanAllLocked_gone configured gone).finish quiet
    obtain ⟨isGone, reported⟩ := ended
    refine Or.inr ⟨isGone.row, isGone.removed.target, ?_⟩
    cases isOutcome : ((rescanAllLocked session).finish .none disk).1 with
    | ok report =>
      rw [isOutcome] at reported
      exact ⟨report, rfl, reported⟩
    | error raised =>
      rw [isOutcome] at reported
      rcases reported with isDatabase | other
      · exact absurd isDatabase (by decide)
      · exact absurd other (by simp [idle])

/-- A healthy session is deleted and rescanned, each time cut off anywhere or with failing
operations. The next rescan, when nothing fails in it, ends with the session indexed, the payload
back and none of the four files left, or with the row and the target gone and a payload left in
staging reported. No rescan takes the row away, wherever it is cut off. A deletion that ends with
the row still there, whatever failed in the index, has put the payload back, unless an operation
on a file failed. -/
theorem interruptedDeletion_settled (session : SessionConfig Content) (payload : Payload Content)
    (disk : Disk Content) (attempts : List (Attempt × List Fault))
    (row : session.evidenceId ∈ disk.database.rows) (idle : disk.database.writer = none)
    (target : disk.files.target = some payload) (staged : disk.files.staged = none)
    (healthy : sessionPathIsHealthy session.layout disk.files = true)
    (resolves : resolveDeletionTarget session disk.files = true)
    (matched : session.layout = .unified → ∀ root,
      session.roots.find? (fun root => root.rootId == session.rootId) = some root →
        root.session.pathMatches = true) :
    Settled session payload
        ((rescanAllLocked session).finish .none (interrupted session disk attempts)) ∧
      (session.evidenceId ∈ (interrupted session disk attempts).database.rows →
        ∀ inputs, session.evidenceId ∈ ((rescanAllLocked session).run
          (interrupted session disk attempts) inputs).2.database.rows) ∧
      (session.evidenceId ∈ (interrupted session disk attempts).database.rows →
        ∀ inputs outcome after, .io ∉ inputs → (deleteEvidenceSessionLocked session).run
            (interrupted session disk attempts) inputs = (.done outcome, after) →
          session.evidenceId ∈ after.database.rows → Restored payload after.files) := by
  have configured := configured_of_atPlace target healthy resolves matched
  have consistent := consistent_interrupted configured
    (Or.inl ⟨row, Or.inl ⟨target, staged⟩⟩) attempts
  have indexed (isRow : session.evidenceId ∈ (interrupted session disk attempts).database.rows) :
      Indexed session payload (interrupted session disk attempts) :=
    consistent.resolve_right fun gone => gone.row isRow
  refine ⟨settled_of_consistent configured consistent (writer_interrupted idle attempts),
    fun isRow inputs => ?_, fun isRow inputs outcome after noIo ended stillRow => ?_⟩
  · have anyInput : ∀ input ∈ inputs, (fun _ : Fault => True) input := fun _ _ => trivial
    exact ((keeps_rescanAllLocked_indexed configured (indexed isRow)).run (indexed isRow)
      anyInput).1.row
  · have noneIo : ∀ input ∈ inputs, (fun input : Fault => input ≠ .io) input :=
      fun input member isIo => noIo (isIo ▸ member)
    have meets := ((keeps_deleteEvidenceSessionLocked configured.isDirectory configured.resolves
      (indexed isRow)).run (Or.inl (indexed isRow)) noneIo).2
    rw [ended] at meets
    cases outcome with
    | ok cleanup => exact absurd stillRow (Gone.row meets)
    | error raised => exact meets.2 fun isAllowed => isAllowed rfl

/-! ### A session below its root -/

def sessionBelowRoot : SessionConfig Unit where
  evidenceId := "E"
  rootId := "runs"
  layout := .legacy
  idMatches := true
  misplaced := false
  runMetaValid _ := true
  roots := [{
    rootId := "runs"
    source := "cli"
    enabled := true
    trusted := true
    session := ⟨false, [.above], false⟩
    run := ⟨false, [], false⟩ }]
  discoveredIds := ["E"]

def indexedDisk (files : List (String × Unit)) : Disk Unit where
  files := {
    target := some ⟨true, files⟩
    staged := none
    document := fun _ => none
    stagingDir := false
    stagingOthers := false
    recoveryDir := false
    recoveryOthers := false }
  database := ⟨["E"], none, []⟩

/-- Cut off between the rename and the commit. -/
def stagedCrash : List (Attempt × List Fault) := [(.deletion, List.replicate 20 .none)]

/-- With a manifest. -/
theorem interruptedDeletion_settled_manifest :
    Settled sessionBelowRoot ⟨true, [("manifest.json", ())]⟩
      ((rescanAllLocked sessionBelowRoot).finish .none
        (interrupted sessionBelowRoot (indexedDisk [("manifest.json", ())]) stagedCrash)) :=
  (interruptedDeletion_settled sessionBelowRoot ⟨true, [("manifest.json", ())]⟩
    (indexedDisk [("manifest.json", ())]) stagedCrash (by decide) rfl rfl rfl (by decide)
    (by decide) fun absurdity => absurd absurdity (by decide)).1

/-- Without a manifest the row is pruned, once the payload is back. -/
theorem interruptedDeletion_pruned :
    "E" ∈ (indexedDisk []).database.rows ∧
      resolveDeletionTarget sessionBelowRoot (indexedDisk []).files = true ∧
      (indexedDisk []).files.target = some ⟨true, []⟩ ∧
      ¬Settled sessionBelowRoot ⟨true, []⟩ ((rescanAllLocked sessionBelowRoot).finish .none
        (interrupted sessionBelowRoot (indexedDisk []) stagedCrash)) := by
  refine ⟨by decide, by decide, rfl, ?_⟩
  rintro (⟨row, _⟩ | ⟨_, target, _⟩)
  · exact absurd row (by decide)
  · cases target

end MassL3.EvidenceLibrary
