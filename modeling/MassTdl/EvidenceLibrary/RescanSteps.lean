/-
This file says what a rescan does to a session whose deletion was cut off. While the row of the
session is there the payload is put back, or the row is protected, so that it is not pruned; once
the row is gone nothing brings it back, and a payload left in staging is reported.
-/

import MassTdl.EvidenceLibrary.DeletionSteps

namespace MassL3.EvidenceLibrary

open Resumptions (Program)
open Resumptions.Program

variable {Content : Type}

section Recovery

variable (session : SessionConfig Content) (payload : Payload Content)

/-- The session is healthy at its place, and its root is still there for it. -/
structure Configured : Prop where
  isDirectory : payload.isDirectory = true
  known : indexedTargetKnown session = true
  healthy : ∀ files : Files Content, files.target = some payload →
    sessionPathIsHealthy session.layout files = true
  resolves : ∀ files, Whole payload files → resolveDeletionTarget session files = true
  postcommit : ∀ files : Files Content, files.target = none →
    postcommitPathsValid session files = true

/-- What the recovery of an indexed row leads to. -/
structure Recovered (allowed : Fault → Prop) (isProtected : Bool) (files : Files Content) :
    Prop where
  whole : Whole payload files
  unprotected : isProtected = false → AtPlace payload files
  restored : ¬allowed .io → Restored payload files

end Recovery

variable {session : SessionConfig Content} {payload : Payload Content} {allowed : Fault → Prop}
  {disk : Disk Content} {isProtected : Bool}

/-! ### An indexed session -/

theorem keeps_recoverRow_indexed
    {post : Except Raised (List ReportedPath × Bool) → Disk Content → Prop}
    (configured : Configured session payload) (indexed : Indexed session payload disk)
    (recovered : ∀ errors isProtected files, Recovered payload allowed isProtected files →
      post (.ok (errors, isProtected)) { disk with files := files }) :
    (recoverRow session).Keeps allowed (Indexed session payload) post disk := by
  refine keeps_read indexed ?_
  simp only [indexed.row, not_true_eq_false, if_false, configured.known, Bool.not_true,
    Bool.and_false, Bool.false_eq_true, configured.resolves _ indexed.whole]
  refine meets_tryCatch (meets_bind (keeps_onFiles (keeps_recoverIndexedDeletion
    configured.isDirectory indexed.whole (fun acted files atPlace clean => ?_)
    fun fails raised files whole => ?_) fun files whole => ⟨indexed.row, whole⟩))
  · exact meets_pure (recovered _ _ _
      ⟨Or.inl atPlace, fun _ => atPlace, fun _ => ⟨atPlace, clean⟩⟩)
  · exact meets_pure (recovered _ _ _
      ⟨whole, fun absent => absurd absent (by decide), fun never => absurd fails never⟩)

/-- The record of an indexed session is none of this function's business. -/
theorem keeps_discoverRecord_indexed {Invariant : Disk Content → Prop}
    {post : Except Raised (List ReportedPath × Option (List ReportedPath)) →
      Disk Content → Prop}
    (row : session.evidenceId ∈ disk.database.rows) (kept : Invariant disk)
    (ended : ∀ reported, post (.ok reported) disk) :
    (discoverRecord session).Keeps allowed Invariant post disk := by
  refine keeps_read kept ?_
  split
  · exact meets_pure (ended _)
  · exact meets_pure (ended _)
  · rw [if_pos row]
    exact meets_pure (ended _)

/-- The temporary record is taken away only when there is a record. -/
theorem keeps_discoverTemporaryRecord {Invariant : Disk Content → Prop}
    {post : Except Raised (List ReportedPath) → Disk Content → Prop}
    (FilesInvariant : Files Content → Prop) (holds : FilesInvariant disk.files)
    (unlinked : disk.files.has .record = true →
      FilesInvariant (disk.files.write .recordTmp none))
    (ended : ∀ files, FilesInvariant files → Invariant { disk with files := files } ∧
      ∀ reported, post (.ok reported) { disk with files := files }) :
    discoverTemporaryRecord.Keeps allowed Invariant post disk := by
  refine keeps_read (ended _ holds).1 ?_
  split
  · exact meets_pure ((ended _ holds).2 _)
  split
  · rename_i record
    have without := unlinked record
    refine meets_tryCatch (meets_bind (keeps_onFiles (keeps_io
      (fun _ => ⟨holds, meets_pure ((ended _ holds).2 _)⟩)
      ⟨without, meets_pure ((ended _ without).2 _)⟩) fun files isHeld => (ended files isHeld).1))
  · exact meets_pure ((ended _ holds).2 _)

theorem Recovered.write_recordTmp {files : Files Content}
    (recovered : Recovered payload allowed isProtected files) (record : files.has .record = true) :
    Recovered payload allowed isProtected (files.write .recordTmp none) where
  whole := by
    rcases recovered.whole with atPlace | inStaging
    · exact Or.inl (atPlace.write .recordTmp none)
    · have complete : files.document .record = some .complete := by
        obtain ⟨document, isDocument⟩ := Option.isSome_iff_exists.mp record
        cases document with
        | complete => exact isDocument
        | incomplete => exact absurd isDocument inStaging.record
      exact Or.inr (inStaging.rewritten ((Rewritten.refl [.recordTmp]).write _ (by simp) none)
        (by decide) (by decide) complete)
  unprotected absent := (recovered.unprotected absent).write .recordTmp none
  restored never := by
    obtain ⟨atPlace, clean⟩ := recovered.restored never
    refine ⟨atPlace.write .recordTmp none, fun slot => ?_⟩
    rw [write_document, clean slot, ite_self]

/-- The ingest touches no files and takes no row away. -/
theorem keeps_ingestDiscovered {evidenceIds : List String} {Invariant : Disk Content → Prop}
    {post : Except Raised Unit → Disk Content → Prop}
    (row : session.evidenceId ∈ disk.database.rows)
    (ended : ∀ database : Database, session.evidenceId ∈ database.rows →
      Invariant { disk with database := database } ∧
        post (.ok ()) { disk with database := database }) :
    (ingestDiscovered evidenceIds).Keeps allowed Invariant post disk := by
  induction evidenceIds generalizing disk with
  | nil => exact meets_pure (ended _ row).2
  | cons evidenceId evidenceIds inductionHypothesis =>
    have rest (database : Database) (sameRow : session.evidenceId ∈ database.rows) :
        Invariant { disk with database := database } ∧
          (ingestDiscovered evidenceIds).Keeps allowed Invariant post
            { disk with database := database } :=
      ⟨(ended _ sameRow).1, inductionHypothesis sameRow ended⟩
    have rolledBack (database : Database) (sameRow : session.evidenceId ∈ database.rows) :
        (rollback .ingestion).Keeps allowed Invariant (fun outcome after =>
          match outcome with
          | .ok _ => (ingestDiscovered evidenceIds).Keeps allowed Invariant post after
          | .error raised => post (.error raised) after) { disk with database := database } :=
      keeps_rollback fun again sameRows => rest again (sameRows ▸ sameRow)
    refine meets_bind (meets_tryCatch (meets_bind (keeps_beginWrite
      (fun _ => ⟨(ended _ row).1, rolledBack _ row⟩) fun begun sameRows => ?_)))
    have begunRow : session.evidenceId ∈ begun.rows := sameRows ▸ row
    refine ⟨(ended _ begunRow).1, keeps_commitRows
      (fun _ => ⟨(ended _ begunRow).1, rolledBack _ begunRow⟩) fun committed isIndexed => ?_⟩
    refine rest committed ?_
    rw [isIndexed, Commit.applied, indexRow]
    split
    · exact begunRow
    · exact List.mem_append_left _ begunRow

/-- A row is not pruned while it is protected, or while its directory is healthy. -/
theorem keeps_pruneMissingSessions_indexed {Invariant : Disk Content → Prop}
    {post : Except Raised Nat → Disk Content → Prop}
    (row : session.evidenceId ∈ disk.database.rows)
    (safe : isProtected = false → sessionPathIsHealthy session.layout disk.files = true)
    (ended : ∀ database : Database, session.evidenceId ∈ database.rows →
      Invariant { disk with database := database } ∧
        ∀ outcome, post outcome { disk with database := database }) :
    (pruneMissingSessions session isProtected).Keeps allowed Invariant post disk := by
  refine keeps_read (ended _ row).1 ?_
  have notStale : session.evidenceId ∉ disk.database.rows.filter fun row =>
      !(isProtected && row == session.evidenceId) &&
        !sessionPathIsHealthy session.layout disk.files := by
    cases isProtected with
    | true => simp
    | false => simp [safe rfl]
  generalize disk.database.rows.filter _ = stale at notStale ⊢
  dsimp only
  split
  · exact meets_pure ((ended _ row).2 _)
  refine meets_bind (keeps_beginWrite (fun _ => ⟨(ended _ row).1, (ended _ row).2 _⟩)
    fun begun sameRows => ?_)
  have begunRow : session.evidenceId ∈ begun.rows := sameRows ▸ row
  refine ⟨(ended _ begunRow).1, meets_bind (keeps_commitRows
    (fun _ => ⟨(ended _ begunRow).1, (ended _ begunRow).2 _⟩) fun committed isPruned => ?_)⟩
  have prunedRow : session.evidenceId ∈ committed.rows := by
    rw [isPruned]
    exact List.mem_filter.mpr ⟨begunRow, decide_eq_true notStale⟩
  exact ⟨(ended _ prunedRow).1, meets_pure ((ended _ prunedRow).2 _)⟩

/-- A rescan of an indexed session leaves it indexed and its payload whole, and puts the payload
back unless an operation on a file fails. -/
theorem keeps_rescanAllLocked_indexed (configured : Configured session payload)
    (indexed : Indexed session payload disk) :
    (rescanAllLocked session).Keeps allowed (Indexed session payload)
      (fun _ after => Indexed session payload after ∧
        (¬allowed .io → Restored payload after.files)) disk := by
  refine keeps_read indexed (keeps_closing ?_)
  refine meets_bind (keeps_recoverRow_indexed configured indexed
    fun errors isProtected files recovered => ?_)
  have isIndexed {database : Database} (row : session.evidenceId ∈ database.rows) :
      Indexed session payload ⟨files, database⟩ := ⟨row, recovered.whole⟩
  refine meets_bind (keeps_discoverRecord_indexed indexed.row (isIndexed indexed.row)
    fun reported => ?_)
  refine meets_bind (keeps_discoverTemporaryRecord (Recovered payload allowed isProtected)
    recovered recovered.write_recordTmp fun files recovered => ?_)
  have isIndexed {database : Database} (row : session.evidenceId ∈ database.rows) :
      Indexed session payload ⟨files, database⟩ := ⟨row, recovered.whole⟩
  refine ⟨isIndexed indexed.row, fun temporary => ?_⟩
  refine meets_bind (keeps_ingestDiscovered indexed.row fun database row => ?_)
  refine ⟨isIndexed row, meets_bind (keeps_pruneMissingSessions_indexed row (fun absent =>
    configured.healthy files (recovered.unprotected absent).target) fun database row => ?_)⟩
  refine ⟨isIndexed row, fun outcome => ?_⟩
  cases outcome with
  | ok pruned => exact meets_pure ⟨isIndexed row, recovered.restored⟩
  | error raised =>
    intro database sameRows
    have stillRow : session.evidenceId ∈ database.rows := sameRows ▸ row
    exact ⟨isIndexed stillRow, isIndexed stillRow, recovered.restored⟩

/-! ### A session whose row is gone -/

theorem keeps_recoverRow_gone
    {post : Except Raised (List ReportedPath × Bool) → Disk Content → Prop}
    (gone : Gone session disk) (ended : post (.ok ([], false)) disk) :
    (recoverRow session).Keeps allowed (Gone session) post disk := by
  refine keeps_read gone ?_
  rw [if_pos gone.row]
  exact meets_pure ended

/-- A payload that is left in staging is reported. -/
def Reported (files : Files Content) (cleanupPending : Option (List ReportedPath)) : Prop :=
  files.staged.isSome = true → ∃ paths, cleanupPending = some paths ∧ .stagedTarget ∈ paths

/-- The record is taken away when nothing is left in staging. -/
theorem keeps_retireRecord {files : Files Content}
    {post : Except Raised Unit → Files Content → Prop} (target : files.target = none)
    (staged : files.staged = none)
    (ended : ∀ outcome after, after.target = none → after.staged = none → post outcome after) :
    (do
      unlink .record
      unlink .recordTmp
      removeEmptyRecoveryDir : FileTask Content Unit).Keeps allowed Removed post files := by
  have empty (after : Files Content) (isTarget : after.target = none)
      (isStaged : after.staged = none) : Removed after ∧ ∀ outcome, post outcome after :=
    ⟨⟨isTarget, by simp [isStaged]⟩, fun outcome => ended outcome after isTarget isStaged⟩
  have start := empty files target staged
  have first := empty (files.write .record none) target staged
  have second := empty ((files.write .record none).write .recordTmp none) target staged
  have third := empty { (files.write .record none).write .recordTmp none with
    recoveryDir := false } target staged
  refine meets_bind (keeps_io (fun _ => ⟨start.1, start.2 _⟩) ⟨first.1, ?_⟩)
  refine meets_bind (keeps_io (fun _ => ⟨first.1, first.2 _⟩) ⟨second.1, ?_⟩)
  refine keeps_passOver ⟨second.1, second.2 _⟩ ?_
  split
  · exact ⟨second.1, second.2 _⟩
  · exact ⟨third.1, third.2 _⟩

theorem keeps_discoverRecord_gone
    {post : Except Raised (List ReportedPath × Option (List ReportedPath)) →
      Disk Content → Prop}
    (postcommit : postcommitPathsValid session disk.files = true) (gone : Gone session disk)
    (ended : ∀ errors cleanupPending files, Removed files → Reported files cleanupPending →
      post (.ok (errors, cleanupPending)) { disk with files := files }) :
    (discoverRecord session).Keeps allowed (Gone session) post disk := by
  have isGone {files : Files Content} (removed : Removed files) :
      Gone session { disk with files := files } := ⟨gone.row, removed⟩
  -- a payload in staging is on record
  have absent (unrecorded : disk.files.document .record ≠ some .complete)
      (cleanupPending : Option (List ReportedPath)) : Reported disk.files cleanupPending := by
    intro isStaged
    obtain ⟨left, isLeft⟩ := Option.isSome_iff_exists.mp isStaged
    exact absurd (gone.removed.staged left isLeft).2 unrecorded
  refine keeps_read gone ?_
  split
  · rename_i none
    exact meets_pure (ended _ _ _ gone.removed (absent (by simp [none]) _))
  · rename_i incomplete
    exact meets_pure (ended _ _ _ gone.removed (absent (by simp [incomplete]) _))
  rw [if_neg gone.row, if_neg (by simp [postcommit])]
  unfold postcommitCleanup
  split
  · refine meets_pure (ended _ _ _ gone.removed fun isStaged => ?_)
    exact ⟨_, rfl, by simp [isStaged]⟩
  · rename_i notPending
    have isEmpty : disk.files.staged = none := by
      cases isStaged : disk.files.staged with
      | none => rfl
      | some left =>
        have isDirectory := (gone.removed.staged left isStaged).1
        simp [gone.removed.target, isStaged, isDirectory] at notPending
    rw [if_pos (by simp [isEmpty, gone.removed.target])]
    have finished (files : Files Content) (isTarget : files.target = none)
        (isStaged : files.staged = none) (errors : List ReportedPath) :
        post (.ok (errors, none)) { disk with files := files } :=
      ended _ _ _ ⟨isTarget, by simp [isStaged]⟩ fun isSome => by simp [isStaged] at isSome
    refine meets_tryCatch (meets_bind (keeps_onFiles (keeps_retireRecord gone.removed.target
      isEmpty fun outcome files isTarget isStaged => ?_) fun files removed => isGone removed))
    cases outcome with
    | ok _ => exact meets_pure (finished files isTarget isStaged _)
    | error _ => exact meets_pure (finished files isTarget isStaged _)

/-- Pruning brings no row back. It raises only when the index fails. -/
theorem keeps_pruneMissingSessions_gone {post : Except Raised Nat → Disk Content → Prop}
    (gone : Gone session disk)
    (failing : allowed .database ∨
      (disk.database.writer.any fun other => other != .ingestion) = true →
        ∀ database : Database, session.evidenceId ∉ database.rows →
          post (.error .database) { disk with database := database })
    (ended : ∀ pruned, ∀ database : Database, session.evidenceId ∉ database.rows →
      post (.ok pruned) { disk with database := database }) :
    (pruneMissingSessions session isProtected).Keeps allowed (Gone session) post disk := by
  have isGone {database : Database} (row : session.evidenceId ∉ database.rows) :
      Gone session { disk with database := database } := ⟨row, gone.removed⟩
  refine keeps_read gone ?_
  dsimp only
  split
  · exact meets_pure (ended _ _ gone.row)
  refine meets_bind (keeps_beginWrite (fun fails => ⟨gone, failing fails _ gone.row⟩)
    fun begun sameRows => ?_)
  have begunRow : session.evidenceId ∉ begun.rows := sameRows ▸ gone.row
  refine ⟨isGone begunRow, meets_bind (keeps_commitRows
    (fun fails => ⟨isGone begunRow, failing (Or.inl fails) _ begunRow⟩)
    fun committed isPruned => ?_)⟩
  have prunedRow : session.evidenceId ∉ committed.rows := by
    rw [isPruned]
    exact fun member => begunRow (List.mem_filter.mp member).1
  exact ⟨isGone prunedRow, meets_pure (ended _ _ prunedRow)⟩

/-- A rescan after the transaction finds nothing to ingest, and reports what is left. -/
theorem keeps_rescanAllLocked_gone (configured : Configured session payload)
    (gone : Gone session disk) :
    (rescanAllLocked session).Keeps allowed (Gone session)
      (fun outcome after => Gone session after ∧
        match outcome with
        | .ok report => Reported after.files report.cleanupPending
        | .error _ => allowed .database ∨
            (disk.database.writer.any fun other => other != .ingestion) = true) disk := by
  refine keeps_read gone (keeps_closing ?_)
  have notHealthy : sessionPathIsHealthy session.layout disk.files = false := by
    unfold sessionPathIsHealthy
    rw [gone.removed.target]
  rw [if_neg (by simp [notHealthy])]
  refine meets_bind (keeps_recoverRow_gone gone ?_)
  refine meets_bind (keeps_discoverRecord_gone (configured.postcommit _ gone.removed.target) gone
    fun errors cleanupPending files removed reported => ?_)
  have isGone {files : Files Content} {database : Database} (removed : Removed files)
      (row : session.evidenceId ∉ database.rows) : Gone session ⟨files, database⟩ := ⟨row, removed⟩
  refine meets_bind (keeps_discoverTemporaryRecord
    (fun files => Removed files ∧ Reported files cleanupPending) ⟨removed, reported⟩ ?_
    fun files held => ⟨isGone held.1 gone.row, fun temporary => ?_⟩)
  · refine fun _ => ⟨⟨removed.target, fun left isLeft => ?_⟩, reported⟩
    simpa [write_document] using removed.staged left isLeft
  obtain ⟨removed, reported⟩ := held
  refine meets_bind (meets_pure (meets_bind (keeps_pruneMissingSessions_gone
    (isGone removed gone.row) (fun fails database row => ?_) fun pruned database row => ?_)))
  · exact fun database sameRows => ⟨isGone removed (sameRows ▸ row),
      isGone removed (sameRows ▸ row), fails⟩
  · exact meets_pure ⟨isGone removed row, reported⟩

end MassL3.EvidenceLibrary
