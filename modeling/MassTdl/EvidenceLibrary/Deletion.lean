/-
This file translates the deletion of an indexed session, step by step: what the deletion does to
the files it owns, and its transaction on the index. The payload is moved aside before the
transaction and removed after it; four small files say what is being deleted, two beside the
payload and two in the configuration directory, so that a deletion that was cut off can be
recovered or reported. Each operation on a file or on the index is a step that can fail, and what
the code reads between two of them it reads from the state as it is then.

The files are those one deletion addresses, for one session and one evidence id: the paths are
kept apart from each other, the directories that hold them are there as far as something else
is in them, and none of them is a symbolic link.

A rescan is translated as far as one session goes: the sessions are looked for first, then
interrupted deletions are recovered, then what was found is ingested and rows without a healthy
directory are pruned. A deletion that was cut off before its transaction is undone; one that was
cut off after it is reported, with what is left to clean up.
-/

import MassTdl.Resumptions

namespace MassL3.EvidenceLibrary

open Resumptions (Program)

/-! ### The session and its roots -/

inductive Layout where
  /-- The session's directory is the target. -/
  | legacy
  /-- `runs/<run_id>/trace`: the target is the run's directory above the session's. -/
  | unified
  deriving DecidableEq

/-- Where the match of a root lies: at the path itself, or above it. -/
inductive Place where
  | same
  | above
  deriving DecidableEq

/-- How the glob of a root is met by a path. -/
structure Matching where
  /-- `path.match(root_glob)`. -/
  pathMatches : Bool
  /-- The matches that the path lies in, in order, while the path is there. A match at the path
  itself is the path or a file in it. -/
  globbed : List Place
  /-- `path.match(root_glob)` for a directory above. -/
  ancestorMatches : Bool

structure EvidenceRootConfig where
  rootId : String
  source : String
  enabled : Bool
  trusted : Bool
  session : Matching
  /-- For the run's directory above the session's. -/
  run : Matching

/-- What is indexed about the session, and the configuration. -/
structure SessionConfig (Content : Type) where
  evidenceId : String
  rootId : String
  layout : Layout
  /-- `session_id == run_id`, in the unified layout. -/
  idMatches : Bool
  /-- A directory called `trace` with run metadata beside it, outside the unified layout. -/
  misplaced : Bool
  /-- The run metadata is a JSON object with the run's id. -/
  runMetaValid : Content → Bool
  roots : List EvidenceRootConfig
  /-- The evidence ids under which enabled roots find the session's directory. -/
  discoveredIds : List String

/-! ### The files -/

structure Payload (Content : Type) where
  isDirectory : Bool
  /-- By their paths below the target. -/
  files : List (String × Content)

/-- The text of a metadata file: the record of this deletion, or anything else, such as what was
written of it so far. -/
inductive Document where
  | complete
  | incomplete
  deriving DecidableEq

/-- The files that record a deletion. -/
inductive Slot where
  | metadata
  | metadataTmp
  | record
  | recordTmp
  deriving DecidableEq

/-- `_temporary_metadata_path`. -/
def Slot.temporary : Slot → Slot
  | metadata | metadataTmp => metadataTmp
  | record | recordTmp => recordTmp

structure Files (Content : Type) where
  target : Option (Payload Content)
  staged : Option (Payload Content)
  document : Slot → Option Document
  stagingDir : Bool
  /-- Something else is in the staging directory. -/
  stagingOthers : Bool
  recoveryDir : Bool
  recoveryOthers : Bool

inductive Fault where
  | none
  /-- The operation on a file fails. -/
  | io
  /-- The statement or the commit fails. -/
  | database
  deriving DecidableEq

inductive Raised where
  | lookup
  | permission
  | os
  | database
  | runtime
  deriving DecidableEq

variable {Content : Type}

def Files.write (files : Files Content) (slot : Slot) (document : Option Document) :
    Files Content :=
  { files with document := Function.update files.document slot document }

def Files.has (files : Files Content) (slot : Slot) : Bool := (files.document slot).isSome

/-! ### Where the session is looked for -/

/-- A path inside the session's directory, from the target. -/
def Layout.sessionFile : Layout → String → String
  | legacy, name => name
  | unified, name => "trace/" ++ name

/-- `session_path.exists()`. -/
def sessionExists (layout : Layout) (files : Files Content) : Bool :=
  match files.target, layout with
  | none, _ => false
  | some _, .legacy => true
  | some payload, .unified => payload.files.any fun file => file.1.startsWith "trace/"

def sessionPathIsHealthy (layout : Layout) (files : Files Content) : Bool :=
  match files.target with
  | none => false
  | some payload =>
    payload.isDirectory && (payload.files.lookup (layout.sessionFile "manifest.json")).isSome

/-- Where the root that the path belongs to lies. -/
def matchedRootPath (matching : Matching) (pathExists : Bool) : Option Place :=
  if matching.pathMatches then some .same
  else
    match (matching.globbed.filter fun place => pathExists || place == .above).head? with
    | some place => some place
    | none => if !pathExists && matching.ancestorMatches then some .above else none

/-- `_deletion_target` raises nothing. -/
def deletionTargetAllowed (session : SessionConfig Content) (files : Files Content) : Bool :=
  match session.layout with
  | .legacy => !session.misplaced
  | .unified =>
    session.idMatches &&
      match files.target with
      | none => true
      | some payload =>
        match payload.files.lookup "run_meta.json" with
        | some content => session.runMetaValid content
        | none => false

/-- `_resolve_deletion_target` raises nothing. -/
def resolveDeletionTarget (session : SessionConfig Content) (files : Files Content) : Bool :=
  match session.roots.find? fun root => root.rootId == session.rootId with
  | none => false
  | some root =>
    root.enabled && root.trusted &&
      match matchedRootPath root.session (sessionExists session.layout files), session.layout with
      | some .above, .legacy => deletionTargetAllowed session files
      | some .same, .unified => deletionTargetAllowed session files
      | _, _ => false

/-! ### Steps on the files -/

section FileSteps

abbrev FileTask (Content Result : Type) := Program (Files Content) Fault Raised Result

def io (change : Files Content → Files Content) : FileTask Content Unit :=
  Program.attempt (fun input _ => input == .io) .os change

/-- An operation whose failure is passed over. -/
def passOver (task : FileTask Content Unit) : FileTask Content Unit :=
  tryCatch task fun _ => pure ()

/-- `unlink(missing_ok=True)`. -/
def unlink (slot : Slot) : FileTask Content Unit := io fun files => files.write slot none

def ensureStagingDir : FileTask Content Unit := do
  let files ← Program.read
  if files.stagingDir then pure () else io fun files => { files with stagingDir := true }

def ensureRecoveryDir : FileTask Content Unit := do
  let files ← Program.read
  if files.recoveryDir then pure () else io fun files => { files with recoveryDir := true }

/-- `rmdir`, which takes a directory away only when nothing is in it. -/
def removeEmptyStagingDir : FileTask Content Unit :=
  passOver (io fun files =>
    if files.staged.isSome || files.has .metadata || files.has .metadataTmp ||
      files.stagingOthers then files
    else { files with stagingDir := false })

def removeEmptyRecoveryDir : FileTask Content Unit :=
  passOver (io fun files =>
    if files.has .record || files.has .recordTmp || files.recoveryOthers then files
    else { files with recoveryDir := false })

def removeEmptyDirs : FileTask Content Unit := do
  removeEmptyStagingDir
  removeEmptyRecoveryDir

/-- The temporary file is opened, written, closed and renamed. -/
def writeTemporary (slot : Slot) : FileTask Content Unit := do
  io fun files => files.write slot.temporary (some .incomplete)
  io fun files => files.write slot.temporary (some .complete)
  -- `chmod`
  io id
  io fun files => (files.write slot.temporary none).write slot (some .complete)

def writeStageMetadata (slot : Slot) : FileTask Content Unit := do
  let files ← Program.read
  if files.has slot || files.has slot.temporary then throw .os
  else
    tryCatch (writeTemporary slot) fun raised => do
      unlink slot.temporary
      throw raised

def renameToStaging : FileTask Content Unit :=
  Program.attempt (fun input files => input == .io || files.target.isNone) .os
    fun files => { files with target := none, staged := files.target }

/-- After a failed write of the recovery record. -/
def undoMetadata (raised : Raised) : FileTask Content Unit := do
  unlink .metadata
  removeEmptyDirs
  throw raised

/-- After a failed rename. -/
def undoRecords (raised : Raised) : FileTask Content Unit := do
  unlink .metadata
  unlink .record
  unlink .recordTmp
  removeEmptyDirs
  throw raised

def stageDeletionTarget : FileTask Content Unit := do
  ensureStagingDir
  let files ← Program.read
  if files.staged.isSome then throw .os
  else do
    ensureRecoveryDir
    writeStageMetadata .metadata
    tryCatch (writeStageMetadata .record) undoMetadata
    tryCatch renameToStaging undoRecords

def renameToTarget : FileTask Content Unit :=
  Program.attempt (fun input files => input == .io || files.staged.isNone) .os
    fun files => { files with target := files.staged, staged := none }

/-- What `_restore_staged_target` checks before it renames. -/
def restorable (files : Files Content) : Bool :=
  files.document .metadata == some .complete && files.staged.any Payload.isDirectory &&
    files.target.isNone

def restoreStagedTarget : FileTask Content Unit := do
  let files ← Program.read
  if !restorable files then throw .os
  else do
    renameToTarget
    unlink .metadata
    unlink .metadataTmp
    unlink .record
    unlink .recordTmp
    removeEmptyDirs

def stageMetadataSources : List Slot := [.metadata, .metadataTmp, .record, .recordTmp]

def unlinkPresent (slot : Slot) : FileTask Content Unit := do
  let files ← Program.read
  if files.has slot then unlink slot else pure ()

def clearStageMetadataSources : List Slot → FileTask Content Unit
  | [] => pure ()
  | slot :: slots => do
    unlinkPresent slot
    clearStageMetadataSources slots

def hasIndexedRecoveryArtifacts (files : Files Content) : Bool :=
  files.staged.isSome || stageMetadataSources.any files.has

/-- The metadata beside the payload is made valid again, from its temporary file or anew. -/
def renewMetadata : FileTask Content Unit := do
  let files ← Program.read
  if files.document .metadata == some .complete then pure ()
  else if files.document .metadataTmp == some .complete then do
    unlinkPresent .metadata
    io fun files => (files.write .metadataTmp none).write .metadata (some .complete)
  else do
    clearStageMetadataSources [.metadata, .metadataTmp]
    writeStageMetadata .metadata

def recoverIndexedDeletion : FileTask Content Bool := do
  let files ← Program.read
  if !hasIndexedRecoveryArtifacts files then pure false
  else if files.target.isSome && files.staged.isNone then do
    clearStageMetadataSources stageMetadataSources
    removeEmptyDirs
    pure true
  else if files.target.isSome || files.staged.isNone then throw .os
  else if !files.staged.any Payload.isDirectory then throw .os
  else if !stageMetadataSources.any fun slot => files.document slot == some .complete then
    throw .os
  else do
    renewMetadata
    restoreStagedTarget
    pure true

/-- `shutil.rmtree` takes the entries away one by one, and the directory last. -/
def removeEntries : List (String × Content) → FileTask Content Unit
  | [] => io fun files => { files with staged := none }
  | (name, _) :: entries => do
    io fun files => { files with
      staged := files.staged.map fun payload =>
        { payload with files := payload.files.filter fun file => file.1 != name } }
    removeEntries entries

def removeStaged : FileTask Content Unit := do
  let files ← Program.read
  match files.staged with
  | none => throw .os
  | some payload => if payload.isDirectory then removeEntries payload.files else throw .os

def cleanUp : FileTask Content Unit := do
  removeStaged
  unlink .metadata
  unlink .record
  unlink .recordTmp

end FileSteps

/-! ### The index -/

/-- Who writes to the index. -/
inductive Party where
  | deletion
  | ingestion
  deriving DecidableEq

/-- What a transaction does to the rows of a session's directory. -/
inductive Commit where
  | deleted (evidenceId : String)
  | pruned (evidenceIds : List String)
  | indexed (evidenceId : String)
  deriving DecidableEq

/-- `insert or replace`. -/
def indexRow (evidenceId : String) (rows : List String) : List String :=
  if evidenceId ∈ rows then rows else rows ++ [evidenceId]

def Commit.applied (rows : List String) : Commit → List String
  | deleted evidenceId => rows.filter fun row => row != evidenceId
  | pruned evidenceIds => rows.filter fun row => row ∉ evidenceIds
  | indexed evidenceId => indexRow evidenceId rows

structure Database where
  /-- The evidence ids of the rows that point at the session's directory. -/
  rows : List String
  /-- Who has a transaction open that writes. -/
  writer : Option Party
  commits : List Commit

structure Disk (Content : Type) where
  files : Files Content
  database : Database

abbrev Task (Content Result : Type) := Program (Disk Content) Fault Raised Result

def onFiles {Result : Type} (task : FileTask Content Result) : Task Content Result :=
  task.zoom Disk.files fun files disk => { disk with files := files }

def Disk.onDatabase (disk : Disk Content) (change : Database → Database) : Disk Content :=
  { disk with database := change disk.database }

/-- The first statement of a transaction that writes: another writer is waited for, but not
forever. -/
def beginWrite (party : Party) : Task Content Unit :=
  Program.attempt
    (fun input disk => input == .database || disk.database.writer.any fun other => other != party)
    .database fun disk => disk.onDatabase fun database => { database with writer := some party }

def commitRows (commit : Commit) : Task Content Unit :=
  Program.attempt (fun input _ => input == .database) .database fun disk =>
    disk.onDatabase fun database =>
      { rows := commit.applied database.rows
        writer := none
        commits := database.commits ++ [commit] }

/-- `conn.rollback()`, and what closing the connection does to an open transaction. -/
def rollback (party : Party) : Task Content Unit :=
  Program.attempt (fun _ _ => false) .database fun disk => disk.onDatabase fun database =>
    if database.writer = some party then { database with writer := none } else database

/-- `with closing(…) as conn`. -/
def closing {Result : Type} (party : Party) (task : Task Content Result) : Task Content Result :=
  tryCatch task fun raised => do
    rollback party
    throw raised

/-! ### The deletion -/

/-- `filesystem_cleanup` of the report. -/
inductive Cleanup where
  | completed
  | pending
  | notNeeded
  deriving DecidableEq

variable (session : SessionConfig Content)

def deleteRows : Task Content Unit := do
  beginWrite .deletion
  commitRows (.deleted session.evidenceId)

/-- After a failed transaction. -/
def restoreAfter (raised : Raised) : Task Content Unit := do
  rollback .deletion
  tryCatch (onFiles restoreStagedTarget) fun _ => throw .runtime
  throw raised

/-- What the deletion does with its connection open; whether anything was staged. -/
def deleteIndexed : Task Content Bool := do
  let disk ← Program.read
  if session.evidenceId ∉ disk.database.rows then throw .lookup
  else if !resolveDeletionTarget session disk.files then throw .permission
  else do
    let _ ← tryCatch (onFiles recoverIndexedDeletion) fun _ => throw .permission
    let disk ← Program.read
    if disk.files.target.isNone then do
      deleteRows session
      pure false
    else do
      onFiles stageDeletionTarget
      tryCatch (deleteRows session) restoreAfter
      pure true

def finishCleanup : Task Content Cleanup := do
  let removed ← tryCatch (onFiles cleanUp >>= fun _ => pure true) fun _ => pure false
  if removed then do
    onFiles removeEmptyDirs
    pure .completed
  else pure .pending

def deleteEvidenceSessionLocked : Task Content Cleanup := do
  let staged ← closing .deletion (deleteIndexed session)
  if staged then finishCleanup else pure .notNeeded

/-! ### What a rescan reports -/

/-- The paths that a rescan reports. -/
inductive ReportedPath where
  | stagingDir
  | stagedTarget
  | metadata
  | record
  | recordTmp
  deriving DecidableEq

structure RescanReport where
  errors : List ReportedPath
  pruned : Nat
  cleanupPending : Option (List ReportedPath)

/-! ### Recovery -/

/-- `_indexed_deletion_target` raises nothing. -/
def indexedTargetKnown : Bool :=
  match session.layout with
  | .legacy => true
  | .unified => session.idMatches

/-- The recovery of the session's row; whether it is protected from being pruned. -/
def recoverRow : Task Content (List ReportedPath × Bool) := do
  let disk ← Program.read
  let linked := disk.files.document .record == some .complete
  if session.evidenceId ∉ disk.database.rows then pure ([], false)
  else if !linked && !indexedTargetKnown session then pure ([], false)
  else if !resolveDeletionTarget session disk.files then
    if linked || hasIndexedRecoveryArtifacts disk.files then pure ([.stagingDir], true)
    else pure ([], false)
  else
    tryCatch (onFiles recoverIndexedDeletion >>= fun _ => pure ([], false)) fun _ =>
      pure ([.stagingDir], true)

/-- `_validate_postcommit_recovery_paths` raises nothing: some trusted root has the target below
it, or is the trace directory of the run. -/
def postcommitPathsValid (files : Files Content) : Bool :=
  session.roots.any fun root => root.enabled && root.trusted &&
    match session.layout with
    | .legacy => matchedRootPath root.session files.target.isSome == some .above
    | .unified => matchedRootPath root.run files.target.isSome == some .above ||
        matchedRootPath root.session (sessionExists .unified files) == some .same

/-- A deletion whose row is gone. -/
def postcommitCleanup (files : Files Content) :
    Task Content (List ReportedPath × Option (List ReportedPath)) :=
  if files.target.isNone && files.staged.all Payload.isDirectory &&
      (files.staged.isSome || files.has .metadata) then
    pure ([], some ((if files.staged.isSome then [.stagedTarget] else []) ++
      (if files.has .metadata then [.metadata] else []) ++ [.record]))
  else if files.staged.isNone && files.target.all Payload.isDirectory then
    tryCatch
      (onFiles (do
        unlink .record
        unlink .recordTmp
        removeEmptyRecoveryDir) >>= fun _ => pure ([], none))
      fun _ => pure ([.record], none)
  else pure ([.record], none)

def discoverRecord : Task Content (List ReportedPath × Option (List ReportedPath)) := do
  let disk ← Program.read
  match disk.files.document .record with
  | none => pure ([], none)
  | some .incomplete => pure ([.record], none)
  | some .complete =>
    if session.evidenceId ∈ disk.database.rows then pure ([], none)
    else if !postcommitPathsValid session disk.files then pure ([.record], none)
    else postcommitCleanup disk.files

def discoverTemporaryRecord : Task Content (List ReportedPath) := do
  let disk ← Program.read
  if !disk.files.has .recordTmp then pure []
  else if disk.files.has .record then
    tryCatch (onFiles (unlink .recordTmp) >>= fun _ => pure []) fun _ => pure [.recordTmp]
  else pure [.recordTmp]

/-! ### Ingest and pruning -/

/-- The ingest of the session for each root that found it. An ingest that fails is reported and
passed over. -/
def ingestDiscovered : List String → Task Content Unit
  | [] => pure ()
  | evidenceId :: evidenceIds => do
    tryCatch (do
      beginWrite .ingestion
      commitRows (.indexed evidenceId)) fun _ => rollback .ingestion
    ingestDiscovered evidenceIds

def pruneMissingSessions (isProtected : Bool) : Task Content Nat := do
  let disk ← Program.read
  let stale := disk.database.rows.filter fun row =>
    !(isProtected && row == session.evidenceId) &&
      !sessionPathIsHealthy session.layout disk.files
  if stale.isEmpty then pure 0
  else do
    beginWrite .ingestion
    commitRows (.pruned stale)
    pure stale.length

/-! ### The rescan -/

def rescanConnected (discovered : List String) : Task Content RescanReport := do
  let (errors, isProtected) ← recoverRow session
  let (cleanupErrors, cleanupPending) ← discoverRecord session
  let temporaryErrors ← discoverTemporaryRecord
  ingestDiscovered discovered
  let pruned ← pruneMissingSessions session isProtected
  pure {
    errors := errors ++ cleanupErrors ++ temporaryErrors
    pruned := pruned
    cleanupPending := cleanupPending }

def rescanAllLocked : Task Content RescanReport := do
  let disk ← Program.read
  closing .ingestion (rescanConnected session
    (if sessionPathIsHealthy session.layout disk.files then session.discoveredIds else []))

end MassL3.EvidenceLibrary
