/-
This file translates the ingest that the frontend asks for, access by access. It computes the
same rows as every ingest, but it runs beside a deletion of the session: each file is looked for
and opened in a step of its own, the file may be gone by the time it is opened, and the
transaction is committed whatever has become of the directory since.
-/

import MassTdl.EvidenceLibrary.Deletion
import MassTdl.EvidenceLibrary.Ingest

namespace MassL3.EvidenceLibrary

open Resumptions (Program)
open Resumptions.Program

section FrontendIngest

variable {F Time Content : Type} (python : Python F Time) (json : JsonText F)
  (contents : Contents F Content) (session : SessionConfig (StoredFile Time Content))
  (place : SessionPlace)

/-- Exceptions other than those of files and of the index are of no kind the caller knows. -/
def PyError.raised : PyError → Raised
  | osError => .os
  | databaseError => .database
  | _ => .runtime

def lifted {Part Result : Type} : Except PyError Result → Task Part Result
  | .ok result => pure result
  | .error raised => throw raised.raised

/-! ### The root -/

/-- The roots in their order, each looked for as the directory is by then. -/
def rootForSessionDir : List EvidenceRootConfig → Task (StoredFile Time Content) EvidenceRoot
  | [] => pure ⟨"frontend", "frontend"⟩
  | root :: roots => do
    let disk ← Program.read
    if root.session.globbed.any fun place =>
        place == .above || sessionExists session.layout disk.files then
      pure ⟨root.rootId, root.source⟩
    else rootForSessionDir roots

/-! ### Accesses -/

/-- The files that an ingest of the session finds by their names below the target. -/
def entryAt (name : String) (disk : Disk (StoredFile Time Content)) :
    Option (StoredFile Time Content) :=
  disk.files.target.bind fun payload => payload.files.lookup name

def fileAt (name : String) (disk : Disk (StoredFile Time Content)) :
    Option (StoredFile Time Content) :=
  entryAt (session.layout.sessionFile name) disk

/-- `path.exists()`. -/
def isThere (look : Disk (StoredFile Time Content) → Option (StoredFile Time Content)) :
    Task (StoredFile Time Content) Bool := do
  let disk ← Program.read
  pure (look disk).isSome

/-- Open a file, or ask for its times. -/
def opened (look : Disk (StoredFile Time Content) → Option (StoredFile Time Content)) :
    Task (StoredFile Time Content) (StoredFile Time Content) := do
  let disk ← Program.read
  match look disk with
  | some file => pure file
  | none => throw .os

def openedIfThere (look : Disk (StoredFile Time Content) → Option (StoredFile Time Content)) :
    Task (StoredFile Time Content) (Option (StoredFile Time Content)) := do
  let present ← isThere look
  if present then do
    let file ← opened look
    pure (some file)
  else pure none

/-! ### The header -/

/-- The metadata of the run, in the session's directory or beside it. -/
def runMetaAt (disk : Disk (StoredFile Time Content)) : Place → Option (StoredFile Time Content)
  | .same => fileAt session "run_meta.json" disk
  | .above => entryAt "run_meta.json" disk

/-- `_run_meta_path`. -/
def runMetaPath : Task (StoredFile Time Content) (Option Place) := do
  let inSession ← isThere fun disk => runMetaAt session disk .same
  if inSession then pure (some .same)
  else
    match session.layout with
    | .legacy => pure none
    | .unified => do
      let beside ← isThere fun disk => runMetaAt session disk .above
      pure (if beside then some .above else none)

def openedRunMeta :
    Option Place → Task (StoredFile Time Content) (Option (StoredFile Time Content))
  | none => pure none
  | some located => do
    let file ← opened fun disk => runMetaAt session disk located
    pure (some file)

/-- What has been read of the directory for its header. -/
def headerDirectory (manifest : StoredFile Time Content) :
    Option Place → Option (StoredFile Time Content) → SessionDirectory Time Content
  | some .same, some runMeta => ⟨[("manifest.json", manifest), ("run_meta.json", runMeta)], none⟩
  | _, runMeta => ⟨[("manifest.json", manifest)], runMeta⟩

/-- The times of the files that a listing of the directory found, as far as they are there. -/
def mtimes : List String → Task (StoredFile Time Content) (List Time)
  | [] => pure []
  | name :: names => do
    let present ← isThere (entryAt name)
    if present then do
      let file ← opened (entryAt name)
      let later ← mtimes names
      pure (file.mtime :: later)
    else mtimes names

def Layout.inSession : Layout → String → Bool
  | legacy, _ => true
  | unified, name => name.startsWith "trace/"

def readHeaderFiles (root : EvidenceRoot) :
    Task (StoredFile Time Content) (Header F Time Content × Option Place) := do
  let manifest ← opened (fileAt session "manifest.json")
  let located ← runMetaPath session
  -- `_read_run_meta` looks for the file again
  let runMetaLocated ← runMetaPath session
  let runMeta ← openedRunMeta session runMetaLocated
  let header ← lifted (readHeader python contents root place
    (headerDirectory manifest runMetaLocated runMeta))
  pure (header, located)

def readBatchFile : Task (StoredFile Time Content) (Json F) := do
  let summary ← openedIfThere (fileAt session "summary.json")
  match summary with
  | some file => lifted (contents.readJson file.content)
  | none => do
    let batch ← openedIfThere (fileAt session "batch_summary.json")
    lifted (readJsonOr contents (.dict []) batch)

/-! ### The scenarios -/

/-- `_insert_artifact` takes the digest of a file and then asks for its time. -/
def insertArtifact (name : String) :
    Task (StoredFile Time Content) (Option (StoredFile Time Content)) := do
  let file ← openedIfThere (fileAt session name)
  match file with
  | none => pure none
  | some file => do
    let _ ← opened (fileAt session name)
    pure (some file)

/-- The trace is only there compressed. -/
def onlyCompressed (trace : String) : Task (StoredFile Time Content) Bool := do
  let plain ← isThere (fileAt session trace)
  if plain then pure false else isThere (fileAt session (gzipped trace))

def readScenarioFiles (paths : ScenarioPaths) :
    Task (StoredFile Time Content) (ScenarioFiles Time Content) := do
  let compressed ← onlyCompressed session paths.trace
  let tracePath := if compressed then gzipped paths.trace else paths.trace
  let report ← openedIfThere (fileAt session paths.report)
  let consistency ← openedIfThere (fileAt session paths.artifactConsistency)
  let _ ← insertArtifact session paths.report
  let _ ← insertArtifact session tracePath
  let _ ← insertArtifact session paths.artifactConsistency
  let m5Timeline ← insertArtifact session paths.m5Timeline
  let trajectoryPng ← insertArtifact session paths.trajectoryPng
  let dashboardPng ← insertArtifact session paths.dashboardPng
  let trace ← openedIfThere (fileAt session tracePath)
  pure {
    report := report
    trace := if compressed then none else trace
    traceGz := if compressed then trace else none
    artifactConsistency := consistency
    m5Timeline := m5Timeline
    trajectoryPng := trajectoryPng
    dashboardPng := dashboardPng }

variable [LinearOrder Time]

/-- The rows of the scenarios, from the files as they were found. -/
def readScenarioRows (header : Header F Time Content) (batch : Json F) :
    List (Json F) →
      Task (StoredFile Time Content) (List (ScenarioRows F Time json.Text))
  | [] => pure []
  | entry :: entries => do
    let scenarioId ← lifted (scenarioIdOf python entry)
    let scenario ← lifted (asDict entry)
    let paths ← lifted (scenarioPaths python contents scenarioId scenario)
    let files ← readScenarioFiles session paths
    let rows ← lifted (scenarioRows python json contents header.evidenceId header.sessionId
      scenarioId header.runMeta batch scenario paths files)
    let later ← readScenarioRows header batch entries
    pure (rows :: later)

/-! ### The session -/

/-- `_latest_mtime`. -/
def readLatestMtime (located : Option Place) : Task (StoredFile Time Content) Time := do
  let disk ← Program.read
  let names := (disk.files.target.elim [] fun payload => payload.files.map Prod.fst).filter
    session.layout.inSession
  let inSession ← mtimes names
  let runMeta ← openedRunMeta session located
  let manifest ← opened (fileAt session "manifest.json")
  pure ((inSession ++ runMeta.toList.map StoredFile.mtime).max?.getD manifest.mtime)

/-- The rows that the transaction writes. -/
def readRows (root : EvidenceRoot) (rawTracePolicy : String) (header : Header F Time Content)
    (mtime : Time) (batch : Json F) : Task (StoredFile Time Content) Unit := do
  let _ ← lifted (sessionRow python root place header rawTracePolicy mtime)
  let _ ← insertArtifact session "manifest.json"
  let _ ← insertArtifact session "summary.json"
  let _ ← insertArtifact session "batch_summary.json"
  let scenarios ← readScenarioRows python json contents session header batch
    (scenarioEntries header.scenarios)
  lifted (distinctScenarios json scenarios)

/-- Up to the transaction: nothing has been written. -/
def readSession (root : EvidenceRoot) :
    Task (StoredFile Time Content) (Header F Time Content × Time × Json F) := do
  let (header, located) ← readHeaderFiles python contents session place root
  let mtime ← readLatestMtime session located
  let batch ← readBatchFile contents session
  pure (header, mtime, batch)

/-- The evidence id of the session. The ingest is forced, so it is never skipped. -/
def ingestFrontendSession (rawTracePolicy : String) :
    Task (StoredFile Time Content) String := do
  let root ← rootForSessionDir session session.roots
  let (header, mtime, batch) ← readSession python contents session place root
  closing .ingestion do
    beginWrite .ingestion
    readRows python json contents session place root rawTracePolicy header mtime batch
    commitRows (.indexed header.evidenceId)
    pure header.evidenceId

end FrontendIngest

/-! ### What only looks -/

section Looks

variable {F Time Content : Type} {python : Python F Time} {json : JsonText F}
  {contents : Contents F Content} {session : SessionConfig (StoredFile Time Content)}
  {place : SessionPlace} {root : EvidenceRoot}
  {look : Disk (StoredFile Time Content) → Option (StoredFile Time Content)}

theorem looks_lifted {Part Result : Type} (result : Except PyError Result) :
    (lifted result : Task Part Result).Looks := by
  cases result with
  | ok value => exact steps_pure
  | error raised => exact steps_throw

theorem looks_rootForSessionDir (roots : List EvidenceRootConfig) :
    (rootForSessionDir session roots).Looks := by
  induction roots with
  | nil => exact steps_pure
  | cons root roots inductionHypothesis =>
    refine looks_read fun disk => ?_
    split
    · exact steps_pure
    · exact inductionHypothesis

theorem looks_isThere : (isThere look).Looks := looks_read fun _ => steps_pure

theorem looks_opened : (opened look).Looks := by
  refine looks_read fun disk => ?_
  split
  · exact steps_pure
  · exact steps_throw

theorem looks_openedIfThere : (openedIfThere look).Looks := by
  refine looks_isThere.bind fun present => ?_
  split
  · exact looks_opened.bind fun _ => steps_pure
  · exact steps_pure

theorem looks_runMetaPath : (runMetaPath session).Looks := by
  refine looks_isThere.bind fun inSession => ?_
  split
  · exact steps_pure
  split
  · exact steps_pure
  · exact looks_isThere.bind fun _ => steps_pure

theorem looks_openedRunMeta (located : Option Place) : (openedRunMeta session located).Looks := by
  cases located with
  | none => exact steps_pure
  | some located => exact looks_opened.bind fun _ => steps_pure

theorem looks_mtimes (names : List String) :
    (mtimes names : Task (StoredFile Time Content) (List Time)).Looks := by
  induction names with
  | nil => exact steps_pure
  | cons name names inductionHypothesis =>
    refine looks_isThere.bind fun present => ?_
    split
    · exact looks_opened.bind fun _ => inductionHypothesis.bind fun _ => steps_pure
    · exact inductionHypothesis

theorem looks_readHeaderFiles : (readHeaderFiles python contents session place root).Looks := by
  refine looks_opened.bind fun _ => looks_runMetaPath.bind fun _ => ?_
  refine looks_runMetaPath.bind fun located => (looks_openedRunMeta located).bind fun _ => ?_
  exact (looks_lifted _).bind fun _ => steps_pure

theorem looks_readBatchFile : (readBatchFile contents session).Looks := by
  refine looks_openedIfThere.bind fun summary => ?_
  split
  · exact looks_lifted _
  · exact looks_openedIfThere.bind fun _ => looks_lifted _

theorem looks_insertArtifact (name : String) : (insertArtifact session name).Looks := by
  refine looks_openedIfThere.bind fun file => ?_
  split
  · exact steps_pure
  · exact looks_opened.bind fun _ => steps_pure

theorem looks_onlyCompressed (trace : String) : (onlyCompressed session trace).Looks := by
  refine looks_isThere.bind fun plain => ?_
  split
  · exact steps_pure
  · exact looks_isThere

theorem looks_readScenarioFiles (paths : ScenarioPaths) :
    (readScenarioFiles session paths).Looks := by
  refine (looks_onlyCompressed _).bind fun compressed => ?_
  refine looks_openedIfThere.bind fun _ => looks_openedIfThere.bind fun _ => ?_
  refine (looks_insertArtifact _).bind fun _ => (looks_insertArtifact _).bind fun _ => ?_
  refine (looks_insertArtifact _).bind fun _ => (looks_insertArtifact _).bind fun _ => ?_
  refine (looks_insertArtifact _).bind fun _ => (looks_insertArtifact _).bind fun _ => ?_
  exact looks_openedIfThere.bind fun _ => steps_pure

variable [LinearOrder Time]

theorem looks_readScenarioRows (header : Header F Time Content) (batch : Json F)
    (entries : List (Json F)) :
    (readScenarioRows python json contents session header batch entries).Looks := by
  induction entries with
  | nil => exact steps_pure
  | cons entry entries inductionHypothesis =>
    refine (looks_lifted _).bind fun _ => (looks_lifted _).bind fun _ => ?_
    refine (looks_lifted _).bind fun paths => (looks_readScenarioFiles paths).bind fun _ => ?_
    exact (looks_lifted _).bind fun _ => inductionHypothesis.bind fun _ => steps_pure

/-- Within the transaction only the index is written. -/
theorem looks_readRows (rawTracePolicy : String) (header : Header F Time Content) (mtime : Time)
    (batch : Json F) :
    (readRows python json contents session place root rawTracePolicy header mtime batch).Looks := by
  refine (looks_lifted _).bind fun _ => (looks_insertArtifact _).bind fun _ => ?_
  refine (looks_insertArtifact _).bind fun _ => (looks_insertArtifact _).bind fun _ => ?_
  exact (looks_readScenarioRows _ _ _).bind fun _ => looks_lifted _

theorem looks_readLatestMtime (located : Option Place) :
    (readLatestMtime session located).Looks :=
  looks_read fun _ => (looks_mtimes _).bind fun _ => (looks_openedRunMeta located).bind
    fun _ => looks_opened.bind fun _ => steps_pure

/-- Up to the transaction nothing is written. -/
theorem looks_readSession : (readSession python contents session place root).Looks :=
  looks_readHeaderFiles.bind fun header => (looks_readLatestMtime header.2).bind fun _ =>
    looks_readBatchFile.bind fun _ => steps_pure

end Looks

end MassL3.EvidenceLibrary
