/-
This file translates the ingest of a session directory into the index. The rows of a session
are a function of the files it reads: the manifest, the metadata of the run, the two
summaries, and for each scenario its report, its trace and its artifacts. They are written in
one transaction, so an exception on the way leaves the rows as they were. An ingest that is
not forced is skipped when the largest modification time in the directory is the one that the
indexed row recorded.

The contents of files are a type of its own, with what the code does to them: reading them as
a JSON document or as the lines of a trace, and their digest. The numbers that the tables give
their own rows (`artifact_id`, `event_id`) are left out.
-/

import MassTdl.EvidenceLibrary.DecisionFrame

namespace MassL3.EvidenceLibrary

/-! ### Directories -/

/-- What the code does to the contents of files and to paths. -/
structure Contents (F Content : Type) where
  readJson : Content → Except PyError (Json F)
  /-- The rows of a trace; the flag says that it is compressed. -/
  readTrace : Bool → Content → Except PyError (List (Nat × Dict F))
  sha256 : Content → String
  /-- Where a relative path leads inside the session, unless it leads out of it. -/
  resolve : String → Option String
  evidenceDigest : String → String

structure StoredFile (Time Content : Type) where
  mtime : Time
  content : Content

/-- The regular files below a session's directory, by their paths in it, and the
`run_meta.json` beside it. -/
structure SessionDirectory (Time Content : Type) where
  files : List (String × StoredFile Time Content)
  parentRunMeta : Option (StoredFile Time Content)

structure EvidenceRoot where
  rootId : String
  source : String

structure SessionPlace where
  sessionPath : String
  name : String

/-! ### Rows -/

structure SessionRow (F Time : Type) where
  evidenceId : String
  sessionId : String
  source : String
  suite : String
  rootId : String
  worktreeName : Option String
  branch : Json F
  sessionPath : String
  createdAt : Json F
  endedAt : Json F
  status : Json F
  validData : Bool
  scenarioCount : Int
  ingestStatus : String
  ingestError : Option String
  rawTracePolicy : String
  latestMtime : Time

structure ScenarioRow (F : Type) where
  scenario : Scenario
  runId : Json F
  verdict : String
  overallPass : Option Bool
  role : Json F
  cpaFloorM : Json F
  minCpaM : Json F
  minCpaNm : Json F
  returnedToRoute : Option Bool
  routeReturnRequired : Option Bool
  routeCorridorOk : Option Bool
  stabilityPass : Option Bool
  complianceVerdict : Json F

structure ArtifactRow (Time : Type) where
  evidenceId : String
  sessionId : String
  scenarioId : Option String
  kind : String
  relativePath : String
  sha256 : String
  mtime : Time
  compressed : Bool
  available : Bool

/-- All that the index holds of a session. -/
structure IndexedSession (F Time Text : Type) where
  session : SessionRow F Time
  scenarios : List (ScenarioRow F)
  artifacts : List (ArtifactRow Time)
  trajectorySamples : List (TrajectoryRow F Time)
  /-- Each with its level. -/
  trajectoryDownsample : List (TrajectoryRow F Time × Nat)
  stateSegments : List (StateSegment Time Text)
  events : List (EventRow F Time Text)
  gateResults : List (GateRow Text)

structure IngestResult where
  evidenceId : String
  sessionId : String
  scenarioCount : Nat
  trajectoryCount : Nat
  eventCount : Nat
  skipped : Bool := false

section Ingest

variable {F Time Content : Type} [LinearOrder Time] (python : Python F Time) (json : JsonText F)
  (contents : Contents F Content) (root : EvidenceRoot) (place : SessionPlace)

/-! ### Reading -/

def asDict : Json F → Except PyError (Dict F)
  | .dict entries => .ok entries
  | _ => .error .attributeError

/-- `_read_json(path) if path.exists() else default`. -/
def readJsonOr (default : Json F) : Option (StoredFile Time Content) → Except PyError (Json F)
  | some file => contents.readJson file.content
  | none => .ok default

/-- `run_meta.json` in the directory, or beside a directory of a unified run. -/
def runMetaFile (directory : SessionDirectory Time Content) : Option (StoredFile Time Content) :=
  match directory.files.lookup "run_meta.json" with
  | some file => some file
  | none => if place.name = "trace" then directory.parentRunMeta else none

/-- `max(file_mtimes, default=…)`, with the time of the manifest for the default. -/
def latestMtime (directory : SessionDirectory Time Content) (manifest : StoredFile Time Content) :
    Time :=
  (directory.files.map (·.2.mtime) ++ (runMetaFile place directory).toList.map (·.mtime)).max?.getD
    manifest.mtime

/-- `len(value)`. -/
def Json.len : Json F → Except PyError Nat
  | .list items => .ok items.length
  | .dict entries => .ok entries.length
  | .str text => .ok text.length
  | _ => .error .typeError

/-- `int(value)`. -/
def Python.int : Json F → Except PyError Int
  | .int value => .ok value
  | .bool value => .ok (if value then 1 else 0)
  | .float value => python.truncate value
  | .str text => python.parseInt text
  | _ => .error .typeError

/-- SQLite takes no lists and no dicts. -/
def Json.storable : Json F → Bool
  | .list _ | .dict _ => false
  | _ => true

/-- A value as a column of a row. -/
def column (value : Json F) : Except PyError (Json F) :=
  if value.storable then .ok value else .error .databaseError

/-- `1 if value is True else 0 if value is False else None`. -/
def flag : Json F → Option Bool
  | .bool value => some value
  | _ => none

/-- The files of one scenario. -/
structure ScenarioFiles (Time Content : Type) where
  report : Option (StoredFile Time Content)
  trace : Option (StoredFile Time Content)
  traceGz : Option (StoredFile Time Content)
  artifactConsistency : Option (StoredFile Time Content)
  m5Timeline : Option (StoredFile Time Content)
  trajectoryPng : Option (StoredFile Time Content)
  dashboardPng : Option (StoredFile Time Content)

structure ScenarioPaths where
  report : String
  trace : String
  artifactConsistency : String
  m5Timeline : String
  trajectoryPng : String
  dashboardPng : String

/-- `trace_path.with_suffix(trace_path.suffix + ".gz")`. -/
def gzipped (path : String) : String := path ++ ".gz"

def ScenarioPaths.all (paths : ScenarioPaths) : List String :=
  [paths.report, paths.trace, gzipped paths.trace, paths.artifactConsistency, paths.m5Timeline,
    paths.trajectoryPng, paths.dashboardPng]

def SessionDirectory.scenarioFiles (directory : SessionDirectory Time Content)
    (paths : ScenarioPaths) : ScenarioFiles Time Content where
  report := directory.files.lookup paths.report
  trace := directory.files.lookup paths.trace
  traceGz := directory.files.lookup (gzipped paths.trace)
  artifactConsistency := directory.files.lookup paths.artifactConsistency
  m5Timeline := directory.files.lookup paths.m5Timeline
  trajectoryPng := directory.files.lookup paths.trajectoryPng
  dashboardPng := directory.files.lookup paths.dashboardPng

/-- `_safe_session_child(session_path, value, default_name)`. -/
def safeSessionChild (value : Json F) (defaultName : String) : Except PyError String :=
  match contents.resolve (python.str (python.or value (.str defaultName))) with
  | some path => .ok path
  | none => .error .valueError

def scenarioPaths (scenarioId : String) (scenario : Dict F) : Except PyError ScenarioPaths := do
  let report ← safeSessionChild python contents (Dict.get scenario "report_path")
    (scenarioId ++ ".json")
  let trace ← safeSessionChild python contents (Dict.get scenario "trace_path")
    (scenarioId ++ ".trace_current.jsonl")
  let artifactName := scenarioId ++ ".artifact_consistency.json"
  let artifactConsistency ← safeSessionChild python contents (.str artifactName) artifactName
  let m5Timeline ← safeSessionChild python contents (Dict.get scenario "m5_timeline_path")
    (scenarioId ++ "/m5_timeline.json")
  let trajectoryPng ← safeSessionChild python contents (Dict.get scenario "trajectory_path")
    (scenarioId ++ "/trajectory.png")
  let dashboardPng ← safeSessionChild python contents (Dict.get scenario "png_path")
    (scenarioId ++ "_trajectory_dashboard.png")
  return ⟨report, trace, artifactConsistency, m5Timeline, trajectoryPng, dashboardPng⟩

/-- `scenario["scenario_id"]`, as a text. -/
def scenarioIdOf (scenario : Json F) : Except PyError String :=
  match scenario with
  | .dict entries =>
    match entries.lookup "scenario_id" with
    | some value => .ok (python.str value)
    | none => .error .keyError
  | _ => .error .typeError

/-- The scenarios of a manifest, as the loop over them takes them. -/
def scenarioEntries : Json F → List (Json F)
  | .list items => items
  | .dict entries => entries.map fun entry => .str entry.1
  | .str text => text.toList.map fun letter => .str letter.toString
  | _ => []

/-- The first row of a batch summary that is about the scenario. -/
def scenarioFromRows (scenarioId : String) : List (Json F) → Except PyError (Dict F)
  | [] => .ok []
  | row :: rows => do
    let row ← asDict row
    if python.equal (Dict.get row "scenario") (.str scenarioId) ||
        python.equal (Dict.get row "scenario_id") (.str scenarioId) then
      return row
    scenarioFromRows scenarioId rows

def scenarioFromBatch (batch : Json F) (scenarioId : String) : Except PyError (Dict F) := do
  let batch ← asDict batch
  match Dict.get batch scenarioId with
  | .dict direct => return direct
  | _ =>
    let rows := python.or (python.or (Dict.get batch "results") (Dict.get batch "scenarios"))
      (.list [])
    let _ ← rows.len
    scenarioFromRows python scenarioId (scenarioEntries rows)

/-- The verdict of a scenario: of the batch, of the report, or of the run. -/
def overallPass (runMeta report batch : Dict F) (scenarioId : String) :
    Except PyError (Option Bool) := do
  match Dict.get batch "overall_pass" with
  | .null =>
    match ← member "overall_pass" (python.or (Dict.get report "verdict") (.dict [])) with
    | .null =>
      match ← member scenarioId (python.or (Dict.get runMeta "verdicts") (.dict [])) with
      | .str verdict =>
        let normalized := python.lower (python.strip verdict)
        if normalized ∈ ["pass", "passed", "ok"] then return some true
        if normalized ∈ ["fail", "failed", "no"] then return some false
        return none
      | _ => return none
    | overall => return flag overall
  | overall => return flag overall

/-- `_insert_artifact`: a file that does not exist is no artifact. -/
def artifactRows (evidenceId sessionId : String) (scenarioId : Option String) (kind path : String) :
    Option (StoredFile Time Content) → List (ArtifactRow Time)
  | some file =>
    [{ evidenceId := evidenceId
       sessionId := sessionId
       scenarioId := scenarioId
       kind := kind
       relativePath := path
       sha256 := contents.sha256 file.content
       mtime := file.mtime
       compressed := path.endsWith ".gz"
       available := true }]
  | none => []

/-! ### One scenario -/

/-- The rows of one scenario. -/
structure ScenarioRows (F Time Text : Type) where
  scenario : ScenarioRow F
  artifacts : List (ArtifactRow Time)
  trajectory : List (TrajectoryRow F Time)
  states : List (StateSegment Time Text)
  events : List (EventRow F Time Text)
  gates : List (GateRow Text)

def gateEvent (gate : GateRow json.Text) : EventRow F Time json.Text where
  scenario := gate.scenario
  simT := python.time (python.ofNat 0)
  wallT := .null
  module := "GATE"
  eventType := "GATE_RESULT"
  severity := if gate.status = "FAIL" then "crit" else "info"
  payloadJson := gate.payloadJson
  sourceTopic := gate.source

/-- The primary key of the samples. -/
def TrajectoryRow.key (row : TrajectoryRow F Time) : String × Time × Nat :=
  (row.vesselId, row.simT, row.sampleSeq)

def TrajectoryRow.storable (row : TrajectoryRow F Time) : Bool :=
  [row.wallT, row.lat, row.lon, row.headingDeg, row.sogKn, row.rotDegS].all Json.storable

/-- Whether the tables take the rows of a trace. -/
def TraceResult.storable (recorded : TraceResult F Time json.Text) : Bool :=
  recorded.trajectory.all TrajectoryRow.storable &&
    decide (recorded.trajectory.map TrajectoryRow.key).Nodup &&
    recorded.events.all fun event => event.wallT.storable

def scenarioRows (evidenceId sessionId scenarioId : String) (runMeta : Dict F) (batch : Json F)
    (entry : Dict F) (paths : ScenarioPaths) (files : ScenarioFiles Time Content) :
    Except PyError (ScenarioRows F Time json.Text) := do
  let key : Scenario := ⟨evidenceId, sessionId, scenarioId⟩
  -- a trace that is only there compressed is read compressed
  let (tracePath, trace) :=
    if files.trace.isNone && files.traceGz.isSome then (gzipped paths.trace, files.traceGz)
    else (paths.trace, files.trace)
  let report ← asDict (← readJsonOr contents (.dict []) files.report)
  let batchRow ← scenarioFromBatch python batch scenarioId
  let consistency ← readJsonOr contents
    (python.or (Dict.get batchRow "artifact_consistency") (.dict [])) files.artifactConsistency
  let overall ← overallPass python runMeta report batchRow scenarioId
  let kpis := python.or (Dict.get report "kpis") (.dict [])
  let minCpaM := python.or (← member "min_cpa_m" kpis) (Dict.get batchRow "min_cpa_m")
  let minCpaNm := python.or (← member "min_cpa_nm" kpis) (Dict.get batchRow "min_cpa_nm")
  let row : ScenarioRow F :=
    { scenario := key
      runId := ← column (Dict.get entry "run_id")
      verdict := match overall with
        | some true => "PASS"
        | some false => "FAIL"
        | none => "UNKNOWN"
      overallPass := overall
      role := ← column (Dict.get batchRow "role")
      cpaFloorM := ← column (Dict.get batchRow "cpa_floor_m")
      minCpaM := ← column minCpaM
      minCpaNm := ← column minCpaNm
      returnedToRoute := flag (Dict.get batchRow "returned_to_route")
      routeReturnRequired := flag (Dict.get batchRow "route_return_required")
      routeCorridorOk := flag (Dict.get batchRow "route_corridor_ok")
      stabilityPass := flag (Dict.get batchRow "stability_pass")
      complianceVerdict := ← column (Dict.get batchRow "compliance_verdict") }
  let compressed := tracePath.endsWith ".gz"
  let artifact := artifactRows contents evidenceId sessionId (some scenarioId)
  let artifacts :=
    artifact "trace_report" paths.report files.report ++
      artifact (if compressed then "trace_jsonl_gz" else "trace_jsonl") tracePath trace ++
      artifact "artifact_consistency" paths.artifactConsistency files.artifactConsistency ++
      artifact "m5_timeline" paths.m5Timeline files.m5Timeline ++
      artifact "trajectory_png" paths.trajectoryPng files.trajectoryPng ++
      artifact "trajectory_dashboard_png" paths.dashboardPng files.dashboardPng
  let recorded ← match trace with
    | some file => do
      trajectoryRows python json key (← contents.readTrace compressed file.content)
    | none => pure ⟨[], [], []⟩
  if !recorded.storable then throw .databaseError
  let (gates, conflicts) ← gateRows python json key report batchRow consistency
  return {
    scenario := row
    artifacts := artifacts
    trajectory := recorded.trajectory
    states := recorded.states
    events := recorded.events ++ gates.map (gateEvent python json) ++ conflicts
    gates := gates }

/-! ### The session -/

/-- What is read before the decision to skip. -/
structure Header (F Time Content : Type) where
  manifestFile : StoredFile Time Content
  manifest : Dict F
  runMeta : Dict F
  sessionId : String
  evidenceId : String
  scenarios : Json F
  scenarioCount : Nat

def readHeader (directory : SessionDirectory Time Content) :
    Except PyError (Header F Time Content) :=
  match directory.files.lookup "manifest.json" with
  | none => .error .osError
  | some manifestFile => do
    let manifest ← asDict (← contents.readJson manifestFile.content)
    let runMeta ← asDict (← readJsonOr contents (.dict []) (runMetaFile place directory))
    let scenarios := python.or (Dict.get manifest "scenarios") (.list [])
    return {
      manifestFile := manifestFile
      manifest := manifest
      runMeta := runMeta
      sessionId := python.str (python.or
        (python.or (Dict.get runMeta "run_id") (Dict.get manifest "session_name"))
        (.str place.name))
      evidenceId := contents.evidenceDigest (root.rootId ++ place.sessionPath)
      scenarios := scenarios
      scenarioCount := ← scenarios.len }

def sessionRow (header : Header F Time Content) (rawTracePolicy : String) (mtime : Time) :
    Except PyError (SessionRow F Time) := do
  let manifest := header.manifest
  let runMeta := header.runMeta
  return {
    evidenceId := header.evidenceId
    sessionId := header.sessionId
    source := python.str (python.or
      (python.or (Dict.get runMeta "source") (Dict.get manifest "source")) (.str root.source))
    suite := python.str (python.or
      (python.or (Dict.get runMeta "mode") (Dict.get manifest "suite")) (.str "unknown"))
    rootId := root.rootId
    worktreeName := none
    branch := ← column (Dict.get runMeta "git_head")
    sessionPath := place.sessionPath
    createdAt := ← column
      (python.or (Dict.get runMeta "created_at") (Dict.get manifest "created_at"))
    endedAt := ← column (Dict.get manifest "ended_at")
    status := ← column (python.or (Dict.get runMeta "status") (Dict.get manifest "status"))
    validData := python.truthy ((manifest.lookup "valid_data").getD (.bool true))
    scenarioCount := ← python.int
      (python.or (Dict.get runMeta "scenario_count") (.int header.scenarioCount))
    ingestStatus := "ok"
    ingestError := none
    rawTracePolicy := rawTracePolicy
    latestMtime := mtime }

/-- The rows of the scenarios of the manifest, one by one. -/
def allScenarioRows (directory : SessionDirectory Time Content) (header : Header F Time Content)
    (batch : Json F) : List (Json F) → Except PyError (List (ScenarioRows F Time json.Text))
  | [] => .ok []
  | entry :: entries => do
    let scenarioId ← scenarioIdOf python entry
    let scenario ← asDict entry
    let paths ← scenarioPaths python contents scenarioId scenario
    let rows ← scenarioRows python json contents header.evidenceId header.sessionId scenarioId
      header.runMeta batch scenario paths (directory.scenarioFiles paths)
    return rows :: (← allScenarioRows directory header batch entries)

/-- The summary of the batch, or the older one. -/
def readBatch (directory : SessionDirectory Time Content) : Except PyError (Json F) :=
  match directory.files.lookup "summary.json" with
  | some file => contents.readJson file.content
  | none => readJsonOr contents (.dict []) (directory.files.lookup "batch_summary.json")

/-- The primary key of the scenarios. -/
def distinctScenarios (scenarios : List (ScenarioRows F Time json.Text)) : Except PyError Unit :=
  if (scenarios.map (·.scenario.scenario.scenarioId)).Nodup then .ok ()
  else .error .databaseError

/-- The rows that an ingest writes where it is not skipped. -/
def indexedSession (directory : SessionDirectory Time Content) (header : Header F Time Content)
    (rawTracePolicy : String) (mtime : Time) :
    Except PyError (IndexedSession F Time json.Text) := do
  let batch ← readBatch contents directory
  let session ← sessionRow python root place header rawTracePolicy mtime
  let scenarios ← allScenarioRows python json contents directory header batch
    (scenarioEntries header.scenarios)
  distinctScenarios json scenarios
  let artifact := artifactRows contents header.evidenceId header.sessionId none
  let trajectory := scenarios.flatMap (·.trajectory)
  return {
    session := session
    scenarios := scenarios.map (·.scenario)
    artifacts := artifact "manifest" "manifest.json" (some header.manifestFile) ++
      artifact "summary" "summary.json" (directory.files.lookup "summary.json") ++
      artifact "batch_summary" "batch_summary.json"
        (directory.files.lookup "batch_summary.json") ++
      scenarios.flatMap (·.artifacts)
    trajectorySamples := trajectory
    trajectoryDownsample := trajectory.map fun row => (row, 0)
    stateSegments := scenarios.flatMap (·.states)
    events := scenarios.flatMap (·.events)
    gateResults := scenarios.flatMap (·.gates) }

/-- The indexed row says that the directory has been ingested as it is. -/
def upToDate (existing : Option (IndexedSession F Time json.Text)) (mtime : Time) : Bool :=
  existing.any fun indexed =>
    indexed.session.latestMtime == mtime && indexed.session.ingestStatus == "ok"

/-- The rows of the session after `ingest_session`, with its result. An exception leaves the rows
as they are. -/
def ingestSession (directory : SessionDirectory Time Content) (rawTracePolicy : String)
    (force : Bool) (existing : Option (IndexedSession F Time json.Text)) :
    Except PyError (Option (IndexedSession F Time json.Text) × IngestResult) := do
  let header ← readHeader python contents root place directory
  let mtime := latestMtime place directory header.manifestFile
  if !force && upToDate json existing mtime then
    return (existing, ⟨header.evidenceId, header.sessionId, header.scenarioCount, 0, 0, true⟩)
  let indexed ← indexedSession python json contents root place directory header rawTracePolicy mtime
  return (some indexed, {
    evidenceId := header.evidenceId
    sessionId := header.sessionId
    scenarioCount := header.scenarioCount
    trajectoryCount := indexed.trajectorySamples.length
    eventCount := indexed.events.length })

end Ingest

end MassL3.EvidenceLibrary
