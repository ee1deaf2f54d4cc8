/-
This file settles when an incremental ingest leaves the rows that a forced one would. The
decision to skip compares one number, the largest modification time of the directory, with the
one recorded at the last ingest that wrote rows, and it is the only difference between the two
calls. So whenever that number has moved they agree; where it has not, the incremental call
keeps the rows that were written from the directory as it was then. Those are the right ones as
long as none of the files that an ingest reads has changed, which an edit or a removal that
leaves the largest time alone need not respect.
-/

import MassTdl.EvidenceLibrary.FrameAtInstant
import MassTdl.EvidenceLibrary.Ingest
import MassTdl.Runs

namespace MassL3.EvidenceLibrary

theorem sessionRow_ok {F Time Content : Type} {python : Python F Time} {root : EvidenceRoot}
    {place : SessionPlace} {header : Header F Time Content} {rawTracePolicy : String}
    {mtime : Time} {row : SessionRow F Time}
    (ran : sessionRow python root place header rawTracePolicy mtime = .ok row) :
    row.latestMtime = mtime ∧ row.ingestStatus = "ok" := by
  obtain ⟨_, -, ran⟩ := ok_of_bind ran
  obtain ⟨_, -, ran⟩ := ok_of_bind ran
  obtain ⟨_, -, ran⟩ := ok_of_bind ran
  obtain ⟨_, -, ran⟩ := ok_of_bind ran
  obtain ⟨_, -, ran⟩ := ok_of_bind ran
  cases ran
  exact ⟨rfl, rfl⟩

/-! ### What an ingest reads -/

section Reads

variable {F Time Content : Type} {python : Python F Time} {contents : Contents F Content}
  {root : EvidenceRoot} {place : SessionPlace}

/-- The paths of the scenarios that a manifest lists. -/
def entryPaths (python : Python F Time) (contents : Contents F Content) (entry : Json F) :
    Except PyError ScenarioPaths := do
  let scenarioId ← scenarioIdOf python entry
  let scenario ← asDict entry
  scenarioPaths python contents scenarioId scenario

/-- Two directories agree on every file that an ingest of the first one reads. -/
structure SameRead (python : Python F Time) (contents : Contents F Content) (root : EvidenceRoot)
    (place : SessionPlace) (before after : SessionDirectory Time Content) : Prop where
  fixed : ∀ path ∈ ["manifest.json", "run_meta.json", "summary.json", "batch_summary.json"],
    after.files.lookup path = before.files.lookup path
  parentRunMeta : after.parentRunMeta = before.parentRunMeta
  listed : ∀ header, readHeader python contents root place before = .ok header →
    ∀ entry ∈ scenarioEntries header.scenarios, ∀ paths,
      entryPaths python contents entry = .ok paths →
        ∀ path ∈ paths.all, after.files.lookup path = before.files.lookup path

theorem scenarioFiles_congr {before after : SessionDirectory Time Content}
    {paths : ScenarioPaths}
    (same : ∀ path ∈ paths.all, after.files.lookup path = before.files.lookup path) :
    after.scenarioFiles paths = before.scenarioFiles paths := by
  simp only [ScenarioPaths.all, List.forall_mem_cons, List.not_mem_nil, false_implies,
    implies_true, and_true] at same
  obtain ⟨report, trace, traceGz, artifactConsistency, m5Timeline, trajectoryPng, dashboardPng⟩ :=
    same
  unfold SessionDirectory.scenarioFiles
  rw [report, trace, traceGz, artifactConsistency, m5Timeline, trajectoryPng, dashboardPng]

theorem readHeader_congr {before after : SessionDirectory Time Content}
    (same : SameRead python contents root place before after) :
    readHeader python contents root place after = readHeader python contents root place before := by
  have sameMeta : runMetaFile place after = runMetaFile place before := by
    unfold runMetaFile
    rw [same.fixed "run_meta.json" (by simp), same.parentRunMeta]
  unfold readHeader
  rw [same.fixed "manifest.json" (by simp), sameMeta]

end Reads

section Rescan

variable {F Time Content : Type} [LinearOrder Time] (python : Python F Time) (json : JsonText F)
  (contents : Contents F Content) (root : EvidenceRoot) (place : SessionPlace)

/-! ### Runs of changes and ingests -/

/-- A session's directory, and its rows in the index. -/
structure Library (F Time Content Text : Type) where
  directory : SessionDirectory Time Content
  indexed : Option (IndexedSession F Time Text)

inductive LibraryEvent (Time Content : Type) where
  /-- Files are added, edited, removed or replaced, with any times. -/
  | change (directory : SessionDirectory Time Content)
  | ingest (rawTracePolicy : String) (force : Bool)

/-- The rows after an ingest, however it ends. -/
def ingested (library : Library F Time Content json.Text) (rawTracePolicy : String)
    (force : Bool) : Option (IndexedSession F Time json.Text) :=
  match ingestSession python json contents root place library.directory rawTracePolicy force
      library.indexed with
  | .ok (indexed, _) => indexed
  | .error _ => library.indexed

def libraryStep (library : Library F Time Content json.Text) :
    LibraryEvent Time Content → Library F Time Content json.Text
  | .change directory => { library with directory := directory }
  | .ingest rawTracePolicy force =>
    { library with
      indexed := ingested python json contents root place library rawTracePolicy force }

/-- The rows that a full ingest of a directory writes. -/
def fullRows (directory : SessionDirectory Time Content) (rawTracePolicy : String) :
    Except PyError (IndexedSession F Time json.Text) := do
  let header ← readHeader python contents root place directory
  indexedSession python json contents root place directory header rawTracePolicy
    (latestMtime place directory header.manifestFile)

variable {python json contents root place}

/-! ### One ingest -/

theorem ingested_force (library : Library F Time Content json.Text) (rawTracePolicy : String) :
    ingested python json contents root place library rawTracePolicy true =
      match fullRows python json contents root place library.directory rawTracePolicy with
      | .ok rows => some rows
      | .error _ => library.indexed := by
  unfold ingested ingestSession fullRows
  cases readHeader python contents root place library.directory with
  | error raised => rfl
  | ok header =>
    simp only [Bool.not_true, Bool.false_and, Bool.false_eq_true, if_false, bind, Except.bind]
    cases indexedSession python json contents root place library.directory header rawTracePolicy
      (latestMtime place library.directory header.manifestFile) <;> rfl

variable {rawTracePolicy : String} {rows : IndexedSession F Time json.Text}

/-- The rows record the largest time of the directory they were written from. -/
theorem indexedSession_ok {directory : SessionDirectory Time Content}
    {header : Header F Time Content} {mtime : Time}
    (ran : indexedSession python json contents root place directory header rawTracePolicy mtime =
      .ok rows) :
    rows.session.latestMtime = mtime ∧ rows.session.ingestStatus = "ok" := by
  obtain ⟨batch, -, ran⟩ := ok_of_bind ran
  obtain ⟨session, sessionRan, ran⟩ := ok_of_bind ran
  obtain ⟨scenarios, -, ran⟩ := ok_of_bind ran
  obtain ⟨_, -, ran⟩ := ok_of_bind ran
  cases ran
  exact sessionRow_ok sessionRan

theorem fullRows_ok {directory : SessionDirectory Time Content}
    (ran : fullRows python json contents root place directory rawTracePolicy = .ok rows) :
    ∃ header, readHeader python contents root place directory = .ok header ∧
      rows.session.latestMtime = latestMtime place directory header.manifestFile ∧
      rows.session.ingestStatus = "ok" := by
  obtain ⟨header, isHeader, ran⟩ := ok_of_bind ran
  exact ⟨header, isHeader, indexedSession_ok ran⟩

/-- The incremental call keeps the rows it finds up to date, and is the forced one otherwise. -/
theorem ingested_incremental (library : Library F Time Content json.Text)
    (rawTracePolicy : String) :
    (∃ header, readHeader python contents root place library.directory = .ok header ∧
        upToDate json library.indexed
          (latestMtime place library.directory header.manifestFile) ∧
        ingested python json contents root place library rawTracePolicy false = library.indexed) ∨
      ((∀ header, readHeader python contents root place library.directory = .ok header →
          upToDate json library.indexed
            (latestMtime place library.directory header.manifestFile) = false) ∧
        ingested python json contents root place library rawTracePolicy false =
          ingested python json contents root place library rawTracePolicy true) := by
  unfold ingested ingestSession
  cases readHeader python contents root place library.directory with
  | error raised => exact Or.inr ⟨fun header isHeader => (by cases isHeader), rfl⟩
  | ok header =>
    cases current : upToDate json library.indexed
        (latestMtime place library.directory header.manifestFile) with
    | true =>
      refine Or.inl ⟨header, rfl, current, ?_⟩
      simp only [bind, Except.bind, current, Bool.not_false, Bool.true_and, if_true]
      rfl
    | false =>
      refine Or.inr ⟨fun other isOther => ?_, ?_⟩
      · cases isOther
        exact current
      · simp only [bind, Except.bind, current, Bool.not_false, Bool.not_true, Bool.and_self,
          Bool.and_false, Bool.false_eq_true, if_false]

/-! ### The same files -/

/-- The rows of the scenarios come from the files of the scenarios. -/
theorem allScenarioRows_congr {before after : SessionDirectory Time Content}
    (header : Header F Time Content) (batch : Json F) {entries : List (Json F)}
    (same : ∀ entry ∈ entries, ∀ paths, entryPaths python contents entry = .ok paths →
      ∀ path ∈ paths.all, after.files.lookup path = before.files.lookup path) :
    allScenarioRows python json contents after header batch entries =
      allScenarioRows python json contents before header batch entries := by
  induction entries with
  | nil => rfl
  | cons entry entries inductionHypothesis =>
    obtain ⟨sameFirst, sameRest⟩ := List.forall_mem_cons.mp same
    rw [allScenarioRows, allScenarioRows, inductionHypothesis sameRest]
    unfold entryPaths at sameFirst
    -- up to the first exception the two sides read the entry alone
    cases isId : scenarioIdOf python entry with
    | error raised => simp only [bind, Except.bind]
    | ok scenarioId =>
      cases isDict : asDict entry with
      | error raised => simp only [bind, Except.bind]
      | ok scenario =>
        cases isPaths : scenarioPaths python contents scenarioId scenario with
        | error raised => simp only [bind, Except.bind, isPaths]
        | ok paths =>
          have sameFiles := scenarioFiles_congr
            (sameFirst paths (by simp only [isId, isDict, bind, Except.bind, isPaths]))
          simp only [bind, Except.bind, isPaths, sameFiles]

/-- The rows of a directory depend on the files that an ingest reads, and on the largest time. -/
theorem fullRows_congr {before after : SessionDirectory Time Content}
    (same : SameRead python contents root place before after)
    {rows rewritten : IndexedSession F Time json.Text}
    (ran : fullRows python json contents root place before rawTracePolicy = .ok rows)
    (ranAgain : fullRows python json contents root place after rawTracePolicy = .ok rewritten)
    (sameTime : rewritten.session.latestMtime = rows.session.latestMtime) : rewritten = rows := by
  obtain ⟨header, isHeader, ran⟩ := ok_of_bind ran
  obtain ⟨headerAgain, isHeaderAgain, ranAgain⟩ := ok_of_bind ranAgain
  rw [readHeader_congr same, isHeader] at isHeaderAgain
  cases isHeaderAgain
  rw [(indexedSession_ok ran).1, (indexedSession_ok ranAgain).1] at sameTime
  rw [sameTime] at ranAgain
  have sameRows : indexedSession python json contents root place after header rawTracePolicy
        (latestMtime place before header.manifestFile) =
      indexedSession python json contents root place before header rawTracePolicy
        (latestMtime place before header.manifestFile) := by
    unfold indexedSession readBatch
    rw [same.fixed "summary.json" (by simp), same.fixed "batch_summary.json" (by simp)]
    simp only [allScenarioRows_congr header _ (same.listed header isHeader)]
  rw [sameRows, ran] at ranAgain
  exact (Except.ok.inj ranAgain).symm

/-! ### Runs -/

/-- An ingest leaves the rows alone or writes those of the directory as it is. -/
theorem ingested_cases (library : Library F Time Content json.Text) (rawTracePolicy : String)
    (force : Bool) :
    ingested python json contents root place library rawTracePolicy force = library.indexed ∨
      ∃ rows, fullRows python json contents root place library.directory rawTracePolicy =
          .ok rows ∧
        ingested python json contents root place library rawTracePolicy force = some rows := by
  have forced : ingested python json contents root place library rawTracePolicy true =
        library.indexed ∨
      ∃ rows, fullRows python json contents root place library.directory rawTracePolicy =
          .ok rows ∧
        ingested python json contents root place library rawTracePolicy true = some rows := by
    rw [ingested_force]
    cases fullRows python json contents root place library.directory rawTracePolicy with
    | error raised => exact Or.inl rfl
    | ok rows => exact Or.inr ⟨rows, rfl, rfl⟩
  cases force with
  | true => exact forced
  | false =>
    rcases ingested_incremental library rawTracePolicy with ⟨_, -, -, kept⟩ | ⟨-, asForced⟩
    · exact Or.inl kept
    · rw [asForced]
      exact forced

/-- The rows were written by one of the ingests of a run, from the directory as it stood
then. -/
def WrittenAt (python : Python F Time) (json : JsonText F) (contents : Contents F Content)
    (root : EvidenceRoot) (place : SessionPlace) (start : SessionDirectory Time Content)
    (events : List (LibraryEvent Time Content)) (rows : IndexedSession F Time json.Text)
    (earlier : SessionDirectory Time Content) (earlierPolicy : String) : Prop :=
  ∃ count force, events[count]? = some (.ingest earlierPolicy force) ∧
    earlier = (Runs.stateAt (libraryStep python json contents root place) ⟨start, none⟩ events
      count).directory ∧
    fullRows python json contents root place earlier earlierPolicy = .ok rows

theorem WrittenAt.append {start : SessionDirectory Time Content}
    {events : List (LibraryEvent Time Content)} {earlier : SessionDirectory Time Content}
    {earlierPolicy : String}
    (wrote : WrittenAt python json contents root place start events rows earlier earlierPolicy)
    (later : List (LibraryEvent Time Content)) :
    WrittenAt python json contents root place start (events ++ later) rows earlier
      earlierPolicy := by
  obtain ⟨count, force, isIngest, isEarlier, wrote⟩ := wrote
  have within : count < events.length := (List.getElem?_eq_some_iff.mp isIngest).1
  refine ⟨count, force, ?_, ?_, wrote⟩
  · rw [List.getElem?_append_left within]
    exact isIngest
  · rw [Runs.stateAt, List.take_append_of_le_length within.le]
    exact isEarlier

theorem indexed_written (start : SessionDirectory Time Content)
    (events : List (LibraryEvent Time Content))
    (isIndexed : (Runs.run (libraryStep python json contents root place) ⟨start, none⟩
      events).indexed = some rows) :
    ∃ earlier earlierPolicy,
      WrittenAt python json contents root place start events rows earlier earlierPolicy := by
  induction events using List.reverseRecOn with
  | nil => cases isIndexed
  | append_singleton events event inductionHypothesis =>
    rw [Runs.run_append] at isIndexed
    cases event with
    | change directory =>
      obtain ⟨earlier, earlierPolicy, wrote⟩ := inductionHypothesis isIndexed
      exact ⟨earlier, earlierPolicy, wrote.append _⟩
    | ingest rawTracePolicy force =>
      rcases ingested_cases (Runs.run (libraryStep python json contents root place)
        ⟨start, none⟩ events) rawTracePolicy force with kept | ⟨fresh, ran, wrote⟩
      · obtain ⟨earlier, earlierPolicy, wrote⟩ := inductionHypothesis (kept.symm.trans isIndexed)
        exact ⟨earlier, earlierPolicy, wrote.append _⟩
      · have isFresh : fresh = rows := Option.some.inj (wrote.symm.trans isIndexed)
        refine ⟨_, rawTracePolicy, events.length, force, by simp, ?_, isFresh ▸ ran⟩
        rw [Runs.stateAt, List.take_left]

/-- When the indexed row has been written, the two ingests differ where a full ingest would write
other rows with the same largest time. -/
theorem ingested_agree_iff (library : Library F Time Content json.Text) (rawTracePolicy : String)
    (written : ∀ rows, library.indexed = some rows → rows.session.ingestStatus = "ok") :
    ingested python json contents root place library rawTracePolicy false =
        ingested python json contents root place library rawTracePolicy true ↔
      ∀ rows, library.indexed = some rows →
        ∀ rewritten, fullRows python json contents root place library.directory rawTracePolicy =
            .ok rewritten →
          rewritten.session.latestMtime = rows.session.latestMtime → rewritten = rows := by
  rcases ingested_incremental library rawTracePolicy with ⟨header, isHeader, current, kept⟩ |
    ⟨stale, asForced⟩
  · obtain ⟨rows, isIndexed, isCurrent⟩ := Option.any_eq_true _ _ |>.mp current
    have sameTime := eq_of_beq (Bool.and_eq_true_iff.mp isCurrent).1
    rw [kept, ingested_force, isIndexed]
    constructor
    · intro equal others isOthers rewritten ran _
      rw [ran] at equal
      cases isOthers
      exact (Option.some.inj equal).symm
    · intro same
      rcases ran : fullRows python json contents root place library.directory rawTracePolicy
        with raised | rewritten
      · rfl
      · obtain ⟨_, isOther, itsTime, -⟩ := fullRows_ok ran
        cases isHeader.symm.trans isOther
        rw [same rows rfl rewritten ran (itsTime.trans sameTime.symm)]
  · refine ⟨fun _ rows isIndexed rewritten ran sameTime => ?_, fun _ => asForced⟩
    -- with the same time the indexed row would have been up to date
    obtain ⟨header, isHeader, itsTime, -⟩ := fullRows_ok ran
    have current := stale header isHeader
    rw [isIndexed, upToDate, Option.any_some, ← itsTime, sameTime, written rows isIndexed,
      beq_self_eq_true, beq_self_eq_true] at current
    cases current

/-- After every sequence of changes and ingests, the incremental ingest leaves the rows of the
forced one if and only if a full ingest fails, or records another largest time than the index
holds, or writes the rows that the index holds. These were written from the directory as it stood
at an earlier ingest, so the two agree when the files that it reads and the policy are still the
same. -/
theorem ingested_incremental_eq_forced (start : SessionDirectory Time Content)
    (events : List (LibraryEvent Time Content)) (rawTracePolicy : String) :
    let library := Runs.run (libraryStep python json contents root place) ⟨start, none⟩ events
    let incremental := ingested python json contents root place library rawTracePolicy false
    let forced := ingested python json contents root place library rawTracePolicy true
    (incremental = forced ↔ ∀ rows, library.indexed = some rows →
      ∀ rewritten, fullRows python json contents root place library.directory rawTracePolicy =
          .ok rewritten →
        rewritten.session.latestMtime = rows.session.latestMtime → rewritten = rows) ∧
    ∀ rows, library.indexed = some rows → ∃ earlier earlierPolicy,
      WrittenAt python json contents root place start events rows earlier earlierPolicy ∧
      (SameRead python contents root place earlier library.directory →
        earlierPolicy = rawTracePolicy → incremental = forced) := by
  intro library incremental forced
  have written (rows : IndexedSession F Time json.Text) (isIndexed : library.indexed = some rows) :
      rows.session.ingestStatus = "ok" := by
    obtain ⟨_, _, _, _, -, -, wrote⟩ := indexed_written start events isIndexed
    obtain ⟨_, -, -, isOk⟩ := fullRows_ok wrote
    exact isOk
  have agree : incremental = forced ↔ _ := ingested_agree_iff library rawTracePolicy written
  refine ⟨agree, fun rows isIndexed => ?_⟩
  obtain ⟨earlier, earlierPolicy, wrote⟩ := indexed_written start events isIndexed
  refine ⟨earlier, earlierPolicy, wrote, fun same samePolicy => agree.mpr ?_⟩
  intro others isOthers rewritten ranAgain sameTime
  cases isIndexed.symm.trans isOthers
  obtain ⟨_, _, -, -, ran⟩ := wrote
  exact fullRows_congr same (samePolicy ▸ ran) ranAgain sameTime

end Rescan

/-! A manifest is edited after an ingest and stays older than the trace beside it. -/

/-- Files whose contents are documents. -/
def documentContents : Contents Int (Json Int) where
  readJson content := .ok content
  readTrace _ _ := .ok []
  sha256 _ := ""
  resolve path := some path
  evidenceDigest text := text

def harbourDirectory (status : String) (mtime : Int) : SessionDirectory Int (Json Int) where
  files := [("manifest.json",
      ⟨mtime, .dict [("session_name", .str "harbour"), ("status", .str status)]⟩),
    ("harbour.trace_current.jsonl", ⟨9, .null⟩)]
  parentRunMeta := none

def harbourRun : Library Int Int (Json Int) (Json Int) :=
  Runs.run (libraryStep wholeNumbers documents documentContents ⟨"primary", "background_probe"⟩
      ⟨"/runs/harbour", "harbour"⟩)
    ⟨harbourDirectory "running" 1, none⟩
    [.ingest "keep" false, .change (harbourDirectory "completed" 3)]

def indexedStatus (indexed : Option (IndexedSession Int Int (Json Int))) : Option String :=
  indexed.bind fun rows =>
    match rows.session.status with
    | .str status => some status
    | _ => none

theorem ingested_incremental_ne_forced :
    ingested wholeNumbers documents documentContents ⟨"primary", "background_probe"⟩
        ⟨"/runs/harbour", "harbour"⟩ harbourRun "keep" false ≠
      ingested wholeNumbers documents documentContents ⟨"primary", "background_probe"⟩
        ⟨"/runs/harbour", "harbour"⟩ harbourRun "keep" true := by
  intro same
  have sameStatus := congrArg indexedStatus same
  exact absurd sameStatus (by decide)

end MassL3.EvidenceLibrary
