/-
This file asks whether a scenario request touches only its scenario. Every request works on the one
path its id leads to, so the answer can be read off from that path: its stem must be the id, and
its topmost and its innermost folder must agree on whether it is a baseline scenario.

An id with a star, a question mark or a bracket is a pattern, and leads to whatever comes first.
-/

import MassTdl.SilOrchestrator.ScenarioStore

namespace MassL3.SilOrchestrator.Scenarios

variable {libs : Libraries} {layout : Layout} {id : ScenarioId}

/-! ### What a request touches -/

/-- The file is opened or removed, or is not what it was. -/
def Outcome.Touches {Answer : Type} (outcome : Outcome Answer) (before : Layout)
    (path : RelPath) : Prop :=
  path ∈ outcome.opened ∨ outcome.layout.node path ≠ before.node path

/-- Reading requests change nothing. -/
theorem getScenario_layout : (getScenario libs layout id).layout = layout := by
  unfold getScenario
  split
  · rfl
  · rfl
  · split <;> rfl

/-- The id leads to a file. -/
def Layout.LeadsTo (layout : Layout) (id : ScenarioId) (path : RelPath) : Prop :=
  layout.pathFor id = .ok (some path) ∧ ∃ content, layout.node path = some (.file content)

theorem getScenario_opened {path : RelPath} :
    path ∈ (getScenario libs layout id).opened ↔ layout.LeadsTo id path := by
  unfold getScenario Layout.LeadsTo
  split
  case h_1 failed => simp [failed]
  case h_2 missing => simp [missing]
  case h_3 found isFound =>
    rw [isFound]
    split
    case h_1 content isFile =>
      rw [List.mem_singleton, Except.ok.injEq, Option.some.injEq]
      refine ⟨?_, fun leads => leads.1.symm⟩
      rintro rfl
      exact ⟨rfl, content, isFile⟩
    case h_2 noFile =>
      refine iff_of_false List.not_mem_nil ?_
      rintro ⟨same, content, isFile⟩
      obtain rfl := Option.some.inj (Except.ok.inj same)
      exact noFile content isFile

theorem getScenario_isBaseline {record : ScenarioRecord}
    (answered : (getScenario libs layout id).answer = .ok record) :
    ∃ path, layout.LeadsTo id path ∧
      record.isBaseline = decide (path.parentFolder ∈ baselineFolders) := by
  unfold getScenario at answered
  split at answered
  · cases answered
  · cases answered
  case h_3 path isFound =>
    split at answered
    case h_1 content isFile =>
      refine ⟨path, ⟨isFound, content, isFile⟩, ?_⟩
      rw [← Except.ok.inj answered]
    · cases answered

theorem isBaseline_of_leadsTo {path : RelPath} (leads : layout.LeadsTo id path) :
    layout.isBaseline id = .ok (decide (path.topFolder ∈ baselineFolders)) := by
  unfold Layout.isBaseline
  rw [leads.1]

/-! ### The writing requests -/

section Guarded

variable {Answer : Type} (detail : String) (change : RelPath → Answer × Layout)

/-- What the guard lets through. -/
theorem guarded_of_leadsTo {path : RelPath} (leads : layout.LeadsTo id path)
    (free : path.topFolder ∉ baselineFolders) :
    guarded layout id detail change =
      { answer := .ok (change path).1, layout := (change path).2, opened := [path] } := by
  obtain ⟨isFound, content, isFile⟩ := leads
  unfold guarded
  rw [isBaseline_of_leadsTo ⟨isFound, content, isFile⟩, decide_eq_false free]
  dsimp only
  rw [isFound]
  dsimp only
  rw [isFile]

/-- Nothing else happens to the directory. -/
theorem guarded_cases (layout : Layout) (id : ScenarioId) :
    (guarded layout id detail change).layout = layout ∧
        (guarded layout id detail change).opened = [] ∨
      ∃ path, layout.LeadsTo id path ∧ path.topFolder ∉ baselineFolders := by
  unfold guarded
  split
  · exact .inl ⟨rfl, rfl⟩
  · exact .inl ⟨rfl, rfl⟩
  case h_3 free =>
    split
    · exact .inl ⟨rfl, rfl⟩
    · exact .inl ⟨rfl, rfl⟩
    case h_3 path isFound =>
      split
      case h_1 content isFile =>
        have leads : layout.LeadsTo id path := ⟨isFound, content, isFile⟩
        rw [isBaseline_of_leadsTo leads, Except.ok.injEq, decide_eq_false_iff_not] at free
        exact .inr ⟨path, leads, free⟩
      · exact .inl ⟨rfl, rfl⟩

/-- A change that keeps to its file keeps the request to the file its id leads to, and that file
is not a baseline scenario by its topmost folder. -/
theorem guarded_touches
    (keeps : ∀ path other, other ≠ path → (change path).2.node other = layout.node other)
    {other : RelPath} (touched : (guarded layout id detail change).Touches layout other) :
    layout.LeadsTo id other ∧ other.topFolder ∉ baselineFolders := by
  unfold Outcome.Touches at touched
  rcases guarded_cases detail change layout id with ⟨same, none⟩ | ⟨path, leads, free⟩
  · rw [same, none] at touched
    exact absurd rfl (touched.resolve_left List.not_mem_nil)
  · rw [guarded_of_leadsTo detail change leads free] at touched
    obtain rfl : other = path := by
      by_contra different
      rcases touched with opened | changed
      · exact different (List.mem_singleton.mp opened)
      · exact changed (keeps path other different)
    exact ⟨leads, free⟩

end Guarded

/-- A deletion that is let through takes the file away. -/
theorem deleteScenario_of_leadsTo {path : RelPath} (leads : layout.LeadsTo id path)
    (free : path.topFolder ∉ baselineFolders) :
    deleteScenario layout id =
      { answer := .ok true, layout := layout.unlink path, opened := [path] } :=
  guarded_of_leadsTo _ _ leads free

theorem updateScenario_touches {content : String} {path : RelPath}
    (touched : (updateScenario libs layout id content).Touches layout path) :
    layout.LeadsTo id path ∧ path.topFolder ∉ baselineFolders :=
  guarded_touches _ _ (fun _ _ different => Layout.node_write_of_ne content different) touched

theorem deleteScenario_touches {path : RelPath}
    (touched : (deleteScenario layout id).Touches layout path) :
    layout.LeadsTo id path ∧ path.topFolder ∉ baselineFolders :=
  guarded_touches _ _ (fun _ _ different => Layout.node_unlink_of_ne different) touched

/-! ### Own scenarios -/

/-- The requests with an id touch only files that bear it. Those that succeed in writing leave
every file inside a baseline folder alone, and the record that is read says what the guard says. -/
structure TouchesOwn (libs : Libraries) (layout : Layout) (id : ScenarioId) : Prop where
  reads : ∀ path, (getScenario libs layout id).Touches layout path → stem path.name = id.text
  updates : ∀ content path, (updateScenario libs layout id content).Touches layout path →
    stem path.name = id.text
  deletes : ∀ path, (deleteScenario layout id).Touches layout path → stem path.name = id.text
  baselineUpdated : ∀ content hash, (updateScenario libs layout id content).answer = .ok hash →
    ∀ path : RelPath, path.InsideBaseline →
      (updateScenario libs layout id content).layout.node path = layout.node path
  baselineDeleted : ∀ answer, (deleteScenario layout id).answer = .ok answer →
    ∀ path : RelPath, path.InsideBaseline →
      (deleteScenario layout id).layout.node path = layout.node path
  agrees : ∀ record, (getScenario libs layout id).answer = .ok record →
    layout.isBaseline id = .ok record.isBaseline

/-- The file an id leads to bears it, and lies in no baseline folder at all or in one both at the
top and at the bottom. -/
def LeadsHome (layout : Layout) (id : ScenarioId) : Prop :=
  ∀ path, layout.LeadsTo id path →
    stem path.name = id.text ∧
      (¬ path.InsideBaseline ∨
        path.topFolder ∈ baselineFolders ∧ path.parentFolder ∈ baselineFolders)

/-- The requests with an id touch only its scenario exactly when the id leads home. -/
theorem touchesOwn_iff (libs : Libraries) (layout : Layout) (id : ScenarioId) :
    TouchesOwn libs layout id ↔ LeadsHome layout id := by
  constructor
  · intro own path leads
    refine ⟨own.reads path (.inl (getScenario_opened.mpr leads)), ?_⟩
    by_cases top : path.topFolder ∈ baselineFolders
    · -- the record must say what the guard says
      right
      refine ⟨top, ?_⟩
      obtain ⟨content, isFile⟩ := leads.2
      have agrees := own.agrees
      unfold getScenario at agrees
      rw [leads.1] at agrees
      dsimp only at agrees
      rw [isFile] at agrees
      have same := agrees _ rfl
      rw [isBaseline_of_leadsTo leads, Except.ok.injEq, decide_eq_true top] at same
      exact of_decide_eq_true same.symm
    · -- a deletion takes the file away
      left
      intro inside
      have kept := own.baselineDeleted true
      rw [deleteScenario_of_leadsTo leads top] at kept
      have same := kept rfl path inside
      rw [Layout.node_unlink_self] at same
      obtain ⟨content, isFile⟩ := leads.2
      rw [isFile] at same
      cases same
  · intro home
    have spared : ∀ path : RelPath, path.InsideBaseline →
        ¬ (layout.LeadsTo id path ∧ path.topFolder ∉ baselineFolders) := by
      rintro path inside ⟨leads, free⟩
      exact (home path leads).2.elim (fun outside => outside inside) fun both => free both.1
    refine ⟨fun path touched => ?_, fun content path touched => ?_, fun path touched => ?_,
      fun content hash _ path inside => ?_, fun answer _ path inside => ?_,
      fun record answered => ?_⟩
    · refine (home path (getScenario_opened.mp (touched.resolve_right fun changed => ?_))).1
      exact changed (congrArg (Layout.node · path) getScenario_layout)
    · exact (home path (updateScenario_touches touched).1).1
    · exact (home path (deleteScenario_touches touched).1).1
    · by_contra changed
      exact spared path inside (updateScenario_touches (.inr changed))
    · by_contra changed
      exact spared path inside (deleteScenario_touches (.inr changed))
    · obtain ⟨path, leads, recorded⟩ := getScenario_isBaseline answered
      rw [isBaseline_of_leadsTo leads, recorded, Except.ok.injEq, decide_eq_decide]
      refine ⟨fun top => ?_, fun parent => ?_⟩
      · exact ((home path leads).2.resolve_left
          (not_not.mpr (RelPath.insideBaseline_of_top top))).2
      · exact ((home path leads).2.resolve_left
          (not_not.mpr (RelPath.insideBaseline_of_parent parent))).1

/-- Two folders, one scenario in each. -/
def twoFolders : Layout where
  entries :=
    [({ folders := [], name := "集成测试" }, .folder),
      ({ folders := [], name := "COLREGs测试" }, .folder),
      ({ folders := ["集成测试"], name := "safe_route.yaml" }, .file "ownShip: {}"),
      ({ folders := ["COLREGs测试"], name := "colreg-rule14-ho.yaml" }, .file "metadata: {}")]
  distinct := by decide

/-- A star is accepted for an id. A request to delete it removes the first scenario there is. -/
theorem star_deletes_first :
    ¬ ∀ (libs : Libraries) (layout : Layout) (id : ScenarioId), TouchesOwn libs layout id := by
  intro own
  have bears := (own { sha256 := id, safeLoad := fun _ => none } twoFolders
    { text := "*", nonempty := by decide, oneSegment := by decide }).deletes
    { folders := ["集成测试"], name := "safe_route.yaml" } (.inr (by decide))
  revert bears
  decide

end MassL3.SilOrchestrator.Scenarios
