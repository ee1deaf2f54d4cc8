/-
This file translates the scenario store: how the id of a request is turned into a file below the
scenario directory, and what the requests to read, replace and delete a scenario do with it.

An id is looked for directly in the directory first, and then by a recursive search in which it is
part of a pattern. The first entry that matches is taken. The guard of the writing requests looks
at the topmost folder of that entry, the record of the reading request at the innermost.
-/

import MassTdl.Wildcards

namespace MassL3.SilOrchestrator.Scenarios

/-! ### The scenario directory -/

/-- An entry below the scenario directory: the folders on the way to it, from the top, and its
name. -/
structure RelPath where
  folders : List String
  name : String
  deriving DecidableEq

inductive Node where
  | file (content : String)
  | folder
  deriving DecidableEq

/-- The entries below the scenario directory, in the order in which the recursive search comes to
them. No two of them have one path. -/
structure Layout where
  entries : List (RelPath × Node)
  distinct : (entries.map Prod.fst).Nodup

namespace Layout

variable (layout : Layout) (path : RelPath)

/-- What is found at a path. -/
def node : Option Node :=
  (layout.entries.find? fun entry => entry.1 = path).map Prod.snd

/-- The file at a path gets another content. -/
def write (content : String) : Layout where
  entries := layout.entries.map fun entry =>
    if entry.1 = path then (entry.1, .file content) else entry
  distinct := by
    have kept : (layout.entries.map fun entry =>
        if entry.1 = path then (entry.1, Node.file content) else entry).map Prod.fst =
          layout.entries.map Prod.fst := by
      rw [List.map_map]
      refine List.map_congr_left fun entry _ => ?_
      rw [Function.comp_apply]
      split <;> rfl
    rw [kept]
    exact layout.distinct

/-- The file at a path is removed. -/
def unlink : Layout where
  entries := layout.entries.filter fun entry => entry.1 ≠ path
  distinct := layout.distinct.sublist (List.filter_sublist.map Prod.fst)

variable {layout path} {other : RelPath}

theorem node_write_of_ne (content : String) (different : other ≠ path) :
    (layout.write path content).node other = layout.node other := by
  unfold node write
  dsimp only
  induction layout.entries with
  | nil => rfl
  | cons first rest inductionHypothesis =>
    rw [List.map_cons]
    by_cases here : first.1 = other
    · have elsewhere : first.1 ≠ path := fun same => different (here.symm.trans same)
      rw [if_neg elsewhere, List.find?_cons_of_pos (by simpa using here),
        List.find?_cons_of_pos (by simpa using here)]
    · rw [List.find?_cons_of_neg (by split <;> simpa using here),
        List.find?_cons_of_neg (by simpa using here)]
      exact inductionHypothesis

theorem node_unlink_self : (layout.unlink path).node path = none := by
  unfold node unlink
  rw [Option.map_eq_none_iff, List.find?_eq_none]
  intro entry member
  simpa using (List.mem_filter.mp member).2

theorem node_unlink_of_ne (different : other ≠ path) :
    (layout.unlink path).node other = layout.node other := by
  unfold node unlink
  dsimp only
  induction layout.entries with
  | nil => rfl
  | cons first rest inductionHypothesis =>
    by_cases here : first.1 = other
    · have elsewhere : first.1 ≠ path := fun same => different (here.symm.trans same)
      rw [List.filter_cons_of_pos (by simpa using elsewhere),
        List.find?_cons_of_pos (by simpa using here), List.find?_cons_of_pos (by simpa using here)]
    · rw [List.find?_cons_of_neg (by simpa using here), ← inductionHypothesis]
      by_cases removed : first.1 = path
      · rw [List.filter_cons_of_neg (by simpa using removed)]
      · rw [List.filter_cons_of_pos (by simpa using removed),
          List.find?_cons_of_neg (by simpa using here)]

end Layout

/-! ### Ids and folders -/

/-- An id as the routes accept it: one segment of a path, and not an empty one. -/
structure ScenarioId where
  text : String
  nonempty : text.toList ≠ []
  oneSegment : '/' ∉ text.toList

def ScenarioId.fileName (id : ScenarioId) : String := id.text ++ ".yaml"

/-- `Path.stem`: the name up to its last dot, if there is something on both sides of it. -/
def stem (name : String) : String :=
  match name.toList.reverse.dropWhile (· ≠ '.') with
  | _ :: front =>
      if front = [] ∨ name.toList.reverse.takeWhile (· ≠ '.') = [] then name
      else String.ofList front.reverse
  | [] => name

/-- `BASELINE_FOLDERS`. -/
def baselineFolders : List String := ["IMAZU标准测试", "COLREGs测试", "ais_accident"]

/-- The topmost folder, as `_folder_for` gives it. -/
def RelPath.topFolder (path : RelPath) : String := path.folders.head?.getD "root"

/-- The innermost folder, as `get` finds it. -/
def RelPath.parentFolder (path : RelPath) : String := path.folders.getLast?.getD "root"

/-- Some folder on the way is a baseline folder. -/
def RelPath.InsideBaseline (path : RelPath) : Prop :=
  ∃ folder ∈ path.folders, folder ∈ baselineFolders

instance (path : RelPath) : Decidable path.InsideBaseline :=
  inferInstanceAs (Decidable (∃ folder ∈ path.folders, folder ∈ baselineFolders))

theorem RelPath.insideBaseline_of_top {path : RelPath}
    (top : path.topFolder ∈ baselineFolders) : path.InsideBaseline := by
  unfold topFolder at top
  cases first : path.folders.head? with
  | none =>
    rw [first] at top
    exact absurd top (by decide)
  | some folder =>
    rw [first] at top
    exact ⟨folder, List.mem_of_mem_head? first, top⟩

theorem RelPath.insideBaseline_of_parent {path : RelPath}
    (parent : path.parentFolder ∈ baselineFolders) : path.InsideBaseline := by
  unfold parentFolder at parent
  cases last : path.folders.getLast? with
  | none =>
    rw [last] at parent
    exact absurd parent (by decide)
  | some folder =>
    rw [last] at parent
    exact ⟨folder, List.mem_of_mem_getLast? last, parent⟩

/-! ### The search for a scenario -/

/-- What the library raises: a pattern in which two stars stand side by side, and a folder that is
opened as a file. -/
inductive StoreError where
  | invalidPattern
  | isADirectory
  deriving DecidableEq

/-- `_path_for`. -/
def Layout.pathFor (layout : Layout) (id : ScenarioId) : Except StoreError (Option RelPath) :=
  let flat : RelPath := { folders := [], name := id.fileName }
  if (layout.node flat).isSome then .ok (some flat)
  else if ['*', '*'] <:+: id.fileName.toList then .error .invalidPattern
  else
    .ok ((layout.entries.find? fun entry =>
      Wildcards.fits (Wildcards.pieces id.fileName.toList) entry.1.name.toList).map Prod.fst)

/-- `is_baseline`. -/
def Layout.isBaseline (layout : Layout) (id : ScenarioId) : Except StoreError Bool :=
  match layout.pathFor id with
  | .error error => .error error
  | .ok none => .ok false
  | .ok (some path) => .ok (decide (path.topFolder ∈ baselineFolders))

/-! ### Requests -/

/-- A document as the YAML library reads it. -/
inductive Yaml where
  | mapping (get : String → Option Yaml)
  | other (text : String)

/-- The hash and the YAML reader, which fails on a document that is not YAML. -/
structure Libraries where
  sha256 : String → String
  safeLoad : String → Option Yaml

structure ScenarioRecord where
  yamlContent : String
  hash : String
  backend : Yaml
  isBaseline : Bool

/-- The backend named in the metadata of a document. -/
def backendOf : Option Yaml → Yaml
  | some (.mapping document) =>
      match (document "metadata").getD (.mapping fun _ => none) with
      | .mapping metadata =>
          match (metadata "simulation_settings").getD (.mapping fun _ => none) with
          | .mapping settings => (settings "backend").getD (.other "ros2")
          | .other _ => .other "ros2"
      | .other _ => .other "ros2"
  | _ => .other "ros2"

inductive Failure where
  | http (status : Nat) (detail : String)
  | raised (error : StoreError)
  deriving DecidableEq

/-- What a request answers, the directory it leaves, and the files it has opened or removed. -/
structure Outcome (Answer : Type) where
  answer : Except Failure Answer
  layout : Layout
  opened : List RelPath := []

variable (libs : Libraries) (layout : Layout) (id : ScenarioId)

def notFound : Failure := .http 404 "Scenario not found"

/-- `get_scenario`. -/
def getScenario : Outcome ScenarioRecord :=
  match layout.pathFor id with
  | .error error => { answer := .error (.raised error), layout }
  | .ok none => { answer := .error notFound, layout }
  | .ok (some path) =>
      match layout.node path with
      | some (.file content) =>
          { answer := .ok
              { yamlContent := content
                hash := libs.sha256 content
                backend := backendOf (libs.safeLoad content)
                isBaseline := path.parentFolder ∈ baselineFolders }
            layout
            opened := [path] }
      | _ => { answer := .error (.raised .isADirectory), layout }

/-- The guard of the two writing requests, and what they do with the file they are let to. -/
def guarded {Answer : Type} (detail : String)
    (change : RelPath → Answer × Layout) : Outcome Answer :=
  match layout.isBaseline id with
  | .error error => { answer := .error (.raised error), layout }
  | .ok true => { answer := .error (.http 409 detail), layout }
  | .ok false =>
      match layout.pathFor id with
      | .error error => { answer := .error (.raised error), layout }
      | .ok none => { answer := .error notFound, layout }
      | .ok (some path) =>
          match layout.node path with
          | some (.file _) =>
              { answer := .ok (change path).1
                layout := (change path).2
                opened := [path] }
          | _ => { answer := .error (.raised .isADirectory), layout }

/-- `update_scenario`, which answers with the hash of the new content. -/
def updateScenario (content : String) : Outcome String :=
  guarded layout id "Baseline scenarios are read-only. Use POST /scenarios to duplicate."
    fun path => (libs.sha256 content, layout.write path content)

/-- `delete_scenario`. -/
def deleteScenario : Outcome Bool :=
  guarded layout id "Baseline scenarios are read-only and cannot be deleted."
    fun path => (true, layout.unlink path)

end MassL3.SilOrchestrator.Scenarios
