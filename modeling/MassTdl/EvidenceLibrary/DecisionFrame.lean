/-
This file translates the query behind the decision view. The query reads the segments of
the chain that cover an instant in the order of their starts and lets each set its field, so
of the rows of one field the last one decides; the rows of other fields leave it alone.

It also translates the verdicts of the gates: which row of `gate_results` each layer of the
evaluation report, each field of the batch summary and the artifact check becomes, and the
events for gates whose sources contradict each other.
-/

import MassTdl.EvidenceLibrary.Trace
import Mathlib.Data.Prod.Lex
import Mathlib.Data.String.Basic

namespace MassL3.EvidenceLibrary

/-! ### The query -/

structure GateRow (Text : Type) where
  scenario : Scenario
  gateId : String
  status : String
  temporalScope : String
  precedenceRank : Int
  conflictGroup : Option String
  payloadJson : Text
  source : String

/-- The tables that the query reads. -/
structure Tables (F Time Text : Type) where
  stateSegments : List (StateSegment Time Text)
  gateResults : List (GateRow Text)
  events : List (EventRow F Time Text)
  trajectorySamples : List (TrajectoryRow F Time)

structure ModuleChain (F : Type) where
  status : String := "UNKNOWN"
  statusSource : String := "diagnostic_availability"
  facts : Dict F

structure DecisionFrame (F Time Text : Type) where
  evidenceId : String
  scenarioId : String
  simT : Time
  ownShip : Option (TrajectoryRow F Time)
  targets : List (TrajectoryRow F Time)
  chain : List (String × ModuleChain F)
  gates : List (GateRow Text)
  nearbyEvents : List (EventRow F Time Text)

def expectedFields : List (String × List String) :=
  [("M2", ["primary_target_id", "cpa_m", "tcpa_s", "confidence"]),
    ("M6", ["rule", "role", "preferred_direction", "phase", "release_predicted"]),
    ("M4", ["behavior", "avoidance_active"]),
    ("M5", ["solver_status", "plan_status", "route_hash", "waypoint_count"]),
    ("L4", ["execution_state", "accepted", "rejected", "degraded", "reason"]),
    ("M7", ["alert_type", "severity", "recommended_mrm"])]

section Query

variable {F Time Text : Type} [LinearOrder Time]

/-- A module before any row: each expected field is unknown. -/
def ModuleChain.empty (fields : List String) : ModuleChain F :=
  { facts := fields.map fun field => (field, unknown) }

def emptyChain : List (String × ModuleChain F) :=
  expectedFields.map fun entry => (entry.1, ModuleChain.empty entry.2)

def ofScenario (evidenceId scenarioId : String) (scenario : Scenario) : Bool :=
  scenario.evidenceId == evidenceId && scenario.scenarioId == scenarioId

def StateSegment.key (segment : StateSegment Time Text) : String × String :=
  (segment.module, segment.field)

/-- `select max(s2.end_t) …`: the last end among the segments of the same field. -/
def lastEnd (segments : List (StateSegment Time Text)) (segment : StateSegment Time Text) :
    WithBot Time :=
  ((segments.filter fun other =>
    ofScenario segment.scenario.evidenceId segment.scenario.scenarioId other.scenario &&
      other.module == segment.module && other.field == segment.field).map
    StateSegment.endT).maximum

/-- The `where` clause of the query. -/
def covering (segments : List (StateSegment Time Text)) (evidenceId scenarioId : String)
    (simT : Time) (segment : StateSegment Time Text) : Bool :=
  ofScenario evidenceId scenarioId segment.scenario && segment.startT ≤ simT &&
    (simT < segment.endT ||
      (simT == segment.endT && lastEnd segments segment == segment.endT))

/-- `order by s.module, s.field, s.start_t`. -/
def StateSegment.order (segment : StateSegment Time Text) :
    Lex (String × Lex (String × Time)) :=
  toLex (segment.module, toLex (segment.field, segment.startT))

def inOrder (first second : StateSegment Time Text) : Bool :=
  first.order ≤ second.order

def stateRows (segments : List (StateSegment Time Text)) (evidenceId scenarioId : String)
    (simT : Time) : List (StateSegment Time Text) :=
  (segments.filter (covering segments evidenceId scenarioId simT)).mergeSort inOrder

/-- What a row of the query makes of a module. -/
def ModuleChain.set (loads : Text → Json F) (row : StateSegment Time Text) (module : String)
    (entry : ModuleChain F) : ModuleChain F :=
  if module = row.module then
    { entry with facts := put row.field (loads row.valueJson) entry.facts, status := "OK" }
  else entry

def setFact (loads : Text → Json F) (chain : List (String × ModuleChain F))
    (row : StateSegment Time Text) : List (String × ModuleChain F) :=
  chain.map fun entry => (entry.1, entry.2.set loads row entry.1)

variable [Add Time] [Sub Time] (python : Python F Time) (json : JsonText F)

/-- `abs(sim_t - ?)`. -/
def distance (simT other : Time) : Time :=
  let zero := python.time (python.ofNat 0)
  if other - simT < zero then zero - (other - simT) else other - simT

def queryDecisionFrame (tables : Tables F Time json.Text) (evidenceId scenarioId : String)
    (simT : Time) : DecisionFrame F Time json.Text :=
  let five := python.time (python.ofNat 5)
  { evidenceId := evidenceId
    scenarioId := scenarioId
    simT := simT
    ownShip := ((tables.trajectorySamples.filter fun row =>
      ofScenario evidenceId scenarioId row.scenario && row.vesselId == "OWN").mergeSort
      fun first second =>
        distance python simT first.simT ≤ distance python simT second.simT).head?
    targets := []
    chain := (stateRows tables.stateSegments evidenceId scenarioId simT).foldl
      (setFact json.loads) emptyChain
    gates := (tables.gateResults.filter fun gate =>
      ofScenario evidenceId scenarioId gate.scenario).mergeSort fun first second =>
        toLex (first.precedenceRank, first.gateId) ≤ toLex (second.precedenceRank, second.gateId)
    nearbyEvents := (tables.events.filter fun event =>
      ofScenario evidenceId scenarioId event.scenario &&
        decide (simT - five ≤ event.simT) && decide (event.simT ≤ simT + five)).mergeSort
      fun first second => first.simT ≤ second.simT }

/-- The value that a frame shows for a field of the chain. -/
def DecisionFrame.fact (frame : DecisionFrame F Time Text) (module field : String) :
    Option (Json F) :=
  (frame.chain.lookup module).bind fun entry => entry.facts.lookup field

end Query

/-! ### One field of the chain -/

section Facts

variable {F Time Text : Type}

/-- What a chain shows for a field. -/
def chainFact (chain : List (String × ModuleChain F)) (module field : String) :
    Option (Json F) :=
  (chain.lookup module).bind fun entry => entry.facts.lookup field

theorem lookup_setFact (loads : Text → Json F) (chain : List (String × ModuleChain F))
    (row : StateSegment Time Text) (module : String) :
    (setFact loads chain row).lookup module =
      (chain.lookup module).map (ModuleChain.set loads row module) :=
  lookup_map_entries (ModuleChain.set loads row) chain module

/-- The rows leave the modules of the chain what they are. -/
theorem known_foldl (loads : Text → Json F) (rows : List (StateSegment Time Text))
    {chain : List (String × ModuleChain F)} {module : String}
    (known : (chain.lookup module).isSome) :
    ((rows.foldl (setFact loads) chain).lookup module).isSome := by
  induction rows generalizing chain with
  | nil => exact known
  | cons row rows inductionHypothesis =>
    refine inductionHypothesis ?_
    rw [lookup_setFact, Option.isSome_map]
    exact known

/-- A row sets its own field and no other. -/
theorem chainFact_setFact (loads : Text → Json F) {chain : List (String × ModuleChain F)}
    {module field : String} (known : (chain.lookup module).isSome)
    (row : StateSegment Time Text) :
    chainFact (setFact loads chain row) module field =
      if row.key = (module, field) then some (loads row.valueJson)
      else chainFact chain module field := by
  obtain ⟨entry, isEntry⟩ := Option.isSome_iff_exists.mp known
  unfold chainFact
  rw [lookup_setFact, isEntry, Option.map_some, Option.bind_some, Option.bind_some,
    ModuleChain.set]
  have keyIff : row.key = (module, field) ↔ row.module = module ∧ row.field = field :=
    Prod.mk.injEq .. ▸ Iff.rfl
  by_cases sameModule : module = row.module
  · rw [if_pos sameModule, lookup_put]
    by_cases sameField : field = row.field
    · rw [if_pos sameField, if_pos (keyIff.mpr ⟨sameModule.symm, sameField.symm⟩)]
    · rw [if_neg sameField, if_neg fun same => sameField (keyIff.mp same).2.symm]
  · rw [if_neg sameModule, if_neg fun same => sameModule (keyIff.mp same).1.symm]

/-- After all rows a field shows the last row that is its own. -/
theorem chainFact_foldl (loads : Text → Json F) (rows : List (StateSegment Time Text))
    {chain : List (String × ModuleChain F)} {module field : String}
    (known : (chain.lookup module).isSome) :
    chainFact (rows.foldl (setFact loads) chain) module field =
      (rows.filter fun row => row.key = (module, field)).getLast?.elim
        (chainFact chain module field) fun row => some (loads row.valueJson) := by
  induction rows using List.reverseRecOn with
  | nil => rfl
  | append_singleton rows row inductionHypothesis =>
    rw [List.foldl_append, List.foldl_cons, List.foldl_nil,
      chainFact_setFact loads (known_foldl loads rows known) row, List.filter_append]
    by_cases own : row.key = (module, field)
    · rw [if_pos own, List.filter_cons_of_pos (by simpa using own), List.filter_nil,
        List.getLast?_append_cons, List.getLast?_singleton, Option.elim_some]
    · rw [if_neg own, List.filter_cons_of_neg (by simpa using own), List.filter_nil,
        List.append_nil]
      exact inductionHypothesis

end Facts

section Gates

variable {F Time : Type} (python : Python F Time) (json : JsonText F) (scenario : Scenario)

/-! ### Statuses -/

def boolStatus : Json F → String
  | .bool true => "PASS"
  | .bool false => "FAIL"
  | _ => "UNKNOWN"

/-- Whether `name in value`, and the exception of asking a value that has no members. -/
def Python.contains (name : String) : Json F → Except PyError Bool
  | .dict entries => .ok (entries.lookup name).isSome
  | .list items => .ok (items.any fun item => python.equal item (.str name))
  | .str text => .ok ((text.splitOn name).length != 1)
  | _ => .error .typeError

/-- `value.get(name)`, for dicts only. -/
def member (name : String) : Json F → Except PyError (Json F)
  | .dict entries => .ok (Dict.get entries name)
  | _ => .error .attributeError

def sourceStatus (payload : Json F) : Except PyError String := do
  if ← python.contains "passed" payload then
    return boolStatus (← member "passed" payload)
  if ← python.contains "overall_pass" payload then
    return boolStatus (← member "overall_pass" payload)
  return "UNKNOWN"

def complianceStatus : Json F → String
  | .str text =>
    let normalized := python.upper (python.strip text)
    if normalized = "PASS" ∨ normalized = "FAIL" then normalized else "UNKNOWN"
  | _ => "UNKNOWN"

/-! ### The rows -/

/-- `add(…)`. -/
def gateRow (gateId status temporalScope : String) (rank : Int) (payload : Json F)
    (source : String) : GateRow json.Text where
  scenario := scenario
  gateId := gateId
  status := status
  temporalScope := temporalScope
  precedenceRank := rank
  conflictGroup := none
  payloadJson := json.dumps payload
  source := source

def layerMap : List (String × String) :=
  [("L1_scenario_validity", "G-SCN"),
    ("L2_safety_floor", "G-SEP"),
    ("L3_dynamic_risk", "G-SEP"),
    ("L4_colregs_compliance", "G-SEM"),
    ("L5_route_recovery", "G-REL"),
    ("L6_seamanship", "G-REL"),
    ("L7_stability", "G-ACT")]

def layerRow (layers : Json F) (layerId gateId : String) :
    Except PyError (GateRow json.Text) := do
  let source := "TraceEvaluationReport.layers." ++ layerId
  match ← member layerId layers with
  | .null =>
    return gateRow json scenario gateId "UNKNOWN" "final_run_verdict" 20
      (.dict [("layer_id", .str layerId), ("missing", .bool true)]) source
  | payload =>
    return gateRow json scenario gateId (← sourceStatus python payload) "final_run_verdict" 20
      payload source

/-- `(batch_row.get(outer) or {}).get(inner)`. -/
def nested (row : Dict F) (outer inner : String) : Except PyError (Json F) :=
  member inner (python.or (Dict.get row outer) (.dict []))

def batchRow (gateId sourceField : String) (sourceValue : Json F) (status : Json F → String) :
    GateRow json.Text :=
  gateRow json scenario gateId (status sourceValue) "final_run_verdict" 10
    (.dict [("field", .str sourceField), ("value", sourceValue)]) sourceField

def batchRows (batch : Dict F) : Except PyError (List (GateRow json.Text)) := do
  let riskGate ← nested python batch "domain_gates" "risk_gate_ok"
  let phaseSemantics ← nested python batch "phase_semantics" "phase_semantics_ok"
  let seamanshipGate ← nested python batch "domain_gates" "seamanship_gate_ok"
  return [
    batchRow json scenario "G-SEP" "batch_summary.cpa_ok" (Dict.get batch "cpa_ok") boolStatus,
    batchRow json scenario "G-SEP" "batch_summary.domain_gates.risk_gate_ok" riskGate boolStatus,
    batchRow json scenario "G-SEM" "batch_summary.phase_semantics.phase_semantics_ok"
      phaseSemantics boolStatus,
    batchRow json scenario "G-SEM" "batch_summary.compliance_verdict"
      (Dict.get batch "compliance_verdict") (complianceStatus python),
    batchRow json scenario "G-ACT" "batch_summary.stability_pass"
      (Dict.get batch "stability_pass") boolStatus,
    batchRow json scenario "G-REL" "batch_summary.returned_to_route"
      (Dict.get batch "returned_to_route") boolStatus,
    batchRow json scenario "G-REL" "batch_summary.route_corridor_ok"
      (Dict.get batch "route_corridor_ok") boolStatus,
    batchRow json scenario "G-REL" "batch_summary.domain_gates.seamanship_gate_ok"
      seamanshipGate boolStatus]

def artifactRow (consistency : Json F) : Except PyError (GateRow json.Text) := do
  if python.truthy consistency then
    return gateRow json scenario "G-ART" (boolStatus (← member "g_art_ok" consistency))
      "artifact_consistency" 5 consistency "artifact_consistency"
  return gateRow json scenario "G-ART" "UNKNOWN" "artifact_consistency" 5 (.dict [])
    "artifact_consistency"

/-! ### Conflicts -/

/-- The keys of `by_gate`, in the order in which they come up. -/
def gateIds (rows : List (GateRow json.Text)) : List String :=
  (rows.map GateRow.gateId).foldl (fun seen gateId =>
    if gateId ∈ seen then seen else seen ++ [gateId]) []

/-- The known statuses of a gate are not all the same. -/
def conflicting (rows : List (GateRow json.Text)) (gateId : String) : Bool :=
  rows.any fun first => rows.any fun second =>
    first.gateId == gateId && second.gateId == gateId && first.status != "UNKNOWN" &&
      second.status != "UNKNOWN" && first.status != second.status

def conflictGroup (gateId : String) : String :=
  scenario.scenarioId ++ ":" ++ gateId ++ ":conflict"

def conflictEvent (rows : List (GateRow json.Text)) (gateId : String) :
    EventRow F Time json.Text where
  scenario := scenario
  simT := python.time (python.ofNat 0)
  wallT := .null
  module := "GATE"
  eventType := "gate_conflict"
  severity := "warn"
  payloadJson := json.dumps (.dict [
    ("conflict_group", .str (conflictGroup scenario gateId)),
    ("gate_id", .str gateId),
    ("sources", .list ((rows.filter fun row => row.gateId == gateId).map fun row =>
      .dict [("source", .str row.source), ("status", .str row.status)]))])
  sourceTopic := "gate_conflict"

def gateRows (report batch : Dict F) (artifactConsistency : Json F) :
    Except PyError (List (GateRow json.Text) × List (EventRow F Time json.Text)) := do
  let layers := python.or (Dict.get report "layers") (.dict [])
  let fromLayers ← layerMap.mapM fun entry =>
    layerRow python json scenario layers entry.1 entry.2
  let fromBatch ← batchRows python json scenario batch
  let fromArtifacts ← artifactRow python json scenario artifactConsistency
  let rows := fromLayers ++ fromBatch ++ [fromArtifacts]
  let conflicts := (gateIds json rows).filter (conflicting json rows)
  return (rows.map fun row =>
      if row.gateId ∈ conflicts then
        { row with conflictGroup := some (conflictGroup scenario row.gateId) }
      else row,
    conflicts.map (conflictEvent python json scenario rows))

end Gates

end MassL3.EvidenceLibrary
