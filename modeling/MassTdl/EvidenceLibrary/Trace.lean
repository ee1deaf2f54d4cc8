/-
This file translates the reading of a recorded trace into rows of the evidence index: the
positions of the vessels, the recorded events, and for each field of the decision chain the
segments of time over which it kept one value. A row of the trace is the object of one line.
A field of the chain is read from a row by the getter its topic lists for it; a value that
equals the one the field already holds leaves its segment open.

What the rows go through in Python itself is a parameter: its equality, its conversions and
its arithmetic on floats. Nothing is assumed of them. The text of a JSON document is only
ever written and read back, so it is a parameter too, of which only that much is assumed.
-/

import MassTdl.Timelines

namespace MassL3.EvidenceLibrary

/-! ### Values -/

/-- A value as `json.loads` builds it, over the type of Python's floats. The entries of a
dict stand in the order of their keys: they are looked up and written sorted. -/
inductive Json (F : Type) where
  | null
  | bool (value : Bool)
  | int (value : Int)
  | float (value : F)
  | str (text : String)
  | list (items : List (Json F))
  | dict (entries : List (String × Json F))

abbrev Dict (F : Type) := List (String × Json F)

/-- `row.get(key)`. -/
def Dict.get {F : Type} (row : Dict F) (key : String) : Json F :=
  (row.lookup key).getD .null

/-- The exceptions that reading a session can raise. -/
inductive PyError where
  | typeError
  | valueError
  | overflowError
  | attributeError
  | keyError
  /-- A file is missing or cannot be read. -/
  | osError
  /-- A text is no JSON. -/
  | decodeError
  /-- The database refuses a row. -/
  | databaseError
  deriving DecidableEq

/-- Python's own operations on these values. -/
structure Python (F Time : Type) where
  /-- `==`. -/
  equal : Json F → Json F → Bool
  str : Json F → String
  strip : String → String
  lower : String → String
  upper : String → String
  /-- `int()` of a text. -/
  parseInt : String → Except PyError Int
  /-- `float()`. -/
  float : Json F → Except PyError F
  /-- `int()` of a float. -/
  truncate : F → Except PyError Int
  /-- Where a float stands among the times. -/
  time : F → Time
  ofNat : Nat → F
  isZero : F → Bool
  isNegative : F → Bool
  isfinite : F → Bool
  add : F → F → F
  sub : F → F → F
  mul : F → F → F
  div : F → F → F
  mod : F → F → F
  radians : F → F
  degrees : F → F
  sin : F → F
  cos : F → F
  asin : F → F
  atan2 : F → F → F

/-- The text of JSON documents: what `json.dumps(…, sort_keys=True)` writes, `json.loads`
reads back. -/
structure JsonText (F : Type) where
  Text : Type
  dumps : Json F → Text
  loads : Text → Json F
  loads_dumps : ∀ value, loads (dumps value) = value

section Getters

variable {F Time : Type} (python : Python F Time)

/-- What `or` takes for true. -/
def Python.truthy : Json F → Bool
  | .null => false
  | .bool value => value
  | .int value => value != 0
  | .float value => !python.isZero value
  | .str text => text != ""
  | .list items => !items.isEmpty
  | .dict entries => !entries.isEmpty

/-- `first or second`. -/
def Python.or (first second : Json F) : Json F :=
  if python.truthy first then first else second

/-- A getter of the table: the value a row gives a field. -/
abbrev Getter (F : Type) := Dict F → Except PyError (Json F)

def unknown : Json F := .str "UNKNOWN"

def firstPresent (row : Dict F) : List String → Json F
  | [] => unknown
  | key :: keys =>
    match row.lookup key with
    | some value => value
    | none => firstPresent row keys

def firstRule (row : Dict F) : Json F :=
  match row.lookup "rule" with
  | some rule => rule
  | none =>
    match Dict.get row "active_rules" with
    | .list (.dict first :: _) =>
      match Dict.get first "rule_id" with
      | .null => unknown
      | ruleId => .str ("Rule" ++ python.str ruleId)
    | _ => unknown

/-- `{0: "stand_on", …}.get(role, role)`. -/
def roleName (role : Int) : Json F :=
  if role = 0 then .str "stand_on"
  else if role = 1 then .str "give_way"
  else if role = 2 then .str "both_give_way"
  else if role = 3 then .str "free"
  else .int role

def roleLabel : Json F → Except PyError (Json F)
  | .str text =>
    if text = "UNKNOWN" then .ok (.str text)
    else if python.strip text ≠ "" then .ok (.str (python.strip text))
    -- `int()` of a blank text raises a ValueError
    else .ok (.str text)
  | .bool value => .ok (roleName (if value then 1 else 0))
  | .int value => .ok (roleName value)
  | .float value =>
    match python.truncate value with
    | .ok role => .ok (roleName role)
    | .error .typeError | .error .valueError => .ok (.float value)
    | .error raised => .error raised
  | value => .ok value

/-- `lambda row: _first_present(row, …)`. -/
def present (keys : List String) : Getter F := fun row => .ok (firstPresent row keys)

def worldStateFields : List (String × Getter F) :=
  [("primary_target_id", present ["primary_target_id", "target_id", "colregs_chain_target_id"]),
    ("cpa_m", present ["cpa_m", "primary_cpa_m"]),
    ("tcpa_s", present ["tcpa_s", "primary_tcpa_s"]),
    ("confidence", present ["confidence"])]

def colregsFields : List (String × Getter F) :=
  [("rule", fun row => .ok (firstRule python row)),
    ("role", fun row => roleLabel python (firstPresent row ["role", "primary_role"])),
    ("preferred_direction", present ["preferred_direction", "primary_preferred_direction"]),
    ("phase", present ["phase"]),
    ("release_predicted", present ["release_predicted"])]

def planFields : List (String × Getter F) :=
  [("solver_status", present ["solver_status"]),
    ("plan_status", present ["plan_status"]),
    ("route_hash", present ["route_hash", "plan_id"]),
    ("waypoint_count", present ["waypoint_count", "n_waypoints", "segment_source_count"])]

def guidanceFields : List (String × Getter F) :=
  [("execution_state", present ["execution_state"]),
    ("accepted", present ["accepted"]),
    ("rejected", present ["rejected"]),
    ("degraded", present ["degraded"]),
    ("reason", present ["reason"])]

/-- The topics that feed the chain, each with its module and the getters of its fields. -/
def expectedStateFields : List (String × String × List (String × Getter F)) :=
  [("/l3/m2/world_state", "M2", worldStateFields),
    ("/l3/m6/colregs", "M6", colregsFields python),
    ("/l3/m6/colregs_constraint", "M6", colregsFields python),
    ("/l3/m5/trajectory", "M5", planFields),
    ("/l3/m5/avoidance_plan", "M5", planFields),
    ("/l4/guidance", "L4", guidanceFields)]

/-! ### Positions -/

def asFloat (value : Json F) : Except PyError (Option F) :=
  match python.float value with
  | .ok result => .ok (if python.isfinite result then some result else none)
  | .error .typeError | .error .valueError => .ok none
  | .error raised => .error raised

def projectRelativePosition (lat lon bearingDeg rangeM : Json F) :
    Except PyError (Json F × Json F) := do
  let originLat ← asFloat python lat
  let originLon ← asFloat python lon
  let bearing ← asFloat python bearingDeg
  let distanceM ← asFloat python rangeM
  match originLat, originLon, bearing, distanceM with
  | some originLat, some originLon, some bearing, some distanceM =>
    if python.isNegative distanceM then return (.null, .null)
    let radiusM := python.ofNat 6371000
    let angularDistance := python.div distanceM radiusM
    let bearingRad := python.radians bearing
    let lat1 := python.radians originLat
    let lon1 := python.radians originLon
    let lat2 := python.asin (python.add
      (python.mul (python.sin lat1) (python.cos angularDistance))
      (python.mul (python.mul (python.cos lat1) (python.sin angularDistance))
        (python.cos bearingRad)))
    let lon2 := python.add lon1 (python.atan2
      (python.mul (python.mul (python.sin bearingRad) (python.sin angularDistance))
        (python.cos lat1))
      (python.sub (python.cos angularDistance)
        (python.mul (python.sin lat1) (python.sin lat2))))
    let normalizedLon := python.sub
      (python.mod (python.add (python.degrees lon2) (python.ofNat 540)) (python.ofNat 360))
      (python.ofNat 180)
    return (.float (python.degrees lat2), .float normalizedLon)
  | _, _, _, _ => return (.null, .null)

end Getters

/-! ### Rows -/

/-- What every row of the index begins with. -/
structure Scenario where
  evidenceId : String
  sessionId : String
  scenarioId : String
  deriving DecidableEq

structure TrajectoryRow (F Time : Type) where
  scenario : Scenario
  vesselId : String
  vesselRole : String
  simT : Time
  wallT : Json F
  lat : Json F
  lon : Json F
  headingDeg : Json F
  sogKn : Json F
  rotDegS : Json F
  sourceTopic : String
  sampleSeq : Nat

structure EventRow (F Time Text : Type) where
  scenario : Scenario
  simT : Time
  wallT : Json F
  module : String
  eventType : String
  severity : String
  payloadJson : Text
  sourceTopic : String

structure StateSegment (Time Text : Type) where
  scenario : Scenario
  module : String
  field : String
  startT : Time
  endT : Time
  valueJson : Text
  sourceTopic : String

/-! ### Dicts that are written -/

/-- `d[key] = value`: a new key comes last. -/
def put {Key Value : Type} [DecidableEq Key] (key : Key) (value : Value) :
    List (Key × Value) → List (Key × Value)
  | [] => [(key, value)]
  | (other, held) :: rest =>
    if other = key then (key, value) :: rest else (other, held) :: put key value rest

variable {Key Value : Type}

theorem lookup_cons_of_ne [BEq Key] [LawfulBEq Key] {sought other : Key} (isOther : sought ≠ other)
    (value : Value) (rest : List (Key × Value)) :
    ((other, value) :: rest).lookup sought = rest.lookup sought := by
  rw [List.lookup_cons, beq_eq_false_iff_ne.mpr isOther]

theorem lookup_put [DecidableEq Key] [BEq Key] [LawfulBEq Key] (key : Key) (value : Value)
    (dict : List (Key × Value)) (sought : Key) :
    (put key value dict).lookup sought =
      if sought = key then some value else dict.lookup sought := by
  induction dict with
  | nil =>
    by_cases isKey : sought = key
    · rw [isKey, put, List.lookup_cons_self, if_pos rfl]
    · rw [put, lookup_cons_of_ne isKey, if_neg isKey]
  | cons entry rest inductionHypothesis =>
    obtain ⟨other, held⟩ := entry
    rw [put]
    by_cases isOther : other = key
    · subst isOther
      rw [if_pos rfl]
      by_cases isKey : sought = other
      · rw [isKey, List.lookup_cons_self, if_pos rfl]
      · rw [lookup_cons_of_ne isKey, lookup_cons_of_ne isKey, if_neg isKey]
    · rw [if_neg isOther]
      by_cases found : sought = other
      · rw [found, List.lookup_cons_self, List.lookup_cons_self, if_neg isOther]
      · rw [lookup_cons_of_ne found, lookup_cons_of_ne found, inductionHypothesis]

variable {dict : List (Key × Value)}

theorem keys_put [DecidableEq Key] {key : Key} {value : Value} {other : Key}
    (member : other ∈ (put key value dict).map Prod.fst) :
    other = key ∨ other ∈ dict.map Prod.fst := by
  induction dict with
  | nil => exact Or.inl (List.mem_singleton.mp member)
  | cons entry rest inductionHypothesis =>
    rw [put] at member
    split at member
    · rcases List.mem_cons.mp member with isKey | inRest
      · exact Or.inl isKey
      · exact Or.inr (List.mem_cons_of_mem _ inRest)
    · rcases List.mem_cons.mp member with isHead | inRest
      · exact Or.inr (isHead ▸ List.mem_cons_self)
      · exact (inductionHypothesis inRest).imp id (List.mem_cons_of_mem _)

theorem nodup_put [DecidableEq Key] (key : Key) (value : Value)
    (distinct : (dict.map Prod.fst).Nodup) :
    ((put key value dict).map Prod.fst).Nodup := by
  induction dict with
  | nil => exact List.nodup_cons.mpr ⟨List.not_mem_nil, List.nodup_nil⟩
  | cons entry rest inductionHypothesis =>
    obtain ⟨notInRest, restDistinct⟩ := List.nodup_cons.mp distinct
    rw [put]
    split
    · rename_i isKey
      exact List.nodup_cons.mpr ⟨isKey ▸ notInRest, restDistinct⟩
    · rename_i isOther
      refine List.nodup_cons.mpr ⟨fun member => ?_, inductionHypothesis restDistinct⟩
      exact (keys_put member).elim isOther notInRest

/-- With distinct keys, the entries of one key are what it is looked up as. -/
theorem filter_key [DecidableEq Key] [BEq Key] [LawfulBEq Key] (key : Key)
    (distinct : (dict.map Prod.fst).Nodup) :
    dict.filter (fun entry => entry.1 = key) =
      ((dict.lookup key).map fun value => (key, value)).toList := by
  induction dict with
  | nil => rfl
  | cons entry rest inductionHypothesis =>
    obtain ⟨other, value⟩ := entry
    obtain ⟨notInRest, restDistinct⟩ := List.nodup_cons.mp distinct
    by_cases isKey : other = key
    · subst isKey
      have nothingLeft : rest.filter (fun entry => entry.1 = other) = [] := by
        refine List.filter_eq_nil_iff.mpr fun entry member isSame => notInRest ?_
        have isKey : entry.1 = other := of_decide_eq_true isSame
        exact List.mem_map.mpr ⟨entry, member, isKey⟩
      rw [List.filter_cons_of_pos (by simp), nothingLeft, List.lookup_cons_self]
      rfl
    · rw [List.filter_cons_of_neg (by simpa using isKey), inductionHypothesis restDistinct,
        lookup_cons_of_ne (Ne.symm isKey)]

theorem lookup_map_entries {Key Value Other : Type} [BEq Key] [LawfulBEq Key]
    (change : Key → Value → Other) (dict : List (Key × Value)) (sought : Key) :
    (dict.map fun entry => (entry.1, change entry.1 entry.2)).lookup sought =
      (dict.lookup sought).map (change sought) := by
  induction dict with
  | nil => rfl
  | cons entry rest inductionHypothesis =>
    obtain ⟨key, value⟩ := entry
    rw [List.map_cons]
    by_cases isKey : sought = key
    · rw [isKey, List.lookup_cons_self, List.lookup_cons_self]
      rfl
    · rw [lookup_cons_of_ne isKey, lookup_cons_of_ne isKey, inductionHypothesis]

theorem lookup_map_const [BEq Key] [LawfulBEq Key] (value : Value) {keys : List Key} {sought : Key}
    (member : sought ∈ keys) :
    (keys.map fun key => (key, value)).lookup sought = some value := by
  induction keys with
  | nil => exact absurd member List.not_mem_nil
  | cons key keys inductionHypothesis =>
    rw [List.map_cons]
    by_cases isKey : sought = key
    · rw [isKey, List.lookup_cons_self]
    · rw [lookup_cons_of_ne isKey]
      exact inductionHypothesis ((List.mem_cons.mp member).resolve_left isKey)

theorem mem_of_lookup [BEq Key] [LawfulBEq Key] {key : Key} {value : Value}
    (found : dict.lookup key = some value) : (key, value) ∈ dict := by
  obtain ⟨before, after, rfl, -⟩ := List.lookup_eq_some_iff.mp found
  exact List.mem_append_right _ List.mem_cons_self

/-! ### The trace -/

section Rows

variable {F Time : Type} [LinearOrder Time] (python : Python F Time) (json : JsonText F)
  (scenario : Scenario)

/-- What the loop over the rows has gathered. -/
structure TraceLoop (F Time Text : Type) where
  trajectory : List (TrajectoryRow F Time) := []
  events : List (EventRow F Time Text) := []
  states : List (StateSegment Time Text) := []
  /-- For a module and a field: since when, which value, from which topic. -/
  lastState : List ((String × String) × (Time × Json F × String)) := []
  finalT : Time

/-- The segment that `close_state` writes. -/
def closedSegment (key : String × String) (endT : Time) (held : Time × Json F × String) :
    StateSegment Time json.Text where
  scenario := scenario
  module := key.1
  field := key.2
  startT := held.1
  endT := endT
  valueJson := json.dumps held.2.1
  sourceTopic := held.2.2

def setState (loop : TraceLoop F Time json.Text) (module field : String) (simT : Time)
    (value : Json F) (topic : String) : TraceLoop F Time json.Text :=
  let key := (module, field)
  match loop.lastState.lookup key with
  | some previous =>
    if python.equal previous.2.1 value then loop
    else { loop with
      states := loop.states ++ [closedSegment json scenario key simT previous]
      lastState := put key (simT, value, topic) loop.lastState }
  | none => { loop with lastState := put key (simT, value, topic) loop.lastState }

def rowTopic (row : Dict F) : String :=
  python.str (python.or (python.or (Dict.get row "topic") (Dict.get row "source_topic"))
    (.str ""))

/-- `float(row.get("sim_t", row.get("t", 0.0)) or 0.0)`. -/
def rowTime (row : Dict F) : Except PyError Time := do
  let zero : Json F := .float (python.ofNat 0)
  let written := (row.lookup "sim_t").getD ((row.lookup "t").getD zero)
  return python.time (← python.float (python.or written zero))

/-- The snapshot of its module that a row carries: its fields, each through its getter. -/
def setFields (module topic : String) (simT : Time) (row : Dict F) :
    List (String × Getter F) → TraceLoop F Time json.Text →
      Except PyError (TraceLoop F Time json.Text)
  | [], loop => .ok loop
  | (field, getter) :: fields, loop => do
    let value ← getter row
    setFields module topic simT row fields
      (setState python json scenario loop module field simT value topic)

/-- The row of a topic that feeds the chain sets the fields of its module. -/
def setSnapshot (topic : String) (simT : Time) (row : Dict F)
    (loop : TraceLoop F Time json.Text) : Except PyError (TraceLoop F Time json.Text) :=
  match (expectedStateFields python).lookup topic with
  | some (module, fields) => setFields python json scenario module topic simT row fields loop
  | none => .ok loop

def ownShipRow (topic : String) (simT : Time) (seq : Nat) (row : Dict F) :
    List (TrajectoryRow F Time) :=
  if topic = "/sil/own_ship_state" then
    [⟨scenario, "OWN", "ownship", simT, Dict.get row "wall_t", Dict.get row "lat",
      Dict.get row "lon", Dict.get row "heading_deg", Dict.get row "sog_kn",
      Dict.get row "rot_deg_s", topic, seq⟩]
  else if topic = "/l3/m2/world_state" ∧
      ((row.lookup "own_lat").isSome ∨ (row.lookup "own_lon").isSome) then
    [⟨scenario, "OWN", "ownship", simT, Dict.get row "wall_t", Dict.get row "own_lat",
      Dict.get row "own_lon", Dict.get row "own_heading_deg", Dict.get row "own_sog_kn", .null,
      topic, seq⟩]
  else []

/-- `value is None`. -/
def Json.isNull : Json F → Bool
  | .null => true
  | _ => false

def targetRow (topic : String) (simT : Time) (seq : Nat) (row : Dict F) :
    Except PyError (List (TrajectoryRow F Time)) := do
  if topic ≠ "/l3/m2/world_state" then return []
  let targetId := python.str (python.or
    (python.or (Dict.get row "target_id") (Dict.get row "primary_target_id")) unknown)
  let lat := Dict.get row "target_lat"
  let lon := Dict.get row "target_lon"
  let (targetLat, targetLon) ←
    if lat.isNull || lon.isNull then
      projectRelativePosition python (Dict.get row "own_lat") (Dict.get row "own_lon")
        (Dict.get row "primary_brg_deg") (Dict.get row "primary_rng_m")
    else pure (lat, lon)
  return [⟨scenario, targetId, "target", simT, Dict.get row "wall_t", targetLat, targetLon,
    (row.lookup "target_heading_deg").getD (Dict.get row "primary_target_heading_deg"),
    (row.lookup "target_sog_kn").getD (Dict.get row "primary_target_sog_kn"), .null, topic, seq⟩]

def asdrEvent (topic : String) (simT : Time) (row : Dict F) :
    List (EventRow F Time json.Text) :=
  if topic = "/l3/asdr/record" then
    [⟨scenario, simT, Dict.get row "wall_t",
      python.str (python.or (Dict.get row "module") (.str "ASDR")),
      python.str (python.or (python.or (Dict.get row "event_type") (Dict.get row "k"))
        (.str "ASDR")),
      python.str (python.or (Dict.get row "severity") (.str "info")),
      json.dumps (python.or (Dict.get row "payload") (.dict row)), topic⟩]
  else []

/-- The body of the loop, for the row of one line. -/
def traceRow (loop : TraceLoop F Time json.Text) (seq : Nat) (row : Dict F) :
    Except PyError (TraceLoop F Time json.Text) := do
  let topic := rowTopic python row
  let simT ← rowTime python row
  let loop ← setSnapshot python json scenario topic simT row { loop with
    finalT := max loop.finalT simT
    trajectory := loop.trajectory ++ ownShipRow scenario topic simT seq row }
  let target ← targetRow python scenario topic simT seq row
  return { loop with
    trajectory := loop.trajectory ++ target
    events := loop.events ++ asdrEvent python json scenario topic simT row }

/-- The rows in order, each with the number of its line. -/
def traceRows : List (Nat × Dict F) → TraceLoop F Time json.Text →
    Except PyError (TraceLoop F Time json.Text)
  | [], loop => .ok loop
  | (seq, row) :: rows, loop => do
    traceRows rows (← traceRow python json scenario loop seq row)

structure TraceResult (F Time Text : Type) where
  trajectory : List (TrajectoryRow F Time)
  events : List (EventRow F Time Text)
  states : List (StateSegment Time Text)

def trajectoryRows (rows : List (Nat × Dict F)) :
    Except PyError (TraceResult F Time json.Text) := do
  let loop ← traceRows python json scenario rows { finalT := python.time (python.ofNat 0) }
  return {
    trajectory := loop.trajectory
    events := loop.events
    states := loop.states ++ loop.lastState.map fun (key, held) =>
      closedSegment json scenario key loop.finalT held }

end Rows

end MassL3.EvidenceLibrary
