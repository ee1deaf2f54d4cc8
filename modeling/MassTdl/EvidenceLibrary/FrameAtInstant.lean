/-
This file proves that the decision frame is the trace at that instant. Among the rows that
the query returns, those of one field are the segments of the field's timeline that cover the
instant, since the sort is stable and the timeline is in the order of its starts; and the
timeline says what the last row of the module says.
-/

import MassTdl.EvidenceLibrary.FieldTimeline

namespace MassL3.EvidenceLibrary

open Timelines (Segment)

section Frame

variable {F Time : Type} [LinearOrder Time] {python : Python F Time} {json : JsonText F}
  {scenario : Scenario} {key : String × String}

/-! ### The rows of one field in the query -/

variable {evidenceId scenarioId : String}

theorem ofScenario_congr {first : Scenario} (isFirst : ofScenario evidenceId scenarioId first) :
    first.evidenceId = evidenceId ∧ first.scenarioId = scenarioId := by
  simpa [ofScenario] using isFirst

variable {segments : List (StateSegment Time json.Text)}
  {timeline : List (Segment Time (Json F × String))}

/-- The end that the nested query finds is the last stop of the field's timeline. -/
theorem lastEnd_eq
    (written : (segments.filter fun row => ofScenario evidenceId scenarioId row.scenario).filter
      (fun row => row.key = key) = timeline.map (segmentRow json scenario key))
    {row : StateSegment Time json.Text} (isKey : row.key = key)
    (isScenario : ofScenario evidenceId scenarioId row.scenario) :
    lastEnd segments row = (timeline.map Segment.stop).maximum := by
  obtain ⟨sameEvidence, sameScenario⟩ := ofScenario_congr isScenario
  have sameRows : (segments.filter fun other =>
      ofScenario row.scenario.evidenceId row.scenario.scenarioId other.scenario &&
        other.module == row.module && other.field == row.field) =
      timeline.map (segmentRow json scenario key) := by
    rw [← written, List.filter_filter]
    refine List.filter_congr fun other _ => ?_
    subst isKey
    rw [sameEvidence, sameScenario, Bool.and_assoc, Bool.and_comm]
    congr 1
    exact Bool.eq_iff_iff.mpr (by simp [StateSegment.key])
  unfold lastEnd
  rw [sameRows, List.map_map]
  rfl

theorem filter_covering
    (written : (segments.filter fun row => ofScenario evidenceId scenarioId row.scenario).filter
      (fun row => row.key = key) = timeline.map (segmentRow json scenario key)) (simT : Time) :
    (segments.filter (covering segments evidenceId scenarioId simT)).filter
        (fun row => row.key = key) =
      (timeline.filter (Timelines.covers timeline simT)).map (segmentRow json scenario key) := by
  let within (row : StateSegment Time json.Text) : Bool :=
    row.startT ≤ simT && (simT < row.endT ||
      (simT == row.endT && (timeline.map Segment.stop).maximum == row.endT))
  have narrowed : (timeline.map (segmentRow json scenario key)).filter within =
      (timeline.filter (Timelines.covers timeline simT)).map (segmentRow json scenario key) :=
    List.filter_map
  rw [← narrowed, ← written, List.filter_filter, List.filter_filter, List.filter_filter]
  refine List.filter_congr fun row _ => ?_
  by_cases isKey : row.key = key
  · by_cases isScenario : ofScenario evidenceId scenarioId row.scenario
    · simp only [isKey, isScenario, decide_true, Bool.true_and, Bool.and_true, covering, within,
        lastEnd_eq written isKey isScenario]
    · simp only [covering, isScenario, Bool.false_and, Bool.and_false]
  · simp only [isKey, decide_false, Bool.false_and, Bool.and_false]

theorem inOrder_of_start {first second : StateSegment Time json.Text}
    (sameKey : first.key = second.key) (before : first.startT ≤ second.startT) :
    inOrder first second := by
  obtain ⟨sameModule, sameField⟩ := Prod.mk.inj sameKey
  unfold inOrder StateSegment.order
  rw [decide_eq_true_eq, sameModule, sameField]
  exact Prod.Lex.toLex_mono ⟨le_rfl, Prod.Lex.toLex_mono ⟨le_rfl, before⟩⟩

/-- Among the rows that the query returns, those of one field are the segments of its timeline
that cover the instant, in order. -/
theorem stateRows_of_key {final : Time} (chained : Timelines.Chained timeline final)
    (written : (segments.filter fun row => ofScenario evidenceId scenarioId row.scenario).filter
      (fun row => row.key = key) = timeline.map (segmentRow json scenario key)) (simT : Time) :
    (stateRows segments evidenceId scenarioId simT).filter (fun row => row.key = key) =
      (timeline.filter (Timelines.covers timeline simT)).map (segmentRow json scenario key) := by
  rw [← filter_covering written]
  refine Timelines.filter_mergeSort inOrder
    (fun first second third => by simpa [inOrder] using le_trans)
    (fun first second => by simpa [inOrder] using le_total _ _) _ _ ?_
  rw [filter_covering written]
  refine List.pairwise_map.mpr ((chained.pairwise_start.filter _).imp fun before => ?_)
  exact inOrder_of_start rfl before

/-! ### The frame -/

/-- For a trace whose times do not decrease, at every instant up to its final time the frame
shows for a field of the chain what the last row of the module's topics at or before that
instant gives it, or a value equal to that, and an unknown where there is no such row. The
rows written for the trace may share their tables with those of other scenarios. -/
theorem queryDecisionFrame_fact [Add Time] [Sub Time] {rows : List (Nat × Dict F)}
    {result : TraceResult F Time json.Text}
    (ran : trajectoryRows python json scenario rows = .ok result)
    (nondecreasing : (simTimes python rows).Pairwise (· ≤ ·)) {module field : String}
    (mapped : Mapped python module field) {simT : Time} (within : simT ≤ finalTime python rows)
    {tables : Tables F Time json.Text}
    (written : tables.stateSegments.filter (fun row =>
      ofScenario scenario.evidenceId scenario.scenarioId row.scenario) = result.states) :
    let fact := (queryDecisionFrame python json tables scenario.evidenceId scenario.scenarioId
      simT).fact module field
    match lastRow python rows module simT with
    | none => fact = some unknown
    | some row => ∃ value shown, fieldValue python field row.2 = some value ∧
        fact = some shown ∧ (shown = value ∨ python.equal shown value) := by
  intro fact
  obtain ⟨states, read⟩ := states_of_key (module, field) mapped ran
  rw [← written] at states
  obtain ⟨chained, isRead⟩ := read_timeline (module, field) nondecreasing read within rfl
  obtain ⟨known, isUnknown⟩ := emptyChain_fact mapped
  have asChain : fact = chainFact ((stateRows tables.stateSegments scenario.evidenceId
      scenario.scenarioId simT).foldl (setFact json.loads) emptyChain) module field := rfl
  rw [chainFact_foldl json.loads _ known, stateRows_of_key chained states, List.getLast?_map,
    isUnknown] at asChain
  unfold Timelines.read at isRead
  rcases isRead with ⟨nothing, noRow⟩ | ⟨segment, row, value, found, isRow, isValue, agree⟩
  · rw [noRow]
    rw [nothing] at asChain
    exact asChain
  · rw [isRow]
    rw [found] at asChain
    exact ⟨value, segment.value.1, isValue, asChain.trans (congrArg some (json.loads_dumps _)),
      agree⟩

end Frame

/-! Two topics of one module at one instant, asked at the end of the trace. -/

/-- Python over traces that hold texts and whole numbers only. -/
def wholeNumbers : Python Int Int where
  equal
    | .str held, .str noted => held == noted
    | .int held, .int noted => held == noted
    | _, _ => false
  str
    | .str text => text
    | _ => ""
  strip text := text
  lower text := text
  upper text := text
  parseInt _ := .error .valueError
  float
    | .int value => .ok value
    | .float value => .ok value
    | _ => .error .typeError
  truncate value := .ok value
  time value := value
  ofNat value := value
  isZero value := value == 0
  isNegative value := value < 0
  isfinite _ := true
  add first second := first + second
  sub first second := first - second
  mul first second := first * second
  div first second := first / second
  mod first second := first % second
  radians value := value
  degrees value := value
  sin value := value
  cos value := value
  asin value := value
  atan2 first _ := first

/-- Documents kept as they are. -/
def documents : JsonText Int where
  Text := Json Int
  dumps value := value
  loads value := value
  loads_dumps _ := rfl

def phaseRow (topic : String) (simT : Int) (phase : String) : Dict Int :=
  [("phase", .str phase), ("sim_t", .int simT), ("topic", .str topic)]

def phaseTrace : List (Nat × Dict Int) :=
  [(0, phaseRow "/l3/m6/colregs" 0 "clear"),
    (1, phaseRow "/l3/m6/colregs" 2 "act"),
    (2, phaseRow "/l3/m6/colregs_constraint" 2 "hold"),
    (3, phaseRow "/l3/m6/colregs" 2 "hold")]

def phaseScenario : Scenario := ⟨"e", "s", "head-on"⟩

def phaseTables : Tables Int Int (Json Int) where
  stateSegments :=
    match trajectoryRows wholeNumbers documents phaseScenario phaseTrace with
    | .ok result => result.states
    | .error _ => []
  gateResults := []
  events := []
  trajectorySamples := []

theorem queryDecisionFrame_fact_phase :
    ∃ value shown, fieldValue wholeNumbers "phase"
        (phaseRow "/l3/m6/colregs" 2 "hold") = some value ∧
      (queryDecisionFrame wholeNumbers documents phaseTables "e" "head-on" 2).fact "M6" "phase" =
        some shown ∧ (shown = value ∨ wholeNumbers.equal shown value) :=
  queryDecisionFrame_fact
    (show trajectoryRows wholeNumbers documents phaseScenario phaseTrace = .ok _ from rfl)
    (by decide) ⟨"/l3/m6/colregs", _, rfl, rfl⟩
    (show (2 : Int) ≤ finalTime wholeNumbers phaseTrace by decide) rfl

end MassL3.EvidenceLibrary
