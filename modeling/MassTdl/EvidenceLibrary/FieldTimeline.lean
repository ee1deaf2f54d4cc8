/-
This file follows the loop over a trace for one field of the chain. Whatever the other
fields do, the segments written for this one and the entry held for it are those of the
encoder of a timeline whose updates are the rows of the field's module, each with the value
its getter reads. So at every instant up to the final time of the trace, the field's
segments say what the last of these rows says.
-/

import MassTdl.EvidenceLibrary.DecisionFrame

namespace MassL3.EvidenceLibrary

open Timelines (Encoder Segment)

/-! ### One field of the loop -/

section Loop

variable {F Time : Type} {python : Python F Time} {json : JsonText F} {scenario : Scenario}
  {key : String × String}

/-- What the encoder of a field takes for a repeat. The topic of the row plays no part. -/
def sameValue (python : Python F Time) (held noted : Json F × String) : Bool :=
  python.equal held.1 noted.1

/-- The row that a segment of the encoder is written as. -/
def segmentRow (json : JsonText F) (scenario : Scenario) (key : String × String)
    (segment : Segment Time (Json F × String)) : StateSegment Time json.Text :=
  closedSegment json scenario key segment.stop (segment.start, segment.value)

/-- The loop holds of a field what the field's own encoder holds. -/
structure Follows (json : JsonText F) (scenario : Scenario) (key : String × String)
    (encoder : Encoder Time (Json F × String)) (loop : TraceLoop F Time json.Text) : Prop where
  distinct : (loop.lastState.map Prod.fst).Nodup
  closed : loop.states.filter (fun row => row.key = key) =
    encoder.closed.map (segmentRow json scenario key)
  held : loop.lastState.lookup key = encoder.held

variable {encoder : Encoder Time (Json F × String)} {loop : TraceLoop F Time json.Text}

theorem Follows.congr (follows : Follows json scenario key encoder loop)
    {other : TraceLoop F Time json.Text} (sameStates : other.states = loop.states)
    (sameHeld : other.lastState = loop.lastState) : Follows json scenario key encoder other where
  distinct := sameHeld ▸ follows.distinct
  closed := sameStates ▸ follows.closed
  held := sameHeld ▸ follows.held

section SetState

variable {module field : String} {simT : Time} {value : Json F} {topic : String}

theorem setState_of_none (unheld : loop.lastState.lookup (module, field) = none) :
    setState python json scenario loop module field simT value topic =
      { loop with lastState := put (module, field) (simT, value, topic) loop.lastState } := by
  simp only [setState, unheld]

theorem setState_of_same {previous : Time × Json F × String}
    (wasHeld : loop.lastState.lookup (module, field) = some previous)
    (repeated : python.equal previous.2.1 value) :
    setState python json scenario loop module field simT value topic = loop := by
  simp only [setState, wasHeld, repeated, if_true]

theorem setState_of_new {previous : Time × Json F × String}
    (wasHeld : loop.lastState.lookup (module, field) = some previous)
    (different : ¬ python.equal previous.2.1 value) :
    setState python json scenario loop module field simT value topic =
      { loop with
        states := loop.states ++ [closedSegment json scenario (module, field) simT previous]
        lastState := put (module, field) (simT, value, topic) loop.lastState } := by
  simp only [setState, wasHeld, different, Bool.false_eq_true, if_false]

theorem setState_finalT :
    (setState python json scenario loop module field simT value topic).finalT = loop.finalT := by
  rcases wasHeld : loop.lastState.lookup (module, field) with _ | previous
  · rw [setState_of_none wasHeld]
  · by_cases repeated : python.equal previous.2.1 value
    · rw [setState_of_same wasHeld repeated]
    · rw [setState_of_new wasHeld repeated]

/-- Setting another field leaves this one alone. -/
theorem Follows.setState_other (follows : Follows json scenario key encoder loop)
    (isOther : (module, field) ≠ key) :
    Follows json scenario key encoder
      (setState python json scenario loop module field simT value topic) := by
  have unheld : (put (module, field) (simT, value, topic) loop.lastState).lookup key =
      encoder.held := by
    rw [lookup_put, if_neg isOther.symm, follows.held]
  rcases wasHeld : loop.lastState.lookup (module, field) with _ | previous
  · rw [setState_of_none wasHeld]
    exact ⟨nodup_put _ _ follows.distinct, follows.closed, unheld⟩
  · by_cases repeated : python.equal previous.2.1 value
    · rw [setState_of_same wasHeld repeated]
      exact follows
    · rw [setState_of_new wasHeld repeated]
      refine ⟨nodup_put _ _ follows.distinct, ?_, unheld⟩
      rw [List.filter_append, follows.closed, List.filter_cons_of_neg
        (by exact fun same => isOther (of_decide_eq_true same)), List.filter_nil, List.append_nil]

/-- Setting the field is one update of its encoder. -/
theorem Follows.setState_self (follows : Follows json scenario key encoder loop) :
    Follows json scenario key (encoder.note (sameValue python) (simT, value, topic))
      (setState python json scenario loop key.1 key.2 simT value topic) := by
  have isHeld : (put key (simT, value, topic) loop.lastState).lookup key =
      some (simT, value, topic) := by
    rw [lookup_put, if_pos rfl]
  rcases wasHeld : loop.lastState.lookup key with _ | previous
  · rw [setState_of_none wasHeld, Encoder.note_of_none (follows.held.symm.trans wasHeld)]
    exact ⟨nodup_put _ _ follows.distinct, follows.closed, isHeld⟩
  · have holding : encoder.held = some (previous.1, previous.2) :=
      follows.held.symm.trans wasHeld
    by_cases repeated : python.equal previous.2.1 value
    · rw [setState_of_same wasHeld repeated, Encoder.note_of_same holding repeated]
      exact follows
    · rw [setState_of_new wasHeld repeated, Encoder.note_of_new holding repeated]
      refine ⟨nodup_put _ _ follows.distinct, ?_, isHeld⟩
      rw [List.filter_append, follows.closed, List.map_append,
        List.filter_cons_of_pos (by exact decide_eq_true rfl)]
      rfl

end SetState

/-! ### One row -/

theorem ok_of_bind {Error Value Result : Type} {first : Except Error Value}
    {next : Value → Except Error Result} {result : Result}
    (ran : (first >>= next) = .ok result) :
    ∃ value, first = .ok value ∧ next value = .ok result := by
  cases first with
  | error raised => cases ran
  | ok value => exact ⟨value, rfl, ran⟩

variable {simT : Time} {row : Dict F} {fields : List (String × Getter F)}

theorem setFields_finalT {module topic : String} {loop after : TraceLoop F Time json.Text}
    (ran : setFields python json scenario module topic simT row fields loop = .ok after) :
    after.finalT = loop.finalT := by
  induction fields generalizing loop with
  | nil => rw [Except.ok.inj ran]
  | cons entry fields inductionHypothesis =>
    obtain ⟨value, -, ran⟩ := ok_of_bind ran
    rw [inductionHypothesis ran, setState_finalT]

theorem Follows.setFields_other (follows : Follows json scenario key encoder loop)
    {module topic : String} {after : TraceLoop F Time json.Text}
    (isOther : module ≠ key.1 ∨ fields.lookup key.2 = none)
    (ran : setFields python json scenario module topic simT row fields loop = .ok after) :
    Follows json scenario key encoder after := by
  induction fields generalizing loop with
  | nil => exact Except.ok.inj ran ▸ follows
  | cons entry fields inductionHypothesis =>
    obtain ⟨field, getter⟩ := entry
    rw [setFields] at ran
    cases got : getter row with
    | error raised => rw [got] at ran; cases ran
    | ok value =>
      rw [got] at ran
      have notKey : (module, field) ≠ key := by
        rintro rfl
        refine isOther.elim (fun differs => differs rfl) fun absent => ?_
        rw [List.lookup_cons_self] at absent
        cases absent
      refine inductionHypothesis (follows.setState_other notKey) ?_ ran
      refine isOther.imp id fun absent => ?_
      by_cases isField : key.2 = field
      · rw [isField, List.lookup_cons_self] at absent
        cases absent
      · rwa [lookup_cons_of_ne isField] at absent

theorem Follows.setFields_self (follows : Follows json scenario key encoder loop) {topic : String}
    (distinct : (fields.map Prod.fst).Nodup) {getter : Getter F}
    (listed : fields.lookup key.2 = some getter) {after : TraceLoop F Time json.Text}
    (ran : setFields python json scenario key.1 topic simT row fields loop = .ok after) :
    ∃ value, getter row = .ok value ∧
      Follows json scenario key (encoder.note (sameValue python) (simT, value, topic)) after := by
  induction fields generalizing loop with
  | nil => cases listed
  | cons entry fields inductionHypothesis =>
    obtain ⟨field, first⟩ := entry
    obtain ⟨notInRest, restDistinct⟩ := List.nodup_cons.mp distinct
    rw [setFields] at ran
    cases got : first row with
    | error raised => rw [got] at ran; cases ran
    | ok value =>
      rw [got] at ran
      by_cases isField : key.2 = field
      · subst isField
        rw [List.lookup_cons_self] at listed
        cases listed
        refine ⟨value, got, follows.setState_self.setFields_other (Or.inr ?_) ran⟩
        exact List.lookup_eq_none_iff.mpr fun entry member => by
          simpa using fun same => notInRest (List.mem_map.mpr ⟨entry, member, same.symm⟩)
      · rw [lookup_cons_of_ne isField] at listed
        have notKey : (key.1, field) ≠ key := fun same => isField (congrArg Prod.snd same).symm
        exact inductionHypothesis (follows.setState_other notKey) restDistinct
          listed ran

end Loop

/-! ### The trace as it is asked for -/

section Specification

variable {F Time : Type} [LinearOrder Time] (python : Python F Time)

/-- The times of the rows. -/
def simTimes (rows : List (Nat × Dict F)) : List Time :=
  rows.filterMap fun row => (rowTime python row.2).toOption

def finalTime (rows : List (Nat × Dict F)) : Time :=
  (simTimes python rows).foldl max (python.time (python.ofNat 0))

/-- The row is of one of the topics of the module. -/
def feeds (module : String) (row : Dict F) : Bool :=
  ((expectedStateFields python).lookup (rowTopic python row)).any fun entry => entry.1 == module

def reached (simT : Time) (row : Dict F) : Bool :=
  (rowTime python row).toOption.any fun time => time ≤ simT

/-- The last row of the module's topics at or before an instant. -/
def lastRow (rows : List (Nat × Dict F)) (module : String) (simT : Time) :
    Option (Nat × Dict F) :=
  (rows.filter fun row => feeds python module row.2 && reached python simT row.2).getLast?

/-- The value that a row gives a field, through the getter of its topic. -/
def fieldValue (field : String) (row : Dict F) : Option (Json F) := do
  let entry ← (expectedStateFields python).lookup (rowTopic python row)
  let getter ← entry.2.lookup field
  (getter row).toOption

/-- Some topic of the module lists the field. -/
def Mapped (module field : String) : Prop :=
  ∃ topic fields, (expectedStateFields python).lookup topic = some (module, fields) ∧
    (fields.lookup field).isSome

/-- The update that a row is for the encoder of a field. -/
def rowUpdate (key : String × String) (row : Dict F) : Option (Time × Json F × String) :=
  if feeds python key.1 row then do
    let simT ← (rowTime python row).toOption
    let value ← fieldValue python key.2 row
    return (simT, value, rowTopic python row)
  else none

end Specification

/-! ### The table of fields -/

section Table

variable {F Time : Type} {python : Python F Time}

/-- The fields of a module, the same from each of its topics. -/
def moduleFields (python : Python F Time) (module : String) : List (String × Getter F) :=
  if module = "M2" then worldStateFields
  else if module = "M6" then colregsFields python
  else if module = "M5" then planFields
  else guidanceFields

variable {fields : List (String × Getter F)}

/-- A topic is read by the getters of its module, whose keys are distinct and expected by the
frame. -/
theorem moduleFields_expected {topic module : String}
    (listed : (expectedStateFields python).lookup topic = some (module, fields)) :
    fields = moduleFields python module ∧
      expectedFields.lookup module = some (fields.map Prod.fst) ∧
      (fields.map Prod.fst).Nodup := by
  have member := mem_of_lookup listed
  simp only [expectedStateFields, List.mem_cons, Prod.mk.injEq, List.not_mem_nil, or_false]
    at member
  rcases member with ⟨-, rfl, rfl⟩ | ⟨-, rfl, rfl⟩ | ⟨-, rfl, rfl⟩ | ⟨-, rfl, rfl⟩ |
    ⟨-, rfl, rfl⟩ | ⟨-, rfl, rfl⟩ <;> exact ⟨rfl, rfl, by simp [worldStateFields, colregsFields,
      planFields, guidanceFields]⟩

theorem listed_of_mapped {topic module field : String} (mapped : Mapped python module field)
    (listed : (expectedStateFields python).lookup topic = some (module, fields)) :
    ∃ getter, fields.lookup field = some getter := by
  obtain ⟨_, others, otherListed, isListed⟩ := mapped
  rw [(moduleFields_expected otherListed).1, ← (moduleFields_expected listed).1] at isListed
  exact Option.isSome_iff_exists.mp isListed

/-- The frame starts out with every field of the chain unknown. -/
theorem emptyChain_fact {module field : String} (mapped : Mapped python module field) :
    ((emptyChain (F := F)).lookup module).isSome ∧
      chainFact (emptyChain (F := F)) module field = some unknown := by
  obtain ⟨topic, fields, listed, isListed⟩ := mapped
  obtain ⟨getter, found⟩ := Option.isSome_iff_exists.mp isListed
  have fieldMember : field ∈ fields.map Prod.fst :=
    List.mem_map.mpr ⟨(field, getter), mem_of_lookup found, rfl⟩
  have entry : (emptyChain (F := F)).lookup module =
      some (ModuleChain.empty (fields.map Prod.fst)) := by
    rw [emptyChain, lookup_map_entries (fun _ => ModuleChain.empty),
      (moduleFields_expected listed).2.1]
    rfl
  unfold chainFact
  rw [entry]
  exact ⟨rfl, lookup_map_const unknown fieldMember⟩

end Table

/-! ### A row that was read -/

section ReadRows

variable {F Time : Type} {python : Python F Time} {json : JsonText F} {scenario : Scenario}
  {key : String × String}

variable {row : Dict F}

/-- An update carries the time of its row and the value the row gives the field. -/
theorem rowUpdate_some {update : Time × Json F × String}
    (isUpdate : rowUpdate python key row = some update) :
    (rowTime python row).toOption = some update.1 ∧
      fieldValue python key.2 row = some update.2.1 := by
  unfold rowUpdate at isUpdate
  split at isUpdate
  · simp only [Option.bind_eq_bind, Option.pure_def, Option.bind_eq_some_iff,
      Option.some.injEq] at isUpdate
    obtain ⟨simT, isTime, value, isValue, rfl⟩ := isUpdate
    exact ⟨isTime, isValue⟩
  · cases isUpdate

variable {encoder : Encoder Time (Json F × String)} {loop after : TraceLoop F Time json.Text}

/-- The snapshot of a row is its update of every field of its module. -/
theorem Follows.setSnapshot (mapped : Mapped python key.1 key.2)
    (follows : Follows json scenario key encoder loop) {simT : Time}
    (isTime : rowTime python row = .ok simT)
    (ran : setSnapshot python json scenario (rowTopic python row) simT row loop = .ok after) :
    after.finalT = loop.finalT ∧ (rowUpdate python key row).isSome = feeds python key.1 row ∧
      Follows json scenario key
        ((rowUpdate python key row).elim encoder (encoder.note (sameValue python))) after := by
  unfold MassL3.EvidenceLibrary.setSnapshot at ran
  unfold rowUpdate feeds fieldValue
  rcases listed : (expectedStateFields python).lookup (rowTopic python row) with _ | entry
  · rw [listed] at ran
    cases ran
    exact ⟨rfl, rfl, follows⟩
  · obtain ⟨module, fields⟩ := entry
    rw [listed] at ran
    have sameFinal := setFields_finalT ran
    by_cases isModule : module = key.1
    · subst isModule
      obtain ⟨getter, isListed⟩ := listed_of_mapped mapped listed
      obtain ⟨value, got, followed⟩ := follows.setFields_self (moduleFields_expected listed).2.2
        isListed ran
      simp only [Option.any_some, beq_self_eq_true, if_true, Option.bind_eq_bind,
        Option.bind_some, isListed, isTime, got]
      exact ⟨sameFinal, rfl, followed⟩
    · have differs : (module == key.1) = false := beq_eq_false_iff_ne.mpr isModule
      simp only [Option.any_some, differs, Bool.false_eq_true, if_false]
      exact ⟨sameFinal, rfl, follows.setFields_other (Or.inl isModule) ran⟩

/-- The updates of a field. -/
def updates (python : Python F Time) (key : String × String) (rows : List (Nat × Dict F)) :
    List (Time × Json F × String) :=
  rows.filterMap fun row => rowUpdate python key row.2

theorem updates_times (python : Python F Time) (key : String × String)
    (rows : List (Nat × Dict F)) :
    ((updates python key rows).map Prod.fst).Sublist (simTimes python rows) := by
  induction rows with
  | nil => exact List.Sublist.refl []
  | cons row rows inductionHypothesis =>
    rcases isRow : rowUpdate python key row.2 with _ | update
    · rw [updates, List.filterMap_cons_none (by exact isRow), simTimes, List.filterMap_cons]
      split
      · exact inductionHypothesis
      · exact inductionHypothesis.cons _
    · rw [updates, List.filterMap_cons_some (by exact isRow), simTimes,
        List.filterMap_cons_some (by exact (rowUpdate_some isRow).1)]
      exact inductionHypothesis.cons_cons _

variable [LinearOrder Time]

/-- One row of the trace. -/
theorem Follows.traceRow (mapped : Mapped python key.1 key.2)
    (follows : Follows json scenario key encoder loop) {seq : Nat}
    (ran : traceRow python json scenario loop seq row = .ok after) :
    ∃ simT, rowTime python row = .ok simT ∧ after.finalT = max loop.finalT simT ∧
      (rowUpdate python key row).isSome = feeds python key.1 row ∧
      Follows json scenario key
        ((rowUpdate python key row).elim encoder (encoder.note (sameValue python))) after := by
  obtain ⟨simT, isTime, ran⟩ := ok_of_bind ran
  obtain ⟨middle, snapshotRan, ran⟩ := ok_of_bind ran
  obtain ⟨target, -, ran⟩ := ok_of_bind ran
  cases ran
  have started : Follows json scenario key encoder { loop with
      finalT := max loop.finalT simT
      trajectory := loop.trajectory ++ ownShipRow scenario (rowTopic python row) simT seq row } :=
    follows.congr rfl rfl
  obtain ⟨sameFinal, updates, followed⟩ := started.setSnapshot mapped isTime snapshotRan
  exact ⟨simT, isTime, sameFinal, updates, followed.congr rfl rfl⟩

/-! ### The whole trace -/

/-- A row of a trace that was read to its end: it has a time, and it is an update of the field
if and only if its topic feeds the module. -/
def Read (python : Python F Time) (key : String × String) (row : Nat × Dict F) : Prop :=
  (∃ simT, rowTime python row.2 = .ok simT) ∧
    (rowUpdate python key row.2).isSome = feeds python key.1 row.2

variable {rows : List (Nat × Dict F)}

theorem Follows.traceRows (mapped : Mapped python key.1 key.2)
    (follows : Follows json scenario key encoder loop)
    (ran : traceRows python json scenario rows loop = .ok after) :
    Follows json scenario key
        ((updates python key rows).foldl (Encoder.note (sameValue python)) encoder) after ∧
      after.finalT = (simTimes python rows).foldl max loop.finalT ∧
      ∀ row ∈ rows, Read python key row := by
  induction rows generalizing encoder loop with
  | nil =>
    cases ran
    exact ⟨follows, rfl, fun _ member => absurd member List.not_mem_nil⟩
  | cons row rows inductionHypothesis =>
    obtain ⟨seq, row⟩ := row
    obtain ⟨middle, rowRan, ran⟩ := ok_of_bind ran
    obtain ⟨simT, isTime, isFinal, isUpdate, followed⟩ := follows.traceRow mapped rowRan
    obtain ⟨restFollowed, restFinal, restRead⟩ := inductionHypothesis followed ran
    refine ⟨?_, ?_, List.forall_mem_cons.mpr ⟨⟨⟨simT, isTime⟩, isUpdate⟩, restRead⟩⟩
    · unfold updates
      rcases isRow : rowUpdate python key row with _ | update
      · rw [List.filterMap_cons_none (by exact isRow)]
        rw [isRow] at restFollowed
        exact restFollowed
      · rw [List.filterMap_cons_some (by exact isRow)]
        rw [isRow] at restFollowed
        exact restFollowed
    · rw [restFinal, isFinal, simTimes, simTimes,
        List.filterMap_cons_some (b := simT) (by simp [isTime, Except.toOption])]
      rfl

/-- The segments of a field, in the order they were written, are the timeline of its updates. -/
theorem states_of_key (key : String × String) (mapped : Mapped python key.1 key.2)
    {result : TraceResult F Time json.Text}
    (ran : trajectoryRows python json scenario rows = .ok result) :
    result.states.filter (fun row => row.key = key) =
        ((Timelines.encode (sameValue python) (updates python key rows)).finish
          (finalTime python rows)).map (segmentRow json scenario key) ∧
      ∀ row ∈ rows, Read python key row := by
  obtain ⟨loop, rowsRan, ran⟩ := ok_of_bind ran
  cases ran
  have started : Follows json scenario key {}
      ({ finalT := python.time (python.ofNat 0) } : TraceLoop F Time json.Text) :=
    ⟨List.nodup_nil, rfl, rfl⟩
  obtain ⟨followed, isFinal, read⟩ := started.traceRows mapped rowsRan
  refine ⟨?_, read⟩
  have closing : (loop.lastState.map fun entry =>
        closedSegment json scenario entry.1 loop.finalT entry.2).filter
          (fun row => row.key = key) =
      ((loop.lastState.lookup key).map fun held =>
        closedSegment json scenario key loop.finalT held).toList := by
    rw [List.filter_map, show (fun row : StateSegment Time json.Text => decide (row.key = key)) ∘
      (fun entry : (String × String) × (Time × Json F × String) =>
        closedSegment json scenario entry.1 loop.finalT entry.2) =
      fun entry => decide (entry.1 = key) from rfl, filter_key key followed.distinct]
    cases loop.lastState.lookup key <;> rfl
  rw [List.filter_append, followed.closed]
  refine (congrArg _ closing).trans ?_
  rw [followed.held, isFinal, Encoder.finish, List.map_append]
  congr 1
  unfold Timelines.encode finalTime
  cases ((updates python key rows).foldl (Encoder.note (sameValue python)) {}).held <;> rfl

/-! ### Reading the timeline of a field -/

/-- The last update of a field is that of the last row of its module. -/
theorem latest_updates (read : ∀ row ∈ rows, Read python key row) (simT : Time) :
    Timelines.latest (updates python key rows) simT =
      (lastRow python rows key.1 simT).bind fun row => rowUpdate python key row.2 := by
  induction rows using List.reverseRecOn with
  | nil => rfl
  | append_singleton rows row inductionHypothesis =>
    have before := inductionHypothesis fun other member =>
      read other (List.mem_append_left _ member)
    obtain ⟨-, isUpdate⟩ := read row (List.mem_append_right _ (List.mem_singleton.mpr rfl))
    unfold lastRow at before ⊢
    rw [List.filter_append]
    rcases isRow : rowUpdate python key row.2 with _ | update
    · have unfed : feeds python key.1 row.2 = false := by rw [← isUpdate, isRow]; rfl
      rw [List.filter_cons_of_neg (by simp [unfed]), List.filter_nil, List.append_nil, ← before,
        updates, List.filterMap_append, List.filterMap_cons_none (by exact isRow),
        List.filterMap_nil, List.append_nil]
      rfl
    · have fed : feeds python key.1 row.2 = true := by rw [← isUpdate, isRow]; rfl
      have split : updates python key (rows ++ [row]) = updates python key rows ++ [update] := by
        rw [updates, List.filterMap_append, List.filterMap_cons_some (by exact isRow)]
        rfl
      have isTime := (rowUpdate_some isRow).1
      rw [split]
      rcases le_or_gt update.1 simT with inTime | later
      · rw [Timelines.latest_append_of_le inTime, List.filter_cons_of_pos
          (by simp [fed, reached, isTime, inTime]), List.filter_nil, List.getLast?_append_cons,
          List.getLast?_singleton, Option.bind_some, isRow]
      · rw [Timelines.latest_append_of_lt later, before, List.filter_cons_of_neg
          (by simp [fed, reached, isTime, later]), List.filter_nil, List.append_nil]

theorem le_foldl_max (times : List Time) (first : Time) :
    first ≤ times.foldl max first ∧ ∀ time ∈ times, time ≤ times.foldl max first := by
  induction times generalizing first with
  | nil => exact ⟨le_rfl, fun _ member => absurd member List.not_mem_nil⟩
  | cons time times inductionHypothesis =>
    obtain ⟨fromFirst, fromRest⟩ := inductionHypothesis (max first time)
    exact ⟨(le_max_left first time).trans fromFirst,
      List.forall_mem_cons.mpr ⟨(le_max_right first time).trans fromFirst, fromRest⟩⟩

/-- The timeline of a field, read at an instant up to the final time of the trace: nothing when
no row of the module has come, and otherwise the value of the last one or an equal one. -/
theorem read_timeline (key : String × String)
    (nondecreasing : (simTimes python rows).Pairwise (· ≤ ·))
    (read : ∀ row ∈ rows, Read python key row) {simT : Time} (within : simT ≤ finalTime python rows)
    {timeline : List (Segment Time (Json F × String))}
    (isTimeline : timeline = (Timelines.encode (sameValue python) (updates python key rows)).finish
      (finalTime python rows)) :
    Timelines.Chained timeline (finalTime python rows) ∧
      (Timelines.read timeline simT = none ∧ lastRow python rows key.1 simT = none ∨
        ∃ segment row value, Timelines.read timeline simT = some segment ∧
          lastRow python rows key.1 simT = some row ∧
          fieldValue python key.2 row.2 = some value ∧
          (segment.value.1 = value ∨ python.equal segment.value.1 value)) := by
  have encodes := Timelines.encodes_encode (sameValue python) (List.pairwise_map.mp
    (nondecreasing.sublist (updates_times python key rows)))
  have ended : ∀ update ∈ updates python key rows, update.1 ≤ finalTime python rows :=
    fun update member => (le_foldl_max _ _).2 update.1
      ((updates_times python key rows).subset (List.mem_map_of_mem member))
  subst isTimeline
  refine ⟨encodes.chained_finish ended, ?_⟩
  have isLatest := latest_updates read simT
  rcases encodes.read_finish ended within with ⟨nothing, noUpdate⟩ |
    ⟨segment, update, isRead, isUpdate, agree⟩
  · refine Or.inl ⟨nothing, Option.eq_none_iff_forall_not_mem.mpr fun row isRow => ?_⟩
    -- the last row feeds the module, so it would be an update
    obtain ⟨member, fed⟩ := List.mem_filter.mp (List.mem_of_getLast? isRow)
    have isSome : (rowUpdate python key row.2).isSome :=
      (read row member).2.trans (Bool.and_eq_true_iff.mp fed).1
    rw [noUpdate, Option.mem_def.mp isRow, Option.bind_some] at isLatest
    rw [← isLatest] at isSome
    cases isSome
  · rw [isUpdate] at isLatest
    obtain ⟨row, isRow, rowIsUpdate⟩ := Option.bind_eq_some_iff.mp isLatest.symm
    refine Or.inr ⟨segment, row, update.2.1, isRead, isRow, (rowUpdate_some rowIsUpdate).2, ?_⟩
    exact agree.imp (congrArg Prod.fst) id

end ReadRows

end MassL3.EvidenceLibrary
