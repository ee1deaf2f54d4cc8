/-
This file is a small library about deterministic runs. A component is given by a step
function on a state type; a run feeds it a finite list of inputs. Everything a safety
argument over runs needs is stated once here: the state after a prefix of the inputs, the
induction that carries an invariant along a run, the same induction when only the steps of
one given run are known to preserve it, the characterisation of a stable predicate by its
single steps, the streaks of steps after which a predicate holds, the last entries of a history,
whether a run on one and the same input settles, and the two-run rules behind a simulation and
behind a comparison.

Nothing in it names a particular component.
-/

import Mathlib.Data.List.Basic
import Mathlib.Data.Nat.Init
import Mathlib.Dynamics.FixedPoints.Basic
import Mathlib.Tactic.Common

namespace Runs

variable {State Input : Type}

/-! ### Runs and their intermediate states -/

/-- The state a list of inputs leads to. -/
def run (step : State → Input → State) (start : State) (inputs : List Input) : State :=
  inputs.foldl step start

/-- The state after the first `count` inputs. Past the end of the list the run rests in its
last state. -/
def stateAt (step : State → Input → State) (start : State) (inputs : List Input)
    (count : Nat) : State :=
  run step start (inputs.take count)

variable (step : State → Input → State) (start : State) (inputs : List Input)

theorem run_append (later : List Input) :
    run step start (inputs ++ later) = run step (run step start inputs) later :=
  List.foldl_append

/-- One more input is one more step. -/
theorem stateAt_succ {count : Nat} {input : Input} (present : inputs[count]? = some input) :
    stateAt step start inputs (count + 1) = step (stateAt step start inputs count) input := by
  unfold stateAt
  rw [List.take_add_one, present, run_append]
  rfl

/-- Past the end of the inputs nothing moves any more. -/
theorem stateAt_succ_of_none {count : Nat} (absent : inputs[count]? = none) :
    stateAt step start inputs (count + 1) = stateAt step start inputs count := by
  unfold stateAt
  rw [List.take_add_one, absent, Option.toList_none, List.append_nil]

/-- The intermediate states of a run are reached by runs themselves. -/
theorem stateAt_eq_run (count : Nat) :
    stateAt step start inputs count = run step start (inputs.take count) := rfl

/-! ### Invariants -/

section Invariants

variable {step start inputs}
variable (Invariant : State → Prop)

/-- An invariant of every step that holds at the start holds at the end of every run. -/
theorem run_invariant (initially : Invariant start)
    (preserved : ∀ state input, Invariant state → Invariant (step state input)) :
    Invariant (run step start inputs) := by
  induction inputs generalizing start with
  | nil => exact initially
  | cons input inputs inductionHypothesis =>
    exact inductionHypothesis (preserved start input initially)

/-- It is enough that the inputs of the run preserve it. -/
theorem run_invariant_of_mem (initially : Invariant start)
    (preserved : ∀ state, ∀ input ∈ inputs, Invariant state → Invariant (step state input)) :
    Invariant (run step start inputs) := by
  induction inputs generalizing start with
  | nil => exact initially
  | cons input inputs inductionHypothesis =>
    exact inductionHypothesis (preserved start input List.mem_cons_self initially)
      fun state later member => preserved state later (List.mem_cons_of_mem _ member)

/-- An invariant that the steps of this one run preserve holds at each of its states. Each
step may use what is known of the state it is taken in, so this is the rule for runs under
a condition on their steps. -/
theorem stateAt_invariant (initially : Invariant start)
    (preserved : ∀ count input, inputs[count]? = some input →
      Invariant (stateAt step start inputs count) →
      Invariant (step (stateAt step start inputs count) input)) (count : Nat) :
    Invariant (stateAt step start inputs count) := by
  induction count with
  | zero => exact initially
  | succ count inductionHypothesis =>
    cases present : inputs[count]? with
    | none =>
      rw [stateAt_succ_of_none step start inputs present]
      exact inductionHypothesis
    | some input =>
      rw [stateAt_succ step start inputs present]
      exact preserved count input present inductionHypothesis

/-- The same rule between two states: what holds at `first` and is preserved by every step
from there to `last` holds at `last`. -/
theorem stateAt_invariant_between {first last : Nat} (later : first ≤ last)
    (initially : Invariant (stateAt step start inputs first))
    (preserved : ∀ count input, first ≤ count → count < last → inputs[count]? = some input →
      Invariant (stateAt step start inputs count) →
      Invariant (step (stateAt step start inputs count) input)) :
    Invariant (stateAt step start inputs last) := by
  induction last, later using Nat.le_induction with
  | base => exact initially
  | succ count reached inductionHypothesis =>
    have earlier : Invariant (stateAt step start inputs count) :=
      inductionHypothesis fun index input above below =>
        preserved index input above (Nat.lt_succ_of_lt below)
    cases present : inputs[count]? with
    | none =>
      rw [stateAt_succ_of_none step start inputs present]
      exact earlier
    | some input =>
      rw [stateAt_succ step start inputs present]
      exact preserved count input reached (Nat.lt_succ_self count) present earlier

/-- A predicate is stable along a run, once true always true, exactly when no single step
of the run falsifies it. -/
theorem stable_iff :
    (∀ first last, first ≤ last → Invariant (stateAt step start inputs first) →
        Invariant (stateAt step start inputs last)) ↔
      ∀ count input, inputs[count]? = some input →
        Invariant (stateAt step start inputs count) →
        Invariant (step (stateAt step start inputs count) input) := by
  constructor
  · intro stable count input present holds
    rw [← stateAt_succ step start inputs present]
    exact stable count (count + 1) (Nat.le_succ count) holds
  · intro preserved first last later holds
    exact stateAt_invariant_between Invariant later holds
      fun count input _ _ present => preserved count input present

end Invariants

/-- What holds at every step of a run holds at its first one and at every step of the rest. -/
theorem forall_steps_cons {step : State → Input → State} {start : State} {input : Input}
    {inputs : List Input} (Holds : State → Input → Prop) :
    (∀ count later, (input :: inputs)[count]? = some later →
        Holds (stateAt step start (input :: inputs) count) later) ↔
      Holds start input ∧ ∀ count later, inputs[count]? = some later →
        Holds (stateAt step (step start input) inputs count) later := by
  constructor
  · intro holds
    exact ⟨holds 0 input rfl, fun count later present => holds (count + 1) later present⟩
  · rintro ⟨first, rest⟩ count later present
    cases count with
    | zero => exact Option.some.inj present ▸ first
    | succ count => exact rest count later present

/-! ### Streaks -/

section Streaks

/-- A predicate of the number of steps taken begins to hold with a step. -/
def Begins (Holds : ℕ → Prop) (index : ℕ) : Prop := ¬ Holds index ∧ Holds (index + 1)

/-- The steps from `first` to `last` of a run, after each of which the predicate holds, where
neither the step before nor the step after belongs to them. -/
structure MaximalStreak (Holds : ℕ → Prop) (length first last : ℕ) : Prop where
  ordered : first ≤ last
  within : last < length
  before : ¬ Holds first
  throughout : ∀ index, first ≤ index → index ≤ last → Holds (index + 1)
  after : last + 1 = length ∨ ¬ Holds (last + 2)

variable {Holds : ℕ → Prop} {length first last : ℕ}

/-- A streak begins with its first step. -/
theorem MaximalStreak.begins (streak : MaximalStreak Holds length first last) :
    Begins Holds first :=
  ⟨streak.before, streak.throughout first (Nat.le_refl first) streak.ordered⟩

/-- And with no later one. -/
theorem MaximalStreak.not_begins (streak : MaximalStreak Holds length first last) {index : ℕ}
    (later : first < index) (upTo : index ≤ last) : ¬ Begins Holds index := by
  rintro ⟨fails, -⟩
  obtain ⟨previous, rfl⟩ := Nat.exists_eq_succ_of_ne_zero (Nat.ne_zero_of_lt later)
  exact fails (streak.throughout previous (Nat.lt_succ_iff.mp later) (Nat.le_of_succ_le upTo))

end Streaks

/-! ### The end of a history -/

section Histories

variable {Entry Other : Type} {Good : Entry → Prop} {count : ℕ} {history : List Entry}
  {entry : Entry}

/-- The last entries of a history, as many as given, have the property. -/
def EndsIn (Good : Entry → Prop) (count : ℕ) (history : List Entry) : Prop :=
  ∃ last, last <:+ history ∧ last.length = count ∧ ∀ entry ∈ last, Good entry

theorem EndsIn.zero (Good : Entry → Prop) (history : List Entry) : EndsIn Good 0 history :=
  ⟨[], List.nil_suffix, rfl, fun _ member => absurd member List.not_mem_nil⟩

theorem EndsIn.concat (ends : EndsIn Good count history) (good : Good entry) :
    EndsIn Good (count + 1) (history ++ [entry]) := by
  obtain ⟨last, ⟨earlier, whole⟩, counted, all⟩ := ends
  refine ⟨last ++ [entry], ⟨earlier, ?_⟩, ?_, fun other member => ?_⟩
  · rw [← whole, List.append_assoc]
  · rw [List.length_append, counted, List.length_singleton]
  · rcases List.mem_append.mp member with before | new
    · exact all other before
    · exact List.mem_singleton.mp new ▸ good

/-- What is shown of the images of a history holds of its entries. -/
theorem EndsIn.of_map {image : Entry → Other} {Shown : Other → Prop}
    (ends : EndsIn Shown count (history.map image))
    (shows : ∀ entry ∈ history, Shown (image entry) → Good entry) : EndsIn Good count history := by
  obtain ⟨last, suffix, counted, all⟩ := ends
  obtain ⟨entries, within, rfl⟩ := List.suffix_map_iff.mp suffix
  refine ⟨entries, within, by rw [← counted, List.length_map], fun entry member => ?_⟩
  exact shows entry (within.mem member) (all _ (List.mem_map_of_mem member))

/-- The very last entry is one of them. -/
theorem EndsIn.last (ends : EndsIn Good count (history ++ [entry])) (some : 0 < count) :
    Good entry := by
  obtain ⟨last, ⟨earlier, whole⟩, counted, all⟩ := ends
  rcases List.eq_nil_or_concat last with rfl | ⟨before, final, rfl⟩
  · exact absurd counted.symm (Nat.ne_of_gt some)
  · rw [List.concat_eq_append] at whole all
    rw [← List.append_assoc] at whole
    obtain ⟨-, same⟩ := List.append_inj' whole rfl
    exact List.singleton_inj.mp same ▸ all final (List.mem_append_right _ List.mem_cons_self)

end Histories

/-! ### Runs on one input -/

section Settling

variable (step : State → Input → State) (input : Input)

/-- Fed with one and the same input, the run comes to a state that the input does not change. -/
def Settles (start : State) : Prop :=
  ∃ count, Function.IsFixedPt (step · input) ((step · input)^[count] start)

variable {step input} (Invariant : State → Prop)
  (preserved : ∀ state, Invariant state → Invariant (step state input))

include preserved

/-- A run settles if every step that changes the state lowers its rank. -/
theorem settles_of_rank (rank : State → ℕ)
    (falls : ∀ state, Invariant state → step state input ≠ state →
      rank (step state input) < rank state)
    {start : State} (initially : Invariant start) : Settles step input start := by
  induction bound : rank start using Nat.strong_induction_on generalizing start with
  | _ bound inductionHypothesis =>
    by_cases rests : step start input = start
    · exact ⟨0, rests⟩
    · obtain ⟨count, fixed⟩ := inductionHypothesis _ (bound ▸ falls start initially rests)
        (preserved start initially) rfl
      exact ⟨count + 1, fixed⟩

/-- A run never settles if no state of an invariant is left alone. -/
theorem not_settles_of_invariant
    (moves : ∀ state, Invariant state → step state input ≠ state) {start : State}
    (initially : Invariant start) : ¬ Settles step input start := by
  rintro ⟨count, fixed⟩
  refine moves _ ?_ fixed
  clear fixed
  induction count generalizing start with
  | zero => exact initially
  | succ count inductionHypothesis => exact inductionHypothesis (preserved start initially)

end Settling

/-! ### Two runs -/

/-- Two runs stay related when their inputs are pointwise such that every step keeps them so. -/
theorem run_related {Other OtherInput : Type} {step : State → Input → State} {start : State}
    {otherStep : Other → OtherInput → Other} {otherStart : Other}
    {Fits : Input → OtherInput → Prop} (Related : State → Other → Prop)
    (initially : Related start otherStart)
    (preserved : ∀ state other input otherInput, Fits input otherInput → Related state other →
      Related (step state input) (otherStep other otherInput))
    {inputs : List Input} {otherInputs : List OtherInput}
    (pointwise : List.Forall₂ Fits inputs otherInputs) :
    Related (run step start inputs) (run otherStep otherStart otherInputs) := by
  induction pointwise generalizing start otherStart with
  | nil => exact initially
  | cons fits _ inductionHypothesis =>
    exact inductionHypothesis (preserved _ _ _ _ fits initially)

/-- Two runs on the same inputs stay related when every step keeps them so. What relates them
may depend on the inputs that are still to come. -/
theorem stateAt_related {Other : Type} {step : State → Input → State} {start : State}
    {otherStep : Other → Input → Other} {otherStart : Other} {inputs : List Input}
    (Related : List Input → State → Other → Prop) (initially : Related inputs start otherStart)
    (preserved : ∀ state other input later, Related (input :: later) state other →
      Related later (step state input) (otherStep other input)) (count : Nat) :
    Related (inputs.drop count) (stateAt step start inputs count)
      (stateAt otherStep otherStart inputs count) := by
  induction count with
  | zero => exact initially
  | succ count inductionHypothesis =>
    cases present : inputs[count]? with
    | none =>
      have past : inputs.length ≤ count := List.getElem?_eq_none_iff.mp present
      rw [stateAt_succ_of_none step start inputs present,
        stateAt_succ_of_none otherStep otherStart inputs present,
        List.drop_of_length_le (Nat.le_succ_of_le past), ← List.drop_of_length_le past]
      exact inductionHypothesis
    | some input =>
      obtain ⟨within, isInput⟩ := List.getElem?_eq_some_iff.mp present
      rw [stateAt_succ step start inputs present,
        stateAt_succ otherStep otherStart inputs present]
      refine preserved _ _ input _ ?_
      rw [← isInput, List.getElem_cons_drop]
      exact inductionHypothesis

end Runs
