/-
This file is about the extrema that loops over floats compute. A running minimum skips values
that are not numbers, so it is a number if its start is one, and it is below every number it
passed. The first of the largest values is at least every number before and after it.
-/

import MassTdl.Binary64.Order

namespace Binary64

/-! ### Comparisons that fail -/

variable {first second : Float}

theorem number_of_lt (order : first < second) :
    first.isNaN = false ∧ second.isNaN = false := by
  obtain ⟨firstNumber, secondNumber, _⟩ := (lt_iff _ _).mp order
  exact ⟨firstNumber, secondNumber⟩

theorem le_of_lt (order : first < second) : first ≤ second := by
  obtain ⟨firstNumber, secondNumber, less⟩ := (lt_iff _ _).mp order
  exact (le_iff _ _).mpr ⟨firstNumber, secondNumber, less.le⟩

theorem le_of_not_lt (firstNumber : first.isNaN = false) (secondNumber : second.isNaN = false)
    (notLt : ¬ second < first) : first ≤ second := by
  by_contra notLe
  exact notLt (lt_of_number_of_not_le secondNumber firstNumber notLe)

theorem not_lt_of_le (order : first ≤ second) : ¬ second < first :=
  fun reverse => not_le_of_lt reverse order

theorem lt_irrefl (value : Float) : ¬ value < value := by
  intro order
  obtain ⟨_, _, less⟩ := (lt_iff _ _).mp order
  exact less.false

/-! ### The running minimum -/

/-- The least of a start and the values that are below it in turn. -/
def runningMin (start : Float) (values : List Float) : Float :=
  values.foldl (fun least value => if value < least then value else least) start

theorem runningMin_cons (start value : Float) (later : List Float) :
    runningMin start (value :: later) =
      runningMin (if value < start then value else start) later := rfl

variable {start : Float}

theorem runningMin_number (number : start.isNaN = false) (values : List Float) :
    (runningMin start values).isNaN = false := by
  induction values generalizing start with
  | nil => exact number
  | cons value later inductionHypothesis =>
    rw [runningMin_cons]
    split
    next below => exact inductionHypothesis (number_of_lt below).1
    next => exact inductionHypothesis number

theorem runningMin_le_start (number : start.isNaN = false) (values : List Float) :
    runningMin start values ≤ start := by
  induction values generalizing start with
  | nil => exact le_self_of_number number
  | cons value later inductionHypothesis =>
    rw [runningMin_cons]
    split
    next below =>
      exact chain_le (inductionHypothesis (number_of_lt below).1) (le_of_lt below)
    next => exact inductionHypothesis number

variable {values : List Float}

/-- No value that was passed is below the minimum. -/
theorem not_lt_runningMin (number : start.isNaN = false) {value : Float} (member : value ∈ values) :
    ¬ value < runningMin start values := by
  induction values generalizing start with
  | nil => cases member
  | cons head later inductionHypothesis =>
    rw [runningMin_cons]
    rcases List.mem_cons.mp member with rfl | inLater
    · split
      next below =>
        exact not_lt_of_le (runningMin_le_start (number_of_lt below).1 later)
      next above =>
        intro less
        have bounded := runningMin_le_start number later
        refine above ((lt_iff _ _).mpr ⟨(number_of_lt less).1, number, ?_⟩)
        exact lt_of_lt_of_le ((lt_iff _ _).mp less).2.2 ((le_iff _ _).mp bounded).2.2
    · split
      next below => exact inductionHypothesis (number_of_lt below).1 inLater
      next => exact inductionHypothesis number inLater

/-! ### The running maximum -/

/-- The greatest of a start and the values that are above it in turn. -/
def runningMax (start : Float) (values : List Float) : Float :=
  values.foldl (fun greatest value => if value > greatest then value else greatest) start

theorem runningMax_cons (start value : Float) (later : List Float) :
    runningMax start (value :: later) =
      runningMax (if value > start then value else start) later := rfl

theorem runningMax_number (number : start.isNaN = false) (values : List Float) :
    (runningMax start values).isNaN = false := by
  induction values generalizing start with
  | nil => exact number
  | cons value later inductionHypothesis =>
    rw [runningMax_cons]
    split
    next above => exact inductionHypothesis (number_of_lt above).2
    next => exact inductionHypothesis number

theorem start_le_runningMax (number : start.isNaN = false) (values : List Float) :
    start ≤ runningMax start values := by
  induction values generalizing start with
  | nil => exact le_self_of_number number
  | cons value later inductionHypothesis =>
    rw [runningMax_cons]
    split
    next above =>
      exact chain_le (le_of_lt above) (inductionHypothesis (number_of_lt above).2)
    next => exact inductionHypothesis number

/-- No value that was passed is above the maximum. -/
theorem not_runningMax_lt (number : start.isNaN = false) {value : Float} (member : value ∈ values) :
    ¬ runningMax start values < value := by
  induction values generalizing start with
  | nil => cases member
  | cons head later inductionHypothesis =>
    rw [runningMax_cons]
    rcases List.mem_cons.mp member with rfl | inLater
    · split
      next above =>
        exact not_lt_of_le (start_le_runningMax (number_of_lt above).2 later)
      next below =>
        intro less
        have bounded := start_le_runningMax number later
        refine below ((lt_iff _ _).mpr ⟨number, (number_of_lt less).2, ?_⟩)
        exact lt_of_le_of_lt ((le_iff _ _).mp bounded).2.2 ((lt_iff _ _).mp less).2.2
    · split
      next above => exact inductionHypothesis (number_of_lt above).2 inLater
      next => exact inductionHypothesis number inLater

/-- What is kept of a start and some values, one of two each time, is one of them. -/
theorem foldl_found (takes : Float → Float → Prop) [DecidableRel takes] (start : Float)
    (values : List Float) :
    values.foldl (fun kept value => if takes value kept then value else kept) start = start ∨
      values.foldl (fun kept value => if takes value kept then value else kept) start ∈ values := by
  induction values generalizing start with
  | nil => exact .inl rfl
  | cons value later inductionHypothesis =>
    rw [List.foldl_cons]
    split
    next =>
      refine .inr ((inductionHypothesis value).elim (fun same => ?_) (List.mem_cons_of_mem _))
      rw [same]
      exact List.mem_cons_self
    next => exact (inductionHypothesis start).imp_right (List.mem_cons_of_mem _)

theorem runningMax_found (start : Float) (values : List Float) :
    runningMax start values = start ∨ runningMax start values ∈ values :=
  foldl_found (· > ·) start values

theorem runningMin_found (start : Float) (values : List Float) :
    runningMin start values = start ∨ runningMin start values ∈ values :=
  foldl_found (· < ·) start values

/-! ### The largest element -/

/-- The first of the largest values, with its index, where `best` was found before. -/
def maxElement (best : Float × Nat) (index : Nat) : List Float → Float × Nat
  | [] => best
  | value :: later =>
      maxElement (if best.1 < value then (value, index) else best) (index + 1) later

/-- Among numbers the largest element is at least what was found before and every value. -/
theorem le_maxElement {best : Float × Nat} (index : Nat) (bestNumber : best.1.isNaN = false)
    (numbers : ∀ value ∈ values, value.isNaN = false) :
    best.1 ≤ (maxElement best index values).1 ∧
      ∀ value ∈ values, value ≤ (maxElement best index values).1 := by
  induction values generalizing best index with
  | nil => exact ⟨le_self_of_number bestNumber, fun _ member => by cases member⟩
  | cons head later inductionHypothesis =>
    have headNumber := numbers head List.mem_cons_self
    have laterNumbers := fun value member => numbers value (List.mem_cons_of_mem head member)
    unfold maxElement
    split
    next above =>
      obtain ⟨bound, others⟩ := inductionHypothesis (index + 1)
        (show (head, index).1.isNaN = false from headNumber) laterNumbers
      refine ⟨chain_le (le_of_lt above) bound, fun value member => ?_⟩
      rcases List.mem_cons.mp member with rfl | inLater
      · exact bound
      · exact others value inLater
    next below =>
      obtain ⟨bound, others⟩ := inductionHypothesis (index + 1) bestNumber laterNumbers
      refine ⟨bound, fun value member => ?_⟩
      rcases List.mem_cons.mp member with rfl | inLater
      · exact chain_le (le_of_not_lt headNumber bestNumber below) bound
      · exact others value inLater

/-- The largest element is found before, or at its index among the values. -/
theorem maxElement_found (values : List Float) (best : Float × Nat) (index : Nat) :
    maxElement best index values = best ∨
      ∃ offset, values[offset]? = some (maxElement best index values).1 ∧
        (maxElement best index values).2 = index + offset := by
  induction values generalizing best index with
  | nil => exact .inl rfl
  | cons head later inductionHypothesis =>
    unfold maxElement
    rcases inductionHypothesis (if best.1 < head then (head, index) else best) (index + 1) with
      same | ⟨offset, found, position⟩
    · rw [same]
      split
      · exact .inr ⟨0, rfl, rfl⟩
      · exact .inl rfl
    · refine .inr ⟨offset + 1, found, ?_⟩
      rw [position]
      omega

/-- The largest of a nonempty list stands at its index. -/
theorem getElem?_maxElement (first : Float) (later : List Float) :
    (first :: later)[(maxElement (first, 0) 1 later).2]? =
      some (maxElement (first, 0) 1 later).1 := by
  rcases maxElement_found later (first, 0) 1 with same | ⟨offset, found, position⟩
  · rw [same]
    rfl
  · rw [position, Nat.add_comm, List.getElem?_cons_succ]
    exact found

end Binary64
