/-
This file is a small library about a register that is written in two ways: some writers assign
a state to it, whatever it holds, and others only raise it to a state of no lower rank. A register
that is only raised holds the highest state. One that is also assigned holds it exactly when no
assignment puts a state away that outranks everything written from there on.

Nothing in it names a particular component.
-/

import Mathlib.Data.List.Basic
import Mathlib.Order.Lattice
import Mathlib.Tactic.Common

namespace Registers

variable {State Rank : Type} [LinearOrder Rank]

/-! ### Writes -/

inductive Write (State : Type) where
  | assign (state : State)
  | raise (state : State)
  deriving DecidableEq

namespace Write

/-- The state that is written. -/
def state : Write State → State
  | assign state => state
  | raise state => state

/-- The register after a write. Of two states of one rank, the later one is kept. -/
def apply (rank : State → Rank) (register : Option State) : Write State → Option State
  | assign state => some state
  | raise state =>
      match register with
      | none => some state
      | some held => if rank state ≥ rank held then some state else some held

end Write

variable (rank : State → Rank)

/-- The register after some writes. -/
def writeAll (register : Option State) (writes : List (Write State)) : Option State :=
  writes.foldl (Write.apply rank) register

/-- Unless there are none, the register holds one of the states, and none of them outranks
it. -/
def HoldsMaximum (register : Option State) (states : List State) : Prop :=
  states ≠ [] →
    ∃ held ∈ states, register = some held ∧ ∀ state ∈ states, rank state ≤ rank held

variable {rank}

theorem writeAll_append (register : Option State) (earlier later : List (Write State)) :
    writeAll rank register (earlier ++ later) =
      writeAll rank (writeAll rank register earlier) later :=
  List.foldl_append

theorem writeAll_cons (register : Option State) (write : Write State)
    (later : List (Write State)) :
    writeAll rank register (write :: later) =
      writeAll rank (write.apply rank register) later := rfl

/-- An assignment forgets what was written before it. -/
theorem writeAll_assign (register : Option State) (earlier later : List (Write State))
    (state : State) :
    writeAll rank register (earlier ++ .assign state :: later) =
      writeAll rank (some state) later :=
  writeAll_append register earlier (.assign state :: later)

/-- A raised register holds the state it is raised to, or what it held. -/
theorem apply_raise_cases (rank : State → Rank) (held state : State) :
    (Write.raise state).apply rank (some held) = some state ∧ rank held ≤ rank state ∨
      (Write.raise state).apply rank (some held) = some held ∧ rank state ≤ rank held := by
  unfold Write.apply
  dsimp only
  split_ifs with higher
  · exact .inl ⟨rfl, higher⟩
  · exact .inr ⟨rfl, le_of_lt (lt_of_not_ge higher)⟩

/-- What the register holds in the end it held before, or it has been written. -/
theorem writeAll_mem (rank : State → Rank) (held : State) (writes : List (Write State)) :
    ∃ final ∈ held :: writes.map Write.state,
      writeAll rank (some held) writes = some final := by
  induction writes generalizing held with
  | nil => exact ⟨held, List.mem_cons_self, rfl⟩
  | cons write later inductionHypothesis =>
    obtain ⟨next, among, applied⟩ : ∃ next, (next = held ∨ next = write.state) ∧
        write.apply rank (some held) = some next := by
      cases write with
      | assign state => exact ⟨state, .inr rfl, rfl⟩
      | raise state =>
        obtain ⟨raised, -⟩ | ⟨kept, -⟩ := apply_raise_cases rank held state
        · exact ⟨state, .inr rfl, raised⟩
        · exact ⟨held, .inl rfl, kept⟩
    obtain ⟨final, member, written⟩ := inductionHypothesis next
    refine ⟨final, ?_, ?_⟩
    · rw [List.map_cons]
      rcases List.mem_cons.mp member with rfl | inLater
      · rcases among with rfl | rfl
        · exact List.mem_cons_self
        · exact List.mem_cons_of_mem _ List.mem_cons_self
      · exact List.mem_cons_of_mem _ (List.mem_cons_of_mem _ inLater)
    · rw [writeAll_cons, applied]
      exact written

/-- A register stays empty only while nothing is written. -/
theorem writeAll_eq_none {register : Option State} {writes : List (Write State)} :
    writeAll rank register writes = none ↔ register = none ∧ writes = [] := by
  constructor
  · intro empty
    cases register with
    | some held =>
      obtain ⟨final, -, written⟩ := writeAll_mem rank held writes
      rw [written] at empty
      cases empty
    | none =>
      cases writes with
      | nil => exact ⟨rfl, rfl⟩
      | cons write later =>
        have first : write.apply rank none = some write.state := by cases write <;> rfl
        obtain ⟨final, -, written⟩ := writeAll_mem rank write.state later
        rw [writeAll_cons, first, written] at empty
        cases empty
  · rintro ⟨rfl, rfl⟩
    rfl

@[simp]
theorem map_state_assign (states : List State) :
    (states.map Write.assign).map Write.state = states := by
  rw [List.map_map]
  exact List.map_id _

@[simp]
theorem map_state_raise (states : List State) :
    (states.map Write.raise).map Write.state = states := by
  rw [List.map_map]
  exact List.map_id _

/-- A register that is only raised ends above everything it has held. -/
theorem writeAll_raises (rank : State → Rank) (held : State) (states : List State) :
    ∃ final ∈ held :: states, writeAll rank (some held) (states.map .raise) = some final ∧
      ∀ state ∈ held :: states, rank state ≤ rank final := by
  obtain ⟨final, among, written⟩ := writeAll_mem rank held (states.map .raise)
  rw [map_state_raise] at among
  refine ⟨final, among, written, ?_⟩
  clear among
  induction states generalizing held with
  | nil =>
    obtain rfl := Option.some.inj written
    simp
  | cons state later inductionHypothesis =>
    obtain ⟨next, applied, aboveHeld, aboveState⟩ : ∃ next,
        (Write.raise state).apply rank (some held) = some next ∧
          rank held ≤ rank next ∧ rank state ≤ rank next := by
      obtain ⟨raised, above⟩ | ⟨kept, above⟩ := apply_raise_cases rank held state
      · exact ⟨state, raised, above, le_rfl⟩
      · exact ⟨held, kept, le_rfl, above⟩
    rw [List.map_cons, writeAll_cons, applied] at written
    have highest := inductionHypothesis next written
    have aboveNext := highest next List.mem_cons_self
    intro other member
    rcases List.mem_cons.mp member with rfl | among
    · exact le_trans aboveHeld aboveNext
    · rcases List.mem_cons.mp among with rfl | inLater
      · exact le_trans aboveState aboveNext
      · exact highest other (List.mem_cons_of_mem _ inLater)

/-! ### The highest state -/

/-- Some writes are all raises, or they have a last assignment. -/
theorem raises_or_last_assign (writes : List (Write State)) :
    (∃ states : List State, writes = states.map .raise) ∨
      ∃ (earlier : List (Write State)) (state : State) (states : List State),
        writes = earlier ++ .assign state :: states.map .raise := by
  induction writes with
  | nil => exact .inl ⟨[], rfl⟩
  | cons write later inductionHypothesis =>
    obtain ⟨states, rfl⟩ | ⟨earlier, state, states, rfl⟩ := inductionHypothesis
    · cases write with
      | assign state => exact .inr ⟨[], state, states, rfl⟩
      | raise state => exact .inl ⟨state :: states, rfl⟩
    · exact .inr ⟨write :: earlier, state, states, rfl⟩

/-- No assignment puts a state away that outranks everything written from there on. -/
def LosesNothing (rank : State → Rank) (writes : List (Write State)) : Prop :=
  ∀ earlier state later, writes = earlier ++ .assign state :: later →
    ∀ lost ∈ earlier.map Write.state,
      ∃ kept ∈ state :: later.map Write.state, rank lost ≤ rank kept

/-- A register that starts empty and is only raised holds the highest state. -/
theorem holdsMaximum_raises (rank : State → Rank) (states : List State) :
    HoldsMaximum rank (writeAll rank none (states.map .raise)) states := by
  intro written
  obtain ⟨first, later, rfl⟩ := List.exists_cons_of_ne_nil written
  exact writeAll_raises rank first later

/-- A fold whose step raises the register takes it to the highest state. -/
theorem holdsMaximum_foldl {step : Option State → State → Option State}
    (raises : ∀ register state, step register state = (Write.raise state).apply rank register)
    (states : List State) : HoldsMaximum rank (states.foldl step none) states := by
  have steps : step = fun register state => (Write.raise state).apply rank register :=
    funext₂ raises
  rw [steps, ← List.foldl_map]
  exact holdsMaximum_raises rank states

/-- It is enough that the last assignment loses nothing. -/
theorem holdsMaximum_last_assign {earlier : List (Write State)} {state : State}
    {states : List State}
    (nothing : ∀ lost ∈ earlier.map Write.state, ∃ kept ∈ state :: states, rank lost ≤ rank kept) :
    HoldsMaximum rank (writeAll rank none (earlier ++ .assign state :: states.map .raise))
      (earlier.map Write.state ++ state :: states) := by
  intro _
  obtain ⟨final, among, last, highest⟩ := writeAll_raises rank state states
  rw [writeAll_assign]
  refine ⟨final, List.mem_append_right _ among, last, fun other member => ?_⟩
  rcases List.mem_append.mp member with before | behind
  · obtain ⟨kept, inRest, below⟩ := nothing other before
    exact le_trans below (highest kept inRest)
  · exact highest other behind

/-- A register that starts empty holds the highest state exactly when nothing is lost. -/
theorem holdsMaximum_writeAll_iff (writes : List (Write State)) :
    HoldsMaximum rank (writeAll rank none writes) (writes.map Write.state) ↔
      LosesNothing rank writes := by
  constructor
  · rintro holds earlier state later rfl lost member
    obtain ⟨held, -, written, highest⟩ := holds (by simp)
    obtain ⟨final, among, last⟩ := writeAll_mem rank state later
    rw [writeAll_assign, last] at written
    obtain rfl := Option.some.inj written
    rw [List.map_append] at highest
    exact ⟨final, among, highest lost (List.mem_append_left _ member)⟩
  · intro nothing
    obtain ⟨states, rfl⟩ | ⟨earlier, state, states, rfl⟩ := raises_or_last_assign writes
    · rw [map_state_raise]
      exact holdsMaximum_raises rank states
    · rw [List.map_append, List.map_cons, map_state_raise]
      refine holdsMaximum_last_assign fun lost before => ?_
      have kept := nothing earlier state _ rfl lost before
      rwa [map_state_raise] at kept

end Registers
