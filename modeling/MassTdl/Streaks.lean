/-
This file is a small library about a property of the entries of a history that holds without a
break up to the end. A timer that starts at the first entry with the property, and is cleared by
an entry without it, shows when that streak began. So the property has held for long enough
exactly when it has since the timer was started, whatever is long enough, as long as no entry
is dated back.

Nothing in it names a particular history.
-/

import Mathlib.Data.List.Induction
import Mathlib.Order.Defs.PartialOrder
import Mathlib.Tactic.Common

namespace Streaks

variable {Entry Time : Type} (holds : Entry → Bool) (time : Entry → Time)

/-! ### The end of a history -/

/-- The history ends in entries with the property, and the first of them began it. -/
def HeldSince (Began : Entry → Prop) (history : List Entry) : Prop :=
  ∃ first later, first :: later <:+ history ∧
    (∀ entry ∈ first :: later, holds entry = true) ∧ Began first

/-- The timer after one more entry. -/
def observe (began : Option Time) (entry : Entry) : Option Time :=
  if holds entry then began.or (some (time entry)) else none

/-- When the streak began that the history ends in. -/
def begun (history : List Entry) : Option Time := history.foldl (observe holds time) none

variable {holds time} {Began : Entry → Prop} {history : List Entry} {entry : Entry}

theorem HeldSince.single (held : holds entry = true) (began : Began entry) :
    HeldSince holds Began (history ++ [entry]) :=
  ⟨entry, [], List.suffix_append _ _, fun other member => by
    rwa [List.mem_singleton.mp member], began⟩

theorem HeldSince.append (since : HeldSince holds Began history) (held : holds entry = true) :
    HeldSince holds Began (history ++ [entry]) := by
  obtain ⟨first, later, ⟨earlier, rfl⟩, all, began⟩ := since
  refine ⟨first, later ++ [entry], ⟨earlier, by rw [List.append_assoc, List.cons_append]⟩, ?_,
    began⟩
  intro other member
  rw [← List.cons_append] at member
  rcases List.mem_append.mp member with inside | last
  · exact all other inside
  · rwa [List.mem_singleton.mp last]

/-- A streak goes back to an entry of the history. -/
theorem HeldSince.mono {Later : Entry → Prop} (since : HeldSince holds Began history)
    (weaker : ∀ entry ∈ history, Began entry → Later entry) : HeldSince holds Later history := by
  obtain ⟨first, later, isEnd, all, began⟩ := since
  exact ⟨first, later, isEnd, all,
    weaker first (isEnd.subset List.mem_cons_self) began⟩

/-! ### The timer -/

theorem begun_append (history : List Entry) (entry : Entry) :
    begun holds time (history ++ [entry]) =
      observe holds time (begun holds time history) entry := by
  unfold begun
  rw [List.foldl_append]
  rfl

/-- The timer shows when a streak began that the history ends in. -/
theorem heldSince_of_begun {start : Time} (running : begun holds time history = some start) :
    HeldSince holds (fun first => time first = start) history := by
  induction history using List.reverseRecOn generalizing start with
  | nil => exact absurd running (Option.some_ne_none start).symm
  | append_singleton earlier entry inductionHypothesis =>
    rw [begun_append, observe] at running
    split_ifs at running with held
    cases before : begun holds time earlier with
    | none =>
      rw [before, Option.none_or] at running
      exact .single held (Option.some.inj running)
    | some began =>
      rw [before, Option.some_or] at running
      exact (inductionHypothesis (before.trans running)).append held

/-- A running timer keeps running through entries with the property. -/
theorem foldl_observe_of_held {started : Time} {later : List Entry}
    (all : ∀ entry ∈ later, holds entry = true) :
    later.foldl (observe holds time) (some started) = some started := by
  induction later with
  | nil => rfl
  | cons entry later inductionHypothesis =>
    have step : observe holds time (some started) entry = some started := by
      rw [observe, if_pos (all entry List.mem_cons_self), Option.some_or]
    rw [List.foldl_cons, step]
    exact inductionHypothesis fun other member => all other (List.mem_cons_of_mem _ member)

/-- When no entry is dated back, the timer was started no later than any such streak. -/
theorem begun_of_heldSince [Preorder Time]
    (steady : history.Pairwise fun first second => time first ≤ time second)
    (since : HeldSince holds Began history) :
    ∃ start first, begun holds time history = some start ∧ start ≤ time first ∧ Began first := by
  obtain ⟨first, later, ⟨earlier, rfl⟩, all, began⟩ := since
  have started : observe holds time (begun holds time earlier) first =
      (begun holds time earlier).or (some (time first)) := by
    rw [observe, if_pos (all first List.mem_cons_self)]
  have onward : begun holds time (earlier ++ first :: later) =
      later.foldl (observe holds time) ((begun holds time earlier).or (some (time first))) := by
    unfold begun
    rw [List.foldl_append, List.foldl_cons]
    exact congrArg (later.foldl (observe holds time)) started
  have kept : ∀ entry ∈ later, holds entry = true := fun entry member =>
    all entry (List.mem_cons_of_mem _ member)
  rw [onward]
  cases before : begun holds time earlier with
  | none =>
    rw [Option.none_or, foldl_observe_of_held kept]
    exact ⟨_, first, rfl, le_rfl, began⟩
  | some start =>
    rw [Option.some_or, foldl_observe_of_held kept]
    refine ⟨_, first, rfl, ?_, began⟩
    obtain ⟨oldest, rest, isEnd, -, isStart⟩ := heldSince_of_begun before
    rw [← isStart]
    exact (List.pairwise_append.mp steady).2.2 oldest (isEnd.subset List.mem_cons_self) first
      List.mem_cons_self

/-- The property has held for long enough exactly when it has since the timer was started. -/
theorem heldSince_iff [Preorder Time] (Enough : Time → Prop)
    (steady : history.Pairwise fun first second => time first ≤ time second)
    (longer : ∀ first second, first ≤ second → Enough second → Enough first) :
    HeldSince holds (fun first => Enough (time first)) history ↔
      ∃ start, begun holds time history = some start ∧ Enough start := by
  constructor
  · intro since
    obtain ⟨start, first, running, sooner, enough⟩ := begun_of_heldSince steady since
    exact ⟨start, running, longer start (time first) sooner enough⟩
  · rintro ⟨start, running, enough⟩
    refine (heldSince_of_begun running).mono fun entry _ isStart => ?_
    rwa [isStart]

end Streaks
