/-
This file is about the way back from an override. Five stable cycles have to come before the
timeout of 100 ms, and the cycles of the supervisor are 250 ms apart, so at that pace the handler
gives up in the second cycle at the latest. What it takes to have resumed is shown for every run:
the override became inactive, stable cycles were counted to five, and the planner answered. The
count does not start again after an unstable cycle, which the handler is not told of.
-/

import MassTdl.Supervisor.Node

namespace MassL3.M7.Core

open Runs

/-! ### Runs of the handler -/

/-- What happens around the handler. An unstable cycle calls nothing. -/
inductive ResumeCall where
  | overrideInactive (t0 : Int)
  | stableCycle
  | unstableCycle
  | m5Output
  | resumeTimeout
  | overrideActive (active : Bool)
  | poll (now : Int)
  deriving DecidableEq

namespace ResumeHandler

def apply (handler : ResumeHandler) : ResumeCall → ResumeHandler
  | .overrideInactive t0 => handler.onOverrideInactive t0
  | .stableCycle => handler.onM7Stable
  | .unstableCycle => handler
  | .m5Output => handler.onM5FirstOutput
  | .resumeTimeout => handler.onResumeTimeout
  | .overrideActive active => handler.setOverrideActive active
  | .poll now => handler.checkTimeout now

/-- The override is in force, or none has been yet. -/
def waiting (handler : ResumeHandler) : Prop :=
  handler.state = .overrideActive ∨ handler.state = .idle

end ResumeHandler

/-! ### The race between five cycles and the timeout -/

/-- A call that a run of stable cycles consists of, besides the outputs of the planner. -/
def ResumeCall.isCycleCall : ResumeCall → Bool
  | .stableCycle | .poll _ => true
  | _ => false

/-- A poll that comes too late for a handler that is not ready. -/
def ResumeCall.isLate (t0 : Int) : ResumeCall → Bool
  | .poll now => now - t0 > kM7ReadyTimeout
  | _ => false

/-- One stable cycle that polls the timeout before or after it reports. -/
def cycleCalls (pollFirst : Bool) (now : Int) : List ResumeCall :=
  if pollFirst then [.poll now, .stableCycle] else [.stableCycle, .poll now]

/-- Stable cycles 250 ms apart. -/
def cycles (pollFirst : Nat → Bool) (start : Int) (count : Nat) : List ResumeCall :=
  (List.range count).flatMap fun index =>
    cycleCalls (pollFirst index) (start + milliseconds 250 * index)

/-- The calls, with outputs of the planner anywhere among them. -/
def WithOutputs (calls cycleCalls : List ResumeCall) : Prop :=
  calls.filter (·.isCycleCall) = cycleCalls ∧ ∀ call ∈ calls, call.isCycleCall ∨ call = .m5Output

/-- The handler counts, and has counted so many cycles. -/
structure Counting (handler : ResumeHandler) (t0 : Int) (count : Nat) : Prop where
  state : handler.state = .preResumeCheck
  t0 : handler.t0 = t0
  count : handler.stableCycleCount.toNat = count

variable {handler : ResumeHandler} {t0 : Int} {count : Nat}

theorem apply_timedOut (gaveUp : handler.state = .resumeTimeout) {call : ResumeCall}
    (quiet : call.isCycleCall = true ∨ call = .m5Output) :
    (handler.apply call).state = .resumeTimeout := by
  obtain ⟨state, handlerT0, stableCycleCount⟩ := handler
  subst gaveUp
  cases call with
  | stableCycle | poll now | m5Output => rfl
  | _ => simp only [ResumeCall.isCycleCall, reduceCtorEq, or_self] at quiet

theorem run_timedOut (gaveUp : handler.state = .resumeTimeout) {calls : List ResumeCall}
    (quiet : ∀ call ∈ calls, call.isCycleCall = true ∨ call = .m5Output) :
    (run ResumeHandler.apply handler calls).state = .resumeTimeout := by
  induction calls generalizing handler with
  | nil => exact gaveUp
  | cons call later inductionHypothesis =>
    exact inductionHypothesis (apply_timedOut gaveUp (quiet call List.mem_cons_self))
      fun other member => quiet other (List.mem_cons_of_mem _ member)

section

variable (counting : Counting handler t0 count)
include counting

theorem Counting.stable (short : count + 1 < 5) :
    Counting (handler.apply .stableCycle) t0 (count + 1) := by
  have counted : (handler.stableCycleCount + 1).toNat = count + 1 := by
    rw [UInt32.toNat_add, counting.count, UInt32.toNat_one]
    exact Nat.mod_eq_of_lt (by omega)
  have below : ¬ handler.stableCycleCount + 1 ≥ kStableCyclesRequired := by
    intro enough
    have := UInt32.le_iff_toNat_le.mp enough
    rw [counted] at this
    exact absurd this (by show ¬ 5 ≤ count + 1; omega)
  unfold ResumeHandler.apply ResumeHandler.onM7Stable
  rw [if_neg (not_not_intro counting.state)]
  exact ⟨if_neg below, counting.t0, counted⟩

theorem Counting.poll (now : Int) :
    (ResumeCall.isLate t0 (.poll now) = true → (handler.apply (.poll now)).state = .resumeTimeout) ∧
      (ResumeCall.isLate t0 (.poll now) = false →
        Counting (handler.apply (.poll now)) t0 count) := by
  have same : handler.timedOut now = ResumeCall.isLate t0 (.poll now) := by
    unfold ResumeHandler.timedOut ResumeCall.isLate
    rw [counting.state, counting.t0]
  have polled : handler.apply (.poll now) =
      if ResumeCall.isLate t0 (.poll now) then { handler with state := .resumeTimeout }
      else handler := by
    rw [← same]
    rfl
  rw [polled]
  constructor
  · intro late
    rw [if_pos late]
  · intro timely
    rw [timely, if_neg (by decide)]
    exact counting

theorem Counting.output :
    Counting (handler.apply .m5Output) t0 count := by
  unfold ResumeHandler.apply ResumeHandler.onM5FirstOutput
  rw [if_neg (by rw [counting.state]; decide)]
  exact counting

/-- Fewer than five stable cycles leave the handler counting, unless a poll comes too late. -/
theorem Counting.run {calls : List ResumeCall}
    (quiet : ∀ call ∈ calls, call.isCycleCall = true ∨ call = .m5Output)
    (short : count + calls.count .stableCycle < 5) :
    (calls.any (·.isLate t0) = true →
        (Runs.run ResumeHandler.apply handler calls).state = .resumeTimeout) ∧
      (calls.any (·.isLate t0) = false →
        Counting (Runs.run ResumeHandler.apply handler calls) t0
          (count + calls.count .stableCycle)) := by
  induction calls generalizing handler count with
  | nil => exact ⟨fun late => Bool.noConfusion late, fun _ => counting⟩
  | cons call later inductionHypothesis =>
    have quietLater : ∀ call ∈ later, call.isCycleCall = true ∨ call = .m5Output :=
      fun other member => quiet other (List.mem_cons_of_mem _ member)
    rw [List.any_cons]
    cases call with
    | stableCycle =>
      rw [List.count_cons_self] at short ⊢
      rw [show count + (later.count .stableCycle + 1) = count + 1 + later.count .stableCycle by
        omega]
      exact inductionHypothesis (counting.stable (by omega)) quietLater (by omega)
    | m5Output =>
      rw [List.count_cons_of_ne (by decide)] at short ⊢
      exact inductionHypothesis counting.output quietLater short
    | poll now =>
      rw [List.count_cons_of_ne (by simp only [ne_eq, reduceCtorEq, not_false_eq_true])] at short ⊢
      obtain ⟨tooLate, inTime⟩ := counting.poll now
      cases late : ResumeCall.isLate t0 (.poll now) with
      | true =>
        rw [Bool.true_or]
        exact ⟨fun _ => run_timedOut (tooLate late) quietLater, fun no => absurd no (by decide)⟩
      | false =>
        rw [Bool.false_or]
        exact inductionHypothesis (inTime late) quietLater short
    | _ =>
      have := quiet _ List.mem_cons_self
      simp only [ResumeCall.isCycleCall, reduceCtorEq, or_self] at this

end

/-- The override becoming inactive starts the count. -/
theorem counting_overrideInactive (waiting : handler.waiting) :
    Counting (handler.apply (.overrideInactive t0)) t0 0 := by
  have restarted : handler.apply (.overrideInactive t0) =
      { state := .preResumeCheck, t0, stableCycleCount := 0 } := if_pos waiting
  rw [restarted]
  exact ⟨rfl, rfl, rfl⟩

theorem Counting.not_ready (counting : Counting handler t0 count) {calls : List ResumeCall}
    (quiet : ∀ call ∈ calls, call.isCycleCall = true ∨ call = .m5Output)
    (short : count + calls.count .stableCycle < 5) :
    (Runs.run ResumeHandler.apply handler calls).state ∉ [ResumeState.ready, .resumed] := by
  obtain ⟨tooLate, inTime⟩ := counting.run quiet short
  cases late : calls.any (·.isLate t0) with
  | true =>
    rw [tooLate late]
    decide
  | false =>
    rw [(inTime late).state]
    decide

/-! ### Cycles 250 ms apart -/

variable {pollFirst : Nat → Bool} {start : Int} {calls : List ResumeCall}

theorem cycles_add (first later : Nat) :
    ∃ rest, cycles pollFirst start (first + later) = cycles pollFirst start first ++ rest := by
  unfold cycles
  rw [List.range_add, List.flatMap_append]
  exact ⟨_, rfl⟩

theorem count_cycles (count : Nat) : (cycles pollFirst start count).count .stableCycle = count := by
  induction count with
  | zero => rfl
  | succ count inductionHypothesis =>
    unfold cycles at inductionHypothesis ⊢
    rw [List.range_succ, List.flatMap_append, List.count_append, inductionHypothesis,
      List.flatMap_singleton]
    unfold cycleCalls
    split_ifs <;> simp only [List.count_cons, List.count_nil, beq_iff_eq, reduceCtorEq, if_false,
      beq_self_eq_true, if_true, Nat.add_zero, Nat.zero_add]

theorem cycleCalls_late {now : Int} {first : Bool} (late : now - t0 > kM7ReadyTimeout) :
    (cycleCalls first now).any (·.isLate t0) = true := by
  have isLate : ResumeCall.isLate t0 (.poll now) = true := decide_eq_true late
  rw [List.any_eq_true]
  refine ⟨.poll now, ?_, isLate⟩
  unfold cycleCalls
  split_ifs <;> simp only [List.mem_cons, true_or, or_true]

/-- The second cycle polls too late. -/
theorem cycles_two_late (later : t0 ≤ start) :
    (cycles pollFirst start 2).any (·.isLate t0) = true := by
  have second : cycles pollFirst start 2 =
      cycles pollFirst start 1 ++ cycleCalls (pollFirst 1) (start + milliseconds 250) := by
    unfold cycles
    rw [List.range_succ, List.flatMap_append, List.flatMap_singleton, Nat.cast_one, mul_one]
  rw [second, List.any_append, cycleCalls_late, Bool.or_true]
  unfold kM7ReadyTimeout milliseconds
  omega

theorem WithOutputs.count_stable {cycleCalls : List ResumeCall}
    (outputs : WithOutputs calls cycleCalls) :
    calls.count .stableCycle = cycleCalls.count .stableCycle := by
  rw [← outputs.1, List.count_filter rfl]

theorem WithOutputs.late {cycleCalls : List ResumeCall} (outputs : WithOutputs calls cycleCalls)
    (late : cycleCalls.any (·.isLate t0) = true) : calls.any (·.isLate t0) = true := by
  rw [← outputs.1, List.any_filter, List.any_eq_true] at late
  obtain ⟨call, member, isLate⟩ := late
  exact List.any_eq_true.mpr ⟨call, member, (Bool.and_eq_true_iff.mp isLate).2⟩

/-- The calls of the first cycles come first, whatever the planner sends. -/
theorem WithOutputs.split {first rest : List ResumeCall}
    (outputs : WithOutputs calls (first ++ rest)) :
    ∃ front back, calls = front ++ back ∧ WithOutputs front first ∧ WithOutputs back rest := by
  obtain ⟨filtered, quiet⟩ := outputs
  obtain ⟨front, back, rfl, isFirst, isRest⟩ := List.filter_eq_append_iff.mp filtered
  exact ⟨front, back, rfl,
    ⟨isFirst, fun call member => quiet call (List.mem_append_left _ member)⟩,
    ⟨isRest, fun call member => quiet call (List.mem_append_right _ member)⟩⟩

/-- At that pace the handler is never ready, and has timed out after two cycles. -/
theorem cycles_time_out (waiting : handler.waiting) (later : t0 ≤ start) {count : Nat}
    (outputs : WithOutputs calls (cycles pollFirst start count)) {reached : List ResumeCall}
    (before : reached <+: calls) :
    (run ResumeHandler.apply handler (.overrideInactive t0 :: reached)).state ∉
        [ResumeState.ready, .resumed] ∧
      (2 ≤ count →
        (run ResumeHandler.apply handler (.overrideInactive t0 :: calls)).state =
          .resumeTimeout) := by
  have counting : Counting (handler.apply (.overrideInactive t0)) t0 0 :=
    counting_overrideInactive waiting
  have quietReached : ∀ call ∈ reached, call.isCycleCall = true ∨ call = .m5Output :=
    fun call member => outputs.2 call (before.subset member)
  rcases Nat.lt_or_ge count 2 with few | enough
  · refine ⟨counting.not_ready quietReached ?_, fun many => absurd few (not_lt.mpr many)⟩
    have fewer : reached.count .stableCycle ≤ calls.count .stableCycle := before.sublist.count_le _
    rw [outputs.count_stable, count_cycles] at fewer
    omega
  · obtain ⟨rest, first⟩ : ∃ rest, cycles pollFirst start (2 + (count - 2)) =
        cycles pollFirst start 2 ++ rest := cycles_add 2 (count - 2)
    rw [Nat.add_sub_cancel' enough] at first
    rw [first] at outputs
    obtain ⟨front, back, rfl, isFront, isBack⟩ := outputs.split
    have two : front.count .stableCycle = 2 := by rw [isFront.count_stable, count_cycles]
    have gaveUp : (run ResumeHandler.apply (handler.apply (.overrideInactive t0)) front).state =
        .resumeTimeout :=
      (counting.run isFront.2 (by omega)).1 (isFront.late (cycles_two_late later))
    constructor
    · obtain ⟨unreached, split⟩ := before
      rcases List.append_eq_append_iff.mp split with ⟨missing, rfl, _⟩ | ⟨more, rfl, _⟩
      · rw [List.count_append] at two
        exact counting.not_ready quietReached (by omega)
      · show (run ResumeHandler.apply _ (front ++ more)).state ∉ _
        rw [run_append, run_timedOut gaveUp fun call member =>
          quietReached call (List.mem_append_right _ member)]
        decide
    · intro _
      show (run ResumeHandler.apply _ (front ++ back)).state = _
      rw [run_append]
      exact run_timedOut gaveUp isBack.2

/-! ### What it takes to have resumed -/

/-- The cycles among the calls, stable or not. -/
def cyclesOf (calls : List ResumeCall) : List Bool :=
  calls.filterMap fun call =>
    match call with
    | .stableCycle => some true
    | .unstableCycle => some false
    | _ => none

/-- A call that leaves a handler in its sequence. -/
def ResumeCall.keepsSequence (call : ResumeCall) : Prop :=
  call ≠ .overrideActive true ∧ call ≠ .resumeTimeout

/-- The override became inactive, and nothing has broken the sequence since. -/
def SinceInactive (calls : List ResumeCall) (Sequence : List ResumeCall → Prop) : Prop :=
  ∃ before t0 since, calls = before ++ .overrideInactive t0 :: since ∧
    (∀ call ∈ since, call.keepsSequence) ∧ Sequence since

/-- So many stable cycles have followed each other since the first. -/
def Counted (count : Nat) (since : List ResumeCall) : Prop :=
  ∃ idle, cyclesOf since = List.replicate idle false ++ List.replicate count true

/-- Five stable cycles followed each other. -/
def Stabilised (since : List ResumeCall) : Prop :=
  ∃ counted later, since = counted ++ later ∧ List.replicate 5 true <:+ cyclesOf counted

/-- Five stable cycles followed each other, and later the planner answered. -/
def Answered (since : List ResumeCall) : Prop :=
  ∃ stabilised later, since = stabilised ++ .m5Output :: later ∧ Stabilised stabilised

/-- What the state of the handler says about the calls. -/
structure History (calls : List ResumeCall) (handler : ResumeHandler) : Prop where
  counting : handler.state = .preResumeCheck → handler.stableCycleCount.toNat < 5 ∧
    SinceInactive calls (Counted handler.stableCycleCount.toNat)
  ready : handler.state = .ready → SinceInactive calls Stabilised
  resumed : handler.state = .resumed → SinceInactive calls Answered

theorem SinceInactive.append {Sequence Longer : List ResumeCall → Prop}
    (since : SinceInactive calls Sequence) {call : ResumeCall} (keeps : call.keepsSequence)
    (longer : ∀ since, Sequence since → Longer (since ++ [call])) :
    SinceInactive (calls ++ [call]) Longer := by
  obtain ⟨before, t0, since, rfl, unbroken, sequence⟩ := since
  refine ⟨before, t0, since ++ [call], by rw [List.append_assoc, List.cons_append], ?_,
    longer since sequence⟩
  intro other member
  rcases List.mem_append.mp member with earlier | last
  · exact unbroken other earlier
  · rw [List.mem_singleton.mp last]
    exact keeps

theorem cyclesOf_append (since : List ResumeCall) (call : ResumeCall) :
    cyclesOf (since ++ [call]) = cyclesOf since ++ cyclesOf [call] := List.filterMap_append

theorem Stabilised.append {since : List ResumeCall} (stabilised : Stabilised since)
    (call : ResumeCall) : Stabilised (since ++ [call]) := by
  obtain ⟨counted, later, rfl, five⟩ := stabilised
  exact ⟨counted, later ++ [call], List.append_assoc _ _ _, five⟩

theorem Answered.append {since : List ResumeCall} (answered : Answered since)
    (call : ResumeCall) : Answered (since ++ [call]) := by
  obtain ⟨stabilised, later, rfl, stable⟩ := answered
  exact ⟨stabilised, later ++ [call], by rw [List.append_assoc, List.cons_append], stable⟩

/-- A call that leaves the handler alone extends its history. -/
theorem History.extend (history : History calls handler) {call : ResumeCall}
    (keeps : call.keepsSequence)
    (uncounted : handler.state = .preResumeCheck → cyclesOf [call] = []) :
    History (calls ++ [call]) handler := by
  refine ⟨fun counting => ?_, fun ready => ?_, fun resumed => ?_⟩
  · obtain ⟨few, since⟩ := history.counting counting
    refine ⟨few, since.append keeps fun since ⟨idle, counted⟩ => ⟨idle, ?_⟩⟩
    rw [cyclesOf_append, uncounted counting, List.append_nil, counted]
  · exact (history.ready ready).append keeps fun _ stabilised => stabilised.append call
  · exact (history.resumed resumed).append keeps fun _ answered => answered.append call

/-- A state outside the sequence says nothing. -/
theorem History.outside
    (outside : handler.state = .resumeTimeout ∨ handler.state = .overrideActive) :
    History calls handler := by
  rcases outside with out | out <;>
    exact ⟨fun inside => absurd (out.symm.trans inside) (by decide),
      fun inside => absurd (out.symm.trans inside) (by decide),
      fun inside => absurd (out.symm.trans inside) (by decide)⟩

theorem History.ofCounting (counting : handler.state = .preResumeCheck)
    (few : handler.stableCycleCount.toNat < 5)
    (since : SinceInactive calls (Counted handler.stableCycleCount.toNat)) :
    History calls handler :=
  ⟨fun _ => ⟨few, since⟩, fun ready => absurd (counting.symm.trans ready) (by decide),
    fun resumed => absurd (counting.symm.trans resumed) (by decide)⟩

theorem History.ofReady (ready : handler.state = .ready) (since : SinceInactive calls Stabilised) :
    History calls handler :=
  ⟨fun counting => absurd (ready.symm.trans counting) (by decide), fun _ => since,
    fun resumed => absurd (ready.symm.trans resumed) (by decide)⟩

theorem History.ofResumed (resumed : handler.state = .resumed)
    (since : SinceInactive calls Answered) : History calls handler :=
  ⟨fun counting => absurd (resumed.symm.trans counting) (by decide),
    fun ready => absurd (resumed.symm.trans ready) (by decide), fun _ => since⟩

section

variable (history : History calls handler)
include history

theorem History.overrideInactive (t0 : Int) :
    History (calls ++ [.overrideInactive t0]) (handler.apply (.overrideInactive t0)) := by
  unfold ResumeHandler.apply ResumeHandler.onOverrideInactive
  simp only
  split_ifs
  · exact .ofCounting rfl (show (0 : UInt32).toNat < 5 by decide)
      ⟨calls, t0, [], rfl, fun _ member => absurd member List.not_mem_nil, 0, rfl⟩
  · exact history.extend ⟨by simp only [ne_eq, reduceCtorEq, not_false_eq_true],
      by simp only [ne_eq, reduceCtorEq, not_false_eq_true]⟩ fun _ => rfl

/-- The fifth stable cycle makes the handler ready. -/
theorem History.stableCycle :
    History (calls ++ [.stableCycle]) (handler.apply .stableCycle) := by
  have keeps : ResumeCall.keepsSequence .stableCycle := ⟨by decide, by decide⟩
  by_cases counting : handler.state = .preResumeCheck
  · obtain ⟨few, since⟩ := history.counting counting
    have counted : (handler.stableCycleCount + 1).toNat = handler.stableCycleCount.toNat + 1 := by
      rw [UInt32.toNat_add, UInt32.toNat_one]
      exact Nat.mod_eq_of_lt (by omega)
    have longer : ∀ since, Counted handler.stableCycleCount.toNat since →
        Counted (handler.stableCycleCount.toNat + 1) (since ++ [.stableCycle]) := by
      rintro since ⟨idle, cycles⟩
      refine ⟨idle, ?_⟩
      rw [cyclesOf_append, cycles, List.replicate_succ', List.append_assoc]
      rfl
    unfold ResumeHandler.apply ResumeHandler.onM7Stable
    simp only [counting, ne_eq, not_true_eq_false, if_false]
    split_ifs with enough
    · have reached : 5 ≤ (handler.stableCycleCount + 1).toNat := UInt32.le_iff_toNat_le.mp enough
      have five : handler.stableCycleCount.toNat + 1 = 5 := by omega
      refine .ofReady rfl (since.append keeps fun since counted => ?_)
      obtain ⟨idle, cycles⟩ := longer since counted
      refine ⟨since ++ [.stableCycle], [], (List.append_nil _).symm, ?_⟩
      rw [cycles, five]
      exact List.suffix_append _ _
    · have below : ¬ 5 ≤ (handler.stableCycleCount + 1).toNat := fun reached =>
        enough (UInt32.le_iff_toNat_le.mpr reached)
      refine .ofCounting rfl (not_le.mp below) ?_
      rw [counted]
      exact since.append keeps longer
  · have ignored : handler.apply .stableCycle = handler := if_pos counting
    rw [ignored]
    exact history.extend keeps fun counts => absurd counts counting

theorem History.m5Output :
    History (calls ++ [.m5Output]) (handler.apply .m5Output) := by
  have keeps : ResumeCall.keepsSequence .m5Output := ⟨by decide, by decide⟩
  unfold ResumeHandler.apply ResumeHandler.onM5FirstOutput
  simp only
  split_ifs with ready
  · exact .ofResumed rfl ((history.ready ready).append keeps fun since stabilised =>
      ⟨since, [], rfl, stabilised⟩)
  · exact history.extend keeps fun _ => rfl

/-- An unstable cycle is harmless as long as none has been counted. -/
theorem History.apply (call : ResumeCall)
    (unbroken : call = .unstableCycle → handler.state = .preResumeCheck →
      handler.stableCycleCount = 0) :
    History (calls ++ [call]) (handler.apply call) := by
  cases call with
  | overrideInactive t0 => exact history.overrideInactive t0
  | stableCycle => exact history.stableCycle
  | m5Output => exact history.m5Output
  | resumeTimeout => exact .outside (Or.inl rfl)
  | overrideActive active =>
    cases active with
    | true => exact .outside (Or.inr rfl)
    | false => exact history.extend ⟨by decide, by decide⟩ fun _ => rfl
  | poll now =>
    unfold ResumeHandler.apply ResumeHandler.checkTimeout
    simp only
    split_ifs
    · exact .outside (Or.inl rfl)
    · exact history.extend ⟨by simp only [ne_eq, reduceCtorEq, not_false_eq_true],
        by simp only [ne_eq, reduceCtorEq, not_false_eq_true]⟩ fun _ => rfl
  | unstableCycle =>
    have keeps : ResumeCall.keepsSequence .unstableCycle := ⟨by decide, by decide⟩
    refine ⟨fun counting => ?_, fun ready => ?_, fun resumed => ?_⟩
    · obtain ⟨few, since⟩ := history.counting counting
      refine ⟨few, since.append keeps ?_⟩
      show ∀ since, Counted handler.stableCycleCount.toNat since →
        Counted handler.stableCycleCount.toNat (since ++ [.unstableCycle])
      rw [unbroken rfl counting]
      rintro since ⟨idle, cycles⟩
      refine ⟨idle + 1, ?_⟩
      rw [cyclesOf_append, cycles, List.replicate_succ', UInt32.toNat_zero, List.replicate_zero,
        List.append_nil, List.append_nil]
      rfl
    · exact (history.ready ready).append keeps fun _ stabilised => stabilised.append _
    · exact (history.resumed resumed).append keeps fun _ answered => answered.append _

end

/-- No unstable cycle comes after the first of the stable cycles that are being counted. -/
def CountsUnbroken (calls : List ResumeCall) : Prop :=
  ∀ earlier later, calls = earlier ++ .unstableCycle :: later →
    (run ResumeHandler.apply {} earlier).state = .preResumeCheck →
      (run ResumeHandler.apply {} earlier).stableCycleCount = 0

theorem history_of_run (unbroken : CountsUnbroken calls) :
    History calls (run ResumeHandler.apply {} calls) := by
  induction calls using List.reverseRecOn with
  | nil =>
    exact ⟨fun counting => absurd counting (by decide), fun ready => absurd ready (by decide),
      fun resumed => absurd resumed (by decide)⟩
  | append_singleton earlier call inductionHypothesis =>
    have history : History earlier (run ResumeHandler.apply {} earlier) := by
      refine inductionHypothesis fun first later split => unbroken first (later ++ [call]) ?_
      rw [split, List.append_assoc, List.cons_append]
    rw [run_append]
    refine history.apply call fun unstable => unbroken earlier [] ?_
    rw [unstable]

/-! ### The pace of the supervisor -/

/-- An override that becomes inactive does not lead to a resumption when stable cycles of 250 ms
follow, each of which polls the timeout: whatever the planner sends meanwhile, the handler is
never ready, and it has timed out after two cycles. In every run without an unstable cycle
among those counted, it has resumed only after the override became inactive, five stable cycles
followed each other, and the planner answered. -/
theorem never_resumes_at_cycle_pace {handler : ResumeHandler} (waiting : handler.waiting)
    {t0 start : Int} (later : t0 ≤ start) {pollFirst : Nat → Bool} {count : Nat}
    {calls reached : List ResumeCall} (outputs : WithOutputs calls (cycles pollFirst start count))
    (before : reached <+: calls) {history : List ResumeCall} (unbroken : CountsUnbroken history) :
    (run ResumeHandler.apply handler (.overrideInactive t0 :: reached)).state ∉
        [ResumeState.ready, .resumed] ∧
      (2 ≤ count → (run ResumeHandler.apply handler (.overrideInactive t0 :: calls)).state =
        .resumeTimeout) ∧
      ((run ResumeHandler.apply {} history).state = .resumed → SinceInactive history Answered) := by
  obtain ⟨notReady, timedOut⟩ := cycles_time_out waiting later outputs before
  exact ⟨notReady, timedOut, (history_of_run unbroken).resumed⟩

/-- Five cycles of the supervisor, the first of them 50 ms after the override. -/
def promptCycles : List ResumeCall := cycles (fun _ => false) (milliseconds 50) 5

/-- Cycles 10 ms apart are fast enough. -/
def fastCycles : List ResumeCall :=
  [.overrideInactive 0] ++ cycleCalls false (milliseconds 10) ++
    cycleCalls false (milliseconds 20) ++ cycleCalls false (milliseconds 30) ++
    cycleCalls false (milliseconds 40) ++ cycleCalls false (milliseconds 50) ++ [.m5Output]

theorem fastCycles_unbroken : CountsUnbroken fastCycles := by
  intro earlier later split
  have member : ResumeCall.unstableCycle ∈ fastCycles := by
    rw [split]
    exact List.mem_append_right _ List.mem_cons_self
  exact absurd member (by decide)

theorem never_resumes_at_cycle_pace_promptCycles :
    (run ResumeHandler.apply { state := .overrideActive }
        (.overrideInactive 0 :: promptCycles)).state ∉ [ResumeState.ready, .resumed] ∧
      (2 ≤ 5 → (run ResumeHandler.apply { state := .overrideActive }
        (.overrideInactive 0 :: promptCycles)).state = .resumeTimeout) ∧
      ((run ResumeHandler.apply {} fastCycles).state = .resumed →
        SinceInactive fastCycles Answered) := by
  have later : 0 ≤ milliseconds 50 := by decide
  have outputs : WithOutputs promptCycles (cycles (fun _ => false) (milliseconds 50) 5) :=
    ⟨by decide, by decide⟩
  exact never_resumes_at_cycle_pace (Or.inl rfl) later outputs (List.prefix_refl promptCycles)
    fastCycles_unbroken

/-- One unstable cycle among the stable ones. -/
def brokenCount : List ResumeCall :=
  [.overrideInactive 0, .stableCycle, .unstableCycle, .stableCycle, .stableCycle, .stableCycle,
    .stableCycle, .m5Output]

theorem brokenCount_not_answered : ¬ SinceInactive brokenCount Answered := by
  rintro ⟨before, t0, since, split, _, stabilised, later, rfl, counted, rest, rfl, five⟩
  have cycles : cyclesOf brokenCount = cyclesOf before ++ (cyclesOf counted ++ (cyclesOf rest ++
      cyclesOf later)) := by
    rw [split]
    unfold cyclesOf
    simp only [List.filterMap_append, List.filterMap_cons_none, List.append_assoc]
  have consecutive : List.replicate 5 true <:+: cyclesOf brokenCount := by
    rw [cycles]
    exact five.isInfix.trans ⟨cyclesOf before, cyclesOf rest ++ cyclesOf later,
      List.append_assoc _ _ _⟩
  exact absurd consecutive (by decide)

/-- Neither half of what is expected holds: at the pace of 250 ms the handler does not become
ready, and it resumes on five stable cycles that an unstable one has broken. -/
theorem resumption_as_expected_false :
    ¬ (∀ (handler : ResumeHandler) (t0 start : Int) (pollFirst : Nat → Bool), handler.waiting →
        t0 ≤ start → ∃ count, (run ResumeHandler.apply handler
          (.overrideInactive t0 :: cycles pollFirst start count)).state = .ready) ∧
      ¬ ∀ calls : List ResumeCall, (run ResumeHandler.apply {} calls).state = .resumed →
        SinceInactive calls Answered := by
  constructor
  · intro completes
    obtain ⟨count, ready⟩ := completes { state := .overrideActive } 0 (milliseconds 50)
      (fun _ => false) (Or.inl rfl) (by decide)
    have outputs : WithOutputs (cycles (fun _ => false) (milliseconds 50) count)
        (cycles (fun _ => false) (milliseconds 50) count) := by
      have quiet : ∀ call ∈ cycles (fun _ => false) (milliseconds 50) count,
          call.isCycleCall = true := by
        intro call member
        obtain ⟨index, _, inCycle⟩ := List.mem_flatMap.mp member
        rcases List.mem_pair.mp inCycle with rfl | rfl <;> rfl
      exact ⟨List.filter_eq_self.mpr quiet, fun call member => Or.inl (quiet call member)⟩
    have active : ResumeHandler.waiting { state := .overrideActive } := Or.inl rfl
    have never := (cycles_time_out active (show (0 : Int) ≤ milliseconds 50 by decide) outputs
      (List.prefix_refl _)).1
    rw [ready] at never
    exact absurd never (by decide)
  · intro proper
    exact brokenCount_not_answered (proper brokenCount (by decide))

end MassL3.M7.Core
