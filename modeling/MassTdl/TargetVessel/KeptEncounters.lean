/-
This file is about encounters of a simulated target that go on over many updates. Once the machine
has waited for the reaction delay it does not wait again, as long as each interruption is shorter
than the dwell time and what is found afterwards is the stored rule and role. Where the same rule
and role are found as before, this comes down to the role that is stored, and in a head-on meeting
that is another one.
-/

import MassTdl.TargetVessel.Encounters

namespace MassL3.TargetVessel

variable {lib : MathLibrary} {config : TargetBehaviorConfig}

/-- The machine waits for the reaction delay to elapse. -/
def TargetBehaviorState.Waiting (fsm : TargetBehaviorState) : Prop :=
  fsm.state = .monitoring ∧ fsm.reason = "reaction_delay"

instance (fsm : TargetBehaviorState) : Decidable fsm.Waiting := inferInstanceAs (Decidable (_ ∧ _))

section Kept

variable {updates earlier : List Update} {last : Update} {clear : List Update}

/-! ### Encounters that are kept -/

/-- What keeps an ongoing encounter: its interruptions are shorter than the dwell time, and the
update that ends one finds the rule again and the stored role. -/
structure Continues (lib : MathLibrary) (config : TargetBehaviorConfig) (updates : List Update)
    (next : Update) : Prop where
  short : found lib config next = none → ∀ earlier last clear,
    Ongoing lib config updates earlier last clear →
      ∀ first ∈ (clear ++ [next]).head?, ¬ next.nowS - first.nowS ≥ config.clearDwellS
  resumes : ∀ rule role, found lib config next = some (rule, role) → ∀ earlier last clear,
    Ongoing lib config updates earlier last clear → clear ≠ [] →
      ∃ roleBefore, found lib config last = some (rule, roleBefore) ∧
        storedRole lib config earlier last roleBefore = role

/-- Such an update leaves the encounter ongoing, and its start as it was. -/
theorem Continues.step {next : Update} (continues : Continues lib config updates next)
    (active : (after lib config updates).Active) :
    (after lib config (updates ++ [next])).Active ∧
      (after lib config (updates ++ [next])).encounterStartS =
        (after lib config updates).encounterStartS := by
  obtain ⟨earlier, last, clear, ongoing⟩ := exists_ongoing active
  cases met : found lib config next with
  | none =>
    have onward := ongoing.concat met (continues.short met earlier last clear ongoing)
    exact ⟨onward.after_eq.1, onward.kept.trans ongoing.kept.symm⟩
  | some pair =>
    obtain ⟨newRule, newRole⟩ := pair
    obtain ⟨⟨rule, role⟩, lastMet⟩ := Option.ne_none_iff_exists'.mp ongoing.met
    refine ⟨(engages_after _ met).active, ?_⟩
    rw [ongoing.encounterStartS_eq lastMet met, ongoing.kept, if_neg]
    rintro ⟨interrupted, other⟩
    obtain ⟨roleBefore, found, stored⟩ :=
      continues.resumes newRule newRole met earlier last clear ongoing interrupted
    rw [lastMet, Option.some_inj, Prod.mk_inj] at found
    obtain ⟨sameRule, sameRole⟩ := found
    exact other.elim (fun differ => differ sameRule) fun differ => differ (sameRole ▸ stored)

/-- A run of them does too. -/
theorem after_of_continues {later : List Update}
    (continues : ∀ before next rest, later = before ++ next :: rest →
      Continues lib config (updates ++ before) next)
    (active : (after lib config updates).Active) :
    (after lib config (updates ++ later)).Active ∧
      (after lib config (updates ++ later)).encounterStartS =
        (after lib config updates).encounterStartS := by
  induction later using List.reverseRecOn with
  | nil =>
    rw [List.append_nil]
    exact ⟨active, rfl⟩
  | append_singleton before next inductionHypothesis =>
    obtain ⟨engaged, kept⟩ := inductionHypothesis fun front other rest split =>
      continues front other (rest ++ [next]) (by rw [split, List.append_assoc, List.cons_append])
    have stepped := (continues before next [] rfl).step engaged
    rw [← List.append_assoc]
    exact ⟨stepped.1, stepped.2.trans kept⟩

/-- A known start is the time of an update. -/
theorem encounterStartS_mem {start : Float}
    (started : (after lib config updates).encounterStartS = some start) :
    ∃ update ∈ updates, update.nowS = start := by
  induction updates using List.reverseRecOn with
  | nil => cases started
  | append_singleton before next inductionHypothesis =>
    have stepped : after lib config (before ++ [next]) =
        TargetVessel.step lib config (after lib config before) next := after_append before [next]
    have earlier (known : (after lib config before).encounterStartS = some start) :
        ∃ update ∈ before ++ [next], update.nowS = start := by
      obtain ⟨update, member, same⟩ := inductionHypothesis known
      exact ⟨update, List.mem_append_left _ member, same⟩
    cases met : found lib config next with
    | some pair =>
      obtain ⟨rule, role⟩ := pair
      rw [(engages_after _ met).start, TargetBehaviorState.startAfter] at started
      split_ifs at started
      · exact ⟨next, List.mem_append_right _ (List.mem_singleton_self next),
          Option.some.inj started⟩
      · exact earlier started
    | none =>
      rw [stepped, step_of_clear met] at started
      unfold TargetBehaviorState.clearOrNominal at started
      dsimp only at started
      split_ifs at started
      · exact earlier started
      · exact earlier started
      · exact earlier started
      · exact earlier started

/-- What is found after the delay from a start that is kept is not waited for. -/
theorem acts_of_kept {next : Update} {start : Float} (again : found lib config next ≠ none)
    (kept : (after lib config (updates ++ [next])).encounterStartS = some start)
    (elapsed : next.nowS - start ≥ config.reactionDelayS) :
    (after lib config (updates ++ [next])).reason ≠ "reaction_delay" := by
  obtain ⟨⟨rule, role⟩, met⟩ := Option.ne_none_iff_exists'.mp again
  have stepped : after lib config (updates ++ [next]) =
      TargetVessel.step lib config (after lib config updates) next := after_append updates [next]
  rw [stepped]
  refine step_reason met ?_ elapsed
  rw [← (engages_step _ met).start, ← stepped]
  exact kept

/-- Once the reaction delay has elapsed, an encounter that continues is not waited for again. -/
theorem encounter_kept {earlier later : List Update} {first next : Update}
    (finite : ∀ update ∈ earlier ++ [first], update.nowS.isFinite = true)
    (order : first.nowS ≤ next.nowS)
    (met : found lib config first ≠ none)
    (elapsed : (after lib config (earlier ++ [first])).ReactionDelayElapsed config first.nowS)
    (continues : ∀ before update rest, later ++ [next] = before ++ update :: rest →
      Continues lib config (earlier ++ [first] ++ before) update)
    (again : found lib config next ≠ none) :
    (after lib config (earlier ++ [first] ++ (later ++ [next]))).encounterStartS =
        (after lib config (earlier ++ [first])).encounterStartS ∧
      (after lib config (earlier ++ [first] ++ (later ++ [next]))).reason ≠ "reaction_delay" := by
  obtain ⟨⟨rule, role⟩, met⟩ := Option.ne_none_iff_exists'.mp met
  obtain ⟨-, kept⟩ := after_of_continues continues (engages_after earlier met).active
  obtain ⟨start, started, enough⟩ := elapsed
  obtain ⟨update, member, same⟩ := encounterStartS_mem started
  refine ⟨kept, ?_⟩
  rw [← List.append_assoc] at kept ⊢
  exact acts_of_kept again (kept.trans started) (Binary64.chain_le enough
    (Binary64.sub_le_sub_of_le (same ▸ finite update member) order))

/-- The interruption is what follows the last update that found an encounter. -/
theorem Ongoing.clear_reverse (ongoing : Ongoing lib config updates earlier last clear) :
    clear.reverse = updates.reverse.takeWhile (found lib config · |>.isNone) := by
  have cleared : ∀ next ∈ clear.reverse, (found lib config next).isNone = true :=
    fun next member => Option.isNone_iff_eq_none.mpr
      (ongoing.clears next (List.mem_reverse.mp member))
  have stops : (last :: earlier.reverse).takeWhile (found lib config · |>.isNone) = [] :=
    List.takeWhile_cons_of_neg fun none => ongoing.met (Option.isNone_iff_eq_none.mp none)
  rw [ongoing.split, List.reverse_append, List.reverse_cons, List.append_assoc,
    List.takeWhile_append_of_pos cleared, List.singleton_append, stops, List.append_nil]

/-- An ongoing encounter is so in one way. -/
theorem Ongoing.unique {others between : List Update} {other : Update}
    (ongoing : Ongoing lib config updates earlier last clear)
    (again : Ongoing lib config updates others other between) :
    earlier = others ∧ last = other ∧ clear = between := by
  obtain rfl : clear = between :=
    List.reverse_injective (ongoing.clear_reverse.trans again.clear_reverse.symm)
  obtain ⟨same, heads⟩ := List.append_inj' (ongoing.split.symm.trans again.split) rfl
  exact ⟨same, (List.cons.inj heads).1, rfl⟩

/-- Right after an update that found an encounter, nothing is interrupted. -/
theorem Ongoing.uninterrupted {front : List Update} {first : Update}
    (met : found lib config first ≠ none)
    (ongoing : Ongoing lib config (front ++ [first]) earlier last clear) : clear = [] := by
  have fresh : Ongoing lib config (front ++ [first]) front first [] :=
    ⟨rfl, met, fun _ member => absurd member List.not_mem_nil,
      fun _ _ _ member => absurd member List.not_mem_nil⟩
  exact (ongoing.unique fresh).2.2

/-! ### Encounters that repeat -/

/-- One more update of an encounter that repeats: it ends no interruption of the dwell time, and it
finds what was found before. -/
structure Repeats (lib : MathLibrary) (config : TargetBehaviorConfig) (updates : List Update)
    (next : Update) : Prop where
  short : found lib config next = none → ∀ earlier last clear,
    Ongoing lib config updates earlier last clear →
      ∀ first ∈ (clear ++ [next]).head?, ¬ next.nowS - first.nowS ≥ config.clearDwellS
  same : found lib config next ≠ none → ∀ earlier last clear,
    Ongoing lib config updates earlier last clear → found lib config next = found lib config last

/-- What is found after an interruption has the role that is stored. -/
def ResumesStored (lib : MathLibrary) (config : TargetBehaviorConfig) (updates : List Update)
    (next : Update) : Prop :=
  ∀ rule role, found lib config next = some (rule, role) →
    (after lib config updates).clearSinceS ≠ none → (after lib config updates).role = some role

theorem Repeats.continues {next : Update} (repeats : Repeats lib config updates next)
    (resumes : ResumesStored lib config updates next) : Continues lib config updates next where
  short := repeats.short
  resumes rule role again earlier last clear ongoing interrupted := by
    have met : found lib config last = some (rule, role) := by
      rw [← repeats.same (again ▸ Option.some_ne_none _) earlier last clear ongoing, again]
    refine ⟨role, met, Option.some_injective _ ?_⟩
    rw [← ongoing.role_eq met]
    refine resumes rule role again ?_
    rw [ongoing.after_eq.2]
    cases clear with
    | nil => exact absurd rfl interrupted
    | cons => exact Option.some_ne_none _

/-- An encounter that repeats is not waited for again where each interruption ends with the stored
role, and a machine begins to return only after the dwell time without a conflict. -/
theorem encounter_remembered {earlier later : List Update} {first next : Update}
    (ordered : (earlier ++ [first] ++ (later ++ [next])).Pairwise fun before next =>
      before.nowS ≤ next.nowS)
    (met : found lib config first ≠ none)
    (elapsed : (after lib config (earlier ++ [first])).ReactionDelayElapsed config first.nowS)
    (repeats : ∀ before update rest, later ++ [next] = before ++ update :: rest →
      Repeats lib config (earlier ++ [first] ++ before) update)
    (resumes : ∀ before update rest, later ++ [next] = before ++ update :: rest →
      ResumesStored lib config (earlier ++ [first] ++ before) update)
    (again : found lib config next ≠ none) :
    ¬ (after lib config (earlier ++ [first] ++ (later ++ [next]))).Waiting ∧
      ∀ updates next, (after lib config (updates ++ [next])).state = .returning →
        (after lib config updates).state ≠ .returning →
          ∃ before last clear, Ongoing lib config updates before last clear ∧
            found lib config next = none ∧
            ∀ first ∈ (clear ++ [next]).head?, next.nowS - first.nowS ≥ config.clearDwellS := by
  refine ⟨fun waiting => ?_, fun _ _ => dwelt_of_begins_returning⟩
  obtain ⟨⟨rule, role⟩, met⟩ := Option.ne_none_iff_exists'.mp met
  obtain ⟨-, kept⟩ := after_of_continues (fun before update rest split =>
    (repeats before update rest split).continues (resumes before update rest split))
    (engages_after earlier met).active
  obtain ⟨start, started, enough⟩ := elapsed
  obtain ⟨update, passed, same⟩ := encounterStartS_mem started
  obtain ⟨former, -, across⟩ := List.pairwise_append.mp ordered
  have order : first.nowS ≤ next.nowS :=
    across first (List.mem_append_right _ (List.mem_singleton_self first)) next
      (List.mem_append_right _ (List.mem_singleton_self next))
  have above : start ≤ first.nowS := by
    rw [← same]
    rcases List.mem_append.mp passed with before | this
    · exact (List.pairwise_append.mp former).2.2 update before first (List.mem_singleton_self first)
    · rw [List.mem_singleton.mp this]
      exact Binary64.le_self_of_number (Binary64.number_of_le order).1
  rw [← List.append_assoc] at kept waiting
  exact acts_of_kept again (kept.trans started) (Binary64.chain_le enough
    (Binary64.sub_le_sub_of_number (Binary64.number_of_le enough).2 above order)) waiting.2

end Kept

/-! ### One interruption -/

section Gap

variable {earlier : List Update} {first gap next : Update}
  (met : found lib config first ≠ none) (clear : found lib config gap = none)
  (short : ¬ gap.nowS - gap.nowS ≥ config.clearDwellS)

include met clear short

/-- An encounter that is out of sight for one update. -/
theorem ongoing_of_gap : Ongoing lib config (earlier ++ [first] ++ [gap]) earlier first [gap] where
  split := by rw [List.append_assoc, List.singleton_append]
  met := met
  clears update member := by rwa [List.mem_singleton.mp member]
  short head isHead update member := by
    obtain rfl := Option.some.inj isHead
    rwa [List.mem_singleton.mp member]

theorem repeats_of_gap (same : found lib config next = found lib config first)
    {before rest : List Update} {update : Update}
    (split : [gap] ++ [next] = before ++ update :: rest) :
    Repeats lib config (earlier ++ [first] ++ before) update := by
  rcases before with _ | ⟨other, _ | ⟨_, _⟩⟩
  · obtain ⟨rfl, -⟩ := List.cons.inj split
    refine ⟨fun _ others last between ongoing head isHead => ?_, fun again => absurd clear again⟩
    rw [List.append_nil] at ongoing
    obtain rfl := ongoing.uninterrupted met
    obtain rfl := Option.some.inj isHead
    exact short
  · obtain ⟨rfl, same'⟩ := List.cons.inj split
    obtain ⟨rfl, -⟩ := List.cons.inj same'
    refine ⟨fun none => ?_, fun _ others last between ongoing => ?_⟩
    · exact absurd (same.symm.trans none) met
    · obtain ⟨-, rfl, -⟩ := ongoing.unique (ongoing_of_gap met clear short)
      exact same
  · have length := congrArg List.length split
    simp at length

end Gap

/-! ### A ship that overtakes, and one that is met -/

/-- The target comes up from astern, or has passed. -/
def overtakingAt (nowS targetLat : Float) : Update where
  nowS
  own := ⟨0.0, 0.0, 0.0, 5.0⟩
  target := ⟨targetLat, 0.0, 0.0, 10.0⟩
  nominalHeadingDeg := 0.0

theorem found_overtaking :
    found alongMeridian withDelay (overtakingAt 7.0 (-0.009)) ≠ none ∧
      found alongMeridian withDelay (overtakingAt 8.0 0.01) = none ∧
      found alongMeridian withDelay (overtakingAt 9.0 (-0.008)) =
        found alongMeridian withDelay (overtakingAt 7.0 (-0.009)) := by
  decide +kernel

theorem resumes_overtaking {before rest : List Update} {update : Update}
    (split : [overtakingAt 8.0 0.01] ++ [overtakingAt 9.0 (-0.008)] = before ++ update :: rest) :
    ResumesStored alongMeridian withDelay
      ([overtakingAt 1.0 (-0.01)] ++ [overtakingAt 7.0 (-0.009)] ++ before) update := by
  intro rule role again _
  rcases before with _ | ⟨other, _ | ⟨_, _⟩⟩
  · obtain ⟨rfl, -⟩ := List.cons.inj split
    cases found_overtaking.2.1.symm.trans again
  · obtain ⟨rfl, later⟩ := List.cons.inj split
    obtain ⟨rfl, -⟩ := List.cons.inj later
    have overtakes : found alongMeridian withDelay (overtakingAt 9.0 (-0.008)) =
        some (.rule13, .giveWay) := by decide +kernel
    obtain ⟨rfl, rfl⟩ := Prod.mk.inj (Option.some.inj (overtakes.symm.trans again))
    decide +kernel
  · have length := congrArg List.length split
    simp at length

/-- It gives way, sees nothing for one update, and does not wait when it sees the ship again. -/
theorem overtaking_kept :
    (after alongMeridian withDelay ([overtakingAt 1.0 (-0.01)] ++ [overtakingAt 7.0 (-0.009)] ++
        ([overtakingAt 8.0 0.01] ++ [overtakingAt 9.0 (-0.008)]))).encounterStartS =
        (after alongMeridian withDelay
          ([overtakingAt 1.0 (-0.01)] ++ [overtakingAt 7.0 (-0.009)])).encounterStartS ∧
      (after alongMeridian withDelay ([overtakingAt 1.0 (-0.01)] ++ [overtakingAt 7.0 (-0.009)] ++
        ([overtakingAt 8.0 0.01] ++ [overtakingAt 9.0 (-0.008)]))).reason ≠ "reaction_delay" := by
  obtain ⟨met, clear, same⟩ := found_overtaking
  refine encounter_kept (fun update member => ?_) (by decide +kernel) met (by decide +kernel)
    (fun before update rest split => ?_) (by decide +kernel)
  · rcases List.mem_pair.mp member with rfl | rfl <;> decide +kernel
  · exact (repeats_of_gap met clear (by decide +kernel) same split).continues
      (resumes_overtaking split)

theorem overtaking_remembered :
    ¬ (after alongMeridian withDelay ([overtakingAt 1.0 (-0.01)] ++ [overtakingAt 7.0 (-0.009)] ++
      ([overtakingAt 8.0 0.01] ++ [overtakingAt 9.0 (-0.008)]))).Waiting := by
  obtain ⟨met, clear, same⟩ := found_overtaking
  refine (encounter_remembered ?_ met ?_ (fun _ _ _ => repeats_of_gap met clear ?_ same)
    (fun _ _ _ => resumes_overtaking) ?_).1
  all_goals decide +kernel

/-- The head-on meeting is waited for again, though it repeats. -/
theorem not_remembered_of_meeting :
    ¬ ∀ lib config (earlier : List Update) first later next,
      ((earlier ++ [first] ++ (later ++ [next])).Pairwise fun before next =>
        before.nowS ≤ next.nowS) → found lib config first ≠ none →
      (after lib config (earlier ++ [first])).ReactionDelayElapsed config first.nowS →
      (∀ before update rest, later ++ [next] = before ++ update :: rest →
        Repeats lib config (earlier ++ [first] ++ before) update) → found lib config next ≠ none →
      ¬ (after lib config (earlier ++ [first] ++ (later ++ [next]))).Waiting := by
  intro law
  have met : found alongMeridian withDelay (meetingAt 7.0 0.009) ≠ none := by decide +kernel
  refine law alongMeridian withDelay [meetingAt 1.0 0.01] (meetingAt 7.0 0.009)
    [meetingAt 8.0 (-0.01)] (meetingAt 9.0 0.008) ?_ met ?_
    (fun _ _ _ => repeats_of_gap met ?_ ?_ ?_) ?_ ?_
  all_goals decide +kernel

end MassL3.TargetVessel
