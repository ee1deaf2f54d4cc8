/-
This file is about which state of a target a cycle loses. A machine only falls from RELEASE, so
while none has been there, the machines that the rules step behind the release pass hold at least
what has been produced before. What the pass puts away is lost where the encounter ends behind it,
and otherwise only if it is a RELEASE.
-/

import MassTdl.Colregs.SemanticState
import MassTdl.Colregs.UnknownCpa

namespace MassL3.M6.Colregs

open Registers

/-! ### Machines climb -/

/-- A machine only falls from RELEASE. -/
theorem EncounterStateMachine.rank_le_transition {fsm : EncounterStateMachine}
    (unreleased : fsm.state ≠ .release) (target : TargetSnapshot)
    (ruleGeometricHit rangeClosing pastAndClear : Bool) (nowS : Float)
    (rawEval : Option RuleEvaluation) :
    fsm.state.rank ≤
      (fsm.transition target ruleGeometricHit rangeClosing pastAndClear nowS
        rawEval).state.rank := by
  have classified := classifyHit_state fsm target ruleGeometricHit rawEval
  unfold transition
  cases state : fsm.state with
  | clear => exact Nat.zero_le _
  | detected =>
    dsimp only
    split_ifs
    · exact Nat.le_succ _
    · rw [state]
  | candidate =>
    unfold fromCandidate
    dsimp only
    split_ifs
    · exact Nat.le_succ _
    · rw [classified, state]
  | preplan =>
    unfold fromPreplan
    dsimp only
    split_ifs
    · exact Nat.le_succ _
    · rw [classified, state]
  | active =>
    unfold fromActive
    dsimp only
    split_ifs
    · exact le_rfl
    · rw [state]
    · rw [state]
  | monitor =>
    unfold fromMonitor
    dsimp only
    split_ifs
    · exact le_rfl
    · exact Nat.le_succ _
    · rw [state]
  | release => exact absurd state unreleased

/-- Every state of a list is outranked by one in the list that a machine is still in. -/
def TargetMemory.Covers (memory : TargetMemory) (produced : List EncounterState) : Prop :=
  ∀ state ∈ produced, ∃ rule, ∃ fsm ∈ memory.fsms.get rule,
    fsm.state ∈ produced ∧ state.rank ≤ fsm.state.rank

section Covers

variable {lib : MathLibrary} {odd : OddDomain} {params : RuleParameters}
  {library : List ColregsRule} {target : TargetGeometricState} {nowS : Float} {threat : Threat}
  {memory : TargetMemory} {produced : List EncounterState}

/-- The release pass takes every machine along. -/
theorem TargetMemory.Covers.releasedPass (covers : memory.Covers produced)
    (unreleased : .release ∉ produced) :
    (releasedPass target nowS threat memory none).memory.Covers
      (produced ++ passStates target nowS threat memory) := by
  unfold Colregs.releasedPass passStates
  split_ifs with predicted
  · have stepped : ∀ {rule fsm}, fsm ∈ memory.fsms.get rule →
        releasedFsm target nowS threat rule fsm ∈
          (releasePass target nowS threat memory none).memory.fsms.get rule := by
      intro rule fsm present
      rw [releasePass_fsms, Option.mem_def.mp present]
      rfl
    have among : ∀ {rule fsm}, fsm ∈ memory.fsms.get rule →
        (releasedFsm target nowS threat rule fsm).state ∈
          PrimaryRule.all.filterMap fun rule =>
            (memory.fsms.get rule).map fun fsm =>
              (releasedFsm target nowS threat rule fsm).state := by
      intro rule fsm present
      refine List.mem_filterMap.mpr ⟨rule, by cases rule <;> decide, ?_⟩
      rw [Option.mem_def.mp present]
      rfl
    intro state member
    rcases List.mem_append.mp member with before | passed
    · obtain ⟨rule, fsm, present, held, above⟩ := covers state before
      refine ⟨rule, _, stepped present, List.mem_append_right _ (among present), ?_⟩
      refine le_trans above (EncounterStateMachine.rank_le_transition ?_ _ _ _ _ _ _)
      exact fun released => unreleased (released ▸ held)
    · obtain ⟨rule, -, isState⟩ := List.mem_filterMap.mp passed
      obtain ⟨fsm, present, rfl⟩ := Option.map_eq_some_iff.mp isState
      exact ⟨rule, _, stepped present, List.mem_append_right _ (among present), le_rfl⟩
  · rwa [List.append_nil]

/-- A primary rule takes its machine along. -/
theorem TargetMemory.Covers.afterPrimary (covers : memory.Covers produced)
    (unreleased : .release ∉ produced) (rule : PrimaryRule) :
    (memory.afterPrimary lib params target nowS threat rule).Covers
      (produced ++ [(primaryFsm lib params target nowS threat memory rule).state]) := by
  have own : primaryFsm lib params target nowS threat memory rule ∈
      (memory.afterPrimary lib params target nowS threat rule).fsms.get rule := by
    rw [afterPrimary_fsms, PerPrimary.get_set_self]
    rfl
  intro state member
  rcases List.mem_append.mp member with before | new
  · obtain ⟨holder, fsm, present, held, above⟩ := covers state before
    by_cases same : holder = rule
    · subst same
      refine ⟨holder, _, own, by simp, le_trans above ?_⟩
      unfold primaryFsm
      rw [Option.mem_def.mp present, Option.getD_some]
      refine EncounterStateMachine.rank_le_transition ?_ _ _ _ _ _ _
      exact fun released => unreleased (released ▸ held)
    · refine ⟨holder, fsm, ?_, List.mem_append_left _ held, above⟩
      rwa [afterPrimary_fsms, PerPrimary.get_set_of_ne _ _ same]
  · rw [List.mem_singleton.mp new]
    exact ⟨rule, _, own, by simp, le_rfl⟩

/-- The rules take the machines along. -/
theorem TargetMemory.Covers.foldl (library : List ColregsRule) {evaluated : Evaluated}
    (covers : evaluated.memory.Covers produced)
    (unreleased :
      .release ∉ produced ++ ruleStates lib params target nowS threat library evaluated.memory) :
    (library.foldl (evaluateRule lib odd params target nowS threat) evaluated).memory.Covers
      (produced ++ ruleStates lib params target nowS threat library evaluated.memory) := by
  induction library generalizing evaluated produced with
  | nil => simpa [ruleStates] using covers
  | cons rule later inductionHypothesis =>
    cases rule with
    | primary rule =>
      rw [ruleStates, List.append_cons] at unreleased ⊢
      refine inductionHypothesis (covers.afterPrimary (fun early => unreleased ?_) rule) unreleased
      exact List.mem_append_left _ (List.mem_append_left _ early)
    | secondary rule => exact inductionHypothesis covers unreleased

/-- A machine behind the rules is in a state that they have produced, or no rule has stepped
it. -/
theorem mem_ruleStates_of_foldl (library : List ColregsRule) (evaluated : Evaluated)
    {rule : PrimaryRule} {fsm : EncounterStateMachine}
    (present : fsm ∈ (library.foldl (evaluateRule lib odd params target nowS threat)
      evaluated).memory.fsms.get rule) :
    fsm.state ∈ ruleStates lib params target nowS threat library evaluated.memory ∨
      .primary rule ∉ library ∧ fsm ∈ evaluated.memory.fsms.get rule := by
  induction library generalizing evaluated with
  | nil => exact .inr ⟨List.not_mem_nil, present⟩
  | cons first later inductionHypothesis =>
    obtain ofLater | ⟨unstepped, before⟩ := inductionHypothesis _ present
    · left
      cases first with
      | primary rule => exact List.mem_cons_of_mem _ ofLater
      | secondary rule => exact ofLater
    · cases first with
      | primary other =>
        change fsm ∈ (evaluated.memory.afterPrimary lib params target nowS threat
          other).fsms.get rule at before
        rw [afterPrimary_fsms] at before
        by_cases same : rule = other
        · subst same
          rw [PerPrimary.get_set_self] at before
          obtain rfl := Option.some.inj before
          exact .inl List.mem_cons_self
        · rw [PerPrimary.get_set_of_ne _ _ same] at before
          exact .inr ⟨by simpa [same] using unstepped, before⟩
      | secondary other => exact .inr ⟨by simpa using unstepped, before⟩

theorem TargetMemory.Covers.congr {other : TargetMemory} (covers : memory.Covers produced)
    (same : other.fsms = memory.fsms) : other.Covers produced := by
  unfold TargetMemory.Covers at covers ⊢
  rwa [same]

/-- Behind a release pass after which the encounter goes on, the machines are those that the
rules leave. -/
theorem reasonTargetIn_fsms (odd : OddDomain) (currentRng : Float)
    (semanticState : Option EncounterState)
    (goesOn : (targetStates lib params library target nowS currentRng memory).ends = false) :
    let threat := Colregs.threat lib params target memory currentRng
    let pass := releasedPass target nowS threat memory semanticState
    (reasonTargetIn lib odd params library target nowS currentRng memory
      semanticState).memory.fsms =
        (evaluateRulesIn lib odd params library target nowS threat pass.memory
          pass.semanticState).memory.fsms := by
  intro threat pass
  have ends : endsBehind threat pass = false := by
    rw [show pass = _ from releasedPass_slot memory semanticState]
    exact goesOn
  obtain ⟨unreleased, unknown⟩ := Bool.or_eq_false_iff.mp ends
  have assessed : reasonTargetIn lib odd params library target nowS currentRng memory
      semanticState = assessIn lib odd params library target nowS threat pass.memory
        pass.semanticState (threat.anyLatchReleased || pass.latchReleasedNow) := by
    refine (if_neg ?_).trans (if_neg ?_)
    · exact Bool.eq_false_iff.mp unreleased
    · exact Bool.eq_false_iff.mp unknown
  rw [assessed]
  unfold assessIn
  dsimp only
  split_ifs <;> rfl

/-- A body after whose release pass the encounter goes on takes the machines along. Unless a
RELEASE has been produced, its rules reach everything produced so far. -/
theorem TargetMemory.Covers.reasonTargetIn (covers : memory.Covers produced) (odd : OddDomain)
    (complete : ∀ rule, .primary rule ∈ library) (currentRng : Float)
    (semanticState : Option EncounterState)
    (goesOn : (targetStates lib params library target nowS currentRng memory).ends = false)
    (unreleased : .release ∉
      produced ++ (targetStates lib params library target nowS currentRng memory).all) :
    let states := targetStates lib params library target nowS currentRng memory
    let outcome :=
      reasonTargetIn lib odd params library target nowS currentRng memory semanticState
    outcome.memory.Covers (produced ++ states.all) ∧
      ∀ lost ∈ produced ++ states.all, ∃ kept ∈ states.rules, lost.rank ≤ kept.rank := by
  intro states outcome
  let threat := Colregs.threat lib params target memory currentRng
  let pass := Colregs.releasedPass target nowS threat memory semanticState
  have passMemory : pass.memory = (Colregs.releasedPass target nowS threat memory none).memory :=
    releasedPass_memory memory semanticState
  have rules : states.rules = ruleStates lib params target nowS threat library pass.memory := by
    rw [passMemory]
    exact if_neg (Bool.eq_false_iff.mp goesOn)
  have all : produced ++ states.all = produced ++ passStates target nowS threat memory ++
      ruleStates lib params target nowS threat library pass.memory := by
    rw [← rules, List.append_assoc]
    rfl
  have before : .release ∉ produced := fun early => unreleased (List.mem_append_left _ early)
  have passed : pass.memory.Covers (produced ++ passStates target nowS threat memory) := by
    rw [passMemory]
    exact covers.releasedPass before
  have fsms := reasonTargetIn_fsms odd currentRng semanticState goesOn
  have covered : outcome.memory.Covers (produced ++ states.all) := by
    refine TargetMemory.Covers.congr ?_ fsms
    rw [all] at unreleased ⊢
    exact TargetMemory.Covers.foldl library passed unreleased
  refine ⟨covered, fun lost member => ?_⟩
  obtain ⟨rule, fsm, present, -, above⟩ := covered lost member
  refine ⟨fsm.state, ?_, above⟩
  rw [fsms] at present
  rw [rules]
  exact (mem_ruleStates_of_foldl library _ present).resolve_right fun unstepped =>
    unstepped.1 (complete rule)

end Covers

/-! ### The bodies of a key -/

section Bodies

variable {config : Config} {library : List ColregsRule} {odd : OddDomain} {world : WorldState}
  {mmsi : UInt32}

theorem Cycle.addIn_memory_self (cycle : Cycle) (target : TargetGeometricState) :
    (cycle.addIn config library odd world target).memory target.mmsi =
      (reasonTargetIn config.lib odd (currentRuleParams config odd) library target
        (seconds world.stamp) (currentRange world.targets target.mmsi)
        (cycle.memory target.mmsi) (cycle.semanticState target.mmsi)).memory :=
  Function.update_self ..

theorem Cycle.addIn_memory_other (cycle : Cycle) {target : TargetGeometricState}
    (different : target.mmsi ≠ mmsi) :
    (cycle.addIn config library odd world target).memory mmsi = cycle.memory mmsi :=
  Function.update_of_ne different.symm _ _

/-- A body behind whose release pass the encounter ends erases its target. -/
theorem Cycle.addIn_erased {cycle : Cycle} {target : TargetGeometricState}
    (ends : (cycle.statesOf config library odd world target).ends = true) :
    ((cycle.addIn config library odd world target).memory target.mmsi).Erased := by
  rw [Cycle.addIn_memory_self]
  exact reasonTargetIn_erased ends

/-- The bodies of an erased target produce nothing. -/
theorem Cycle.statesAt_erased (targets : List TargetGeometricState) {cycle : Cycle}
    (erased : (cycle.memory mmsi).Erased) :
    ∀ body ∈ Cycle.statesAt config library odd world mmsi cycle targets,
      body.ends = true ∧ body.all = [] := by
  induction targets generalizing cycle with
  | nil => exact fun body member => absurd member List.not_mem_nil
  | cons target later inductionHypothesis =>
    intro body member
    rw [Cycle.statesAt] at member
    split_ifs at member with own
    · subst own
      have ends : (cycle.statesOf config library odd world target).ends = true :=
        targetStates_ends erased.resolved
      rcases List.mem_cons.mp member with rfl | inLater
      · refine ⟨ends, ?_⟩
        rw [← TargetStates.map_state_writes]
        exact congrArg (List.map Write.state) (targetStates_erased erased)
      · exact inductionHypothesis (Cycle.addIn_erased ends) body inLater
    · have kept : ((cycle.addIn config library odd world target).memory mmsi).Erased := by
        rwa [Cycle.addIn_memory_other cycle own]
      exact inductionHypothesis kept body member

/-- Nothing is produced behind a body that ends the encounter. -/
theorem Cycle.statesAt_after_end (targets : List TargetGeometricState) (cycle : Cycle)
    {earlier later : List TargetStates} {body : TargetStates}
    (split : Cycle.statesAt config library odd world mmsi cycle targets =
      earlier ++ body :: later) (ends : body.ends = true) :
    body.rules = [] ∧ later.flatMap TargetStates.all = [] := by
  induction targets generalizing cycle earlier with
  | nil => exact absurd split.symm (by simp [Cycle.statesAt])
  | cons target rest inductionHypothesis =>
    rw [Cycle.statesAt] at split
    split_ifs at split with own
    · subst own
      cases earlier with
      | nil =>
        obtain ⟨rfl, rfl⟩ := List.cons.inj split
        refine ⟨targetStates_rules ends, List.flatMap_eq_nil_iff.mpr fun body member => ?_⟩
        exact (Cycle.statesAt_erased rest (Cycle.addIn_erased ends) body member).2
      | cons first between => exact inductionHypothesis _ (List.cons.inj split).2
    · exact inductionHypothesis _ split

/-- Unless a RELEASE has been produced, the rules of a body after whose release pass the
encounter goes on reach everything produced for the key so far. -/
theorem Cycle.statesAt_reached (complete : ∀ rule, .primary rule ∈ library)
    (targets : List TargetGeometricState) {cycle : Cycle} {produced : List EncounterState}
    (covers : (cycle.memory mmsi).Covers produced)
    {earlier later : List TargetStates} {body : TargetStates}
    (split : Cycle.statesAt config library odd world mmsi cycle targets =
      earlier ++ body :: later) (goesOn : body.ends = false)
    (unreleased : .release ∉ produced ++ (earlier.flatMap TargetStates.all ++ body.all)) :
    ∀ lost ∈ produced ++ (earlier.flatMap TargetStates.all ++ body.all),
      ∃ kept ∈ body.rules, lost.rank ≤ kept.rank := by
  induction targets generalizing cycle produced earlier with
  | nil => exact absurd split.symm (by simp [Cycle.statesAt])
  | cons target rest inductionHypothesis =>
    rw [Cycle.statesAt] at split
    split_ifs at split with own
    · subst own
      cases earlier with
      | nil =>
        obtain ⟨rfl, rfl⟩ := List.cons.inj split
        exact (covers.reasonTargetIn odd complete _ none goesOn unreleased).2
      | cons first between =>
        obtain ⟨rfl, others⟩ := List.cons.inj split
        cases firstEnds : (cycle.statesOf config library odd world target).ends with
        | true =>
          have member : body ∈ Cycle.statesAt config library odd world target.mmsi
              (cycle.addIn config library odd world target) rest := by
            rw [others]
            exact List.mem_append_right between List.mem_cons_self
          have ends := (Cycle.statesAt_erased rest (Cycle.addIn_erased firstEnds) body member).1
          exact absurd (ends.symm.trans goesOn) (by decide)
        | false =>
          rw [List.flatMap_cons, List.append_assoc, ← List.append_assoc produced] at unreleased ⊢
          refine inductionHypothesis ?_ others unreleased
          rw [Cycle.addIn_memory_self]
          exact (covers.reasonTargetIn odd complete _ _ firstEnds fun early =>
            unreleased (List.mem_append_left _ early)).1
    · refine inductionHypothesis ?_ split unreleased
      rwa [Cycle.addIn_memory_other cycle own]

end Bodies

/-- What the release passes of a key put away. If the encounter ends behind the pass, the last
machine of the pass outranks everything produced so far. If it goes on and something has been in
RELEASE, the last machine of the pass is, or a machine behind the pass. -/
structure KeepsHighest (bodies : List TargetStates) : Prop where
  ending : ∀ earlier body later last, bodies = earlier ++ body :: later → body.ends = true →
    body.pass.getLast? = some last →
      ∀ lost ∈ earlier.flatMap TargetStates.all ++ body.pass, lost.rank ≤ last.rank
  goingOn : ∀ earlier body later last, bodies = earlier ++ body :: later → body.ends = false →
    body.pass.getLast? = some last →
      .release ∈ earlier.flatMap TargetStates.all ++ body.pass →
        .release ∈ last :: body.rules ++ later.flatMap TargetStates.all

/-- Nothing outranks a RELEASE. -/
theorem EncounterState.rank_le_release (state : EncounterState) :
    state.rank ≤ EncounterState.release.rank := by
  cases state <;> decide

theorem EncounterState.eq_release_of_rank {state : EncounterState}
    (above : EncounterState.release.rank ≤ state.rank) : state = .release := by
  cases state <;> first | rfl | exact absurd above (by decide)

/-- The writes of some bodies around the last state of one pass. -/
theorem writes_split (earlier later : List TargetStates) (body : TargetStates)
    {others : List EncounterState} {last : EncounterState} (passed : body.pass = others ++ [last]) :
    (earlier ++ body :: later).flatMap TargetStates.writes =
      (earlier.flatMap TargetStates.writes ++ others.map .assign) ++
        .assign last :: (body.rules.map .raise ++ later.flatMap TargetStates.writes) := by
  rw [List.flatMap_append, List.flatMap_cons, TargetStates.writes, passed]
  simp

theorem map_state_flatMap_writes (bodies : List TargetStates) :
    (bodies.flatMap TargetStates.writes).map Write.state = bodies.flatMap TargetStates.all := by
  rw [List.map_flatMap]
  exact congrArg (bodies.flatMap ·) (funext TargetStates.map_state_writes)

/-- Without a pass the slot is only raised. -/
theorem writes_of_no_pass {bodies : List TargetStates}
    (unpassed : ∀ body ∈ bodies, body.pass = []) :
    bodies.flatMap TargetStates.writes = (bodies.flatMap TargetStates.all).map .raise := by
  induction bodies with
  | nil => rfl
  | cons body later inductionHypothesis =>
    rw [List.flatMap_cons, List.flatMap_cons, List.map_append,
      inductionHypothesis fun other member => unpassed other (List.mem_cons_of_mem _ member)]
    congr 1
    rw [TargetStates.writes, TargetStates.all, unpassed body List.mem_cons_self]
    rfl

/-- No body has a pass, or one is the last with one. -/
theorem no_pass_or_last_pass (bodies : List TargetStates) :
    (∀ body ∈ bodies, body.pass = []) ∨
      ∃ earlier body later, bodies = earlier ++ body :: later ∧ body.pass ≠ [] ∧
        ∀ other ∈ later, other.pass = [] := by
  induction bodies with
  | nil => exact .inl fun body member => absurd member List.not_mem_nil
  | cons body later inductionHypothesis =>
    obtain unpassed | ⟨earlier, last, behind, rfl, passed, unpassed⟩ := inductionHypothesis
    · by_cases passed : body.pass = []
      · left
        rintro other member
        rcases List.mem_cons.mp member with rfl | inLater
        · exact passed
        · exact unpassed other inLater
      · exact .inr ⟨[], body, later, rfl, passed, unpassed⟩
    · exact .inr ⟨body :: earlier, last, behind, rfl, passed, unpassed⟩

/-- What the bodies of every cycle have in common. -/
structure OfCycle (bodies : List TargetStates) : Prop where
  afterEnd : ∀ {earlier body later}, bodies = earlier ++ body :: later → body.ends = true →
    body.rules = [] ∧ later.flatMap TargetStates.all = []
  reached : ∀ {earlier body later}, bodies = earlier ++ body :: later → body.ends = false →
    .release ∉ earlier.flatMap TargetStates.all ++ body.all →
      ∀ lost ∈ earlier.flatMap TargetStates.all ++ body.all,
        ∃ kept ∈ body.rules, lost.rank ≤ kept.rank

section KeepsHighest

variable {bodies : List TargetStates}

/-- A slot with the highest state has lost none. -/
theorem OfCycle.keepsHighest (ofCycle : OfCycle bodies)
    (nothing : LosesNothing EncounterState.rank (bodies.flatMap TargetStates.writes)) :
    KeepsHighest bodies := by
  have kept : ∀ earlier body later last, bodies = earlier ++ body :: later →
      body.pass.getLast? = some last →
        ∀ lost ∈ earlier.flatMap TargetStates.all ++ body.pass,
          ∃ kept ∈ last :: body.rules ++ later.flatMap TargetStates.all,
            lost.rank ≤ kept.rank := by
    rintro earlier body later last rfl isLast lost member
    obtain ⟨others, passed⟩ := List.getLast?_eq_some_iff.mp isLast
    rw [passed, ← List.append_assoc, List.mem_append, List.mem_singleton] at member
    rcases member with before | rfl
    · obtain ⟨kept, among, above⟩ := nothing _ _ _ (writes_split earlier later body passed) lost (by
        rwa [List.map_append, map_state_flatMap_writes, map_state_assign])
      refine ⟨kept, ?_, above⟩
      rwa [List.map_append, map_state_raise, map_state_flatMap_writes, ← List.cons_append] at among
    · exact ⟨lost, List.mem_append_left _ List.mem_cons_self, le_rfl⟩
  constructor
  · intro earlier body later last split ends isLast lost member
    obtain ⟨state, among, above⟩ := kept earlier body later last split isLast lost member
    obtain ⟨noRules, nothingLater⟩ := ofCycle.afterEnd split ends
    rw [noRules, nothingLater, List.append_nil, List.mem_singleton] at among
    rwa [← among]
  · intro earlier body later last split _ isLast released
    obtain ⟨state, among, above⟩ := kept earlier body later last split isLast _ released
    rwa [EncounterState.eq_release_of_rank above] at among

/-- A slot from which the release passes put nothing away ends with the highest state. -/
theorem OfCycle.holdsMaximum (ofCycle : OfCycle bodies) (keeps : KeepsHighest bodies) :
    HoldsMaximum EncounterState.rank
      (writeAll EncounterState.rank none (bodies.flatMap TargetStates.writes))
      (bodies.flatMap TargetStates.all) := by
  obtain unpassed | ⟨earlier, body, later, rfl, passes, unpassed⟩ := no_pass_or_last_pass bodies
  · rw [writes_of_no_pass unpassed]
    exact holdsMaximum_raises _ _
  · obtain ⟨others, last, passed⟩ : ∃ others last, body.pass = others ++ [last] :=
      ⟨_, _, (List.dropLast_append_getLast passes).symm⟩
    have isLast : body.pass.getLast? = some last := List.getLast?_eq_some_iff.mpr ⟨others, passed⟩
    have before : (earlier.flatMap TargetStates.writes ++ others.map Write.assign).map Write.state =
        earlier.flatMap TargetStates.all ++ others := by
      rw [List.map_append, map_state_flatMap_writes, map_state_assign]
    have states : (earlier ++ body :: later).flatMap TargetStates.all =
        (earlier.flatMap TargetStates.writes ++ others.map Write.assign).map Write.state ++
          last :: (body.rules ++ later.flatMap TargetStates.all) := by
      rw [before, List.flatMap_append, List.flatMap_cons, TargetStates.all, passed]
      simp
    rw [states, writes_split earlier later body passed, writes_of_no_pass unpassed,
      ← List.map_append]
    refine holdsMaximum_last_assign fun lost early => ?_
    have member : lost ∈ earlier.flatMap TargetStates.all ++ body.pass := by
      rw [passed, ← List.append_assoc, ← before]
      exact List.mem_append_left _ early
    cases ends : body.ends with
    | true =>
      exact ⟨last, List.mem_cons_self, keeps.ending _ _ _ _ rfl ends isLast lost member⟩
    | false =>
      by_cases released : .release ∈ earlier.flatMap TargetStates.all ++ body.pass
      · refine ⟨.release, ?_, lost.rank_le_release⟩
        exact keeps.goingOn _ _ _ _ rfl ends isLast released
      · by_cases behind : .release ∈ body.rules
        · refine ⟨.release, ?_, lost.rank_le_release⟩
          exact List.mem_cons_of_mem _ (List.mem_append_left _ behind)
        · have unreleased : .release ∉ earlier.flatMap TargetStates.all ++ body.all := by
            rw [TargetStates.all, ← List.append_assoc]
            exact fun among => (List.mem_append.mp among).elim released behind
          obtain ⟨kept, inRules, above⟩ := ofCycle.reached rfl ends unreleased lost (by
            rw [TargetStates.all, ← List.append_assoc]
            exact List.mem_append_left _ member)
          exact ⟨kept, List.mem_cons_of_mem _ (List.mem_append_left _ inRules), above⟩

end KeepsHighest

/-- With the rules of the library in any order, the slot of a key ends with the highest of the
states that a cycle produces for it exactly when the release passes keep that one. -/
theorem semanticState_highest_iff (config : Config) (library : List ColregsRule)
    (order : library.Perm ruleLibrary) (world : WorldState) (node : ColregsReasonerNode)
    (mmsi : UInt32) :
    HoldsMaximum EncounterState.rank
        ((node.cycleIn config library world).semanticState mmsi)
        ((node.statesAt config library world mmsi).flatMap TargetStates.all) ↔
      KeepsHighest (node.statesAt config library world mmsi) := by
  have complete : ∀ rule, .primary rule ∈ library := by
    intro rule
    rw [order.mem_iff]
    cases rule <;> decide
  have ofCycle : OfCycle (node.statesAt config library world mmsi) :=
    { afterEnd := fun split ends => Cycle.statesAt_after_end _ _ split ends
      reached := fun split goesOn unreleased => by
        have covers : TargetMemory.Covers ((node.observe world).memory mmsi) [] :=
          fun state member => absurd member List.not_mem_nil
        exact Cycle.statesAt_reached complete _ covers split goesOn unreleased }
  obtain unwritten | written := node.semanticState_cycleIn config library world mmsi
  · have unproduced := map_state_flatMap_writes (node.statesAt config library world mmsi)
    rw [unwritten] at unproduced
    refine iff_of_true (fun produced => absurd unproduced.symm produced) (ofCycle.keepsHighest ?_)
    rw [unwritten]
    exact fun earlier state later split => absurd split.symm (by simp)
  · rw [written]
    refine ⟨fun holds => ofCycle.keepsHighest ?_, ofCycle.holdsMaximum⟩
    rw [← map_state_flatMap_writes] at holds
    exact (holdsMaximum_writeAll_iff _).mp holds

/-- The ship has passed. -/
def passedWorld : WorldState := scene 1500 0.0 [onMeridian 7 (-0.07) 180.0 7600.0 2000.0 0.0]

/-- The last cycle of the meeting, with its rules in the reverse order. -/
theorem semanticState_highest_iff_reverse :
    let node := nodeAt meridianConfig (cyclesOf passedMeeting) 13
    HoldsMaximum EncounterState.rank
        ((node.cycleIn meridianConfig ruleLibrary.reverse passedWorld).semanticState 7)
        ((node.statesAt meridianConfig ruleLibrary.reverse passedWorld 7).flatMap
          TargetStates.all) ↔
      KeepsHighest (node.statesAt meridianConfig ruleLibrary.reverse passedWorld 7) :=
  semanticState_highest_iff meridianConfig ruleLibrary.reverse (List.reverse_perm ruleLibrary)
    passedWorld (nodeAt meridianConfig (cyclesOf passedMeeting) 13) 7

/-- A ship has come head-on and has passed. The release pass takes the machine of Rule 14 to
RELEASE, and then puts that away for the machine of Rule 15, which has only detected the ship. -/
theorem release_put_away :
    ¬ ∀ (config : Config) (events : List Event) (count : Nat) (world : WorldState)
      (library : List ColregsRule) (mmsi : UInt32),
        (nodeAt config events count).lastWorldState = some world →
        library.Perm ruleLibrary →
          HoldsMaximum EncounterState.rank
            (((nodeAt config events count).cycleIn config library world).semanticState mmsi)
            (((nodeAt config events count).statesAt config library world mmsi).flatMap
              TargetStates.all) := by
  intro maximal
  obtain ⟨produced, slot⟩ : ((nodeAt meridianConfig (cyclesOf passedMeeting) 13).statesAt
        meridianConfig ruleLibrary passedWorld 7).flatMap TargetStates.all =
          [.detected, .release, .detected] ∧
      ((nodeAt meridianConfig (cyclesOf passedMeeting) 13).cycleIn meridianConfig
        ruleLibrary passedWorld).semanticState 7 = some .detected := by
    decide +kernel
  have holds := maximal meridianConfig (cyclesOf passedMeeting) 13 passedWorld ruleLibrary 7 rfl
    (List.Perm.refl ruleLibrary)
  rw [produced, slot] at holds
  obtain ⟨held, -, same, highest⟩ := holds (by decide)
  obtain rfl := Option.some.inj same
  exact absurd (highest .release (by decide)) (by decide)

end MassL3.M6.Colregs
