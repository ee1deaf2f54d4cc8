/-
This file is about the choice of the primary risk. Without a ranking state the choice is a scan of
the list, and the comparison of two risks goes by measures that are equal up to a tolerance. So
the risk that is chosen may depend on the order of the list, and it does unless one risk beats all
the others.

With a ranking state a target that was chosen holds its place against a slightly better one, until
that one has been the best in as many calls as a switch takes. The state counts these calls, and
the count is the invariant of a run: the last calls, as many as were counted, all had the same
best target and did not switch to it.
-/

import MassTdl.Binary64.FixedOperand
import MassTdl.Hmi.PrimaryThreat
import MassTdl.Tolerances

namespace MassL3.Risk

open Binary64
open Clamps
open M8 (worstOf settledOn worstOf_mem findBestByTargetId_targetId)

/-! ### The choice without a state -/

section Stateless

variable {risks : List RiskVector}

/-- Risks of different targets are told apart by their targets. -/
theorem eq_of_targetId (different : (risks.map RiskVector.targetId).Nodup)
    {first second : RiskVector}
    (firstIn : first ∈ risks) (secondIn : second ∈ risks)
    (same : first.targetId = second.targetId) : first = second :=
  List.inj_on_of_nodup_map different firstIn secondIn same

/-- The choice does not depend on the order of the risks exactly when there are none, or one of
them is better than every other one and no other is better than it. -/
theorem worstOf_perm_iff (different : (risks.map RiskVector.targetId).Nodup) :
    (∀ arranged, arranged.Perm risks → (worstOf arranged).targetId = (worstOf risks).targetId) ↔
      risks = [] ∨ ∃ winner ∈ risks, ∀ risk ∈ risks, risk ≠ winner →
        isBetterPrimaryCandidate winner risk = true ∧
          isBetterPrimaryCandidate risk winner = false := by
  by_cases risky : risks = []
  · subst risky
    refine iff_of_true (fun arranged same => ?_) (.inl rfl)
    rw [same.eq_nil]
  have winnerIn := worstOf_mem risky
  have nodup : risks.Nodup := List.Nodup.of_map _ different
  have every : (∀ first later, (first :: later).Perm risks →
        Tolerances.champion isBetterPrimaryCandidate first later = worstOf risks) ↔
      Tolerances.Dominates isBetterPrimaryCandidate risks (worstOf risks) :=
    Tolerances.champion_of_every_perm_iff nodup winnerIn
  constructor
  · intro stable
    refine .inr ⟨worstOf risks, winnerIn, every.mp fun first later same => ?_⟩
    have chosen : worstOf (first :: later) ∈ risks :=
      same.mem_iff.mp (worstOf_mem (List.cons_ne_nil first later))
    exact eq_of_targetId different chosen winnerIn (stable (first :: later) same)
  · rintro (none | ⟨winner, member, dominates⟩) arranged same
    · exact absurd none risky
    have chosen (values : List RiskVector) (perm : values.Perm risks) :
        worstOf values = winner := by
      cases values with
      | nil => exact absurd perm.symm.eq_nil risky
      | cons first later =>
        exact (Tolerances.champion_of_every_perm_iff nodup member).mpr dominates first later perm
    rw [chosen arranged same, chosen risks (List.Perm.refl risks)]

/-- Three risks in a circle: the scores of neighbours are equal within the tolerance, and their
times decide, but the scores of the outer two are not. -/
def inCircle : List RiskVector :=
  [{ targetId := "a", riskPhase := .danger, riskScore := 0.5000016, tcpaS := 30.0 },
    { targetId := "b", riskPhase := .danger, riskScore := 0.5000008, tcpaS := 20.0 },
    { targetId := "c", riskPhase := .danger, riskScore := 0.5, tcpaS := 10.0 }]

theorem inCircle_perm_iff : (inCircle.map RiskVector.targetId).Nodup ∧
    ((∀ arranged, arranged.Perm inCircle →
        (worstOf arranged).targetId = (worstOf inCircle).targetId) ↔
      inCircle = [] ∨ ∃ winner ∈ inCircle, ∀ risk ∈ inCircle, risk ≠ winner →
        isBetterPrimaryCandidate winner risk = true ∧
          isBetterPrimaryCandidate risk winner = false) :=
  ⟨by decide, worstOf_perm_iff (by decide)⟩

/-- From the first to the last the scan ends with another one than from the last to the first. -/
theorem worstOf_not_perm :
    ¬ ∀ risks arranged : List RiskVector, (risks.map RiskVector.targetId).Nodup →
      arranged.Perm risks → (worstOf arranged).targetId = (worstOf risks).targetId := by
  intro law
  have same := law inCircle inCircle.reverse (by decide) (List.reverse_perm inCircle)
  exact absurd same (by decide)

end Stateless

/-! ### One call with a state -/

section Call

variable (config : RankingConfig) (state : RankingState) (risks : List RiskVector)

/-- The calls in a row that a switch takes. -/
def requiredSamples : Nat := max 1 config.switchConfirmSamples

/-- What the score of a better risk has to exceed. -/
def switchGap : Float := stdMax 0.0 config.switchScoreGap

/-- The target chosen before is still there as `previous`, and the best risk is that of another
target, in the same phase and not better by the gap. -/
structure Challenged (chosenId : String) (previous : RiskVector) : Prop where
  found : findBestByTargetId risks chosenId = some previous
  other : (worstOf risks).targetId ≠ chosenId
  samePhase : (worstOf risks).riskPhase.rank = previous.riskPhase.rank
  close : ¬ (worstOf risks).riskScore - previous.riskScore ≥ switchGap config

/-- The state after the best risk was counted once more. -/
def counted : RankingState :=
  state.countCandidate (worstOf risks).targetId (requiredSamples config)

/-- The best risk was counted as often as a switch takes. -/
def Confirmed : Prop := (counted config state risks).candidateCount ≥ requiredSamples config

instance : Decidable (Confirmed config state risks) := inferInstanceAs (Decidable (_ ≥ _))

variable {config state risks} (risky : risks ≠ [])

include risky

/-- A challenged target is kept until the best one is confirmed. -/
theorem selectPrimary_of_challenged {previous : RiskVector}
    (chosen : state.hasPreviousPrimary = true)
    (challenged : Challenged config risks state.previousPrimaryId previous) :
    selectPrimary risks state config =
      if Confirmed config state risks then (worstOf risks, settledOn (worstOf risks).targetId)
      else (previous, counted config state risks) := by
  obtain ⟨found, other, samePhase, close⟩ := challenged
  cases risks with
  | nil => exact absurd rfl risky
  | cons first later =>
    have stays : ¬ ((bestOf first later).riskPhase.rank ≠ previous.riskPhase.rank ∨
        (bestOf first later).riskScore - previous.riskScore ≥ switchGap config) :=
      not_or.mpr ⟨not_not.mpr samePhase, close⟩
    unfold selectPrimary
    dsimp only
    rw [if_neg (not_not.mpr chosen), found]
    exact (if_neg other).trans (if_neg stays)

/-- In every other case the best risk is taken at once. -/
theorem selectPrimary_of_not_challenged
    (free : state.hasPreviousPrimary = true →
      ∀ previous, ¬ Challenged config risks state.previousPrimaryId previous) :
    selectPrimary risks state config = (worstOf risks, settledOn (worstOf risks).targetId) := by
  cases risks with
  | nil => exact absurd rfl risky
  | cons first later =>
    unfold selectPrimary
    dsimp only
    by_cases chosen : state.hasPreviousPrimary = true
    · rw [if_neg (not_not.mpr chosen)]
      cases found : findBestByTargetId (first :: later) state.previousPrimaryId with
      | none => rfl
      | some previous =>
        dsimp only
        by_cases same : (bestOf first later).targetId = state.previousPrimaryId
        · exact if_pos same
        rw [if_neg same]
        by_cases switches : (bestOf first later).riskPhase.rank ≠ previous.riskPhase.rank ∨
            (bestOf first later).riskScore - previous.riskScore ≥ switchGap config
        · exact if_pos switches
        obtain ⟨samePhase, close⟩ := not_or.mp switches
        exact absurd ⟨found, same, not_not.mp samePhase, close⟩ (free chosen previous)
    · exact if_pos chosen

/-- What a call does: it takes the best risk, or it counts that once more and keeps the risk of
the target chosen before. -/
theorem selectPrimary_cases (config : RankingConfig) (state : RankingState) :
    selectPrimary risks state config = (worstOf risks, settledOn (worstOf risks).targetId) ∨
      ∃ previous, state.hasPreviousPrimary = true ∧
        Challenged config risks state.previousPrimaryId previous ∧
        ¬ Confirmed config state risks ∧
        selectPrimary risks state config = (previous, counted config state risks) := by
  by_cases free : state.hasPreviousPrimary = true →
      ∀ previous, ¬ Challenged config risks state.previousPrimaryId previous
  · exact .inl (selectPrimary_of_not_challenged risky free)
  push Not at free
  obtain ⟨chosen, previous, challenged⟩ := free
  rw [selectPrimary_of_challenged risky chosen challenged]
  by_cases confirmed : Confirmed config state risks
  · exact .inl (if_pos confirmed)
  · exact .inr ⟨previous, chosen, challenged, confirmed, if_neg confirmed⟩

end Call

/-! ### Phases and scores -/

section Bounds

variable {config : RankingConfig} {state : RankingState} {risks : List RiskVector}

theorem rank_le_worstOf {risk : RiskVector} (member : risk ∈ risks) :
    risk.riskPhase.rank ≤ (worstOf risks).riskPhase.rank := by
  cases risks with
  | nil => cases member
  | cons first later =>
    refine Tolerances.key_le_champion (fun risk => risk.riskPhase.rank)
      (fun candidate current differ => ?_) first later risk member
    unfold isBetterPrimaryCandidate
    rw [if_pos differ, decide_eq_true_iff]

theorem switchGap_nonneg (config : RankingConfig) : 0.0 ≤ switchGap config := by
  unfold switchGap stdMax
  by_cases positive : 0.0 < config.switchScoreGap
  · rw [if_pos positive]
    exact le_of_lt positive
  · rw [if_neg positive]
    decide

theorem findBestByTargetId_mem {targetId : String} {previous : RiskVector}
    (found : findBestByTargetId risks targetId = some previous) : previous ∈ risks := by
  unfold findBestByTargetId at found
  cases matching : risks.filter (·.targetId = targetId) with
  | nil =>
    rw [matching] at found
    cases found
  | cons first later =>
    rw [matching] at found
    obtain rfl := Option.some.inj found
    exact (List.mem_filter.mp (matching ▸ M8.bestOf_mem first later)).1

/-- The returned risk is one of the list, in the highest phase of it. -/
theorem selectPrimary_mem (risky : risks ≠ []) :
    (selectPrimary risks state config).1 ∈ risks ∧
      ∀ risk ∈ risks,
        risk.riskPhase.rank ≤ (selectPrimary risks state config).1.riskPhase.rank := by
  rcases selectPrimary_cases risky config state with
    taken | ⟨previous, -, challenged, -, kept⟩
  · rw [taken]
    exact ⟨worstOf_mem risky, fun risk member => rank_le_worstOf member⟩
  · rw [kept]
    refine ⟨findBestByTargetId_mem challenged.found, fun risk member => ?_⟩
    rw [← challenged.samePhase]
    exact rank_le_worstOf member

/-- Its score is not less than that of the best risk by more than the gap. -/
theorem le_selectPrimary_score (risky : risks ≠ [])
    (finite : ∀ risk ∈ risks, risk.riskScore.isFinite = true) :
    (worstOf risks).riskScore - switchGap config ≤
      (selectPrimary risks state config).1.riskScore := by
  have bestFinite := finite _ (worstOf_mem risky)
  rcases selectPrimary_cases risky config state with
    taken | ⟨previous, -, challenged, -, kept⟩
  · rw [taken]
    exact sub_amount_le bestFinite (switchGap_nonneg config)
  · rw [kept]
    exact sub_le_of_not_exceeds bestFinite (finite _ (findBestByTargetId_mem challenged.found))
      (switchGap_nonneg config) challenged.close

end Bounds

/-! ### Runs -/

section Runs

variable (config : RankingConfig) (calls : List (List RiskVector))

/-- The ranking state before a call of a run that begins with a new one. -/
def stateBefore (count : Nat) : RankingState :=
  Runs.stateAt (fun state risks => (selectPrimary risks state config).2) {} calls count

/-- What a call of the run returns for a list. -/
def returnedAt (count : Nat) (risks : List RiskVector) : RiskVector :=
  (selectPrimary risks (stateBefore config calls count) config).1

/-- The call had the target as its best one, and did not promote it. -/
def HeldBack (targetId : String) (index : Nat) : Prop :=
  ∃ risks, calls[index]? = some risks ∧ (worstOf risks).targetId = targetId ∧
    (returnedAt config calls index risks).targetId ≠ targetId

/-- In as many calls as the state counts, all of them before the current one, the candidate was
held back. -/
def Counted (count : Nat) : Prop :=
  ∀ back < (stateBefore config calls count).candidateCount, back < count ∧
    HeldBack config calls (stateBefore config calls count).candidatePrimaryId (count - 1 - back)

variable {config calls} {count : Nat} {risks : List RiskVector}

/-- Counting a candidate once more counts at most one more call, or it begins with this one. -/
theorem candidateCount_countCandidate_le {state : RankingState} {targetId : String}
    {required back : Nat}
    (within : back + 1 < (state.countCandidate targetId required).candidateCount) :
    state.candidatePrimaryId = targetId ∧ back < state.candidateCount := by
  unfold RankingState.countCandidate at within
  by_cases same : state.hasCandidatePrimary ∧ state.candidatePrimaryId = targetId
  · refine ⟨same.2, ?_⟩
    rw [if_pos same] at within
    dsimp only at within
    split_ifs at within <;> omega
  · rw [if_neg same] at within
    dsimp only at within
    omega

theorem countCandidate_candidatePrimaryId (state : RankingState) (targetId : String)
    (required : Nat) :
    (state.countCandidate targetId required).candidatePrimaryId = targetId ∧
      (state.countCandidate targetId required).previousPrimaryId = state.previousPrimaryId ∧
      (state.countCandidate targetId required).hasPreviousPrimary = state.hasPreviousPrimary := by
  unfold RankingState.countCandidate
  by_cases same : state.hasCandidatePrimary ∧ state.candidatePrimaryId = targetId
  · rw [if_pos same]
    exact ⟨same.2, rfl, rfl⟩
  · rw [if_neg same]
    exact ⟨rfl, rfl, rfl⟩

section Step

variable (present : calls[count]? = some risks) (risky : risks ≠ [])

include present

theorem stateBefore_succ : stateBefore config calls (count + 1) =
    (selectPrimary risks (stateBefore config calls count) config).2 :=
  Runs.stateAt_succ _ _ _ present

include risky

/-- The state remembers the target that was returned last. -/
theorem stateBefore_succ_previous (config : RankingConfig) :
    (stateBefore config calls (count + 1)).hasPreviousPrimary = true ∧
      (stateBefore config calls (count + 1)).previousPrimaryId =
        (returnedAt config calls count risks).targetId := by
  rw [stateBefore_succ present]
  unfold returnedAt
  rcases selectPrimary_cases risky config (stateBefore config calls count)
    with taken | ⟨previous, chosen, challenged, -, kept⟩
  · rw [taken]
    exact ⟨rfl, rfl⟩
  · rw [kept]
    obtain ⟨-, sameId, sameFlag⟩ := countCandidate_candidatePrimaryId
      (stateBefore config calls count) (worstOf risks).targetId (requiredSamples config)
    exact ⟨sameFlag.trans chosen,
      sameId.trans (findBestByTargetId_targetId challenged.found).symm⟩

/-- A call keeps the count right. -/
theorem Counted.succ (earlier : Counted config calls count) :
    Counted config calls (count + 1) := by
  unfold Counted
  rw [stateBefore_succ present]
  rcases selectPrimary_cases risky config (stateBefore config calls count)
    with taken | ⟨previous, -, challenged, -, kept⟩
  · rw [taken]
    exact fun back none => absurd none (Nat.not_lt_zero back)
  rw [kept]
  obtain ⟨candidate, -, -⟩ := countCandidate_candidatePrimaryId
    (stateBefore config calls count) (worstOf risks).targetId (requiredSamples config)
  intro back within
  refine ⟨?_, ?_⟩
  · cases back with
    | zero => exact Nat.succ_pos count
    | succ back =>
      exact Nat.succ_lt_succ (earlier back (candidateCount_countCandidate_le within).2).1
  show HeldBack config calls (counted config _ risks).candidatePrimaryId _
  unfold counted
  rw [candidate]
  cases back with
  | zero =>
    -- this call itself is the latest one counted
    refine ⟨risks, present, rfl, ?_⟩
    show (selectPrimary risks (stateBefore config calls count) config).1.targetId ≠ _
    rw [kept, findBestByTargetId_targetId challenged.found]
    exact challenged.other.symm
  | succ back =>
    obtain ⟨same, before⟩ := candidateCount_countCandidate_le within
    obtain ⟨inRange, held⟩ := earlier back before
    rw [same] at held
    have index : count + 1 - 1 - (back + 1) = count - 1 - back := by omega
    rwa [index]

end Step

/-- The count is right before every call of a run of risky lists. -/
theorem counted_of_le (risky : ∀ risks ∈ calls, risks ≠ []) (within : count ≤ calls.length) :
    Counted config calls count := by
  induction count with
  | zero => exact fun back none => absurd none (Nat.not_lt_zero back)
  | succ count inductionHypothesis =>
    have present : calls[count]? = some calls[count] := List.getElem?_eq_getElem within
    exact Counted.succ present (risky _ (List.getElem_mem within))
      (inductionHypothesis (Nat.le_of_succ_le within))

/-- A challenged target gives its place to the best one only after that was confirmed: it was the
best in all the calls a switch takes, and in none of them but the last it was promoted. -/
theorem heldBack_of_switch (risky : ∀ risks ∈ calls, risks ≠ [])
    (present : calls[count]? = some risks)
    (chosen : (stateBefore config calls count).hasPreviousPrimary = true) {previous : RiskVector}
    (challenged : Challenged config risks (stateBefore config calls count).previousPrimaryId
      previous)
    (switches : (returnedAt config calls count risks).targetId ≠
      (stateBefore config calls count).previousPrimaryId)
    {back : Nat} (within : back + 1 < requiredSamples config) :
    back < count ∧ HeldBack config calls (worstOf risks).targetId (count - 1 - back) := by
  have nonempty := risky risks (List.mem_of_getElem? present)
  have inRange : count ≤ calls.length := (List.getElem?_eq_some_iff.mp present).1.le
  have confirmed : Confirmed config (stateBefore config calls count) risks := by
    by_contra kept
    apply switches
    unfold returnedAt
    rw [selectPrimary_of_challenged nonempty chosen challenged, if_neg kept]
    exact findBestByTargetId_targetId challenged.found
  obtain ⟨same, before⟩ := candidateCount_countCandidate_le (within.trans_le confirmed)
  rw [← same]
  exact counted_of_le risky inRange back before

/-- The law of a run of calls on one new ranking state. -/
structure RankingLaw (config : RankingConfig) (calls : List (List RiskVector)) : Prop where
  /-- What is returned is in the list. -/
  member : ∀ count risks, calls[count]? = some risks →
    returnedAt config calls count risks ∈ risks
  /-- No risk of the list is in a higher phase. -/
  highest : ∀ count risks, calls[count]? = some risks → ∀ risk ∈ risks,
    risk.riskPhase.rank ≤ (returnedAt config calls count risks).riskPhase.rank
  /-- Its score is at least that of the stateless choice less the gap. -/
  score : ∀ count risks, calls[count]? = some risks →
    (∀ risk ∈ risks, risk.riskScore.isFinite = true) →
    (worstOf risks).riskScore - switchGap config ≤ (returnedAt config calls count risks).riskScore
  /-- Where the target returned last is challenged and loses its place, the best one has been the
  best in each of the last calls, as many as a switch takes, and it was not promoted since. -/
  confirmed : ∀ count earlier risks previous, calls[count]? = some earlier →
    calls[count + 1]? = some risks →
    Challenged config risks (returnedAt config calls count earlier).targetId previous →
    (returnedAt config calls (count + 1) risks).targetId ≠
      (returnedAt config calls count earlier).targetId →
    returnedAt config calls (count + 1) risks = worstOf risks ∧
      ∀ back, back + 1 < requiredSamples config → back ≤ count ∧
        HeldBack config calls (worstOf risks).targetId (count - back)

theorem rankingLaw (risky : ∀ risks ∈ calls, risks ≠ []) : RankingLaw config calls where
  member _ risks present := (selectPrimary_mem (risky risks (List.mem_of_getElem? present))).1
  highest _ risks present := (selectPrimary_mem (risky risks (List.mem_of_getElem? present))).2
  score _ risks present finite :=
    le_selectPrimary_score (risky risks (List.mem_of_getElem? present)) finite
  confirmed count earlier risks previous before present challenged switches := by
    obtain ⟨chosen, remembered⟩ :=
      stateBefore_succ_previous before (risky _ (List.mem_of_getElem? before)) config
    rw [← remembered] at challenged switches
    refine ⟨?_, fun back within => ?_⟩
    · rcases selectPrimary_cases (risky risks (List.mem_of_getElem? present)) config
        (stateBefore config calls (count + 1)) with taken | ⟨kept, -, held, -, returned⟩
      · exact congrArg Prod.fst taken
      · refine absurd ?_ switches
        exact (congrArg (·.1.targetId) returned).trans (findBestByTargetId_targetId held.found)
    · obtain ⟨inRange, held⟩ := heldBack_of_switch risky present chosen challenged switches within
      have index : count + 1 - 1 - back = count - back := by omega
      exact ⟨Nat.le_of_lt_succ inRange, index ▸ held⟩

/-- A target that stays as it is while another one becomes a little worse. -/
def overtaken : List (List RiskVector) :=
  [0.4, 0.55, 0.55].map fun score =>
    [{ targetId := "a", riskScore := 0.5 }, { targetId := "b", riskScore := score }]

/-- Its first call above the other one leaves the choice as it is, and the second one switches. -/
theorem overtaken_law : RankingLaw {} overtaken ∧
    ((List.range 3).map fun count =>
      (returnedAt {} overtaken count ((overtaken[count]?).getD [])).targetId) = ["a", "a", "b"] :=
  ⟨rankingLaw (by decide), by decide⟩

/-- A score that is no number has no bound. -/
theorem not_bounded_of_undefined :
    ¬ ∀ (config : RankingConfig) (calls : List (List RiskVector)), (∀ risks ∈ calls, risks ≠ []) →
      ∀ count risks, calls[count]? = some risks → (worstOf risks).riskScore - switchGap config ≤
        (returnedAt config calls count risks).riskScore := by
  intro law
  have bounded := law {} [[{ riskScore := 0.0 / 0.0 }]] (by decide) 0 _ rfl
  exact absurd bounded (by decide)

end Runs

end MassL3.Risk
