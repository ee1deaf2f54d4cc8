/-
This file compares, over whole runs, the primary threat that the arbiter works with and the one
that the operator is shown. The arbiter carries a ranking state: it stays with its target until
another one is clearly worse or has been worst twice. The display starts afresh in every cycle and
flags the worst. The two part when the worst target changes within a phase and by a small gap,
and only then.
-/

import MassTdl.Arbiter.Arbitration
import MassTdl.Arbiter.Optimum
import MassTdl.Hmi.ThreatState

namespace MassL3.M8

open MassL3.M4 (ColregsDirective Decision computePrimaryRiskGuidance guide)
open MassL3.Risk

/-! ### The arbiter's side -/

/-- What the arbiter makes of a list of risks: its primary risk and the ranking state. -/
def arbiterPrimary (risks : List RiskVector) (ranking : RankingState) :
    Option RiskVector × RankingState :=
  if risks.isEmpty then (none, ranking)
  else
    let selected := selectPrimary risks ranking {}
    (some selected.1, selected.2)

section Arbiter

variable (lib : MathLibrary) (world : M4.WorldState) (directive : ColregsDirective)

/-- The risks that the arbiter ranks. -/
def arbiterRisks : List RiskVector :=
  (world.targets.filter (·.hasUsableRange)).map (M4.targetRisk lib world directive 1.0)

/-- This is what the guidance of the arbiter does with the risks it has computed. -/
theorem computePrimaryRiskGuidance_eq (ranking : RankingState) :
    ((computePrimaryRiskGuidance lib world directive ranking).1.map (·.current),
        (computePrimaryRiskGuidance lib world directive ranking).2) =
      arbiterPrimary (arbiterRisks lib world directive) ranking := by
  unfold computePrimaryRiskGuidance arbiterPrimary arbiterRisks
  rw [List.isEmpty_map]
  dsimp only
  by_cases empty : (world.targets.filter (·.hasUsableRange)).isEmpty = true
  · rw [if_pos empty, if_pos empty]
    rfl
  · rw [if_neg empty, if_neg empty]
    split <;> rfl

end Arbiter

/-! ### Cycles -/

/-- What `select_primary` returns without a ranking state. -/
def worstOf : List RiskVector → RiskVector
  | [] => {}
  | first :: later => bestOf first later

/-- What both modules are given in a cycle: the same risks, each of a named target, and whether the
arbiter has an active conflict. -/
structure Cycle where
  world : WorldState
  conflictActive : Bool
  risks : List RiskVector
  named : ∀ risk ∈ risks, risk.targetId ≠ ""

namespace Cycle

variable (cycle : Cycle)

/-- The arbiter ranks the risks of the cycle. -/
def ranks : Bool := cycle.conflictActive && !cycle.risks.isEmpty

/-- The target of the worst risk. -/
def worstId : String := (worstOf cycle.risks).targetId

/-- The primary risk that the arbiter uses in a cycle, and its ranking state after it. -/
def rank (ranking : RankingState) : Option RiskVector × RankingState :=
  if cycle.conflictActive then arbiterPrimary cycle.risks ranking else (none, ranking)

/-- The target of the arbiter's primary risk, if there is one, is the one that is flagged. -/
def Agrees (lib : MathLibrary) (ranking : RankingState) : Prop :=
  ∀ primary, (cycle.rank ranking).1 = some primary → ∀ targetId,
    targetId ∈ (threatStateOf lib cycle.world cycle.risks).primaryIds ↔
      targetId = primary.targetId

end Cycle

/-- The worst target is not the given one, though that one is still there, in the same phase, and
within the gap that a switch takes. -/
def ContestedFrom (targetId : String) (risks : List RiskVector) : Prop :=
  ∃ previous, findBestByTargetId risks targetId = some previous ∧
    (worstOf risks).targetId ≠ targetId ∧
    (worstOf risks).riskPhase.rank = previous.riskPhase.rank ∧
    ¬ (worstOf risks).riskScore - previous.riskScore ≥ 0.12

/-- The worst target of a cycle is contested in a later one. -/
def Contested (earlier later : Cycle) : Prop := ContestedFrom earlier.worstId later.risks

/-- The ranking state of the arbiter from cycle to cycle. -/
def nextRanking (ranking : RankingState) (cycle : Cycle) : RankingState := (cycle.rank ranking).2

/-- In every cycle of a run the operator is shown what the arbiter avoids. -/
def AgreesThroughout (lib : MathLibrary) (ranking : RankingState) (cycles : List Cycle) : Prop :=
  ∀ count (cycle : Cycle), cycles[count]? = some cycle →
    cycle.Agrees lib (Runs.stateAt nextRanking ranking cycles count)

/-! ### One selection -/

/-- The ranking state after a switch to a target. -/
def settledOn (targetId : String) : RankingState where
  previousPrimaryId := targetId
  hasPreviousPrimary := true

section Selection

variable {risks : List RiskVector} {targetId : String}

theorem worstOf_mem (risky : risks ≠ []) : worstOf risks ∈ risks := by
  cases risks with
  | nil => exact absurd rfl risky
  | cons first later => exact bestOf_mem first later

theorem findBestByTargetId_targetId {previous : RiskVector}
    (found : findBestByTargetId risks targetId = some previous) : previous.targetId = targetId := by
  unfold findBestByTargetId at found
  cases matching : risks.filter (·.targetId = targetId) with
  | nil =>
    rw [matching] at found
    cases found
  | cons first later =>
    rw [matching] at found
    obtain rfl := Option.some.inj found
    have member : bestOf first later ∈ risks.filter (·.targetId = targetId) :=
      matching ▸ bestOf_mem first later
    exact of_decide_eq_true (List.mem_filter.mp member).2

/-- The first selection takes the worst risk. -/
theorem selectPrimary_first (risky : risks ≠ []) :
    selectPrimary risks {} {} = (worstOf risks, settledOn (worstOf risks).targetId) := by
  cases risks with
  | nil => exact absurd rfl risky
  | cons first later => rfl

/-- A later one is a first sample for another target than the one before. -/
theorem selectPrimary_settledOn {first : RiskVector} {later : List RiskVector} :
    selectPrimary (first :: later) (settledOn targetId) {} =
      match findBestByTargetId (first :: later) targetId with
      | none => (bestOf first later, settledOn (bestOf first later).targetId)
      | some previous =>
          if (bestOf first later).targetId = targetId ∨
              (bestOf first later).riskPhase.rank ≠ previous.riskPhase.rank ∨
              (bestOf first later).riskScore - previous.riskScore ≥ 0.12 then
            (bestOf first later, settledOn (bestOf first later).targetId)
          else (previous, (settledOn targetId).countCandidate (bestOf first later).targetId 2) := by
  have gap : Clamps.stdMax 0.0 ({} : RankingConfig).switchScoreGap = 0.12 := by decide
  unfold selectPrimary
  simp only [gap]
  have previously : (settledOn targetId).previousPrimaryId = targetId := rfl
  have settled : ¬ ¬ (settledOn targetId).hasPreviousPrimary = true := not_not.mpr rfl
  rw [if_neg settled, previously]
  cases findBestByTargetId (first :: later) targetId with
  | none => rfl
  | some previous =>
    dsimp only
    by_cases same : (bestOf first later).targetId = targetId
    · rw [if_pos same, if_pos (Or.inl same)]
      rfl
    · rw [if_neg same]
      by_cases switches : (bestOf first later).riskPhase.rank ≠ previous.riskPhase.rank ∨
          (bestOf first later).riskScore - previous.riskScore ≥ 0.12
      · rw [if_pos switches, if_pos (Or.inr switches)]
        rfl
      · rw [if_neg switches, if_neg (not_or.mpr ⟨same, switches⟩)]
        rfl

/-- It takes the worst risk as well, unless that is contested. -/
theorem selectPrimary_settled (risky : risks ≠ []) (clear : ¬ ContestedFrom targetId risks) :
    selectPrimary risks (settledOn targetId) {} =
      (worstOf risks, settledOn (worstOf risks).targetId) := by
  cases risks with
  | nil => exact absurd rfl risky
  | cons first later =>
    rw [selectPrimary_settledOn]
    cases found : findBestByTargetId (first :: later) targetId with
    | none => rfl
    | some previous =>
      refine if_pos ?_
      by_contra held
      obtain ⟨other, phaseAndGap⟩ := not_or.mp held
      obtain ⟨samePhase, close⟩ := not_or.mp phaseAndGap
      exact clear ⟨previous, found, other, not_not.mp samePhase, close⟩

/-- Where it is contested the target before is kept. -/
theorem selectPrimary_contested (contested : ContestedFrom targetId risks) :
    (selectPrimary risks (settledOn targetId) {}).1.targetId = targetId := by
  obtain ⟨previous, found, other, samePhase, close⟩ := contested
  cases risks with
  | nil => cases found
  | cons first later =>
    have held : ¬ ((bestOf first later).targetId = targetId ∨
        (bestOf first later).riskPhase.rank ≠ previous.riskPhase.rank ∨
        (bestOf first later).riskScore - previous.riskScore ≥ 0.12) :=
      not_or.mpr ⟨other, not_or.mpr ⟨not_not.mpr samePhase, close⟩⟩
    rw [selectPrimary_settledOn, found]
    dsimp only
    rw [if_neg held]
    exact findBestByTargetId_targetId found

end Selection

/-! ### Runs -/

section Runs

variable {lib : MathLibrary} {cycle earlier : Cycle} {cycles : List Cycle}
  {ranking : RankingState}

theorem Cycle.risky (ranks : cycle.ranks = true) : cycle.risks ≠ [] := by
  obtain ⟨-, risky⟩ := Bool.and_eq_true_iff.mp ranks
  rintro empty
  rw [empty] at risky
  cases risky

theorem Cycle.rank_of_ranks (ranks : cycle.ranks = true) :
    cycle.rank ranking = (some (selectPrimary cycle.risks ranking {}).1,
      (selectPrimary cycle.risks ranking {}).2) := by
  obtain ⟨conflict, risky⟩ := Bool.and_eq_true_iff.mp ranks
  unfold rank arbiterPrimary
  rw [if_pos conflict, if_neg (fun empty => by rw [empty] at risky; cases risky)]

theorem Cycle.rank_of_idle (idle : cycle.ranks = false) :
    cycle.rank ranking = (none, ranking) := by
  unfold ranks at idle
  unfold rank arbiterPrimary
  cases conflict : cycle.conflictActive with
  | false => rfl
  | true =>
    rw [conflict, Bool.true_and, Bool.not_eq_false'] at idle
    rw [if_pos rfl, if_pos idle]

/-- A cycle without a ranking agrees, and leaves the state alone. -/
theorem Cycle.agrees_of_idle (idle : cycle.ranks = false) : cycle.Agrees lib ranking := by
  intro primary selected
  rw [rank_of_idle idle] at selected
  cases selected

/-- In every cycle, with a ranking or without, the flags mark the worst target, if there is one. -/
theorem Cycle.flags_iff (targetId : String) :
    targetId ∈ (threatStateOf lib cycle.world cycle.risks).primaryIds ↔
      cycle.risks ≠ [] ∧ targetId = cycle.worstId := by
  have named := fun risky => cycle.named _ (worstOf_mem risky)
  unfold worstId
  generalize cycle.risks = risks at named ⊢
  cases risks with
  | nil => exact iff_of_false List.not_mem_nil fun flagged => flagged.1 rfl
  | cons first later =>
    have risky : first :: later ≠ [] := List.cons_ne_nil first later
    exact (mem_primaryIds_iff (named risky)).trans (and_iff_right risky).symm

/-- A cycle with a ranking agrees if the arbiter selects the worst target. -/
theorem Cycle.agrees_iff (ranks : cycle.ranks = true) :
    cycle.Agrees lib ranking ↔
      (selectPrimary cycle.risks ranking {}).1.targetId = cycle.worstId := by
  have flags (targetId : String) :
      targetId ∈ (threatStateOf lib cycle.world cycle.risks).primaryIds ↔
        targetId = cycle.worstId :=
    (flags_iff targetId).trans (and_iff_right (risky ranks))
  constructor
  · intro agrees
    have shown := (agrees _ (congrArg Prod.fst (rank_of_ranks ranks)) cycle.worstId).mp
      ((flags _).mpr rfl)
    exact shown.symm
  · intro same primary selected targetId
    rw [rank_of_ranks ranks] at selected
    obtain rfl := Option.some.inj selected
    rw [flags, same]

theorem agreesThroughout_cons :
    AgreesThroughout lib ranking (cycle :: cycles) ↔
      cycle.Agrees lib ranking ∧ AgreesThroughout lib (nextRanking ranking cycle) cycles :=
  Runs.forall_steps_cons fun ranking (cycle : Cycle) => cycle.Agrees lib ranking

/-- From a settled state, agreement throughout is that no worst target is contested in the next
cycle with a ranking. -/
theorem agreesThroughout_settledOn_iff :
    AgreesThroughout lib (settledOn earlier.worstId) cycles ↔
      (earlier :: cycles.filter (·.ranks)).IsChain fun earlier later =>
        ¬ Contested earlier later := by
  induction cycles generalizing earlier with
  | nil => exact iff_of_true (fun _ _ absent => by cases absent) (List.isChain_singleton _)
  | cons cycle cycles inductionHypothesis =>
    rw [agreesThroughout_cons]
    cases ranks : cycle.ranks with
    | false =>
      rw [List.filter_cons_of_neg (by rw [ranks]; exact Bool.false_ne_true), nextRanking,
        Cycle.rank_of_idle ranks, and_iff_right (Cycle.agrees_of_idle ranks)]
      exact inductionHypothesis
    | true =>
      rw [List.filter_cons_of_pos ranks, List.isChain_cons_cons, Cycle.agrees_iff ranks]
      by_cases contested : Contested earlier cycle
      · refine iff_of_false (fun both => ?_) fun both => ?_
        · obtain ⟨previous, found, other, -⟩ := id contested
          exact other (both.1.symm.trans (selectPrimary_contested contested))
        · exact both.1 contested
      · have selected := selectPrimary_settled (Cycle.risky ranks) contested
        rw [nextRanking, Cycle.rank_of_ranks ranks, selected]
        refine and_congr (iff_of_true rfl contested) ?_
        exact inductionHypothesis

theorem agreesThroughout_new_iff :
    AgreesThroughout lib {} cycles ↔
      (cycles.filter (·.ranks)).IsChain fun earlier later => ¬ Contested earlier later := by
  induction cycles with
  | nil => exact iff_of_true (fun _ _ absent => by cases absent) List.isChain_nil
  | cons cycle cycles inductionHypothesis =>
    rw [agreesThroughout_cons]
    cases ranks : cycle.ranks with
    | false =>
      rw [List.filter_cons_of_neg (by rw [ranks]; exact Bool.false_ne_true), nextRanking,
        Cycle.rank_of_idle ranks, and_iff_right (Cycle.agrees_of_idle ranks)]
      exact inductionHypothesis
    | true =>
      have selected := selectPrimary_first (Cycle.risky ranks)
      rw [List.filter_cons_of_pos ranks, Cycle.agrees_iff ranks, nextRanking,
        Cycle.rank_of_ranks ranks, selected]
      exact (and_iff_right rfl).trans agreesThroughout_settledOn_iff

/-- For every run: the operator is shown the worst target of every cycle and no other, and this is
what the arbiter avoids throughout exactly if no worst target is contested in the next cycle with
a ranking. -/
theorem agreesThroughout_iff :
    (∀ cycle ∈ cycles, ∀ targetId,
        targetId ∈ (threatStateOf lib cycle.world cycle.risks).primaryIds ↔
          cycle.risks ≠ [] ∧ targetId = cycle.worstId) ∧
      (AgreesThroughout lib {} cycles ↔
        (cycles.filter (·.ranks)).IsChain fun earlier later => ¬ Contested earlier later) :=
  ⟨fun _ _ targetId => Cycle.flags_iff targetId, agreesThroughout_new_iff⟩

end Runs

/-! ### Two targets that take turns -/

def quietWorld : WorldState where
  stamp := 0
  ownShip := { latitude := 0.0, longitude := 0.0, sogKn := 10.0, headingDeg := 0.0 }
  targets := []
  confidence := 1.0

def riskOf (targetId : String) (riskScore : Float) : RiskVector where
  targetId := targetId
  rangeM := 1000.0
  riskPhase := .warning
  riskScore := riskScore

/-- A cycle with two targets that are in the warning domain. -/
def twoTargets (first second : Float) : Cycle where
  world := quietWorld
  conflictActive := true
  risks := [riskOf "1" first, riskOf "2" second]
  named := by
    intro risk member
    rcases List.mem_pair.mp member with rfl | rfl
    · exact (by decide : "1" ≠ "")
    · exact (by decide : "2" ≠ "")

/-- The second target becomes the worst by a twentieth: it is flagged, and the first is avoided. -/
theorem agreesThroughout_false :
    ¬ ∀ (lib : MathLibrary) (cycles : List Cycle), AgreesThroughout lib {} cycles := by
  intro agrees
  have second := agrees M4.meridianLibrary [twoTargets 0.50 0.45, twoTargets 0.50 0.55] 1
    (twoTargets 0.50 0.55) rfl
  have same := (Cycle.agrees_iff rfl).mp second
  exact absurd same (by decide +kernel)

end MassL3.M8
