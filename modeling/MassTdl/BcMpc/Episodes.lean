/-
This file translates the BC-MPC node: the input it assembles from the world state, what a
solution does to the override and to its counter, and the health it publishes. The override
command and the audit records are left out: nothing the node counts depends on them.

It then says what the published count of overrides without improvement stands for. It is
meant to be the trailing run of the current episode. The node compares an override with the
separation it remembers, which a resolved verdict does not forget, so the first override of an
episode is compared as well, and the run comes out one too long if it reaches back to it.

Histories are lists of solutions, the last first.
-/

import MassTdl.BcMpc.Detector
import MassTdl.MidMpc.Node

namespace MassL3.M5.BcMpc

open CommittedRoute (kRadPerDeg kEarthRadiusMeanM)
open MidMpc (BcMpcHealth)

/-! ### Messages -/

structure OwnShipState where
  headingDeg : Float
  uWater : Float
  latitude : Float
  longitude : Float

structure TrackedTarget where
  latitude : Float
  longitude : Float
  sogKn : Float
  cogDeg : Float
  cpaM : Float

structure WorldState where
  ownShip : OwnShipState
  targets : List TrackedTarget

/-! ### The node -/

def kMsPerKn : Float := 1852.0 / 3600.0

def kNoCpaEstimateM : Float := 1.0e6

def kCpaImproveEpsilonM : Float := 1.0

/-- `BcMpcNode::Config`, with the solver's own. -/
structure NodeConfig where
  branch : BranchConfig := {}
  solver : SolverConfig := {}
  cpaSafeM : Float := 1852.0

structure BcMpcNode where
  midMpcConsecutiveFailures : UInt64 := 0
  isBcActive : Bool := false
  remainingValidityS : Float := 0.0
  consecutiveOverrideNoImprove : UInt32 := 0
  lastWorstCaseCpaM : Float := 1.0e9
  lastInputPredictedCpa : Float := 1.0e9

variable (lib : MathLibrary) (config : NodeConfig)

/-- A target in the ship's frame. -/
def assembleTarget (own : OwnShipState) (target : TrackedTarget) : TargetState where
  xM := (target.latitude - own.latitude) * kRadPerDeg * kEarthRadiusMeanM
  yM := (target.longitude - own.longitude) * kRadPerDeg * kEarthRadiusMeanM *
    lib.cos (own.latitude * kRadPerDeg)
  sogMps := target.sogKn * kMsPerKn
  cogRad := target.cogDeg * kRadPerDeg
  cpaM := target.cpaM

/-- `assemble_input_`. -/
def assembleInput (node : BcMpcNode) (world : WorldState) : BcMpcInput :=
  let targets := world.targets.map (assembleTarget lib world.ownShip)
  { ownShip :=
      { psiRad := world.ownShip.headingDeg * kRadPerDeg
        uMps := world.ownShip.uWater }
    targets := targets
    cpaSafeM := config.cpaSafeM
    midMpcConsecutiveFailures := node.midMpcConsecutiveFailures.toUInt32.toInt32
    predictedShortHorizonCpaM :=
      Binary64.runningMin kNoCpaEstimateM (targets.map fun target => target.cpaM) }

/-- The separation at or below which an override can count. -/
def NodeConfig.cpaThreshold : Float := config.cpaSafeM * config.branch.overrideCpaMultiplier

/-- What `on_world_state_` does with the solution. -/
def BcMpcNode.process (node : BcMpcNode) (sol : BcMpcSolution) : BcMpcNode :=
  match sol.status with
  | .override =>
      let improve := sol.worstCaseCpaM - node.lastWorstCaseCpaM
      { node with
        isBcActive := true
        remainingValidityS := sol.validityS
        consecutiveOverrideNoImprove :=
          if sol.worstCaseCpaM ≤ config.cpaThreshold ∧ improve < kCpaImproveEpsilonM then
            node.consecutiveOverrideNoImprove + 1
          else 0
        lastWorstCaseCpaM := sol.worstCaseCpaM }
  | .resolved =>
      if node.isBcActive then
        -- the remembered separation stays
        { node with
          isBcActive := false
          remainingValidityS := 0.0
          consecutiveOverrideNoImprove := 0 }
      else node
  | .notInitialized => node

/-- `publish_health_`. -/
def BcMpcNode.health (node : BcMpcNode) (sol : BcMpcSolution) : BcMpcHealth where
  overrideActive := node.isBcActive
  worstCaseCpaM := sol.worstCaseCpaM.toFloat32
  predictedShortHorizonCpaM := node.lastInputPredictedCpa.toFloat32
  overrideNoImproveCount := node.consecutiveOverrideNoImprove

/-- `on_world_state_`, with the health it publishes. -/
def BcMpcNode.onWorldState (turns : Nat) (node : BcMpcNode) (world : WorldState) :
    Option (BcMpcNode × BcMpcHealth) :=
  let input := assembleInput lib config node world
  (solve lib config.branch config.solver turns input).map fun sol =>
    let node := { node with lastInputPredictedCpa := input.predictedShortHorizonCpaM }
    let node := node.process config sol
    (node, node.health sol)

variable {lib : MathLibrary} {config : NodeConfig} {turns : Nat}

/-! ### Episodes -/

/-- The worst separations of the overrides of a history. -/
def overrides (history : List BcMpcSolution) : List Float :=
  (history.filter fun sol => sol.status = .override).map fun sol => sol.worstCaseCpaM

/-- The overrides since BC-MPC last became active. -/
def episode (history : List BcMpcSolution) : List Float :=
  overrides (history.takeWhile fun sol => sol.status ≠ .resolved)

/-- What the node remembers from before the episode. -/
def remembered (history : List BcMpcSolution) : Float :=
  (overrides (history.dropWhile fun sol => sol.status ≠ .resolved)).headD 1.0e9

/-- An override counts if it is at or below the threshold and less than a metre better. -/
def NoImprovement (threshold earlier later : Float) : Prop :=
  later ≤ threshold ∧ later - earlier < kCpaImproveEpsilonM

instance (threshold earlier later : Float) : Decidable (NoImprovement threshold earlier later) :=
  inferInstanceAs (Decidable (_ ∧ _))

/-- The trailing run of overrides that do not improve on their predecessors. The first one has
no predecessor. -/
def trailingRun (threshold : Float) : List Float → Nat
  | later :: earlier :: before =>
      if NoImprovement threshold earlier later then trailingRun threshold (earlier :: before) + 1
      else 0
  | _ => 0

theorem overrides_eq_append (history : List BcMpcSolution) :
    overrides history =
      episode history ++
        overrides (history.dropWhile fun sol => sol.status ≠ .resolved) := by
  unfold episode overrides
  rw [← List.map_append, ← List.filter_append, List.takeWhile_append_dropWhile]

/-- The last override is in the episode, or it is the remembered one. -/
theorem overrides_headD (history : List BcMpcSolution) :
    (overrides history).headD 1.0e9 = (episode history).headD (remembered history) := by
  rw [overrides_eq_append, remembered]
  cases episode history <;> rfl

section Cons

variable {sol : BcMpcSolution} {history : List BcMpcSolution}

theorem episode_override (override : sol.status = .override) :
    episode (sol :: history) = sol.worstCaseCpaM :: episode history := by
  simp [episode, overrides, override]

theorem episode_resolved (resolved : sol.status = .resolved) : episode (sol :: history) = [] := by
  simp [episode, overrides, resolved]

theorem episode_notInitialized (failed : sol.status = .notInitialized) :
    episode (sol :: history) = episode history := by
  simp [episode, overrides, failed]

theorem remembered_of_not_resolved (unresolved : sol.status ≠ .resolved) :
    remembered (sol :: history) = remembered history := by
  simp [remembered, unresolved]

theorem remembered_resolved (resolved : sol.status = .resolved) :
    remembered (sol :: history) = (overrides history).headD 1.0e9 := by
  simp [remembered, overrides, resolved]

end Cons

/-! ### The trailing run -/

theorem trailingRun_cons (threshold later fallback : Float) (before : List Float) :
    trailingRun threshold (later :: (before ++ [fallback])) =
      if NoImprovement threshold (before.headD fallback) later then
        trailingRun threshold (before ++ [fallback]) + 1
      else 0 := by
  cases before <;> rfl

/-- With the value from before the episode, the run is longer by one if it reaches back to the
first override and that one counts as well. -/
theorem trailingRun_append (threshold fallback : Float) (cpas : List Float) :
    trailingRun threshold (cpas ++ [fallback]) =
      trailingRun threshold cpas +
        if trailingRun threshold cpas + 1 = cpas.length ∧
            ∃ first ∈ cpas.getLast?, NoImprovement threshold fallback first then 1 else 0 := by
  induction cpas with
  | nil => simp [trailingRun]
  | cons later before inductionHypothesis =>
    cases before with
    | nil => simp [trailingRun]
    | cons earlier before =>
      rw [List.cons_append, trailingRun_cons]
      by_cases counted : NoImprovement threshold earlier later
      · simp only [trailingRun, List.headD_cons, if_pos counted, inductionHypothesis,
          List.length_cons, List.getLast?_cons_cons, Nat.add_right_cancel_iff]
        omega
      · simp [trailingRun, counted]

/-! ### The count -/

/-- The node after a history. -/
def BcMpcNode.after (config : NodeConfig) (history : List BcMpcSolution) : BcMpcNode :=
  history.foldr (fun sol node => node.process config sol) {}

/-- The node has the history in its memory. -/
structure Remembers (config : NodeConfig) (node : BcMpcNode) (history : List BcMpcSolution) :
    Prop where
  active : node.isBcActive = !(episode history).isEmpty
  last : node.lastWorstCaseCpaM = (episode history).headD (remembered history)
  count : node.consecutiveOverrideNoImprove =
    UInt32.ofNat (trailingRun config.cpaThreshold (episode history ++ [remembered history]))

theorem process_count (node : BcMpcNode) {sol : BcMpcSolution}
    (override : sol.status = .override) :
    (node.process config sol).consecutiveOverrideNoImprove =
      if NoImprovement config.cpaThreshold node.lastWorstCaseCpaM sol.worstCaseCpaM then
        node.consecutiveOverrideNoImprove + 1
      else 0 := by
  rw [BcMpcNode.process, override]
  rfl

/-- One solution more. -/
theorem Remembers.process {node : BcMpcNode} {history : List BcMpcSolution}
    (remembers : Remembers config node history) (sol : BcMpcSolution) :
    Remembers config (node.process config sol) (sol :: history) := by
  cases status : sol.status with
  | override =>
    have unresolved : sol.status ≠ .resolved := by simp [status]
    constructor
    · simp [BcMpcNode.process, status, episode_override]
    · simp [BcMpcNode.process, status, episode_override]
    · rw [episode_override status, remembered_of_not_resolved unresolved, List.cons_append,
        trailingRun_cons, ← remembers.last, process_count node status, remembers.count]
      split
      · rw [UInt32.ofNat_add]
        rfl
      · rfl
  | resolved =>
    have kept : node.lastWorstCaseCpaM = remembered (sol :: history) := by
      rw [remembered_resolved status, overrides_headD, remembers.last]
    have idle : node.isBcActive = false → node.consecutiveOverrideNoImprove = 0 := by
      intro inactive
      have noEpisode : episode history = [] := by simpa [remembers.active] using inactive
      rw [remembers.count, noEpisode]
      rfl
    cases active : node.isBcActive with
    | false =>
      constructor <;>
        simp [BcMpcNode.process, status, active, episode_resolved, kept, idle, trailingRun]
    | true =>
      constructor <;>
        simp [BcMpcNode.process, status, active, episode_resolved, kept, trailingRun]
  | notInitialized =>
    have unresolved : sol.status ≠ .resolved := by simp [status]
    constructor
    · simp [BcMpcNode.process, status, episode_notInitialized, remembers.active]
    · simp [BcMpcNode.process, status, episode_notInitialized, remembers.last,
        remembered_of_not_resolved unresolved]
    · simp [BcMpcNode.process, status, episode_notInitialized, remembers.count,
        remembered_of_not_resolved unresolved]

theorem remembers_after (config : NodeConfig) (history : List BcMpcSolution) :
    Remembers config (BcMpcNode.after config history) history := by
  induction history with
  | nil => exact ⟨rfl, rfl, rfl⟩
  | cons sol history inductionHypothesis => exact inductionHypothesis.process sol

/-- The remembered separation belongs to an earlier episode, or it is the initial one. The run
reaches back to the first override of this episode, which counts against it. -/
def ReachesBack (config : NodeConfig) (history : List BcMpcSolution) : Prop :=
  trailingRun config.cpaThreshold (episode history) + 1 = (episode history).length ∧
    ∃ first ∈ (episode history).getLast?,
      NoImprovement config.cpaThreshold (remembered history) first

instance (config : NodeConfig) (history : List BcMpcSolution) :
    Decidable (ReachesBack config history) :=
  inferInstanceAs (Decidable (_ ∧ _))

theorem Remembers.count_eq {node : BcMpcNode} {history : List BcMpcSolution}
    (remembers : Remembers config node history) :
    node.consecutiveOverrideNoImprove.toNat =
      (trailingRun config.cpaThreshold (episode history) +
        if ReachesBack config history then 1 else 0) % 2 ^ 32 := by
  rw [remembers.count, trailingRun_append, UInt32.toNat_ofNat']
  rfl

/-- The published count is the trailing run of its episode exactly if the run does not reach
back to a first override that counts, and fits the counter. -/
theorem publishedCount_eq_trailingRun_iff (config : NodeConfig) (sol : BcMpcSolution)
    (history : List BcMpcSolution) :
    ((BcMpcNode.after config (sol :: history)).health sol).overrideNoImproveCount.toNat =
        trailingRun config.cpaThreshold (episode (sol :: history)) ↔
      ¬ ReachesBack config (sol :: history) ∧
        trailingRun config.cpaThreshold (episode (sol :: history)) < 2 ^ 32 := by
  have count := (remembers_after config (sol :: history)).count_eq
  have published :
      ((BcMpcNode.after config (sol :: history)).health sol).overrideNoImproveCount =
        (BcMpcNode.after config (sol :: history)).consecutiveOverrideNoImprove := rfl
  rw [published, count]
  by_cases reaches : ReachesBack config (sol :: history)
  · simp only [reaches, if_true, not_true, false_and, iff_false]
    omega
  · simp only [reaches, if_false, not_false_iff, true_and]
    omega

/-- A ship at the origin that heads north for a target 500 m away that does not move. -/
def blockedAhead : WorldState where
  ownShip := { headingDeg := 0.0, uWater := 5.0, latitude := 0.0, longitude := 0.0 }
  targets :=
    [{ latitude := 0.0044966, longitude := 0.0, sogKn := 0.0, cogDeg := 0.0, cpaM := 500.0 }]

/-- The count of the overrides does not depend on the predicted separation of the input. -/
theorem process_count_congr (config : NodeConfig) (node : BcMpcNode) (predicted : Float)
    (sol : BcMpcSolution) :
    (BcMpcNode.process config { node with lastInputPredictedCpa := predicted }
        sol).consecutiveOverrideNoImprove =
      (node.process config sol).consecutiveOverrideNoImprove := by
  unfold BcMpcNode.process
  cases sol.status with
  | override | notInitialized => rfl
  | resolved =>
    simp only
    split_ifs <;> rfl

/-- The solver returns an override for it, which the node counts as one without improvement. -/
theorem blockedAhead_solved :
    (solve northernLibrary {} {} 0 (assembleInput northernLibrary {} {} blockedAhead)).any
      fun sol => decide (((({} : BcMpcNode).process {} sol).consecutiveOverrideNoImprove = 1) ∧
        sol.status = .override ∧ trailingRun (NodeConfig.cpaThreshold {}) (episode [sol]) = 0) := by
  decide +kernel

/-- The first override of the first episode already counts: the node compares it with the
initial 1e9 m. -/
theorem first_override_counted :
    (({} : BcMpcNode).onWorldState northernLibrary {} 0 blockedAhead).map
        (fun outcome => outcome.2.overrideNoImproveCount) = some 1 ∧
      (solve northernLibrary {} {} 0 (assembleInput northernLibrary {} {} blockedAhead)).map
        (fun sol => (sol.status, trailingRun (NodeConfig.cpaThreshold {}) (episode [sol]))) =
          some (.override, 0) := by
  have solved := blockedAhead_solved
  unfold BcMpcNode.onWorldState
  simp only
  generalize solve northernLibrary {} {} 0 (assembleInput northernLibrary {} {} blockedAhead) =
    result at solved ⊢
  rw [Option.any_eq_true] at solved
  obtain ⟨sol, rfl, facts⟩ := solved
  obtain ⟨count, override, noRun⟩ := of_decide_eq_true facts
  refine ⟨?_, congrArg some (Prod.ext override noRun)⟩
  exact congrArg some ((process_count_congr {} {} _ sol).trans count)

end MassL3.M5.BcMpc
