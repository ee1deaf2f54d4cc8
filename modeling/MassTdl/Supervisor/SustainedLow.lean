/-
This file proves that the two flags for a sustained low confidence are exact. Each is kept as a
time and whether it counts. Along a run that time is when the streak of low readings began that
the readings since the last reset end in. So an evaluation flags exactly when the readings have
been low since one that lies at least the configured duration back.
-/

import MassTdl.Runs
import MassTdl.Streaks
import MassTdl.Supervisor.Assumptions
import Mathlib.Data.List.DropRight

namespace MassL3.M7

open Binary64
open Runs
open Streaks

/-! ### Runs of the monitor -/

inductive AssumptionEvent where
  | evaluation (world : WorldState) (colregs : COLREGsConstraint) (currentCheckerVetoRate : Float)
      (commLink : CommLinkState) (now : Int)
  | nlpConvergence (solverStatus : UInt8) (kktResidual : Float32) (tailGateFailed : Bool)
  | reset

/-- The confidence an evaluation sees, and when. -/
structure Reading where
  confidence : Float32
  now : Int

namespace AssumptionEvent

def reading? : AssumptionEvent → Option Reading
  | .evaluation world _ _ _ now => some { confidence := world.confidence, now }
  | .nlpConvergence _ _ _ | .reset => none

def isReset : AssumptionEvent → Bool
  | .reset => true
  | _ => false

end AssumptionEvent

def assumptionStep (monitor : AssumptionMonitor) : AssumptionEvent → AssumptionMonitor
  | .evaluation world colregs currentCheckerVetoRate commLink now =>
      (monitor.evaluate world colregs currentCheckerVetoRate commLink now).1
  | .nlpConvergence solverStatus kktResidual tailGateFailed =>
      monitor.checkNlpConvergence solverStatus kktResidual tailGateFailed
  | .reset => monitor.reset

def assumptionsAfter (cfg : AssumptionConfig) (events : List AssumptionEvent) : AssumptionMonitor :=
  run assumptionStep { cfg } events

/-- The readings of a run. -/
def readings (events : List AssumptionEvent) : List Reading := events.filterMap (·.reading?)

/-- The readings since the last reset. -/
def readingsSinceReset (events : List AssumptionEvent) : List Reading :=
  readings (events.rtakeWhile fun event => !event.isReset)

variable {events : List AssumptionEvent}

theorem readingsSinceReset_suffix : readingsSinceReset events <:+ readings events := by
  obtain ⟨earlier, whole⟩ := List.rtakeWhile_suffix (fun event => !event.isReset) events
  refine ⟨readings earlier, ?_⟩
  conv_rhs => rw [← whole]
  exact (List.filterMap_append).symm

/-- A reset forgets the readings, and any other event adds what it reads. -/
theorem readingsSinceReset_append (event : AssumptionEvent) :
    readingsSinceReset (events ++ [event]) =
      if event.isReset then [] else readingsSinceReset events ++ event.reading?.toList := by
  unfold readingsSinceReset
  cases reset : event.isReset with
  | true =>
    rw [List.rtakeWhile_concat_neg _ _ _ (by rw [reset]; decide)]
    rfl
  | false =>
    rw [List.rtakeWhile_concat_pos _ _ _ (by rw [reset]; decide)]
    unfold readings
    rw [List.filterMap_append]
    cases event <;> rfl

/-! ### What is kept of a streak -/

namespace LowSince

/-- Since when the value has been low. -/
def timer (low : LowSince) : Option Int := if low.tracking then some low.since else none

theorem timer_observe (low : LowSince) (isLow : Bool) (now : Int) :
    (low.observe isLow now).timer = if isLow then low.timer.or (some now) else none := by
  unfold observe timer
  cases isLow with
  | false => rfl
  | true => cases tracking : low.tracking <;> simp [tracking]

/-- The time that is kept shows the streak at the end of the readings. -/
def Follows (isLow : Reading → Bool) (readings : List Reading) (low : LowSince) : Prop :=
  low.timer = begun isLow Reading.now readings

variable {isLow : Reading → Bool} {readings : List Reading} {low : LowSince}

theorem Follows.observe (follows : low.Follows isLow readings) (reading : Reading) :
    (low.observe (isLow reading) reading.now).Follows isLow (readings ++ [reading]) := by
  unfold Follows
  rw [timer_observe, begun_append, follows]
  rfl

end LowSince

/-- The readings have been low since one that lies the duration back, or longer. -/
def SustainedLow (isLow : Reading → Bool) (durationS now : Int) (readings : List Reading) : Prop :=
  HeldSince isLow (fun first => wholeSeconds durationS ≤ now - first.now) readings

theorem le_elapsedSeconds_iff {durationS since now : Int} (later : since ≤ now) :
    durationS ≤ elapsedSeconds since now ↔ wholeSeconds durationS ≤ now - since := by
  unfold elapsedSeconds wholeSeconds
  split_ifs with still
  · have same : now = since := le_antisymm still later
    subst same
    omega
  · exact Int.le_ediv_iff_mul_le (by decide)

/-- A check that follows the streak flags it exactly when it is long enough. -/
theorem LowSince.Follows.flagged_iff {isLow : Reading → Bool} {readings : List Reading}
    {low : LowSince} (follows : low.Follows isLow readings) (reading : Reading)
    (steady : (readings ++ [reading]).Pairwise fun first second => first.now ≤ second.now)
    (durationS : Int) :
    (isLow reading && decide (elapsedSeconds (low.observe (isLow reading) reading.now).since
        reading.now ≥ durationS)) = true ↔
      SustainedLow isLow durationS reading.now (readings ++ [reading]) := by
  have shown := follows.observe reading
  unfold SustainedLow
  rw [heldSince_iff (fun start => wholeSeconds durationS ≤ reading.now - start) steady
    fun first second sooner enough => by omega, ← shown]
  cases isNow : isLow reading with
  | false =>
    rw [LowSince.timer_observe, if_neg Bool.false_ne_true, Bool.false_and]
    exact ⟨fun flagged => absurd flagged Bool.false_ne_true, fun ⟨start, running, _⟩ =>
      absurd running (Option.some_ne_none start).symm⟩
  | true =>
    rw [isNow] at shown
    have running : (low.observe true reading.now).timer =
        some (low.observe true reading.now).since := by
      unfold LowSince.timer LowSince.observe
      cases tracking : low.tracking <;> simp [tracking]
    have sooner : (low.observe true reading.now).since ≤ reading.now := by
      obtain ⟨first, later, isEnd, -, isStart⟩ := heldSince_of_begun (shown.symm.trans running)
      rw [← isStart]
      rcases List.mem_append.mp (isEnd.subset List.mem_cons_self) with earlier | last
      · exact (List.pairwise_append.mp steady).2.2 first earlier reading List.mem_cons_self
      · rw [List.mem_singleton.mp last]
    rw [Bool.true_and, decide_eq_true_eq, running]
    constructor
    · exact fun long => ⟨_, rfl, (le_elapsedSeconds_iff sooner).mp long⟩
    · rintro ⟨start, isStart, long⟩
      rw [← Option.some.inj isStart] at long
      exact (le_elapsedSeconds_iff sooner).mpr long

/-! ### Along a run -/

/-- The confidence is below the threshold for fused tracks. -/
def fusionLow (cfg : AssumptionConfig) (reading : Reading) : Bool :=
  widen reading.confidence < cfg.fusionConfidenceLow

/-- The confidence is too low for motions to be predictable. -/
def motionPoor (reading : Reading) : Bool :=
  reading.confidence < AssumptionMonitor.kMotionProxyThreshold

/-- Both times show the streak at the end of the readings since the last reset. -/
structure TracksStreaks (cfg : AssumptionConfig) (seen : List Reading)
    (monitor : AssumptionMonitor) : Prop where
  sameCfg : monitor.cfg = cfg
  aisRadar : monitor.aisRadarLow.Follows (fusionLow cfg) seen
  motion : monitor.motionLow.Follows motionPoor seen

/-- Besides the two streaks, an evaluation only counts failures of the solver. -/
theorem AssumptionMonitor.evaluate_eq (monitor : AssumptionMonitor) (world : WorldState)
    (colregs : COLREGsConstraint) (currentCheckerVetoRate : Float) (commLink : CommLinkState)
    (now : Int) :
    ∃ colregsFailureCount,
      (monitor.evaluate world colregs currentCheckerVetoRate commLink now).1 =
        { monitor with
          aisRadarLow := monitor.aisRadarLow.observe
            (widen world.confidence < monitor.cfg.fusionConfidenceLow) now
          motionLow := monitor.motionLow.observe (world.confidence < kMotionProxyThreshold) now
          colregsFailureCount } := by
  unfold evaluate checkColregsSolvability
  dsimp only [checkAisRadar, checkMotionPredictability]
  split_ifs <;> exact ⟨_, rfl⟩

theorem AssumptionMonitor.checkNlpConvergence_eq (monitor : AssumptionMonitor)
    (solverStatus : UInt8) (kktResidual : Float32) (tailGateFailed : Bool) :
    ∃ nlpFailureCount nlpViolationActive,
      monitor.checkNlpConvergence solverStatus kktResidual tailGateFailed =
        { monitor with nlpLastMetric := kktResidual, nlpFailureCount, nlpViolationActive } := by
  unfold checkNlpConvergence
  dsimp only
  split_ifs <;> exact ⟨_, _, rfl⟩

theorem TracksStreaks.evaluation {cfg : AssumptionConfig} {monitor : AssumptionMonitor}
    {seen : List Reading} (tracks : TracksStreaks cfg seen monitor) (world : WorldState)
    (colregs : COLREGsConstraint) (currentCheckerVetoRate : Float) (commLink : CommLinkState)
    (now : Int) :
    TracksStreaks cfg (seen ++ [{ confidence := world.confidence, now }])
      (monitor.evaluate world colregs currentCheckerVetoRate commLink now).1 := by
  obtain ⟨_, same⟩ := monitor.evaluate_eq world colregs currentCheckerVetoRate commLink now
  rw [same]
  refine ⟨tracks.sameCfg, ?_, tracks.motion.observe _⟩
  rw [tracks.sameCfg]
  exact tracks.aisRadar.observe _

theorem tracksStreaks_assumptionsAfter (cfg : AssumptionConfig) (events : List AssumptionEvent) :
    TracksStreaks cfg (readingsSinceReset events) (assumptionsAfter cfg events) := by
  induction events using List.reverseRecOn with
  | nil => exact ⟨rfl, rfl, rfl⟩
  | append_singleton earlier event inductionHypothesis =>
    rw [readingsSinceReset_append]
    have step : assumptionsAfter cfg (earlier ++ [event]) =
        assumptionStep (assumptionsAfter cfg earlier) event := run_append _ _ _ _
    rw [step]
    cases event with
    | evaluation world colregs currentCheckerVetoRate commLink now =>
      exact inductionHypothesis.evaluation world colregs currentCheckerVetoRate commLink now
    | nlpConvergence solverStatus kktResidual tailGateFailed =>
      obtain ⟨_, _, same⟩ := (assumptionsAfter cfg earlier).checkNlpConvergence_eq solverStatus
        kktResidual tailGateFailed
      show TracksStreaks cfg (readingsSinceReset earlier ++ []) _
      rw [List.append_nil]
      refine (congrArg (TracksStreaks cfg _) same).mpr ?_
      exact ⟨inductionHypothesis.sameCfg, inductionHypothesis.aisRadar, inductionHypothesis.motion⟩
    | reset => exact ⟨inductionHypothesis.sameCfg, rfl, rfl⟩

/-- In a run whose evaluations are not dated back, an evaluation flags either confidence exactly
when the readings since the last reset end in low ones that go back for the duration. -/
theorem sustained_low_flags (cfg : AssumptionConfig) (events : List AssumptionEvent)
    (world : WorldState) (colregs : COLREGsConstraint) (currentCheckerVetoRate : Float)
    (commLink : CommLinkState) (now : Int)
    (steady : (readings (events ++
      [.evaluation world colregs currentCheckerVetoRate commLink now])).Pairwise
        fun first second => first.now ≤ second.now) :
    let status := ((assumptionsAfter cfg events).evaluate world colregs currentCheckerVetoRate
      commLink now).2
    let seen := readingsSinceReset (events ++
      [.evaluation world colregs currentCheckerVetoRate commLink now])
    (status.violationActive .aisRadarConsistency = true ↔
        SustainedLow (fusionLow cfg) cfg.aisRadarDurationThresholdS now seen) ∧
      (status.violationActive .motionPredictability = true ↔
        SustainedLow motionPoor cfg.motionWindowS now seen) := by
  intro status seen
  have tracks := tracksStreaks_assumptionsAfter cfg events
  have isSeen : seen = readingsSinceReset events ++ [{ confidence := world.confidence, now }] :=
    readingsSinceReset_append _
  have steadySeen := steady.sublist readingsSinceReset_suffix.sublist
  change seen.Pairwise _ at steadySeen
  rw [isSeen] at steadySeen ⊢
  have aisRadar : status.violationActive .aisRadarConsistency =
      ((assumptionsAfter cfg events).checkAisRadar world now).2 := rfl
  have motion : status.violationActive .motionPredictability =
      ((assumptionsAfter cfg events).checkMotionPredictability world now).2 := rfl
  rw [aisRadar, motion]
  unfold AssumptionMonitor.checkAisRadar AssumptionMonitor.checkMotionPredictability
  rw [tracks.sameCfg]
  exact ⟨tracks.aisRadar.flagged_iff _ steadySeen _, tracks.motion.flagged_iff _ steadySeen _⟩

/-- A confidence of nothing at all, twice after a reset, with the half minute between them. -/
theorem sustained_low_flags_at_half_minute :
    let status := ((assumptionsAfter {} [.reset, .evaluation {} {} 0.0 {} 0]).evaluate {} {} 0.0 {}
      (wholeSeconds 30)).2
    status.violationActive .aisRadarConsistency = true ↔
      SustainedLow (fusionLow {}) 30 (wholeSeconds 30)
        [{ confidence := 0.0, now := 0 }, { confidence := 0.0, now := wholeSeconds 30 }] :=
  (sustained_low_flags {} [.reset, .evaluation {} {} 0.0 {} 0] {} {} 0.0 {} (wholeSeconds 30)
    (by simp [readings, AssumptionEvent.reading?, wholeSeconds])).1

end MassL3.M7
