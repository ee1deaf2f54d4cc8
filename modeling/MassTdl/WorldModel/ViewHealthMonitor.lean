/-
This file translates the monitor of the three views: the dynamic view of the targets, the ego
view of own ship and the static view of the environment. Each report moves one view. Below the
monitor stands what a report makes of the dynamic view.
-/

import MassTdl.WorldModel.Types

namespace MassL3.M2

open Clamps
open MassL3.M6.Colregs (seconds)

structure ViewHealthConfig where
  dvLossPeriodsToDegraded : Int := 2
  dvLossPeriodsToCritical : Int := 5
  dvDegradedToCriticalTimeoutS : Float := 30.0
  evLossMsToCritical : Float := 100.0
  svLossSToDegraded : Float := 30.0
  confidenceFloorDvDegraded : Float := 0.5

structure ViewState where
  health : ViewHealth := .full
  consecutiveMisses : Int := 0
  degradedSince : Int := 0
  confidence : Float := 1.0

structure ViewHealthMonitor where
  dv : ViewState := {}
  ev : ViewState := {}
  sv : ViewState := {}

structure AggregatedHealth where
  dvConfidence : Float
  evConfidence : Float
  svConfidence : Float
  aggregated : Float
  dvHealth : ViewHealth
  evHealth : ViewHealth
  svHealth : ViewHealth

/-! ### The dynamic view -/

namespace ViewState

variable (config : ViewHealthConfig) (view : ViewState)

/-- The thresholds on the misses. Entering DEGRADED starts its timer. -/
def missThresholds (now : Int) : ViewState :=
  if view.consecutiveMisses ≥ config.dvLossPeriodsToCritical then
    { view with
      health := .critical
      confidence := 0.0 }
  else if view.consecutiveMisses ≥ config.dvLossPeriodsToDegraded then
    { view with
      degradedSince := if view.health ≠ .degraded then now else view.degradedSince
      health := .degraded
      confidence := config.confidenceFloorDvDegraded }
  else view

/-- The timer of DEGRADED. -/
def degradedTimer (now : Int) : ViewState :=
  if view.health = .degraded ∧
      seconds (now - view.degradedSince) ≥ config.dvDegradedToCriticalTimeoutS then
    { view with
      health := .critical
      confidence := 0.0 }
  else view

/-- `report_dv_update`, on the dynamic view. -/
def reportDvUpdate (receivedUpdate : Bool) (now : Int) : ViewState :=
  if receivedUpdate then
    { view with
      consecutiveMisses := 0
      health := .full
      confidence := 1.0 }
  else
    ({ view with consecutiveMisses := view.consecutiveMisses + 1 }.missThresholds config
      now).degradedTimer config now

/-- One more miss reaches no threshold. -/
def missTolerated : Bool :=
  view.consecutiveMisses + 1 < config.dvLossPeriodsToCritical &&
    view.consecutiveMisses + 1 < config.dvLossPeriodsToDegraded

/-- A healthy view, with full confidence. -/
structure Full : Prop where
  health : view.health = .full
  confidence : view.confidence = 1.0

end ViewState

/-! ### The reports -/

namespace ViewHealthMonitor

variable (config : ViewHealthConfig) (monitor : ViewHealthMonitor)

def reportDvUpdate (receivedUpdate : Bool) (now : Int) : ViewHealthMonitor :=
  { monitor with dv := monitor.dv.reportDvUpdate config receivedUpdate now }

/-- An age of own ship beyond the limit. -/
def evLost (ageS : Float) : Bool := ageS * 1000.0 > config.evLossMsToCritical

def reportEvAge (ageS : Float) : ViewHealthMonitor :=
  { monitor with
    ev :=
      if evLost config ageS then
        { monitor.ev with
          health := .critical
          confidence := 0.0 }
      else
        { monitor.ev with
          health := .full
          confidence := 1.0 } }

def reportSvAge (ageS : Float) : ViewHealthMonitor :=
  { monitor with
    sv :=
      if ageS > config.svLossSToDegraded then
        { monitor.sv with
          health := .degraded
          confidence := 0.5 }
      else
        { monitor.sv with
          health := .full
          confidence := 1.0 } }

def reset : ViewHealthMonitor := {}

/-- The least of the three, by `std::min` of a list. -/
def leastConfidence : Float :=
  stdMin (stdMin monitor.dv.confidence monitor.ev.confidence) monitor.sv.confidence

def aggregatedHealth : AggregatedHealth where
  dvConfidence := monitor.dv.confidence
  evConfidence := monitor.ev.confidence
  svConfidence := monitor.sv.confidence
  aggregated := stdClamp monitor.leastConfidence 0.0 1.0
  dvHealth := monitor.dv.health
  evHealth := monitor.ev.health
  svHealth := monitor.sv.health

end ViewHealthMonitor

/-! ### What a report makes of the dynamic view -/

namespace ViewState

variable {config : ViewHealthConfig} {view : ViewState} {now : Int}

/-- A target heals the view. -/
theorem full_of_received : (view.reportDvUpdate config true now).Full where
  health := rfl
  confidence := rfl

/-- A tolerated miss leaves the view as it is, but for the count. -/
theorem reportDvUpdate_of_tolerated (full : view.Full)
    (tolerated : view.missTolerated config = true) :
    view.reportDvUpdate config false now =
      { view with consecutiveMisses := view.consecutiveMisses + 1 } := by
  obtain ⟨critical, degraded⟩ := Bool.and_eq_true_iff.mp tolerated
  have critical := of_decide_eq_true critical
  have degraded := of_decide_eq_true degraded
  unfold reportDvUpdate missThresholds
  simp only [Bool.false_eq_true, if_false]
  rw [if_neg (Int.not_le.mpr critical), if_neg (Int.not_le.mpr degraded)]
  unfold degradedTimer
  simp only [full.health, reduceCtorEq, false_and, if_false]

/-- The timer heals nothing. -/
theorem degradedTimer_not_full (unhealthy : view.health ≠ .full) :
    (view.degradedTimer config now).health ≠ .full := by
  unfold degradedTimer
  split_ifs
  · exact nofun
  · exact unhealthy

theorem missThresholds_not_full
    (reached : config.dvLossPeriodsToCritical ≤ view.consecutiveMisses ∨
      config.dvLossPeriodsToDegraded ≤ view.consecutiveMisses) :
    (view.missThresholds config now).health ≠ .full := by
  unfold missThresholds
  by_cases critical : config.dvLossPeriodsToCritical ≤ view.consecutiveMisses
  · rw [if_pos critical]
    exact nofun
  · rw [if_neg critical, if_pos (reached.resolve_left critical)]
    exact nofun

/-- A miss that reaches a threshold ends the health of the view. -/
theorem not_full_of_threshold (reached : view.missTolerated config = false) :
    (view.reportDvUpdate config false now).health ≠ .full := by
  refine degradedTimer_not_full (missThresholds_not_full ?_)
  rcases Bool.and_eq_false_iff.mp reached with critical | degraded
  · exact Or.inl (Int.not_lt.mp (of_decide_eq_false critical))
  · exact Or.inr (Int.not_lt.mp (of_decide_eq_false degraded))

/-- A report leaves the view healthy exactly if there is a target or the miss is tolerated. -/
theorem full_reportDvUpdate_iff (full : view.Full) (receivedUpdate : Bool) :
    (view.reportDvUpdate config receivedUpdate now).Full ↔
      receivedUpdate = true ∨ view.missTolerated config = true := by
  cases receivedUpdate with
  | true => exact iff_of_true full_of_received (Or.inl rfl)
  | false =>
    cases tolerated : view.missTolerated config with
    | true =>
      rw [reportDvUpdate_of_tolerated full tolerated]
      exact iff_of_true ⟨full.health, full.confidence⟩ (Or.inr rfl)
    | false =>
      refine iff_of_false (fun healed => ?_) (by simp)
      exact not_full_of_threshold tolerated healed.health

end ViewState

end MassL3.M2
