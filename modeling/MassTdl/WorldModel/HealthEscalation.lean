/-
This file proves when misses of the dynamic view only make it worse. The misses and the timer of
DEGRADED both lead to CRITICAL, but the misses alone decide whether the view is DEGRADED. So a
view that the timer made critical is degraded again by the next miss, as long as the misses have
not reached their own limit.
-/

import MassTdl.Runs
import MassTdl.WorldModel.ViewHealthMonitor

namespace MassL3.M2

open MassL3.M6.Colregs (seconds)
open Runs

/-! ### One miss -/

/-- The view is no better than before, and no more confident. -/
structure Worsens (before after : ViewState) : Prop where
  health : before.health.toNat ≤ after.health.toNat
  confidence : after.confidence ≤ before.confidence

namespace ViewState

variable (config : ViewHealthConfig) (view : ViewState) (now : Int)

/-- When the timer of DEGRADED runs from, once a miss has led there. -/
def degradedFrom : Int := if view.health ≠ .degraded then now else view.degradedSince

/-- One more miss is enough for DEGRADED and not for CRITICAL, and the timer has not run out. -/
def DegradedNext : Prop :=
  config.dvLossPeriodsToDegraded ≤ view.consecutiveMisses + 1 ∧
    view.consecutiveMisses + 1 < config.dvLossPeriodsToCritical ∧
    ¬ seconds (now - view.degradedFrom now) ≥ config.dvDegradedToCriticalTimeoutS

/-- What holds of the view after any reports. -/
structure Placed : Prop where
  full : view.health = .full → view.confidence = 1.0
  degraded : view.health = .degraded →
    view.confidence = config.confidenceFloorDvDegraded ∧
      config.dvLossPeriodsToDegraded ≤ view.consecutiveMisses
  critical : view.health = .critical → view.confidence = 0.0
  notLost : view.health ≠ .lost

/-- A miss does not bring a critical view back to DEGRADED, and the floor of the confidence fits
between those of the healths it leads to. -/
structure Orderly : Prop where
  full : view.health = .full → view.DegradedNext config now →
    config.confidenceFloorDvDegraded ≤ 1.0
  staysDegraded : view.health = .degraded → view.DegradedNext config now →
    config.confidenceFloorDvDegraded.isNaN = false
  leavesDegraded : view.health = .degraded → ¬ view.DegradedNext config now →
    0.0 ≤ config.confidenceFloorDvDegraded
  critical : view.health = .critical → ¬ view.DegradedNext config now

variable {config view}

/-- Where a miss leads. -/
theorem reportDvUpdate_miss_cases (placed : view.Placed config) :
    (view.DegradedNext config now ∧
        view.reportDvUpdate config false now =
          { health := .degraded
            consecutiveMisses := view.consecutiveMisses + 1
            degradedSince := view.degradedFrom now
            confidence := config.confidenceFloorDvDegraded }) ∨
      (¬ view.DegradedNext config now ∧
        (view.reportDvUpdate config false now).health = .critical ∧
        (view.reportDvUpdate config false now).confidence = 0.0) ∨
      (¬ view.DegradedNext config now ∧ view.health ≠ .degraded ∧
        view.reportDvUpdate config false now =
          { view with consecutiveMisses := view.consecutiveMisses + 1 }) := by
  unfold reportDvUpdate missThresholds DegradedNext
  rw [if_neg Bool.false_ne_true]
  by_cases critical : view.consecutiveMisses + 1 ≥ config.dvLossPeriodsToCritical
  · refine .inr (.inl ⟨fun next => absurd next.2.1 (Int.not_lt.mpr critical), ?_⟩)
    rw [if_pos critical]
    exact ⟨rfl, rfl⟩
  rw [if_neg critical]
  by_cases degraded : view.consecutiveMisses + 1 ≥ config.dvLossPeriodsToDegraded
  · rw [if_pos degraded]
    unfold degradedTimer
    by_cases expired : seconds (now - view.degradedFrom now) ≥ config.dvDegradedToCriticalTimeoutS
    · refine .inr (.inl ⟨fun next => next.2.2 expired, ?_⟩)
      rw [if_pos ⟨rfl, expired⟩]
      exact ⟨rfl, rfl⟩
    · refine .inl ⟨⟨degraded, Int.not_le.mp critical, expired⟩, ?_⟩
      rw [if_neg fun both => expired both.2]
      rfl
  · have undegraded : view.health ≠ .degraded := fun was =>
      degraded (le_trans (placed.degraded was).2 (by omega))
    refine .inr (.inr ⟨fun next => degraded next.1, undegraded, ?_⟩)
    rw [if_neg degraded]
    unfold degradedTimer
    rw [if_neg fun both => undegraded both.1]

variable {now}

theorem Placed.initial : ({} : ViewState).Placed config where
  full := fun _ => rfl
  degraded := fun was => absurd was (by decide)
  critical := fun was => absurd was (by decide)
  notLost := by decide

theorem Placed.reportDvUpdate (placed : view.Placed config) (receivedUpdate : Bool) :
    (view.reportDvUpdate config receivedUpdate now).Placed config := by
  cases receivedUpdate with
  | true =>
    exact ⟨fun _ => rfl, fun was => ViewHealth.noConfusion was,
      fun was => ViewHealth.noConfusion was, fun was => ViewHealth.noConfusion was⟩
  | false =>
    rcases reportDvUpdate_miss_cases now placed with
      ⟨next, same⟩ | ⟨-, health, confidence⟩ | ⟨-, undegraded, same⟩
    · rw [same]
      exact ⟨fun was => ViewHealth.noConfusion was, fun _ => ⟨rfl, next.1⟩,
        fun was => ViewHealth.noConfusion was, fun was => ViewHealth.noConfusion was⟩
    · refine ⟨fun was => ?_, fun was => ?_, fun _ => confidence, fun was => ?_⟩ <;>
        exact absurd (health.symm.trans was) (by decide)
    · rw [same]
      exact ⟨placed.full, fun was => absurd was undegraded, placed.critical, placed.notLost⟩

/-- The floor is compared with the confidence of the health the view had. -/
theorem floor_le_confidence (placed : view.Placed config) (orderly : view.Orderly config now)
    (next : view.DegradedNext config now) :
    view.health.toNat ≤ ViewHealth.degraded.toNat ∧
      config.confidenceFloorDvDegraded ≤ view.confidence := by
  cases was : view.health with
  | full =>
    rw [placed.full was]
    exact ⟨by decide, orderly.full was next⟩
  | degraded =>
    rw [(placed.degraded was).1]
    exact ⟨le_rfl, Binary64.le_self_of_number (orderly.staysDegraded was next)⟩
  | critical => exact absurd next (orderly.critical was)
  | lost => exact absurd was placed.notLost

theorem confidence_nonneg (placed : view.Placed config) (orderly : view.Orderly config now)
    (done : ¬ view.DegradedNext config now) :
    view.health.toNat ≤ ViewHealth.critical.toNat ∧ 0.0 ≤ view.confidence := by
  cases was : view.health with
  | full =>
    rw [placed.full was]
    decide
  | degraded =>
    rw [(placed.degraded was).1]
    exact ⟨by decide, orderly.leavesDegraded was done⟩
  | critical =>
    rw [placed.critical was]
    decide
  | lost => exact absurd was placed.notLost

/-- A miss worsens the view exactly when it is orderly. -/
theorem worsens_iff_orderly (placed : view.Placed config) :
    Worsens view (view.reportDvUpdate config false now) ↔ view.Orderly config now := by
  rcases reportDvUpdate_miss_cases now placed with
    ⟨next, same⟩ | ⟨done, health, confidence⟩ | ⟨done, undegraded, same⟩
  · rw [same]
    constructor
    · intro worsens
      refine ⟨fun was _ => ?_, fun was _ => ?_, fun _ done => absurd next done, fun was => ?_⟩
      · exact placed.full was ▸ worsens.confidence
      · exact ((Binary64.le_iff _ _).mp worsens.confidence).1
      · have worse : view.health.toNat ≤ ViewHealth.degraded.toNat := worsens.health
        exact absurd (was ▸ worse) (by decide)
    · intro orderly
      obtain ⟨health, confidence⟩ := floor_le_confidence placed orderly next
      exact ⟨health, confidence⟩
  · constructor
    · intro worsens
      refine ⟨fun _ next => absurd next done, fun _ next => absurd next done, fun was _ => ?_,
        fun _ => done⟩
      rw [← (placed.degraded was).1, ← confidence]
      exact worsens.confidence
    · intro orderly
      obtain ⟨worse, nonneg⟩ := confidence_nonneg placed orderly done
      exact ⟨health ▸ worse, confidence ▸ nonneg⟩
  · rw [same]
    refine iff_of_true ⟨le_rfl, ?_⟩ ⟨fun _ next => absurd next done, fun _ next =>
      absurd next done, fun was _ => absurd was undegraded, fun _ => done⟩
    cases was : view.health with
    | full =>
      rw [placed.full was]
      decide
    | degraded => exact absurd was undegraded
    | critical =>
      rw [placed.critical was]
      decide
    | lost => exact absurd was placed.notLost

end ViewState

/-! ### Runs of misses -/

inductive HealthReport where
  | dvUpdate (receivedUpdate : Bool) (now : Int)
  | evAge (ageS : Float)
  | svAge (ageS : Float)
  | reset

variable (config : ViewHealthConfig)

def healthStep (monitor : ViewHealthMonitor) : HealthReport → ViewHealthMonitor
  | .dvUpdate receivedUpdate now => monitor.reportDvUpdate config receivedUpdate now
  | .evAge ageS => monitor.reportEvAge config ageS
  | .svAge ageS => monitor.reportSvAge config ageS
  | .reset => .reset

def healthAfter (reports : List HealthReport) : ViewHealthMonitor :=
  run (healthStep config) {} reports

theorem placed_healthAfter (reports : List HealthReport) :
    (healthAfter config reports).dv.Placed config := by
  refine run_invariant (fun monitor : ViewHealthMonitor => monitor.dv.Placed config) .initial ?_
  intro monitor report placed
  cases report with
  | dvUpdate receivedUpdate now => exact placed.reportDvUpdate receivedUpdate
  | evAge | svAge => exact placed
  | reset => exact .initial

/-- The dynamic view after some reports, and then misses at the given times. -/
def dvAfterMisses (earlier : List HealthReport) (misses : List Int) : ViewState :=
  (healthAfter config (earlier ++ misses.map (.dvUpdate false))).dv

theorem dvAfterMisses_append (earlier : List HealthReport) (misses : List Int) (now : Int) :
    dvAfterMisses config earlier (misses ++ [now]) =
      (dvAfterMisses config earlier misses).reportDvUpdate config false now := by
  unfold dvAfterMisses healthAfter
  rw [List.map_append, ← List.append_assoc, run_append]
  rfl

/-- Whatever was reported before, consecutive misses only worsen the dynamic view exactly when
each of them is orderly. -/
theorem dv_worsens_iff_orderly (earlier : List HealthReport) (misses : List Int) :
    (∀ count, count < misses.length →
      Worsens (dvAfterMisses config earlier (misses.take count))
        (dvAfterMisses config earlier (misses.take (count + 1)))) ↔
      ∀ count now, misses[count]? = some now →
        (dvAfterMisses config earlier (misses.take count)).Orderly config now := by
  have placed (seen : List Int) : (dvAfterMisses config earlier seen).Placed config :=
    placed_healthAfter config _
  have next {count : Nat} {now : Int} (present : misses[count]? = some now) :
      dvAfterMisses config earlier (misses.take (count + 1)) =
        (dvAfterMisses config earlier (misses.take count)).reportDvUpdate config false now := by
    rw [List.take_add_one, present, Option.toList_some, dvAfterMisses_append]
  constructor
  · intro worsens count now present
    have inside : count < misses.length := (List.getElem?_eq_some_iff.mp present).1
    exact (ViewState.worsens_iff_orderly (placed _)).mp (next present ▸ worsens count inside)
  · intro orderly count inside
    have present : misses[count]? = some misses[count] := List.getElem?_eq_getElem inside
    rw [next present]
    exact (ViewState.worsens_iff_orderly (placed _)).mpr (orderly count _ present)

/-- Two misses, half a minute in which the timer runs out, and one miss more. -/
theorem timer_undone_by_miss :
    ¬ Worsens (dvAfterMisses {} [] [0, 0, 30 * 1000000000])
      (dvAfterMisses {} [] [0, 0, 30 * 1000000000, 30 * 1000000000]) := by
  intro worsens
  exact absurd worsens.health (by decide +kernel)

end MassL3.M2
