/-
This file compares the two reports the constraint on the watchdog makes of the critical modules:
their number and the mask with a bit for each. The number counts the modules that lost more beats
than are tolerated, but the mask marks every module that is overdue. So they agree exactly when
no overdue module is still within its tolerance.
-/

import MassTdl.Supervisor.ExtraEvaluations

namespace MassL3.M7

open MassL3.M7.Core

/-! ### Masks -/

/-- The mask with the bits of the marked modules. -/
def maskOf (marked : MonitoredModule → Bool) : UInt32 :=
  MonitoredModule.all.foldl (fun mask module =>
    if marked module then mask ||| moduleBit module else mask) 0

/-- The number of bits that are set. -/
def bitsSet (mask : UInt32) : Nat := mask.toBitVec.cpop.toNat

/-- The bit of the module is set. -/
def hasBit (mask : UInt32) (module : MonitoredModule) : Bool := mask &&& moduleBit module ≠ 0

/-- A set of modules, told module by module. -/
def marks (m1 m2 m3 m4 m5 m6 m8 : Bool) : MonitoredModule → Bool
  | .m1 => m1
  | .m2 => m2
  | .m3 => m3
  | .m4 => m4
  | .m5 => m5
  | .m6 => m6
  | .m8 => m8

theorem marks_eq (marked : MonitoredModule → Bool) :
    marks (marked .m1) (marked .m2) (marked .m3) (marked .m4) (marked .m5) (marked .m6)
      (marked .m8) = marked := by
  funext module
  cases module <;> rfl

theorem maskOf_marks : ∀ m1 m2 m3 m4 m5 m6 m8 : Bool,
    bitsSet (maskOf (marks m1 m2 m3 m4 m5 m6 m8)) =
        MonitoredModule.all.countP (marks m1 m2 m3 m4 m5 m6 m8) ∧
      ∀ module ∈ MonitoredModule.all, hasBit (maskOf (marks m1 m2 m3 m4 m5 m6 m8)) module =
        marks m1 m2 m3 m4 m5 m6 m8 module := by
  decide +kernel

theorem bitsSet_maskOf (marked : MonitoredModule → Bool) :
    bitsSet (maskOf marked) = MonitoredModule.all.countP marked := by
  have told := (maskOf_marks (marked .m1) (marked .m2) (marked .m3) (marked .m4) (marked .m5)
    (marked .m6) (marked .m8)).1
  rwa [marks_eq] at told

theorem hasBit_maskOf (marked : MonitoredModule → Bool) (module : MonitoredModule) :
    hasBit (maskOf marked) module = marked module := by
  have told := (maskOf_marks (marked .m1) (marked .m2) (marked .m3) (marked .m4) (marked .m5)
    (marked .m6) (marked .m8)).2 module (by cases module <;> decide)
  rwa [marks_eq] at told

/-! ### Overdue and critical -/

namespace WatchdogMonitor

variable (monitor : WatchdogMonitor) (now : Int)

/-- The module is overdue, and with the beat it loses now it has lost more than tolerated. -/
theorem criticalAt_eq (module : MonitoredModule) :
    monitor.criticalAt now module = (monitor.overdue now module &&
      decide (monitor.cfg.toleranceCount module < (monitor.watches module).lossCount + 1)) := by
  have initialized : monitor.overdue now module = true →
      (monitor.watches module).initialized = true := fun overdue =>
    (Bool.and_eq_true_iff.mp overdue).1
  unfold criticalAt evaluateModule
  cases heard : (monitor.watches module).initialized with
  | false =>
    have inTime : monitor.overdue now module = false :=
      Bool.eq_false_iff.mpr fun overdue => Bool.false_ne_true (heard ▸ initialized overdue)
    simp [inTime, heard]
  | true =>
    cases overdue : monitor.overdue now module with
    | true => simp [heard]
    | false => simp [heard]

theorem evaluate_criticalCount : (monitor.evaluate now).criticalCount.toNat =
    MonitoredModule.all.countP (monitor.criticalAt now) := by
  have few : MonitoredModule.all.countP (monitor.criticalAt now) ≤ 7 := List.countP_le_length
  show (UInt32.ofNat _).toNat = _
  rw [UInt32.toNat_ofNat']
  exact Nat.mod_eq_of_lt (by omega)

/-- The mask marks the modules that are overdue. -/
theorem criticalModulesBitmask_eq :
    (evaluateWatchdogConstraint monitor now).2.criticalModulesBitmask =
      maskOf (monitor.overdue now) := by
  have marked (mask : UInt32) (module : MonitoredModule) :
      (if !monitor.overdue now module then mask else mask ||| moduleBit module) =
        if monitor.overdue now module then mask ||| moduleBit module else mask := by
    cases monitor.overdue now module <;> rfl
  show MonitoredModule.all.foldl (fun mask module =>
    if !monitor.overdue now module then mask else mask ||| moduleBit module) 0 = _
  simp only [marked]
  rfl

/-- The constraint counts as many critical modules as its mask has bits, one for each of them. -/
structure MaskAgrees : Prop where
  count : bitsSet (evaluateWatchdogConstraint monitor now).2.criticalModulesBitmask =
    (evaluateWatchdogConstraint monitor now).2.criticalCount.toNat
  each : ∀ module, hasBit (evaluateWatchdogConstraint monitor now).2.criticalModulesBitmask module =
    monitor.criticalAt now module

theorem maskAgrees_iff : monitor.MaskAgrees now ↔ ∀ module, monitor.overdue now module = true →
    monitor.cfg.toleranceCount module < (monitor.watches module).lossCount + 1 := by
  constructor
  · intro agrees module overdue
    have critical := agrees.each module
    rw [criticalModulesBitmask_eq, hasBit_maskOf, criticalAt_eq, overdue, Bool.true_and] at critical
    exact of_decide_eq_true critical.symm
  · intro exhausted
    have same : monitor.overdue now = monitor.criticalAt now := by
      funext module
      rw [criticalAt_eq]
      cases overdue : monitor.overdue now module with
      | false => rfl
      | true => rw [Bool.true_and, decide_eq_true (exhausted module overdue)]
    refine ⟨?_, fun module => ?_⟩
    · rw [criticalModulesBitmask_eq, bitsSet_maskOf, same]
      exact (monitor.evaluate_criticalCount now).symm
    · rw [criticalModulesBitmask_eq, hasBit_maskOf, same]

end WatchdogMonitor

/-! ### Runs -/

/-- After any heartbeats and evaluations, the mask and the count of the next evaluation agree
exactly when each module that it finds overdue exhausts its tolerance. -/
theorem mask_agrees_along_run (cfg : WatchdogConfig) (events : List WatchdogEvent) (now : Int) :
    (watchdogAfter cfg events).MaskAgrees now ↔
      ∀ module, (watchdogAfter cfg events).overdue now module = true →
        cfg.toleranceCount module < ((watchdogAfter cfg events).watches module).lossCount + 1 := by
  rw [WatchdogMonitor.maskAgrees_iff, watchdogAfter_cfg]

/-- The second module falls silent for a second after its first message: its bit is set, and it
is not counted. -/
theorem silent_second_module :
    ¬ (watchdogAfter .makeDefault [.message .m2 0]).MaskAgrees (milliseconds 1000) := by
  intro agrees
  exact absurd agrees.count (by decide +kernel)

end MassL3.M7
