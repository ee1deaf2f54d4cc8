/-
This file embeds the two ledgers of checker vetoes. The veto handler keeps a histogram of reason
classes and a window of a hundred cycles that is told from outside whether a veto came; the veto
counter listens to its own layer only, remembers by itself whether a veto came since the last
cycle, and counts the reasons it knows. The windows are circular: one advances a cursor modulo
its capacity, the other fills up first and then returns to the front.
-/

import MassTdl.Supervisor.Types

namespace MassL3.M7

/-- The capacity of both windows. -/
def kCapacity : Nat := 100

theorem kCapacity_pos : 0 < kCapacity := by decide

/-! ### The window of the veto handler -/

namespace Checker

structure SlidingWindow15s where
  buffer : Vector Bool kCapacity := .replicate kCapacity false
  cursor : Fin kCapacity := ⟨0, kCapacity_pos⟩
  eventCount : UInt32 := 0
  filled : Bool := false

namespace SlidingWindow15s

variable (window : SlidingWindow15s)

def tick (event : Bool) : SlidingWindow15s :=
  let evicted := window.buffer[window.cursor]
  let eventCount := if evicted then window.eventCount - 1 else window.eventCount
  let next : Fin kCapacity := ⟨(window.cursor + 1) % kCapacity, Nat.mod_lt _ (by decide)⟩
  { buffer := window.buffer.set window.cursor event
    cursor := next
    eventCount := if event then eventCount + 1 else eventCount
    filled := window.filled || next.val = 0 }

def rate : Float :=
  if window.eventCount = 0 then 0.0
  else Float.ofNat window.eventCount.toNat / Float.ofNat kCapacity

end SlidingWindow15s

end Checker

/-! ### Reasons -/

inductive VetoReasonClass where
  | colregsViolation
  | cpaBelowThreshold
  | encConstraint
  | actuatorLimit
  | timeout
  | other
  deriving DecidableEq, Repr

/-- The class a message names, if it is in range. -/
def VetoReasonClass.ofMessage (msg : CheckerVetoNotification) : Option VetoReasonClass :=
  match msg.vetoReasonClass.toNat with
  | 0 => some .colregsViolation
  | 1 => some .cpaBelowThreshold
  | 2 => some .encConstraint
  | 3 => some .actuatorLimit
  | 4 => some .timeout
  | 5 => some .other
  | _ => none

/-- A histogram of reason classes. -/
abbrev VetoHistogram := VetoReasonClass → UInt32

namespace VetoHistogram

def empty : VetoHistogram := fun _ => 0

/-- One more veto of a class. -/
def count (histogram : VetoHistogram) (reason : VetoReasonClass) : VetoHistogram :=
  fun counted => if counted = reason then histogram counted + 1 else histogram counted

/-- All vetoes of a histogram. -/
def total (histogram : VetoHistogram) : UInt32 :=
  histogram .colregsViolation + histogram .cpaBelowThreshold + histogram .encConstraint +
    histogram .actuatorLimit + histogram .timeout + histogram .other

theorem total_count (histogram : VetoHistogram) (reason : VetoReasonClass) :
    (histogram.count reason).total = histogram.total + 1 := by
  unfold total count
  cases reason <;> simp only [reduceCtorEq, if_true, if_false] <;> grind

end VetoHistogram

/-! ### The veto handler -/

structure VetoHandler where
  window : Checker.SlidingWindow15s := {}
  histogram : VetoHistogram := .empty

namespace VetoHandler

variable (handler : VetoHandler)

/-- A class out of range counts as the other one. -/
def onVetoReceived (msg : CheckerVetoNotification) : VetoHandler :=
  { handler with
    histogram := handler.histogram.count ((VetoReasonClass.ofMessage msg).getD .other) }

def onCycleTick (vetoInThisCycle : Bool) : VetoHandler :=
  { handler with window := handler.window.tick vetoInThisCycle }

def currentRate : Float := handler.window.rate

end VetoHandler

/-! ### The window of the veto counter -/

theorem appending_empty : 0 < kCapacity → (0 : Nat) = 0 := fun _ => rfl

/-- While there is room, samples are appended; later the head returns to the front when it has
reached the end. -/
structure SlidingWindow15s where
  buffer : Vector Bool kCapacity := .replicate kCapacity false
  head : Nat := 0
  size : Nat := 0
  runningTotal : UInt16 := 0
  inBounds : head ≤ kCapacity := by exact Nat.zero_le kCapacity
  appending : size < kCapacity → head = size := by exact appending_empty

namespace SlidingWindow15s

variable (window : SlidingWindow15s)

/-- Where a full window writes next. -/
def wrappedHead : Nat := if window.head = kCapacity then 0 else window.head

theorem wrappedHead_lt : window.wrappedHead < kCapacity := by
  unfold wrappedHead
  split_ifs with atEnd
  · decide
  · exact lt_of_le_of_ne window.inBounds atEnd

def push (event : Bool) : SlidingWindow15s :=
  if room : window.size < kCapacity then
    have here : window.head < kCapacity := window.appending room ▸ room
    { buffer := window.buffer.set window.head event
      head := window.head + 1
      size := window.size + 1
      runningTotal := if event then window.runningTotal + 1 else window.runningTotal
      inBounds := here
      appending := fun _ => by rw [window.appending room] }
  else
    have here := window.wrappedHead_lt
    let oldest := window.buffer[window.wrappedHead]
    let runningTotal := if oldest then window.runningTotal - 1 else window.runningTotal
    { buffer := window.buffer.set window.wrappedHead event
      head := window.wrappedHead + 1
      size := window.size
      runningTotal := if event then runningTotal + 1 else runningTotal
      inBounds := here
      appending := fun later => absurd later room }

def rate : Float32 :=
  if window.size = 0 then 0.0
  else Float32.ofNat window.runningTotal.toNat / Float32.ofNat window.size

end SlidingWindow15s

/-! ### The veto counter -/

structure CheckerVetoCounter where
  window : SlidingWindow15s := {}
  reasonCounts : VetoHistogram := .empty
  vetoOccurredThisCycle : Bool := false

namespace CheckerVetoCounter

variable (counter : CheckerVetoCounter)

/-- A veto of another layer is ignored, and a class out of range is not counted. -/
def onVeto (msg : CheckerVetoNotification) : CheckerVetoCounter :=
  if msg.checkerLayer ≠ "L3" then counter
  else
    { counter with
      vetoOccurredThisCycle := true
      reasonCounts :=
        match VetoReasonClass.ofMessage msg with
        | some reason => counter.reasonCounts.count reason
        | none => counter.reasonCounts }

def onCycleTick : CheckerVetoCounter :=
  { counter with
    window := counter.window.push counter.vetoOccurredThisCycle
    vetoOccurredThisCycle := false }

def currentRate : Float32 := counter.window.rate

def windowViolationCount : UInt16 := counter.window.runningTotal

end CheckerVetoCounter

end MassL3.M7
