/-
This file is about the gate of the main loop. One flag stands for the freeze: the reflex arc sets
and clears it, and so does every signal that the override is inactive, while an override that is
active leaves it alone. What the flag says is read off the signals received, and compared with
what the two requesters asked for.
-/

import MassTdl.Supervisor.Node

namespace MassL3.M7

open Runs

/-! ### What the signals ask for -/

/-- What a reflex notification requires. -/
def Event.freezeRequired? : Event → Option Bool
  | .reflexActivation l3FreezeRequired => some l3FreezeRequired
  | _ => none

/-- What an override signal says. -/
def Event.overrideActive? : Event → Option Bool
  | .overrideSignal active _ => some active
  | _ => none

/-- The override becomes inactive. -/
def Event.isRevert : Event → Bool
  | .overrideSignal false _ => true
  | _ => false

/-- The most recent reflex notification requires a freeze. -/
def freezeRequested (events : List Event) : Bool :=
  (events.reverse.findSome? (·.freezeRequired?)).getD false

/-- The most recent override signal says that the override is active. -/
def overrideInForce (events : List Event) : Bool :=
  (events.reverse.findSome? (·.overrideActive?)).getD false

/-- The override became inactive after the most recent reflex notification. -/
def revertedSinceReflex (events : List Event) : Bool :=
  (events.reverse.takeWhile (·.freezeRequired?.isNone)).any (·.isRevert)

variable (lib : Risk.MathLibrary) (events : List Event)

theorem freezeRequested_append (event : Event) :
    freezeRequested (events ++ [event]) = event.freezeRequired?.getD (freezeRequested events) := by
  unfold freezeRequested
  rw [List.reverse_append, List.reverse_singleton, List.singleton_append, List.findSome?_cons]
  cases event.freezeRequired? <;> rfl

theorem revertedSinceReflex_append (event : Event) :
    revertedSinceReflex (events ++ [event]) =
      (event.freezeRequired?.isNone && (event.isRevert || revertedSinceReflex events)) := by
  unfold revertedSinceReflex
  rw [List.reverse_append, List.reverse_singleton, List.singleton_append, List.takeWhile_cons]
  cases event.freezeRequired?.isNone <;> rfl

/-! ### What the flags say -/

/-- The node after a run of events. -/
def after : SafetySupervisorNode := run (SafetySupervisorNode.next lib) {} events

theorem after_append (event : Event) :
    after lib (events ++ [event]) = (after lib events).next lib event :=
  run_append _ _ _ _

/-- The flag keeps the request of the reflex arc until the override becomes inactive. -/
theorem after_reflexFreezeRequired :
    (after lib events).reflexFreezeRequired =
      (freezeRequested events && !revertedSinceReflex events) := by
  induction events using List.reverseRecOn with
  | nil => rfl
  | append_singleton earlier event inductionHypothesis =>
    rw [after_append, SafetySupervisorNode.next_reflexFreezeRequired, freezeRequested_append,
      revertedSinceReflex_append]
    cases event with
    | reflexActivation l3FreezeRequired => exact (Bool.and_true _).symm
    | overrideSignal active now =>
      cases active with
      | false => exact (Bool.and_false _).symm
      | true => exact inductionHypothesis
    | _ => exact inductionHypothesis

/-! ### The gate -/

/-- A tick after these events evaluates only if neither requester asks for a freeze. -/
def TickRespectsFreeze (now : Int) : Prop :=
  ((after lib events).checkOf lib (.mainLoopTick now)).isSome = true →
    freezeRequested events = false ∧ overrideInForce events = false

/-- A freeze that is requested has not been reverted, or there is no override either. -/
def FreezeStands : Prop :=
  if freezeRequested events then revertedSinceReflex events = false
  else overrideInForce events = false

instance : DecidablePred FreezeStands := fun _ => inferInstanceAs (Decidable (ite _ _ _))

theorem tickRespectsFreeze_iff (now : Int) :
    TickRespectsFreeze lib events now ↔ FreezeStands events := by
  unfold TickRespectsFreeze FreezeStands
  rw [SafetySupervisorNode.checkOf_mainLoopTick_isSome, after_reflexFreezeRequired]
  cases freezeRequested events <;> cases revertedSinceReflex events <;>
    simp only [Bool.false_and, Bool.true_and, Bool.not_false, Bool.not_true, Bool.false_eq_true,
      Bool.true_eq_false, if_true, if_false, true_and, false_and, forall_const, imp_self]

/-- In a run the main loop evaluates only outside a freeze and an override exactly when, at
every tick, a freeze that is requested stands and otherwise no override is in force. -/
theorem evaluates_only_when_free_iff :
    (∀ earlier now later, events = earlier ++ .mainLoopTick now :: later →
        TickRespectsFreeze lib earlier now) ↔
      ∀ earlier now later, events = earlier ++ .mainLoopTick now :: later →
        FreezeStands earlier := by
  constructor
  · intro respected earlier now later split
    exact (tickRespectsFreeze_iff lib earlier now).mp (respected earlier now later split)
  · intro stands earlier now later split
    exact (tickRespectsFreeze_iff lib earlier now).mpr (stands earlier now later split)

/-- The reflex arc requires a freeze, an override comes and goes, and the next tick evaluates
although no notification has lifted the freeze. -/
theorem revert_unfreezes :
    ¬ ∀ (lib : Risk.MathLibrary) (events earlier : List Event) (now : Int) (later : List Event),
        events = earlier ++ .mainLoopTick now :: later → TickRespectsFreeze lib earlier now := by
  intro respected
  have frozen := respected aheadLibrary _
    [.reflexActivation true, .overrideSignal true 1000000000, .overrideSignal false 2000000000]
    2250000000 [] rfl
  rw [tickRespectsFreeze_iff] at frozen
  exact absurd frozen (by decide)

end MassL3.M7
