/-
This file asks over whole runs whether the world model notices that it has lost own ship, and
whether it takes an empty sea for a loss. The ego view is told an age only when a state of own ship
arrives, and that age is zero; so it never sees one grow old. The dynamic view is told at every
composition whether there are targets, not whether an array has arrived; so an empty sea counts
as a miss.
-/

import MassTdl.WorldModel.SafePass

namespace MassL3.M2

open MassL3.M6.Colregs (seconds)

/-! ### Runs -/

/-- The clock of a callback. -/
def Event.now : Event → Int
  | .ownShipState _ now => now
  | .trackedTargets _ now => now
  | .environmentState _ now => now
  | .oddState _ now => now
  | .scenarioLoaded now => now
  | .aggregationTick now => now

def Event.isOwnShip : Event → Bool
  | .ownShipState .. => true
  | .trackedTargets .. => false
  | .environmentState .. => false
  | .oddState .. => false
  | .scenarioLoaded _ => false
  | .aggregationTick _ => false

/-- The clock does not go back. -/
def Ordered (events : List Event) : Prop :=
  (events.map Event.now).IsChain fun earlier later => earlier ≤ later

/-- An array of targets, which may be empty, arrives before every composition and after the one
before it, given whether one has arrived already. -/
def arraysEveryPeriod (arrived : Bool) : List Event → Bool
  | [] => true
  | .trackedTargets .. :: later => arraysEveryPeriod true later
  | .aggregationTick _ :: later => arrived && arraysEveryPeriod false later
  | .ownShipState .. :: later => arraysEveryPeriod arrived later
  | .environmentState .. :: later => arraysEveryPeriod arrived later
  | .oddState .. :: later => arraysEveryPeriod arrived later
  | .scenarioLoaded _ :: later => arraysEveryPeriod arrived later

/-! ### Own ship -/

section OwnShip

variable {config : Config} {node : WorldModelNode} {events : List Event} {count : Nat}

theorem next_ownShipCache_isSome (event : Event) :
    (node.next config event).ownShipCache.isSome =
      (node.ownShipCache.isSome || event.isOwnShip) := by
  cases event with
  | ownShipState msg now => exact (Bool.or_true _).symm
  | trackedTargets targets now => exact (Bool.or_false _).symm
  | environmentState msg now => exact (Bool.or_false _).symm
  | oddState msg now => exact (Bool.or_false _).symm
  | scenarioLoaded now => exact (Bool.or_false _).symm
  | aggregationTick now =>
    unfold WorldModelNode.next WorldModelNode.handle WorldModelNode.composeWorldState
    cases node.ownShipToCompose <;> exact (Bool.or_false _).symm

theorem reportEvAge_health (config : ViewHealthConfig) (monitor : ViewHealthMonitor)
    (ageS : Float) :
    (monitor.reportEvAge config ageS).ev.health =
      if ViewHealthMonitor.evLost config ageS then .critical else .full := by
  unfold ViewHealthMonitor.reportEvAge
  dsimp only
  split_ifs <;> rfl

/-- Only a state of own ship moves the ego view, and always to the same health. -/
theorem next_ev_health (event : Event) :
    (node.next config event).health.ev.health =
      if event.isOwnShip then
        if ViewHealthMonitor.evLost config.health 0.0 then .critical else .full
      else node.health.ev.health := by
  cases event with
  | ownShipState msg now => exact reportEvAge_health config.health node.health 0.0
  | trackedTargets targets now => rfl
  | environmentState msg now => rfl
  | oddState msg now => rfl
  | scenarioLoaded now => rfl
  | aggregationTick now =>
    unfold WorldModelNode.next WorldModelNode.handle WorldModelNode.composeWorldState
    cases node.ownShipToCompose <;> rfl

/-- Whether a state of own ship has arrived is all that the ego view and the cache tell. -/
theorem ownShip_run :
    (Runs.run (WorldModelNode.next config) node events).ownShipCache.isSome =
        (node.ownShipCache.isSome || events.any Event.isOwnShip) ∧
      (Runs.run (WorldModelNode.next config) node events).health.ev.health =
        if events.any Event.isOwnShip then
          if ViewHealthMonitor.evLost config.health 0.0 then .critical else .full
        else node.health.ev.health := by
  induction events generalizing node with
  | nil => exact ⟨(Bool.or_false _).symm, rfl⟩
  | cons event later inductionHypothesis =>
    obtain ⟨cached, health⟩ := @inductionHypothesis (node.next config event)
    rw [next_ownShipCache_isSome, Bool.or_assoc] at cached
    rw [next_ev_health] at health
    refine ⟨cached, health.trans ?_⟩
    rw [List.any_cons]
    cases event.isOwnShip <;> cases later.any Event.isOwnShip <;> rfl

theorem ownShipToCompose_eq_none_iff :
    node.ownShipToCompose = none ↔
      node.health.ev.health = .critical ∨ node.ownShipCache.isSome = false := by
  unfold WorldModelNode.ownShipToCompose ViewHealthMonitor.aggregatedHealth
  dsimp only
  split_ifs with critical
  · exact iff_of_true rfl (Or.inl critical)
  · rw [Option.map_eq_none_iff, or_iff_right critical, Option.isSome_eq_false_iff,
      Option.isNone_iff_eq_none]

theorem published_tick_eq_none_iff {now : Int} :
    node.published config (.aggregationTick now) = none ↔ node.ownShipToCompose = none := by
  unfold WorldModelNode.published WorldModelNode.handle WorldModelNode.composeWorldState
  cases node.ownShipToCompose with
  | none => exact iff_of_true rfl rfl
  | some own => exact iff_of_false nofun nofun

/-- In a run, a composition publishes nothing only before the first state of own ship, or if even
an age of zero is a loss. -/
theorem silent_iff {now : Int} :
    (WorldModelNode.after config events count).published config (.aggregationTick now) = none ↔
      (events.take count).any Event.isOwnShip = false ∨
        ViewHealthMonitor.evLost config.health 0.0 = true := by
  obtain ⟨cached, health⟩ := @ownShip_run config {} (events.take count)
  rw [published_tick_eq_none_iff, ownShipToCompose_eq_none_iff, WorldModelNode.after,
    Runs.stateAt_eq_run, cached, health]
  cases (events.take count).any Event.isOwnShip <;>
    cases ViewHealthMonitor.evLost config.health 0.0 <;> simp

end OwnShip

/-! ### The dynamic view -/

section Dynamic

variable {config : Config} {node : WorldModelNode} {events : List Event}

/-- The targets a composition would work on. -/
def targetsAt (config : Config) (node : WorldModelNode) (now : Int) : List TargetSnapshot :=
  (node.trackBuffer.evictStale config.buffer now).activeTargets

/-- A composition that publishes has a target, or its miss is tolerated. -/
def KeepsView (config : Config) (node : WorldModelNode) : Event → Prop
  | .aggregationTick now =>
      node.ownShipToCompose.isSome = true →
        (!(targetsAt config node now).isEmpty) = true ∨
          node.health.dv.missTolerated config.health = true
  | _ => True

/-- Only a composition that publishes reports to the dynamic view. -/
theorem full_next_iff (full : node.health.dv.Full) (event : Event) :
    (node.next config event).health.dv.Full ↔ KeepsView config node event := by
  cases event with
  | ownShipState msg now => exact iff_of_true full trivial
  | trackedTargets targets now => exact iff_of_true full trivial
  | environmentState msg now => exact iff_of_true full trivial
  | oddState msg now => exact iff_of_true full trivial
  | scenarioLoaded now => exact iff_of_true full trivial
  | aggregationTick now =>
    unfold WorldModelNode.next WorldModelNode.handle WorldModelNode.composeWorldState KeepsView
    cases node.ownShipToCompose with
    | none => exact iff_of_true full nofun
    | some own => exact (ViewState.full_reportDvUpdate_iff full _).trans (imp_iff_right rfl).symm

/-- In a run, the view is healthy in every state exactly if every composition keeps it so. -/
theorem full_run_iff :
    (∀ count, (WorldModelNode.after config events count).health.dv.Full) ↔
      ∀ count event, events[count]? = some event →
        KeepsView config (WorldModelNode.after config events count) event := by
  constructor
  · intro full count event present
    refine (full_next_iff (full count) event).mp ?_
    have next := full (count + 1)
    unfold WorldModelNode.after at next
    rwa [Runs.stateAt_succ _ _ _ present] at next
  · intro keeps count
    refine Runs.stateAt_invariant (fun node : WorldModelNode => node.health.dv.Full) ⟨rfl, rfl⟩
      (fun index event present full => ?_) count
    exact (full_next_iff full event).mpr (keeps index event present)

/-- The confidence is what it would be if the dynamic view were new. -/
def Unreduced (config : Config) (health : ViewHealthMonitor) : Prop :=
  computeAggregatedConfidence config health =
    computeAggregatedConfidence config { health with dv := {} }

/-- A healthy view reduces nothing. -/
theorem unreduced_of_full {health : ViewHealthMonitor} (full : health.dv.Full) :
    Unreduced config health := by
  obtain ⟨⟨viewHealth, misses, since, confidence⟩, ev, sv⟩ := health
  have healthy : viewHealth = .full := full.health
  have sure : confidence = 1.0 := full.confidence
  rw [healthy, sure]
  rfl

end Dynamic

/-! ### Losses -/

section Losses

variable (config : Config) (events : List Event)

/-- A state of own ship has arrived within the limit before an event. -/
def FreshOwnShip (count : Nat) (now : Int) : Prop :=
  ∃ msg arrived, Event.ownShipState msg arrived ∈ events.take count ∧
    ViewHealthMonitor.evLost config.health (seconds (now - arrived)) = false

/-- No composition publishes while own ship is lost. -/
def DetectsLoss : Prop :=
  ∀ count now, events[count]? = some (.aggregationTick now) →
    ¬ FreshOwnShip config events count now →
      (WorldModelNode.after config events count).published config (.aggregationTick now) = none

/-- The dynamic view stays healthy, and the confidence is not reduced by it. -/
def ViewStaysFull : Prop :=
  ∀ count, (WorldModelNode.after config events count).health.dv.Full ∧
    Unreduced config (WorldModelNode.after config events count).health

/-- What a run needs for its losses of own ship to be noticed: at every composition there is no
loss, or own ship has never been seen, or even an age of zero is a loss. -/
def NoLossToMiss : Prop :=
  ∀ count now, events[count]? = some (.aggregationTick now) →
    FreshOwnShip config events count now ∨ (events.take count).any Event.isOwnShip = false ∨
      ViewHealthMonitor.evLost config.health 0.0 = true

theorem detectsLoss_iff : DetectsLoss config events ↔ NoLossToMiss config events := by
  refine forall_congr' fun count => forall_congr' fun now => imp_congr_right fun _ => ?_
  rw [silent_iff]
  exact Classical.or_iff_not_imp_left.symm

theorem viewStaysFull_iff :
    ViewStaysFull config events ↔
      ∀ count event, events[count]? = some event →
        KeepsView config (WorldModelNode.after config events count) event := by
  rw [← full_run_iff]
  exact forall_congr' fun count => and_iff_left_of_imp unreduced_of_full

/-- For every run: every loss of own ship is noticed, and the view stays healthy while arrays keep
arriving, exactly if there is no loss to miss and every composition keeps the view healthy by
itself. -/
theorem lossesAndViews_iff :
    DetectsLoss config events ∧
        (arraysEveryPeriod false events = true → ViewStaysFull config events) ↔
      NoLossToMiss config events ∧
        (arraysEveryPeriod false events = true → ∀ count event, events[count]? = some event →
          KeepsView config (WorldModelNode.after config events count) event) :=
  and_congr (detectsLoss_iff config events)
    (imp_congr_right fun _ => viewStaysFull_iff config events)

end Losses

/-! ### An empty sea, and a ship that is gone -/

/-- Four compositions a second on an empty sea, and nothing more of own ship. -/
def emptySea : List Event :=
  [.environmentState { currentSpeedKn := 0.0, currentDirectionDeg := 0.0 } 0,
    .ownShipState northward 0,
    .trackedTargets [] 200000000, .aggregationTick 250000000,
    .trackedTargets [] 450000000, .aggregationTick 500000000]

/-- Half a second after the last state of own ship a world state is published. The view is
degraded by then, though every array has arrived, and so is the confidence. -/
theorem lossesAndViews_false :
    Ordered emptySea ∧ arraysEveryPeriod false emptySea = true ∧
      ¬ DetectsLoss reciprocalConfig emptySea ∧ ¬ ViewStaysFull reciprocalConfig emptySea ∧
      ¬ Unreduced reciprocalConfig (WorldModelNode.after reciprocalConfig emptySea 6).health := by
  refine ⟨?_, rfl, fun detects => ?_, fun stays => ?_, by unfold Unreduced; decide +kernel⟩
  · unfold Ordered
    decide
  · refine absurd (detects 5 500000000 rfl ?_) (by decide +kernel)
    rintro ⟨msg, arrived, member, fresh⟩
    have only : (emptySea.take 5).filter Event.isOwnShip = [.ownShipState northward 0] := rfl
    have isOnly := only ▸ List.mem_filter.mpr ⟨member, rfl⟩
    obtain ⟨-, rfl⟩ := Event.ownShipState.inj (List.mem_singleton.mp isOnly)
    exact absurd fresh (by decide)
  · exact absurd (stays 6).1.health (by decide +kernel)

end MassL3.M2
