/-
This file asks whether the sea current that is reported reaches the ship that a composition
publishes. The report is read into a snapshot of the zone; but where a chart covers own ship the
snapshot is replaced by the chart's, which knows no current, and the still water of the chart is
what every composition reads until the next report.
-/

import MassTdl.WorldModel.SafePass

namespace MassL3.M2

/-! ### Snapshots that pass the check -/

/-- Bounds that a fresh snapshot of still water meets. -/
structure EnvSanityConfig.Sane (config : EnvSanityConfig) : Prop where
  staleness : ¬ 0.0 > config.stalenessMaxS
  currentSpeed : ¬ 0.0 > config.currentSpeedMaxKn

theorem sane_default : EnvSanityConfig.Sane {} := ⟨by decide, by decide⟩

theorem EncChart.zone_zoneType_ne_port (chart : EncChart) : chart.zone.zoneType ≠ "port" := by
  unfold EncChart.zone
  dsimp only
  split_ifs <;> decide

/-- A snapshot of a chart has no current. -/
theorem EncLoader.queryZone_still {loader : EncLoader} {latitudeDeg longitudeDeg : Float}
    {zone : ZoneSnapshot} (found : loader.queryZone latitudeDeg longitudeDeg = some zone) :
    zone.currentSpeedKn = 0.0 ∧ zone.currentDirectionDeg = 0.0 ∧ zone.zoneType ≠ "port" := by
  unfold queryZone at found
  split_ifs at found
  obtain ⟨chart, -, rfl⟩ := Option.map_eq_some_iff.mp found
  exact ⟨rfl, rfl, chart.zone_zoneType_ne_port⟩

section Validation

variable {config : EnvSanityConfig} {checker : EnvSanityChecker} {snapshot : ZoneSnapshot}
  {now : Int}

/-- Only a step into a port can violate the order of the zones. -/
theorem EnvSanityChecker.checkZoneTransition_of_ne_port (elsewhere : snapshot.zoneType ≠ "port") :
    checker.checkZoneTransition snapshot = true := by
  unfold checkZoneTransition
  cases checker.lastZoneType with
  | none => rfl
  | some last => simp [elsewhere]

/-- A fresh snapshot with a current in range is cached as it is. -/
theorem EnvSanityChecker.validate_of_inRange (sane : config.Sane) (stamped : snapshot.stamp = now)
    (inRange : ¬ snapshot.currentSpeedKn > config.currentSpeedMaxKn)
    (elsewhere : snapshot.zoneType ≠ "port") :
    (checker.validate config snapshot now).2 = snapshot := by
  have fresh : ¬ M6.Colregs.seconds (now - snapshot.stamp) > config.stalenessMaxS := by
    rw [stamped, Int.sub_self]
    exact sane.staleness
  have passes : checker.passed config snapshot now = true := by
    unfold passed
    rw [decide_eq_false fresh, decide_eq_false inRange,
      checkZoneTransition_of_ne_port elsewhere]
    rfl
  unfold validate
  rw [if_pos passes]

end Validation

/-! ### The cache of the environment -/

section Cache

variable {config : Config} {node : WorldModelNode} {msg : EnvironmentState} {now : Int}

/-- The zone of the chart that covers own ship. -/
def WorldModelNode.chartedZone (config : Config) (node : WorldModelNode) : Option ZoneSnapshot :=
  node.ownShipCache.bind fun own => config.loader.queryZone own.latitudeDeg own.longitudeDeg

/-- What the environment says of the current. -/
def ZoneSnapshot.current (zone : ZoneSnapshot) : Float × Float :=
  (zone.currentSpeedKn, zone.currentDirectionDeg)

def EnvironmentState.current (msg : EnvironmentState) : Float × Float :=
  (msg.currentSpeedKn, msg.currentDirectionDeg)

/-- No current at all. -/
def stillWater : Float × Float := (0.0, 0.0)

/-- The current that a report leaves in the cache: its own away from charts, none on a chart. -/
def WorldModelNode.reachingCurrent (config : Config) (node : WorldModelNode)
    (msg : EnvironmentState) : Float × Float :=
  (node.chartedZone config).elim msg.current fun _ => stillWater

theorem zoneAtOwnShip_stamp : (node.zoneAtOwnShip config msg now).stamp = now := by
  unfold WorldModelNode.zoneAtOwnShip
  cases node.ownShipCache with
  | none => rfl
  | some own =>
    dsimp only
    cases config.loader.queryZone own.latitudeDeg own.longitudeDeg <;> rfl

theorem zoneAtOwnShip_current :
    (node.zoneAtOwnShip config msg now).current = node.reachingCurrent config msg ∧
      (node.zoneAtOwnShip config msg now).zoneType ≠ "port" := by
  have unknown : "unknown" ≠ "port" := by decide
  have openWater : "open_water" ≠ "port" := by decide
  unfold WorldModelNode.zoneAtOwnShip WorldModelNode.reachingCurrent WorldModelNode.chartedZone
  cases node.ownShipCache with
  | none => exact ⟨rfl, unknown⟩
  | some own =>
    dsimp only [Option.bind_some]
    cases found : config.loader.queryZone own.latitudeDeg own.longitudeDeg with
    | none => exact ⟨rfl, openWater⟩
    | some zone =>
      obtain ⟨speed, direction, elsewhere⟩ := EncLoader.queryZone_still found
      exact ⟨Prod.ext speed direction, elsewhere⟩

/-- What a report in range leaves in the cache. -/
theorem updateEnvironment_current (sane : config.sanity.Sane)
    (inRange : ¬ msg.currentSpeedKn > config.sanity.currentSpeedMaxKn) :
    (node.updateEnvironment config msg now).environmentCache.map ZoneSnapshot.current =
      some (node.reachingCurrent config msg) := by
  obtain ⟨current, elsewhere⟩ := @zoneAtOwnShip_current config node msg now
  have speed : (node.zoneAtOwnShip config msg now).currentSpeedKn =
      (node.reachingCurrent config msg).1 := congrArg Prod.fst current
  have reaching : ¬ (node.reachingCurrent config msg).1 > config.sanity.currentSpeedMaxKn := by
    unfold WorldModelNode.reachingCurrent
    cases node.chartedZone config with
    | none => exact inRange
    | some zone => exact sane.currentSpeed
  rw [← speed] at reaching
  unfold WorldModelNode.updateEnvironment
  rw [Option.map_some, EnvSanityChecker.validate_of_inRange sane zoneAtOwnShip_stamp reaching
    elsewhere, current]

/-- Only a report of the environment moves its cache. -/
theorem next_environmentCache {event : Event}
    (other : ∀ report stamp, event ≠ .environmentState report stamp) :
    (node.next config event).environmentCache = node.environmentCache := by
  cases event with
  | ownShipState msg now => rfl
  | trackedTargets targets now => rfl
  | environmentState msg now => exact absurd rfl (other msg now)
  | oddState msg now => rfl
  | scenarioLoaded now => rfl
  | aggregationTick now =>
    unfold WorldModelNode.next WorldModelNode.handle WorldModelNode.composeWorldState
    cases node.ownShipToCompose <;> rfl

end Cache

/-! ### Runs -/

/-- The report of the environment that is the last one before a callback. -/
structure LatestReport (events : List Event) (index count : Nat) (msg : EnvironmentState)
    (now : Int) : Prop where
  received : events[index]? = some (.environmentState msg now)
  before : index < count
  last : ∀ later report stamp, index < later → later < count →
    events[later]? ≠ some (.environmentState report stamp)

/-- The ship that a composition publishes carries a current, and so does the ship whose velocity
enters its closest approaches. -/
def PublishesCurrent (config : Config) (node : WorldModelNode) (tick : Int)
    (current : Float × Float) : Prop :=
  ∃ own, node.ownShipToCompose = some own ∧
    (own.currentSpeedKn, own.currentDirectionDeg) = current ∧
    ∃ world, node.published config (.aggregationTick tick) = some world ∧
      world = (node.composeAround config own tick).2 ∧
      (world.ownShip.currentSpeedKn, world.ownShip.currentDirectionDeg) = current

section Runs

variable {config : Config} {events : List Event} {index count : Nat} {msg : EnvironmentState}
  {now tick : Int} {node : WorldModelNode}

/-- A composition carries what the cache holds. -/
theorem publishesCurrent_iff {current cached : Float × Float} {world : WorldState}
    (cache : node.environmentCache.map ZoneSnapshot.current = some cached)
    (published : node.published config (.aggregationTick tick) = some world) :
    PublishesCurrent config node tick current ↔ cached = current := by
  obtain ⟨zone, isZone, rfl⟩ := Option.map_eq_some_iff.mp cache
  unfold WorldModelNode.published WorldModelNode.handle WorldModelNode.composeWorldState
    at published
  cases composes : node.ownShipToCompose with
  | none =>
    rw [composes] at published
    cases published
  | some own =>
    have carries : (own.currentSpeedKn, own.currentDirectionDeg) = zone.current := by
      unfold WorldModelNode.ownShipToCompose at composes
      split_ifs at composes
      obtain ⟨ship, -, rfl⟩ := Option.map_eq_some_iff.mp composes
      rw [isZone]
      rfl
    constructor
    · rintro ⟨ship, isShip, current, -⟩
      rw [composes, Option.some.injEq] at isShip
      rw [← carries, isShip, current]
    · intro equal
      refine ⟨own, composes, carries.trans equal, _, ?_, rfl, carries.trans equal⟩
      unfold WorldModelNode.published WorldModelNode.handle WorldModelNode.composeWorldState
      rw [composes]

variable (config) in
/-- The cache from the latest report on. -/
theorem latest_environmentCache (latest : LatestReport events index count msg now) :
    (WorldModelNode.after config events count).environmentCache =
      ((WorldModelNode.after config events index).updateEnvironment config msg
        now).environmentCache := by
  refine Runs.stateAt_invariant_between (fun node : WorldModelNode => node.environmentCache =
    ((WorldModelNode.after config events index).updateEnvironment config msg
      now).environmentCache) latest.before ?_ fun later event above below present unchanged => ?_
  · rw [Runs.stateAt_succ _ _ _ latest.received]
    rfl
  · have other : ∀ report stamp, event ≠ .environmentState report stamp := by
      rintro report stamp rfl
      exact latest.last later report stamp above below present
    rw [next_environmentCache other, unchanged]

/-- For every run: a composition carries the current of the latest report exactly if no chart
covered own ship when the report came, or the report was of still water. -/
theorem publishesCurrent_latest_iff {world : WorldState} (sane : config.sanity.Sane)
    (latest : LatestReport events index count msg now)
    (inRange : ¬ msg.currentSpeedKn > config.sanity.currentSpeedMaxKn)
    (published : (WorldModelNode.after config events count).published config
      (.aggregationTick tick) = some world) :
    PublishesCurrent config (WorldModelNode.after config events count) tick msg.current ↔
      (WorldModelNode.after config events index).chartedZone config = none ∨
        msg.current = stillWater := by
  have cache := congrArg (Option.map ZoneSnapshot.current) (latest_environmentCache config latest)
  rw [updateEnvironment_current sane inRange] at cache
  rw [publishesCurrent_iff cache published]
  unfold WorldModelNode.reachingCurrent
  cases (WorldModelNode.after config events index).chartedZone config with
  | none => exact iff_of_true rfl (Or.inl rfl)
  | some zone => exact eq_comm.trans (or_iff_right (Option.some_ne_none zone)).symm

end Runs

/-! ### A ship at sea and a ship on a chart -/

/-- A knot and a half to the east. -/
def eastwardCurrent : EnvironmentState where
  currentSpeedKn := 1.5
  currentDirectionDeg := 90.0

def sailing : List Event :=
  [.ownShipState northward 0, .environmentState eastwardCurrent 0, .aggregationTick 250000000]

theorem sailing_latest : LatestReport sailing 1 2 eastwardCurrent 0 where
  received := rfl
  before := Nat.lt_succ_self 1
  last := fun _ _ _ above below => absurd above (Nat.not_lt.mpr (Nat.lt_succ_iff.mp below))

theorem publishesCurrent_sailing :
    PublishesCurrent reciprocalConfig (WorldModelNode.after reciprocalConfig sailing 2) 250000000
        eastwardCurrent.current ↔
      (WorldModelNode.after reciprocalConfig sailing 1).chartedZone reciprocalConfig = none ∨
        eastwardCurrent.current = stillWater :=
  publishesCurrent_latest_iff sane_default sailing_latest (by decide) rfl

/-- The same ship with a chart around it. -/
def chartedConfig : Config :=
  { reciprocalConfig with
    loader :=
      { charts :=
          [{ latMin := -1.0, latMax := 1.0, lonMin := -1.0, lonMax := 1.0, hasTss := false
             hasNarrowChannel := false, minDepthM := 20.0 }]
        loaded := true } }

/-- The report says a knot and a half, and still water is published. -/
theorem publishesCurrent_false :
    ¬ ∀ (config : Config) (events : List Event) (index count : Nat) (msg : EnvironmentState)
      (now tick : Int) (world : WorldState), config.sanity.Sane →
      LatestReport events index count msg now →
      (∀ report stamp, Event.environmentState report stamp ∈ events →
        ¬ report.currentSpeedKn > config.sanity.currentSpeedMaxKn) →
      (WorldModelNode.after config events count).published config (.aggregationTick tick) =
        some world →
      PublishesCurrent config (WorldModelNode.after config events count) tick msg.current := by
  intro reaches
  have inRange : ∀ report stamp, Event.environmentState report stamp ∈ sailing →
      ¬ report.currentSpeedKn > 10.0 := by
    intro report stamp member
    have isCurrent : report = eastwardCurrent := by
      simp only [sailing, List.mem_cons, reduceCtorEq, Event.environmentState.injEq,
        List.not_mem_nil, false_or, or_false] at member
      exact member.1
    rw [isCurrent]
    decide
  obtain ⟨own, composes, carries, -⟩ := reaches chartedConfig sailing 1 2 eastwardCurrent 0
    250000000 _ sane_default sailing_latest inRange rfl
  have still : (WorldModelNode.after chartedConfig sailing 2).ownShipToCompose.map
      OwnShipSnapshot.currentSpeedKn = some 0.0 := by decide +kernel
  rw [composes, Option.map_some, Option.some.injEq] at still
  have speed : own.currentSpeedKn = 1.5 := congrArg Prod.fst carries
  rw [speed] at still
  exact absurd still (by decide)

end MassL3.M2
