/-
This file translates the aggregator of the world model, and the node around it: what it makes of
the environment, the caches that the messages fill, the composition of a world state from them,
and the timer that publishes it. Of the environment it keeps the zone that the loaded charts give
for a position, and a sanity check stands between a report and the cache.

The situation reports, the audit records and the forecast are left out, and so are the polygons
of the chart and the confidence of a single target: no later step reads them.
-/

import MassTdl.Runs
import MassTdl.WorldModel.Encounters
import MassTdl.WorldModel.TrackBuffer
import MassTdl.WorldModel.ViewHealthMonitor

namespace MassL3.M2

open Clamps
open Binary64 (narrow)
open MassL3.M6.Colregs (MathLibrary doubleMax seconds)

/-! ### Charts -/

structure EncChart where
  latMin : Float
  latMax : Float
  lonMin : Float
  lonMax : Float
  hasTss : Bool
  hasNarrowChannel : Bool
  minDepthM : Float

/-- The charts of the loader, if it has loaded any file. -/
structure EncLoader where
  charts : List EncChart := []
  loaded : Bool := false

def EncChart.covers (chart : EncChart) (latitudeDeg longitudeDeg : Float) : Bool :=
  latitudeDeg ≥ chart.latMin && latitudeDeg ≤ chart.latMax && longitudeDeg ≥ chart.lonMin &&
    longitudeDeg ≤ chart.lonMax

def EncChart.zone (chart : EncChart) : ZoneSnapshot where
  zoneType :=
    if chart.hasTss then "tss"
    else if chart.hasNarrowChannel then "narrow_channel"
    else "open_water"
  inTss := chart.hasTss
  inNarrowChannel := chart.hasNarrowChannel
  minWaterDepthM := chart.minDepthM

namespace EncLoader

variable (loader : EncLoader) (latitudeDeg longitudeDeg : Float)

/-- `query_zone`: the first chart that covers the position. -/
def queryZone : Option ZoneSnapshot :=
  if !loader.loaded then none
  else (loader.charts.find? fun chart => chart.covers latitudeDeg longitudeDeg).map EncChart.zone

def infinity : Float := 1.0 / 0.0

/-- `get_min_depth`. -/
def getMinDepth : Float :=
  if !loader.loaded then infinity
  else
    loader.charts.foldl
      (fun minDepth chart =>
        if chart.covers latitudeDeg longitudeDeg && chart.minDepthM > 0.0 &&
            chart.minDepthM < minDepth then
          chart.minDepthM
        else minDepth)
      infinity

end EncLoader

/-! ### The sanity check -/

structure EnvSanityConfig where
  currentSpeedMaxKn : Float := 10.0
  stalenessMaxS : Float := 60.0

structure EnvSanityChecker where
  lastZoneType : Option String := none
  fallbackSnapshot : Option ZoneSnapshot := none

namespace EnvSanityChecker

variable (config : EnvSanityConfig) (checker : EnvSanityChecker) (snapshot : ZoneSnapshot)

/-- `check_zone_transition_`. -/
def checkZoneTransition : Bool :=
  match checker.lastZoneType with
  | none => true
  | some last =>
      !(last = "open_water" && snapshot.zoneType = "port" && !snapshot.inNarrowChannel)

def passed (now : Int) : Bool :=
  !(seconds (now - snapshot.stamp) > config.stalenessMaxS) &&
    !(snapshot.currentSpeedKn > config.currentSpeedMaxKn) && checker.checkZoneTransition snapshot

/-- `validate`: what is cached for a snapshot, and the checker after it. A snapshot that fails
before any has passed only loses a current that is too strong. -/
def validate (now : Int) : EnvSanityChecker × ZoneSnapshot :=
  if checker.passed config snapshot now then
    ({ lastZoneType := some snapshot.zoneType, fallbackSnapshot := some snapshot }, snapshot)
  else
    match checker.fallbackSnapshot with
    | some fallback => (checker, { fallback with stamp := snapshot.stamp })
    | none =>
        (checker,
          if snapshot.currentSpeedKn > config.currentSpeedMaxKn then
            { snapshot with currentSpeedKn := 0.0 }
          else snapshot)

end EnvSanityChecker

/-! ### Configuration and state -/

structure Config where
  libs : Libraries
  loader : EncLoader := {}
  cpa : CpaTcpaConfig := {}
  classifier : EncounterClassifierConfig := {}
  buffer : TrackBufferConfig := {}
  health : ViewHealthConfig := {}
  sanity : EnvSanityConfig := {}
  confidenceFloorDvDegraded : Float := 0.5
  targetClassificationEnabled : Bool := false

/-- The aggregator with its components. -/
structure WorldModelNode where
  ownShipCache : Option OwnShipSnapshot := none
  environmentCache : Option ZoneSnapshot := none
  oddCache : Option OddSnapshot := none
  trackBuffer : TrackBuffer := .empty
  health : ViewHealthMonitor := {}
  envSanityChecker : EnvSanityChecker := {}
  complianceScorers : UInt64 → WoernerComplianceScorer := fun _ => {}

/-! ### One target -/

section Target

/-- `compute_bearing_deg_`. -/
def computeBearingDeg (lib : MathLibrary) (ownLat ownLon tgtLat tgtLon : Float) : Float :=
  let lat1 := ownLat * kDegToRad
  let lat2 := tgtLat * kDegToRad
  let dlon := (tgtLon - ownLon) * kDegToRad
  let y := lib.sin dlon * lib.cos lat2
  let x := lib.cos lat1 * lib.sin lat2 - lib.sin lat1 * lib.cos lat2 * lib.cos dlon
  let bearingRad := lib.atan2 y x
  let bearingRad := if bearingRad < 0.0 then bearingRad + 2.0 * M6.Colregs.kPi else bearingRad
  bearingRad / kDegToRad

/-- The distance on a sphere. -/
def haversineM (lib : MathLibrary) (ownLat ownLon tgtLat tgtLon : Float) : Float :=
  let lat1 := ownLat * kDegToRad
  let lon1 := ownLon * kDegToRad
  let lat2 := tgtLat * kDegToRad
  let lon2 := tgtLon * kDegToRad
  let dlat := lat2 - lat1
  let dlon := lon2 - lon1
  let sinDlat2 := lib.sin (dlat / 2.0)
  let sinDlon2 := lib.sin (dlon / 2.0)
  let a := sinDlat2 * sinDlat2 + lib.cos lat1 * lib.cos lat2 * sinDlon2 * sinDlon2
  2.0 * 6371000.0 * lib.atan2 a.sqrt (1.0 - a).sqrt

variable (config : Config) (own : OwnShipSnapshot) (zone : OddZone) (target : TargetSnapshot)

def bearingTo : Float :=
  computeBearingDeg config.libs.math own.latitudeDeg own.longitudeDeg target.latitudeDeg
    target.longitudeDeg

def relativeBearingTo : Float :=
  config.libs.math.fmod (bearingTo config own target - own.headingDeg + 540.0) 360.0 - 180.0

/-- The difference of the two speeds, without a sign. -/
def relSpeedMps : Float := ((target.sogKn - own.sogKn) * 0.514444).abs

/-- The closest approach that is published: the invalid one where none can be computed. -/
def publishedCpa : CpaResult :=
  (computeCpa config.libs config.cpa own target zone).getD invalidCpa

def encounterWith : EncounterClassification :=
  config.classifier.classify config.libs.math (relativeBearingTo config own target)
    own.headingDeg target.headingDeg (relSpeedMps own target)
    (publishedCpa config own zone target).cpaM

/-- The classification of a target by its speed and its encounter, if that is enabled. -/
def classifyTarget (encounterType : EncounterType) : String :=
  if !config.targetClassificationEnabled then target.classification
  else if target.sogKn < 5.0 then "fishing"
  else if target.sogKn > 15.0 then "passenger"
  else if encounterType = .overtaking then "cargo"
  else "tanker"

/-- The loop body of `compose_world_state`, with the score of the target after it. -/
def composeTarget (now : Int) (scorer : WoernerComplianceScorer) :
    WoernerComplianceScorer × TrackedTarget :=
  let cpa := publishedCpa config own zone target
  let encounter := encounterWith config own zone target
  let rngM :=
    haversineM config.libs.math own.latitudeDeg own.longitudeDeg target.latitudeDeg
      target.longitudeDeg
  let scorer :=
    scorer.addSample
      { tS := seconds now
        cpaM := cpa.cpaM
        tcpaS := cpa.tcpaS
        rangeM := rngM
        headingDeg := target.headingDeg }
  (scorer,
    { targetId := target.targetId
      latitude := target.latitudeDeg
      longitude := target.longitudeDeg
      sogKn := target.sogKn
      cogDeg := target.cogDeg
      headingDeg := target.headingDeg
      classification := classifyTarget config target encounter.encounterType
      cpaM := cpa.cpaM
      tcpaS := cpa.tcpaS
      encounter :=
        { encounter with relativeBearingDeg := relativeBearingTo config own target }
      brgDeg := bearingTo config own target
      rngM := rngM
      targetCompliance := narrow (scorer.score config.libs.math) })

/-- The loop over the targets, with the scores after it. -/
def composeTargets (now : Int) (scorers : UInt64 → WoernerComplianceScorer)
    (targets : List TargetSnapshot) :
    (UInt64 → WoernerComplianceScorer) × List TrackedTarget :=
  targets.foldl
    (fun composed target =>
      let one := composeTarget config own zone target now (composed.1 target.targetId)
      (Function.update composed.1 target.targetId one.1, composed.2 ++ [one.2]))
    (scorers, [])

end Target

/-- The key of an approach: one that is invalid comes last. -/
def approachKey (value : Float) : Float :=
  if value.isFinite && value ≥ 0.0 then value else EncLoader.infinity

/-- The order of the published targets. -/
def TrackedTarget.before (lhs rhs : TrackedTarget) : Bool :=
  let lhsCpa := approachKey lhs.cpaM
  let rhsCpa := approachKey rhs.cpaM
  if (lhsCpa - rhsCpa).abs > 1e-6 then lhsCpa < rhsCpa
  else
    let lhsTcpa := approachKey lhs.tcpaS
    let rhsTcpa := approachKey rhs.tcpaS
    if (lhsTcpa - rhsTcpa).abs > 1e-6 then lhsTcpa < rhsTcpa
    else lhs.targetId < rhs.targetId

/-- The stable sort by that order. -/
def sortTargets (targets : List TrackedTarget) : List TrackedTarget :=
  targets.mergeSort fun lhs rhs => !rhs.before lhs

/-! ### The composition -/

/-- `compute_aggregated_confidence_`. -/
def computeAggregatedConfidence (config : Config) (health : ViewHealthMonitor) : Float :=
  let conf := health.leastConfidence
  let degraded (view : ViewState) : Bool := ViewHealth.degraded.toNat ≤ view.health.toNat
  if degraded health.dv || degraded health.ev || degraded health.sv then
    stdMin conf (if degraded health.dv then config.confidenceFloorDvDegraded else 1.0)
  else conf

/-- The ship with the current of the environment. -/
def OwnShipSnapshot.withCurrent (own : OwnShipSnapshot) (environment : Option ZoneSnapshot) :
    OwnShipSnapshot :=
  match environment with
  | some zone =>
      { own with
        currentSpeedKn := zone.currentSpeedKn
        currentDirectionDeg := zone.currentDirectionDeg }
  | none => own

def OwnShipSnapshot.toMessage (own : OwnShipSnapshot) : OwnShipState where
  latitude := own.latitudeDeg
  longitude := own.longitudeDeg
  sogKn := own.sogKn
  cogDeg := own.cogDeg
  headingDeg := own.headingDeg
  uWater := own.uWater
  vWater := own.vWater
  currentSpeedKn := own.currentSpeedKn
  currentDirectionDeg := own.currentDirectionDeg

def zoneConstraint (loader : EncLoader) (own : OwnShipSnapshot)
    (environment : Option ZoneSnapshot) : ZoneConstraint :=
  match environment with
  | some zone =>
      { zoneType := zone.zoneType
        inTss := zone.inTss
        inNarrowChannel := zone.inNarrowChannel
        minWaterDepthM :=
          narrow
            (if loader.loaded then loader.getMinDepth own.latitudeDeg own.longitudeDeg
            else zone.minWaterDepthM) }
  | none => {}

namespace WorldModelNode

variable (config : Config) (node : WorldModelNode)

/-- The zone of the last domain. -/
def currentZone : OddZone := (node.oddCache.map OddSnapshot.currentZone).getD .a

/-- The age of the environment. -/
def svAgeS (now : Int) : Float :=
  match node.environmentCache with
  | some zone => seconds (now - zone.stamp)
  | none => doubleMax

/-- The state of own ship that a composition works on: none while the ego view is critical. -/
def ownShipToCompose : Option OwnShipSnapshot :=
  if node.health.aggregatedHealth.evHealth = .critical then none
  else node.ownShipCache.map fun own => own.withCurrent node.environmentCache

/-- The world state of a ship, and the node after it. -/
def composeAround (own : OwnShipSnapshot) (now : Int) : WorldModelNode × WorldState :=
  let trackBuffer := node.trackBuffer.evictStale config.buffer now
  let targets := trackBuffer.activeTargets
  let composed :=
    composeTargets config own node.currentZone now node.complianceScorers targets
  let health :=
    (node.health.reportDvUpdate config.health (!targets.isEmpty) now).reportSvAge config.health
      (node.svAgeS now)
  ({ node with
      trackBuffer := trackBuffer
      health := health
      complianceScorers := composed.1 },
    { stamp := now
      targets := sortTargets composed.2
      ownShip := own.toMessage
      zone := zoneConstraint config.loader own node.environmentCache
      confidence := narrow (computeAggregatedConfidence config node.health) })

/-- `compose_world_state`. -/
def composeWorldState (now : Int) : WorldModelNode × Option WorldState :=
  match node.ownShipToCompose with
  | none => (node, none)
  | some own =>
      let composed := node.composeAround config own now
      (composed.1, some composed.2)

/-! ### Messages -/

/-- `update_own_ship`: the age that is reported is always zero. -/
def updateOwnShip (msg : FilteredOwnShipState) (now : Int) : WorldModelNode :=
  { node with
    ownShipCache :=
      some
        { sogKn := msg.sogKn
          cogDeg := msg.cogDeg
          headingDeg := msg.headingDeg
          uWater := msg.uWater
          vWater := msg.vWater
          latitudeDeg := msg.latitude
          longitudeDeg := msg.longitude
          stamp := now }
    health := node.health.reportEvAge config.health 0.0 }

/-- The zone at own ship. -/
def zoneAtOwnShip (msg : EnvironmentState) (now : Int) : ZoneSnapshot :=
  let reported (zoneType : String) : ZoneSnapshot :=
    { zoneType
      currentSpeedKn := msg.currentSpeedKn
      currentDirectionDeg := msg.currentDirectionDeg
      stamp := now }
  match node.ownShipCache with
  | none => reported "unknown"
  | some own =>
      match config.loader.queryZone own.latitudeDeg own.longitudeDeg with
      | some zone => { zone with stamp := now }
      | none => reported "open_water"

/-- `update_environment`. -/
def updateEnvironment (msg : EnvironmentState) (now : Int) : WorldModelNode :=
  let validated :=
    node.envSanityChecker.validate config.sanity (node.zoneAtOwnShip config msg now) now
  { node with
    envSanityChecker := validated.1
    environmentCache := some validated.2 }

/-- `update_odd_state`. -/
def updateOddState (msg : ODDState) (now : Int) : WorldModelNode :=
  { node with oddCache := some { currentZone := .ofUInt8 msg.currentZone, stamp := now } }

/-- `on_tracked_targets`. -/
def onTrackedTargets (targets : List FusedTarget) (now : Int) : WorldModelNode :=
  { node with trackBuffer := node.trackBuffer.update config.buffer targets now }

/-- `reset_cross_run_state`. -/
def resetCrossRunState : WorldModelNode := { node with trackBuffer := .empty }

end WorldModelNode

/-! ### Events -/

/-- A message or the timer, with the clock at its callback. -/
inductive Event where
  | ownShipState (msg : FilteredOwnShipState) (now : Int)
  | trackedTargets (targets : List FusedTarget) (now : Int)
  | environmentState (msg : EnvironmentState) (now : Int)
  | oddState (msg : ODDState) (now : Int)
  | scenarioLoaded (now : Int)
  | aggregationTick (now : Int)

namespace WorldModelNode

variable (config : Config) (node : WorldModelNode)

/-- A callback, with what it publishes. -/
def handle : Event → WorldModelNode × Option WorldState
  | .ownShipState msg now => (node.updateOwnShip config msg now, none)
  | .trackedTargets targets now => (node.onTrackedTargets config targets now, none)
  | .environmentState msg now => (node.updateEnvironment config msg now, none)
  | .oddState msg now => (node.updateOddState msg now, none)
  | .scenarioLoaded _ => (node.resetCrossRunState, none)
  | .aggregationTick now => node.composeWorldState config now

/-- The node after a callback. -/
def next (event : Event) : WorldModelNode := (node.handle config event).1

/-- The publication of a callback. -/
def published (event : Event) : Option WorldState := (node.handle config event).2

/-- The node after the first `count` events from its construction. -/
def after (config : Config) (events : List Event) (count : Nat) : WorldModelNode :=
  Runs.stateAt (next config) {} events count

end WorldModelNode

/-! ### What a composition publishes of its targets -/

section Composition

variable {config : Config} {own : OwnShipSnapshot} {zone : OddZone} {now : Int}

/-- What is read of every published target is read of every snapshot, where the score does not
count. -/
theorem forall_composeTargets {Published : TrackedTarget → Prop} {Snapshot : TargetSnapshot → Prop}
    (reads : ∀ target scorer, Published (composeTarget config own zone target now scorer).2 ↔
      Snapshot target)
    (scorers : UInt64 → WoernerComplianceScorer) (targets : List TargetSnapshot) :
    (∀ published ∈ (composeTargets config own zone now scorers targets).2, Published published) ↔
      ∀ target ∈ targets, Snapshot target := by
  have loop : ∀ (composed : (UInt64 → WoernerComplianceScorer) × List TrackedTarget),
      (∀ published ∈ (targets.foldl (fun composed target =>
          let one := composeTarget config own zone target now (composed.1 target.targetId)
          (Function.update composed.1 target.targetId one.1, composed.2 ++ [one.2]))
          composed).2, Published published) ↔
        (∀ published ∈ composed.2, Published published) ∧ ∀ target ∈ targets, Snapshot target := by
    induction targets with
    | nil => simp
    | cons target targets inductionHypothesis =>
      intro composed
      rw [List.foldl_cons, inductionHypothesis, List.forall_mem_append, List.forall_mem_singleton,
        List.forall_mem_cons, reads, and_assoc]
  rw [composeTargets, loop]
  simp

end Composition

end MassL3.M2
