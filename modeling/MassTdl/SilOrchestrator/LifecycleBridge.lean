/-
This file translates the bridge between the routes of the orchestrator and the lifecycle of the
simulation's nodes, as a program of cancellable tasks: a route's call, the two timers, a broadcast
and each of its requests is a task, and a turn of it is what the source runs between two awaits.
A request to the scenario lifecycle manager is in flight until the manager has carried it out and
its reply has arrived; both happen outside, at any time or never.
-/

import MassTdl.Asyncio
import MassTdl.Runs

namespace MassL3.SilOrchestrator

open Asyncio (TaskId Turn)

/-! ### Lifecycles -/

inductive LifecycleState where
  | unconfigured
  | inactive
  | active
  | deactivating
  | finalized
  deriving DecidableEq

inductive Transition where
  | configure
  | cleanup
  | activate
  | deactivate
  deriving DecidableEq

/-- The state of a lifecycle node itself. -/
inductive NodeState where
  | unconfigured
  | inactive
  | active
  | finalized
  deriving DecidableEq

/-- The state that a transition leads to, where it can be asked for. -/
def NodeState.after : NodeState → Transition → Option NodeState
  | unconfigured, .configure => some inactive
  | inactive, .cleanup => some unconfigured
  | inactive, .activate => some active
  | active, .deactivate => some inactive
  | _, _ => none

/-- What comes of the callback of a transition. An error of its own leaves the node unconfigured or
finalized. -/
inductive Outcome where
  | success
  | failure
  | error (recovered : Bool)

structure LifecycleResult where
  success : Bool
  error : String := ""

/-! ### The bridge and what it talks to -/

/-- A duration as the scenario gives it. It may be something that is no number. -/
inductive Duration where
  | seconds (value : Float)
  | other

/-- What configure() reads of a scenario. The parameters to inject may be unreadable; otherwise it
matters whether there are any. -/
structure Scenario where
  id : String
  duration : Option Duration
  injections : Except String Bool

/-- The primary node, and the nodes that are brought along with it. -/
def scenarioLifecycleMgr : String := "scenario_lifecycle_mgr"

def silLifecycleNodes : List String :=
  ["ship_dynamics_node", "env_disturbance_node", "target_vessel_node", "sensor_mock_node",
    "tracker_mock_node", "fault_injection_node", "scoring_node", "scenario_authoring_node"]

/-- The nodes for which clients could be created. -/
structure Clients where
  changeState : List String
  getState : List String

structure Bridge where
  state : LifecycleState := .unconfigured
  scenarioId : Option String := none
  simulationDuration : Option Duration := none
  timerTask : Option TaskId := none
  backupTimerTask : Option TaskId := none

namespace Bridge

/-- The timers that are cancelled and forgotten. -/
def timers (bridge : Bridge) : List TaskId :=
  bridge.timerTask.toList ++ bridge.backupTimerTask.toList

def withoutTimers (bridge : Bridge) : Bridge :=
  { bridge with timerTask := none, backupTimerTask := none }

end Bridge

inductive Service where
  | changeState (node : String)
  | getState (node : String)
  deriving DecidableEq

/-- How far a request to the manager has come, and whether the transition was a success. -/
inductive Progress where
  | pending
  | carriedOut (success : Bool)
  | delivered (success : Bool)
  deriving DecidableEq

structure Request where
  transition : Transition
  progress : Progress := .pending

/-- A transition asked of a SIL node by a task. -/
structure Sent where
  sender : TaskId
  node : String
  transition : Transition
  deriving DecidableEq

inductive Operation where
  | configure
  | activate
  | deactivate
  | cleanup
  | reset
  deriving DecidableEq

/-- What a call returned to its caller. -/
structure Returned where
  task : TaskId
  operation : Operation
  result : LifecycleResult

structure World where
  bridge : Bridge := {}
  mgr : NodeState := .unconfigured
  requests : List Request := []
  /-- The queries of the manager's state, with the state once it has been told. -/
  queries : List (Option NodeState) := []
  available : Service → Bool := fun _ => false
  sent : List Sent := []
  returned : List Returned := []

/-! ### Tasks -/

inductive Call where
  | configure (scenario : Except String Scenario)
  | activate
  | deactivate
  | cleanup
  | reset

/-- What the manager is driven to `unconfigured` for. -/
inductive Goal where
  | cleanup
  | configure (scenario : Scenario)

inductive Caller where
  | route
  | timer
  deriving DecidableEq

/-- What a request to the manager is made for. -/
inductive Purpose where
  | activate
  | deactivate (caller : Caller)
  | cleanup
  | configure (scenario : Scenario)
  | resetDeactivate (goal : Goal)
  | resetCleanup (goal : Goal)

def Purpose.transition : Purpose → Transition
  | activate => .activate
  | deactivate _ => .deactivate
  | cleanup => .cleanup
  | configure _ => .configure
  | resetDeactivate _ => .deactivate
  | resetCleanup _ => .cleanup

/-- The suspensions of the tasks. A number of polls that are left comes last. -/
inductive Point where
  | call (call : Call)
  | resetGathered (goal : Goal)
  | query (goal : Goal) (query : Nat) (deadline : Nat)
  | injected (scenario : Scenario)
  | exchange (purpose : Purpose) (request : Nat) (deadline : Nat)
  | activateBroadcast
  | deactivateBroadcast (caller : Caller)
  | cleanupBroadcast
  | autoStop
  | autoStopSleep
  | backup
  | backupSleep
  | broadcast (transition : Transition)
  | broadcastGathered
  | toNode (node : String) (transition : Transition)
  | toNodeReply (deadline : Nat)
  | resetNode (node : String)
  | resetNodeQuery (node : String) (deadline : Nat)
  | resetNodeDeactivated (node : String) (deadline : Nat)
  | resetNodePause (node : String)

/-- What a turn meets that the bridge does not decide. -/
structure Input where
  /-- The call in progress raises, with this text. -/
  raised : Option String := none
  /-- The reply of a SIL node, with the state it tells. -/
  nodeReply : Option NodeState := none
  /-- An injection has failed, with this text. -/
  injectionError : Option String := none

/-! ### The turns of a call -/

section Calls

variable (clients : Clients) (input : Input) (id next : TaskId)

/-- A call returns. -/
def finish (operation : Operation) (result : LifecycleResult) (world : World) :
    Turn Point World where
  state := { world with returned := world.returned ++ [⟨id, operation, result⟩] }

/-- The first part of `_change_state`: the request is sent. -/
def changeState (purpose : Purpose) (conclude : LifecycleResult → World → Turn Point World)
    (world : World) : Turn Point World :=
  if !world.available (.changeState scenarioLifecycleMgr) then
    conclude
      { success := false
        error := "Lifecycle service /scenario_lifecycle_mgr/change_state not available" } world
  else
    match input.raised with
    | some text => conclude { success := false, error := text } world
    | none =>
        { state :=
            { world with requests := world.requests ++ [{ transition := purpose.transition }] }
          next := .sleeping (.exchange purpose world.requests.length 149) }

/-- The second part: the reply is polled for. -/
def pollReply (purpose : Purpose) (request deadline : Nat)
    (conclude : LifecycleResult → World → Turn Point World) (world : World) : Turn Point World :=
  match input.raised with
  | some text => conclude { success := false, error := text } world
  | none =>
      match (world.requests[request]?).map Request.progress with
      | some (.delivered true) => conclude { success := true } world
      | some (.delivered false) =>
          conclude { success := false, error := "Transition rejected by node" } world
      | _ =>
          match deadline with
          | 0 =>
              conclude
                { success := false
                  error := "Lifecycle service call timed out (15s) — node may not be ready" } world
          | deadline + 1 =>
              { state := world, next := .sleeping (.exchange purpose request deadline) }

/-- `_broadcast_transition`, awaited. Where there is no client there is nothing to await. -/
def broadcastTransition (transition : Transition) (gathered : Point)
    (rest : World → Turn Point World) (cancels : List TaskId) (world : World) :
    Turn Point World :=
  match clients.changeState with
  | [] => { rest world with cancels := cancels ++ (rest world).cancels }
  | nodes =>
      { state := world
        cancels
        next := .gathering (nodes.map (.toNode · transition)) gathered }

/-- The end of activate(): old timers go, new ones are started. -/
def startTimers (world : World) : Turn Point World :=
  let bridge :=
    match world.bridge.simulationDuration with
    | none => world.bridge.withoutTimers
    | some _ =>
        { world.bridge.withoutTimers with
          timerTask := some next
          backupTimerTask := some (next + 1) }
  { finish id .activate { success := true } { world with bridge } with
    cancels := world.bridge.timers
    spawned :=
      match world.bridge.simulationDuration with
      | none => []
      | some _ => [.autoStop, .backup] }

def concludeActivate (result : LifecycleResult) (world : World) : Turn Point World :=
  if result.success then
    broadcastTransition clients .activate .activateBroadcast (startTimers id next) []
      { world with bridge := { world.bridge with state := .active } }
  else finish id .activate result world

def concludeDeactivate (caller : Caller) (result : LifecycleResult) (world : World) :
    Turn Point World :=
  if result.success then
    broadcastTransition clients .deactivate (.deactivateBroadcast caller)
      (finish id .deactivate { success := true }) world.bridge.timers
      { world with bridge := { world.bridge.withoutTimers with state := .inactive } }
  else finish id .deactivate result world

def deactivate (caller : Caller) (world : World) : Turn Point World :=
  if world.bridge.state = .inactive then
    { finish id .deactivate { success := true }
        { world with bridge := world.bridge.withoutTimers } with
      cancels := world.bridge.timers }
  else changeState input (.deactivate caller) (concludeDeactivate clients id caller) world

def concludeCleanup (result : LifecycleResult) (world : World) : Turn Point World :=
  if result.success then
    broadcastTransition clients .cleanup .cleanupBroadcast
      (finish id .cleanup { success := true }) world.bridge.timers
      { world with
        bridge := { world.bridge.withoutTimers with state := .unconfigured, scenarioId := none } }
  else finish id .cleanup result world

def concludeConfigure (scenario : Scenario) (result : LifecycleResult) (world : World) :
    Turn Point World :=
  if result.success then
    { finish id .configure result
        { world with
          bridge := { world.bridge with scenarioId := some scenario.id, state := .inactive } } with
      spawned := [.broadcast .configure] }
  else finish id .configure result world

/-- Step 7 of configure(). -/
def requestConfigure (scenario : Scenario) (world : World) : Turn Point World :=
  changeState input (.configure scenario) (concludeConfigure id scenario) world

/-- What follows on a reset: the cleanup route returns, configure() injects. -/
def afterReset (goal : Goal) (world : World) : Turn Point World :=
  match goal with
  | .cleanup => finish id .reset { success := true } world
  | .configure scenario =>
      match scenario.injections with
      | .ok true => { state := world, next := .sleeping (.injected scenario) }
      | _ => requestConfigure input id scenario world

/-- What follows on a reset that has failed. -/
def failedReset (goal : Goal) (result : LifecycleResult) (world : World) : Turn Point World :=
  match goal with
  | .cleanup => finish id .reset result world
  | .configure _ => finish id .configure result world

def unconfigure (goal : Goal) (world : World) : Turn Point World :=
  afterReset input id goal { world with bridge := { world.bridge with state := .unconfigured } }

def concludeResetCleanup (goal : Goal) (result : LifecycleResult) (world : World) :
    Turn Point World :=
  if result.success then unconfigure input id goal world else failedReset id goal result world

def requestResetCleanup (goal : Goal) (world : World) : Turn Point World :=
  changeState input (.resetCleanup goal) (concludeResetCleanup input id goal) world

def concludeResetDeactivate (goal : Goal) (result : LifecycleResult) (world : World) :
    Turn Point World :=
  if result.success then
    requestResetCleanup input id goal
      { world with bridge := { world.bridge with state := .inactive } }
  else failedReset id goal result world

/-- `_reset_to_unconfigured` once the state of the manager is known, or is not. -/
def resetFrom (goal : Goal) (ros2State : Option NodeState) (world : World) : Turn Point World :=
  match ros2State with
  | none | some .unconfigured | some .finalized => unconfigure input id goal world
  | some .active =>
      changeState input (.resetDeactivate goal) (concludeResetDeactivate input id goal) world
  | some .inactive => requestResetCleanup input id goal world

/-- The beginning of `_reset_to_unconfigured`. -/
def beginReset (goal : Goal) (world : World) : Turn Point World where
  state := { world with bridge := world.bridge.withoutTimers }
  cancels := world.bridge.timers
  next := .gathering (silLifecycleNodes.map .resetNode) (.resetGathered goal)

/-- The first part of `_get_ros2_state`. -/
def queryState (goal : Goal) (world : World) : Turn Point World :=
  if !world.available (.getState scenarioLifecycleMgr) || input.raised.isSome then
    resetFrom input id goal none world
  else
    { state := { world with queries := world.queries ++ [none] }
      next := .sleeping (.query goal world.queries.length 19) }

/-- The second part. -/
def pollState (goal : Goal) (query deadline : Nat) (world : World) : Turn Point World :=
  if input.raised.isSome then resetFrom input id goal none world
  else
    match world.queries[query]?.join with
    | some label => resetFrom input id goal (some label) world
    | none =>
        match deadline with
        | 0 => resetFrom input id goal none world
        | deadline + 1 => { state := world, next := .sleeping (.query goal query deadline) }

def beginCall (call : Call) (world : World) : Turn Point World :=
  match call with
  | .configure (.error text) => finish id .configure { success := false, error := text } world
  | .configure (.ok scenario) =>
      let begun :=
        { world with bridge := { world.bridge with simulationDuration := scenario.duration } }
      match scenario.injections with
      | .error text =>
          { finish id .configure { success := false, error := text }
              { begun with bridge := begun.bridge.withoutTimers } with
            cancels := begun.bridge.timers }
      | .ok _ => beginReset (.configure scenario) begun
  | .activate => changeState input .activate (concludeActivate clients id next) world
  | .deactivate => deactivate clients input id .route world
  | .cleanup => changeState input .cleanup (concludeCleanup clients id) world
  | .reset => beginReset .cleanup world

/-- What follows on the end of a request. -/
def conclude (purpose : Purpose) : LifecycleResult → World → Turn Point World :=
  match purpose with
  | .activate => concludeActivate clients id next
  | .deactivate caller => concludeDeactivate clients id caller
  | .cleanup => concludeCleanup clients id
  | .configure scenario => concludeConfigure id scenario
  | .resetDeactivate goal => concludeResetDeactivate input id goal
  | .resetCleanup goal => concludeResetCleanup input id goal

/-- configure() once the injections are over. -/
def afterInjection (scenario : Scenario) (world : World) : Turn Point World :=
  match input.injectionError with
  | some text => finish id .configure { success := false, error := text } world
  | none => requestConfigure input id scenario world

/-! ### The timers -/

/-- A timer starts to sleep, unless its duration is no number. -/
def sleepFor (sleep : Point) (world : World) : Turn Point World :=
  match world.bridge.simulationDuration with
  | some (.seconds _) => { state := world, next := .sleeping sleep }
  | _ => { state := world }

/-- The end of the backup timer. -/
def expireBackup (world : World) : Turn Point World where
  state := { world with bridge := { world.bridge with state := .inactive, timerTask := none } }
  cancels := world.bridge.timerTask.toList

/-! ### The SIL nodes -/

/-- `_broadcast_to_node`, up to its wait for the reply. -/
def broadcastToNode (node : String) (transition : Transition) (sent : Nat → Point)
    (skipped : World → Turn Point World) (world : World) : Turn Point World :=
  if !world.available (.changeState node) || input.raised.isSome then skipped world
  else
    { state := { world with sent := world.sent ++ [⟨id, node, transition⟩] }
      next := .sleeping (sent 19) }

/-- A poll of a SIL node that is asked for nothing but to answer. -/
def pollNode (again : Nat → Point) (deadline : Nat) (rest : World → Turn Point World)
    (world : World) : Turn Point World :=
  if input.raised.isSome || input.nodeReply.isSome then rest world
  else
    match deadline with
    | 0 => rest world
    | deadline + 1 => { state := world, next := .sleeping (again deadline) }

/-- A task that is over. -/
def done (world : World) : Turn Point World where
  state := world

def pauseReset (node : String) (world : World) : Turn Point World where
  state := world
  next := .sleeping (.resetNodePause node)

def cleanUpNode (node : String) (world : World) : Turn Point World :=
  broadcastToNode input id node .cleanup .toNodeReply done world

def resetSecondaryNode (node : String) (world : World) : Turn Point World :=
  if node ∈ clients.getState ∧ node ∈ clients.changeState ∧
      world.available (.getState node) ∧ input.raised.isNone then
    { state := world, next := .sleeping (.resetNodeQuery node 9) }
  else done world

def pollSecondaryNode (node : String) (deadline : Nat) (world : World) : Turn Point World :=
  if input.raised.isSome then done world
  else
    match input.nodeReply with
    | some .active =>
        broadcastToNode input id node .deactivate (.resetNodeDeactivated node) (pauseReset node)
          world
    | some .inactive => cleanUpNode input id node world
    | some _ => done world
    | none =>
        match deadline with
        | 0 => done world
        | deadline + 1 => { state := world, next := .sleeping (.resetNodeQuery node deadline) }

/-! ### The program -/

def turn (point : Point) (world : World) : Turn Point World :=
  match point with
  | .call call => beginCall clients input id next call world
  | .resetGathered goal => queryState input id goal world
  | .query goal query deadline => pollState input id goal query deadline world
  | .injected scenario => afterInjection input id scenario world
  | .exchange purpose request deadline =>
      pollReply input purpose request deadline (conclude clients input id next purpose) world
  | .activateBroadcast => startTimers id next world
  | .deactivateBroadcast _ => finish id .deactivate { success := true } world
  | .cleanupBroadcast => finish id .cleanup { success := true } world
  | .autoStop => sleepFor .autoStopSleep world
  | .autoStopSleep => deactivate clients input id .timer world
  | .backup => sleepFor .backupSleep world
  | .backupSleep => expireBackup world
  | .broadcast transition => broadcastTransition clients transition .broadcastGathered done [] world
  | .broadcastGathered => done world
  | .toNode node transition => broadcastToNode input id node transition .toNodeReply done world
  | .toNodeReply deadline => pollNode input .toNodeReply deadline done world
  | .resetNode node => resetSecondaryNode clients input node world
  | .resetNodeQuery node deadline => pollSecondaryNode input id node deadline world
  | .resetNodeDeactivated node deadline =>
      pollNode input (.resetNodeDeactivated node) deadline (pauseReset node) world
  | .resetNodePause node => cleanUpNode input id node world

end Calls

/-- What happens outside of the bridge. -/
inductive Event where
  | carryOut (request : Nat) (outcome : Outcome)
  | deliver (request : Nat)
  | tell (query : Nat)
  | availability (available : Service → Bool)

/-- The manager after a transition that was asked of it, and whether it was a success. -/
def NodeState.carryOut (mgr : NodeState) (transition : Transition) (outcome : Outcome) :
    NodeState × Bool :=
  match mgr.after transition, outcome with
  | some later, .success => (later, true)
  | some _, .failure => (mgr, false)
  | some _, .error recovered => (if recovered then unconfigured else finalized, false)
  | none, _ => (mgr, false)

namespace World

def carryOut (world : World) (request : Nat) (outcome : Outcome) : World :=
  match world.requests[request]? with
  | some ⟨transition, .pending⟩ =>
      let (mgr, success) := world.mgr.carryOut transition outcome
      { world with
        mgr
        requests := world.requests.set request ⟨transition, .carriedOut success⟩ }
  | _ => world

def deliver (world : World) (request : Nat) : World :=
  match world.requests[request]? with
  | some ⟨transition, .carriedOut success⟩ =>
      { world with requests := world.requests.set request ⟨transition, .delivered success⟩ }
  | _ => world

def outside : Event → World → World
  | .carryOut request outcome, world => world.carryOut request outcome
  | .deliver request, world => world.deliver request
  | .tell query, world =>
      { world with queries := world.queries.modify query fun told => some (told.getD world.mgr) }
  | .availability available, world => { world with available }

end World

/-- The bridge as a program. A cancelled task ends where the cancellation is delivered. -/
def program (clients : Clients) : Asyncio.Program Point World Input Call Event where
  entry := .call
  turn := turn clients
  thrown _ world := done world
  outside := World.outside

abbrev Loop := Asyncio.Loop Point World

abbrev Step := Asyncio.Step Input Call Event

def Loop.next (clients : Clients) (loop : Loop) (step : Step) : Loop :=
  Asyncio.Loop.step (program clients) loop step

/-- The loop after a run from the construction of the bridge. -/
def after (clients : Clients) (steps : List Step) : Loop :=
  Runs.run (Loop.next clients) { state := {} } steps

end MassL3.SilOrchestrator
