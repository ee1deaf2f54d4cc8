/-
This file says what a turn of the bridge can do at all, whatever its point: it does not move the
manager, it adds at most a request, what it sends and returns bears its own task, and it does not
forget a timer that it has not cancelled. The turns are built from a few parts, each of which goes
on with what it is given. So a fact about turns is carried through each part once.
-/

import MassTdl.SilOrchestrator.LifecycleBridge

namespace MassL3.SilOrchestrator

open Asyncio (TaskId Turn Next)

/-! ### Facts carried through the parts of a turn -/

section Parts

variable {clients : Clients} {input : Input} {id next : TaskId} {world : World}
  {conclude : LifecycleResult → World → Turn Point World} {rest : World → Turn Point World}
  (Good : Turn Point World → Prop)

theorem changeState_of (purpose : Purpose)
    (fails : ∀ result : LifecycleResult, result.success = false → Good (conclude result world))
    (sends : Good
      { state := { world with requests := world.requests ++ [{ transition := purpose.transition }] }
        next := .sleeping (.exchange purpose world.requests.length 149) }) :
    Good (changeState input purpose conclude world) := by
  unfold changeState
  split_ifs
  · exact fails _ rfl
  · split
    · exact fails _ rfl
    · exact sends

theorem pollReply_of (purpose : Purpose) (request deadline : Nat)
    (fails : ∀ result : LifecycleResult, result.success = false → Good (conclude result world))
    (succeeds : input.raised = none →
      (world.requests[request]?).map Request.progress = some (.delivered true) →
      Good (conclude { success := true } world))
    (waits : ∀ left, deadline = left + 1 →
      Good { state := world, next := .sleeping (.exchange purpose request left) }) :
    Good (pollReply input purpose request deadline conclude world) := by
  unfold pollReply
  split
  · exact fails _ rfl
  case h_2 raised =>
    split
    case h_1 replied => exact succeeds raised replied
    · exact fails _ rfl
    · split
      · exact fails _ rfl
      · exact waits _ rfl

theorem broadcastTransition_of (transition : Transition) (gathered : Point)
    (cancels : List TaskId)
    (nobody : Good { rest world with cancels := cancels ++ (rest world).cancels })
    (gathers : Good
      { state := world
        cancels
        next := .gathering (clients.changeState.map (.toNode · transition)) gathered }) :
    Good (broadcastTransition clients transition gathered rest cancels world) := by
  unfold broadcastTransition
  split
  · exact nobody
  · exact gathers

theorem queryState_of (goal : Goal) (unknown : Good (resetFrom input id goal none world))
    (asks : Good
      { state := { world with queries := world.queries ++ [none] }
        next := .sleeping (.query goal world.queries.length 19) }) :
    Good (queryState input id goal world) := by
  unfold queryState
  split_ifs
  exacts [unknown, asks]

theorem pollState_of (goal : Goal) (query deadline : Nat)
    (ends : ∀ label, Good (resetFrom input id goal label world))
    (waits : ∀ left, deadline = left + 1 →
      Good { state := world, next := .sleeping (.query goal query left) }) :
    Good (pollState input id goal query deadline world) := by
  unfold pollState
  split_ifs
  · exact ends none
  · split
    · exact ends _
    · split
      · exact ends none
      · exact waits _ rfl

theorem broadcastToNode_of {sent : Nat → Point} (node : String) (transition : Transition)
    (skips : Good (rest world))
    (sends : Good
      { state := { world with sent := world.sent ++ [⟨id, node, transition⟩] }
        next := .sleeping (sent 19) }) :
    Good (broadcastToNode input id node transition sent rest world) := by
  unfold broadcastToNode
  split_ifs
  exacts [skips, sends]

theorem pollNode_of {again : Nat → Point} (deadline : Nat) (ends : Good (rest world))
    (waits : ∀ left, Good { state := world, next := .sleeping (again left) }) :
    Good (pollNode input again deadline rest world) := by
  unfold pollNode
  split_ifs
  · exact ends
  · split
    · exact ends
    · exact waits _

/-- An exchange that fails ends its call. -/
theorem conclude_failed (clients : Clients) (input : Input) (id next : TaskId) (world : World)
    (purpose : Purpose) {result : LifecycleResult} (failed : result.success = false) :
    ∃ operation, SilOrchestrator.conclude clients input id next purpose result world =
      finish id operation result world := by
  have unsuccessful : ¬ result.success = true := Bool.eq_false_iff.mp failed
  cases purpose with
  | activate => exact ⟨.activate, if_neg unsuccessful⟩
  | deactivate caller => exact ⟨.deactivate, if_neg unsuccessful⟩
  | cleanup => exact ⟨.cleanup, if_neg unsuccessful⟩
  | configure scenario => exact ⟨.configure, if_neg unsuccessful⟩
  | resetDeactivate goal =>
    cases goal with
    | cleanup => exact ⟨.reset, if_neg unsuccessful⟩
    | configure scenario => exact ⟨.configure, if_neg unsuccessful⟩
  | resetCleanup goal =>
    cases goal with
    | cleanup => exact ⟨.reset, if_neg unsuccessful⟩
    | configure scenario => exact ⟨.configure, if_neg unsuccessful⟩

/-- A request that is asked for is sent, or its call ends. -/
theorem changeState_conclude (purpose : Purpose)
    (finishes : ∀ operation (result : LifecycleResult), result.success = false →
      Good (finish id operation result world))
    (sends : Good
      { state := { world with requests := world.requests ++ [{ transition := purpose.transition }] }
        next := .sleeping (.exchange purpose world.requests.length 149) }) :
    Good (changeState input purpose (SilOrchestrator.conclude clients input id next purpose)
      world) := by
  refine changeState_of Good purpose (fun result failed => ?_) sends
  obtain ⟨operation, isFinish⟩ := conclude_failed clients input id next world purpose failed
  rw [isFinish]
  exact finishes operation result failed

end Parts

/-! ### The effect of a turn -/

/-- What a task is there for. It is so at each of its points. -/
inductive Role where
  | call (operation : Operation)
  | timer
  | backup
  | broadcast
  | node
  deriving DecidableEq

def Goal.operation : Goal → Operation
  | cleanup => .reset
  | configure _ => .configure

def Call.operation : Call → Operation
  | configure _ => .configure
  | activate => .activate
  | deactivate => .deactivate
  | cleanup => .cleanup
  | reset => .reset

def Caller.role : Caller → Role
  | route => .call .deactivate
  | timer => .timer

def Purpose.role : Purpose → Role
  | activate => .call .activate
  | deactivate caller => caller.role
  | cleanup => .call .cleanup
  | configure _ => .call .configure
  | resetDeactivate goal => .call goal.operation
  | resetCleanup goal => .call goal.operation

def Point.role : Point → Role
  | call begun => .call begun.operation
  | resetGathered goal => .call goal.operation
  | query goal _ _ => .call goal.operation
  | injected _ => .call .configure
  | exchange purpose _ _ => purpose.role
  | activateBroadcast => .call .activate
  | deactivateBroadcast caller => caller.role
  | cleanupBroadcast => .call .cleanup
  | autoStop => .timer
  | autoStopSleep => .timer
  | backup => .backup
  | backupSleep => .backup
  | broadcast _ => .broadcast
  | broadcastGathered => .broadcast
  | toNode _ _ => .node
  | toNodeReply _ => .node
  | resetNode _ => .node
  | resetNodeQuery _ _ => .node
  | resetNodeDeactivated _ _ => .node
  | resetNodePause _ => .node

/-- What a turn of a task leaves alone, and what it may add. -/
structure Effect (id next : TaskId) (world : World) (turn : Turn Point World) (role : Role) :
    Prop where
  mgr : turn.state.mgr = world.mgr
  /-- The requests in flight stay as they are. -/
  requests : ∃ transitions : List Transition,
    turn.state.requests = world.requests ++ transitions.map ({ transition := · })
  /-- The auto-stop timer is not forgotten without being cancelled. -/
  timer : turn.state.bridge.timerTask = world.bridge.timerTask ∨
    ∀ timer ∈ world.bridge.timerTask, timer ∈ turn.cancels
  /-- A turn that starts timers keeps note of them. -/
  spawned : (∀ point ∈ turn.spawned, point = .broadcast .configure) ∨
    turn.spawned = [.autoStop, .backup] ∧ turn.state.bridge.timerTask = some next
  role : ∀ point, turn.next.point = some point → point.role = role
  children : ∀ point ∈ turn.next.children, point.role = .node
  sent : ∃ new : List Sent, turn.state.sent = world.sent ++ new ∧ ∀ sent ∈ new, sent.sender = id
  returned : ∃ new : List Returned,
    turn.state.returned = world.returned ++ new ∧ ∀ returned ∈ new, returned.task = id

section Effects

variable {clients : Clients} {input : Input} {id next : TaskId} {world : World} {role : Role}

/-- A turn that adds nothing, or one thing, to a record. -/
theorem nothing_added {Entry : Type} {own : Entry → Prop} (values : List Entry) :
    ∃ new, values = values ++ new ∧ ∀ entry ∈ new, own entry :=
  ⟨[], (List.append_nil _).symm, List.forall_mem_nil _⟩

theorem one_added {Entry : Type} {own : Entry → Prop} {entry : Entry} (values : List Entry)
    (isOwn : own entry) :
    ∃ new, values ++ [entry] = values ++ new ∧ ∀ entry ∈ new, own entry :=
  ⟨[entry], rfl, List.forall_mem_singleton.mpr isOwn⟩

/-- What the effect of a turn does not depend on. -/
theorem Effect.of_bridge {turn : Turn Point World} (bridge : Bridge)
    (sameTimer : bridge.timerTask = world.bridge.timerTask)
    (effect : Effect id next { world with bridge } turn role) :
    Effect id next world turn role where
  mgr := effect.mgr
  requests := effect.requests
  timer := sameTimer ▸ effect.timer
  spawned := effect.spawned
  role := effect.role
  children := effect.children
  sent := effect.sent
  returned := effect.returned

/-- The cancellation of both timers, in a turn that starts none. -/
theorem Effect.cancelling (turn : Turn Point World) {bridge : Bridge} {cancels : List TaskId}
    (effect : Effect id next { world with bridge } turn role)
    (unspawned : ∀ point ∈ turn.spawned, point = .broadcast .configure)
    (cancelled : world.bridge.timers ⊆ cancels) :
    Effect id next world { turn with cancels } role where
  mgr := effect.mgr
  requests := effect.requests
  timer := Or.inr fun _ isTimer =>
    cancelled (List.mem_append_left _ (Option.mem_toList.mpr isTimer))
  spawned := Or.inl unspawned
  role := effect.role
  children := effect.children
  sent := effect.sent
  returned := effect.returned

/-- A turn that only goes on to another point. -/
theorem effect_next {later : Next Point} {queries : List (Option NodeState)}
    (same : ∀ point, later.point = some point → point.role = role)
    (children : ∀ point ∈ later.children, point.role = .node) :
    Effect id next world { state := { world with queries }, next := later } role where
  mgr := rfl
  requests := ⟨[], (List.append_nil _).symm⟩
  timer := Or.inl rfl
  spawned := Or.inl (List.forall_mem_nil _)
  role := same
  children := children
  sent := nothing_added _
  returned := nothing_added _

theorem effect_done : Effect id next world (done world) role :=
  effect_next (fun _ absent => by cases absent) fun _ absent => by cases absent

theorem effect_sleep {queries : List (Option NodeState)} (point : Point) :
    Effect id next world { state := { world with queries }, next := .sleeping point } point.role :=
  effect_next (fun _ isPoint => Option.some.inj isPoint ▸ rfl) fun _ absent => by cases absent

/-- A turn that gathers the requests to nodes. -/
theorem effect_gather (point : Point) (nodes : List String) (toNode : String → Point)
    (isNodeTask : ∀ node, (toNode node).role = .node) :
    Effect id next world { state := world, next := .gathering (nodes.map toNode) point }
      point.role := by
  refine effect_next (fun _ isPoint => Option.some.inj isPoint ▸ rfl) fun child member => ?_
  obtain ⟨node, -, rfl⟩ := List.mem_map.mp member
  exact isNodeTask node

theorem effect_finish (operation : Operation) (result : LifecycleResult) :
    Effect id next world (finish id operation result world) role where
  mgr := rfl
  requests := ⟨[], (List.append_nil _).symm⟩
  timer := Or.inl rfl
  spawned := Or.inl (List.forall_mem_nil _)
  role _ absent := by cases absent
  children := List.forall_mem_nil _
  sent := nothing_added _
  returned := one_added _ rfl

theorem effect_changeState {conclude : LifecycleResult → World → Turn Point World}
    (purpose : Purpose)
    (concludes : ∀ result : LifecycleResult, result.success = false →
      Effect id next world (conclude result world) purpose.role) :
    Effect id next world (changeState input purpose conclude world) purpose.role := by
  refine changeState_of (Effect id next world · purpose.role) purpose concludes ?_
  exact
    { mgr := rfl
      requests := ⟨[purpose.transition], rfl⟩
      timer := Or.inl rfl
      spawned := Or.inl (List.forall_mem_nil _)
      role := fun _ isPoint => Option.some.inj isPoint ▸ rfl
      children := List.forall_mem_nil _
      sent := nothing_added _
      returned := nothing_added _ }

theorem effect_startTimers : Effect id next world (startTimers id next world) role := by
  unfold startTimers
  cases world.bridge.simulationDuration with
  | none =>
    exact Effect.cancelling _ (effect_finish .activate { success := true })
      (fun _ absent => by cases absent) (List.Subset.refl _)
  | some duration =>
    exact
      { mgr := rfl
        requests := ⟨[], (List.append_nil _).symm⟩
        timer := Or.inr fun timer isTimer =>
          List.mem_append_left _ (Option.mem_toList.mpr isTimer)
        spawned := Or.inr ⟨rfl, rfl⟩
        role := fun _ absent => by cases absent
        children := List.forall_mem_nil _
        sent := nothing_added _
        returned := one_added _ rfl }

theorem effect_concludeActivate (result : LifecycleResult) :
    Effect id next world (concludeActivate clients id next result world) (.call .activate) := by
  unfold concludeActivate
  split_ifs
  · refine Effect.of_bridge { world.bridge with state := .active } rfl ?_
    exact broadcastTransition_of (Effect id next _ · _) .activate .activateBroadcast []
      effect_startTimers (effect_gather .activateBroadcast _ _ fun _ => rfl)
  · exact effect_finish .activate result

/-- A broadcast after which the call returns, in a turn that has cancelled the timers. -/
theorem effect_broadcastTransition {bridge : Bridge} (transition : Transition) (gathered : Point)
    (operation : Operation) :
    Effect id next world
      (broadcastTransition clients transition gathered (finish id operation { success := true })
        world.bridge.timers { world with bridge }) gathered.role := by
  refine broadcastTransition_of (Effect id next world · gathered.role) transition gathered _ ?_ ?_
  · exact Effect.cancelling _ (effect_finish operation { success := true })
      (fun _ absent => by cases absent) (List.subset_append_left _ _)
  · exact Effect.cancelling { state := { world with bridge }, next := _ }
      (effect_gather gathered _ _ fun _ => rfl) (fun _ absent => by cases absent)
      (List.Subset.refl _)

theorem effect_concludeDeactivate (caller : Caller) (result : LifecycleResult) :
    Effect id next world (concludeDeactivate clients id caller result world) caller.role := by
  unfold concludeDeactivate
  split_ifs
  · exact effect_broadcastTransition .deactivate (.deactivateBroadcast caller) .deactivate
  · exact effect_finish .deactivate result

theorem effect_concludeCleanup (result : LifecycleResult) :
    Effect id next world (concludeCleanup clients id result world) (.call .cleanup) := by
  unfold concludeCleanup
  split_ifs
  · exact effect_broadcastTransition .cleanup .cleanupBroadcast .cleanup
  · exact effect_finish .cleanup result

theorem effect_deactivate (caller : Caller) :
    Effect id next world (deactivate clients input id caller world) caller.role := by
  unfold deactivate
  split_ifs
  · exact Effect.cancelling _ (effect_finish .deactivate { success := true })
      (fun _ absent => by cases absent) (List.Subset.refl _)
  · exact effect_changeState (.deactivate caller) fun result _ =>
      effect_concludeDeactivate caller result

theorem effect_concludeConfigure (scenario : Scenario) (result : LifecycleResult) :
    Effect id next world (concludeConfigure id scenario result world) role := by
  unfold concludeConfigure
  split_ifs
  · exact
      { mgr := rfl
        requests := ⟨[], (List.append_nil _).symm⟩
        timer := Or.inl rfl
        spawned := Or.inl fun _ member => List.mem_singleton.mp member
        role := fun _ absent => by cases absent
        children := List.forall_mem_nil _
        sent := nothing_added _
        returned := one_added _ rfl }
  · exact effect_finish .configure result

theorem effect_requestConfigure (scenario : Scenario) :
    Effect id next world (requestConfigure input id scenario world) (.call .configure) :=
  effect_changeState (.configure scenario) fun result _ =>
    effect_concludeConfigure scenario result

theorem effect_unconfigure (goal : Goal) :
    Effect id next world (unconfigure input id goal world) (.call goal.operation) := by
  unfold unconfigure afterReset
  refine Effect.of_bridge { world.bridge with state := .unconfigured } rfl ?_
  cases goal with
  | cleanup => exact effect_finish .reset { success := true }
  | configure scenario =>
    dsimp only
    split
    · exact effect_sleep (.injected scenario)
    · exact effect_requestConfigure scenario

theorem effect_failedReset (goal : Goal) (result : LifecycleResult) :
    Effect id next world (failedReset id goal result world) role := by
  cases goal with
  | cleanup => exact effect_finish .reset result
  | configure => exact effect_finish .configure result

theorem effect_concludeResetCleanup (goal : Goal) (result : LifecycleResult) :
    Effect id next world (concludeResetCleanup input id goal result world)
      (.call goal.operation) := by
  unfold concludeResetCleanup
  split_ifs
  exacts [effect_unconfigure goal, effect_failedReset goal result]

theorem effect_requestResetCleanup (goal : Goal) :
    Effect id next world (requestResetCleanup input id goal world) (.call goal.operation) :=
  effect_changeState (.resetCleanup goal) fun result _ => effect_concludeResetCleanup goal result

theorem effect_concludeResetDeactivate (goal : Goal) (result : LifecycleResult) :
    Effect id next world (concludeResetDeactivate input id goal result world)
      (.call goal.operation) := by
  unfold concludeResetDeactivate
  split_ifs
  · exact Effect.of_bridge { world.bridge with state := .inactive } rfl
      (effect_requestResetCleanup goal)
  · exact effect_failedReset goal result

theorem effect_resetFrom (goal : Goal) (label : Option NodeState) :
    Effect id next world (resetFrom input id goal label world) (.call goal.operation) := by
  rcases label with _ | _ | _ | _ | _
  · exact effect_unconfigure goal
  · exact effect_unconfigure goal
  · exact effect_requestResetCleanup goal
  · exact effect_changeState (.resetDeactivate goal) fun result _ =>
      effect_concludeResetDeactivate goal result
  · exact effect_unconfigure goal

theorem effect_beginReset (goal : Goal) :
    Effect id next world (beginReset goal world) (.call goal.operation) :=
  Effect.cancelling { state := { world with bridge := _ }, next := _ }
    (effect_gather (.resetGathered goal) _ _ fun _ => rfl) (fun _ absent => by cases absent)
    (List.Subset.refl _)

theorem effect_conclude (purpose : Purpose) (result : LifecycleResult) :
    Effect id next world (conclude clients input id next purpose result world) purpose.role := by
  cases purpose with
  | activate => exact effect_concludeActivate result
  | deactivate caller => exact effect_concludeDeactivate caller result
  | cleanup => exact effect_concludeCleanup result
  | configure scenario => exact effect_concludeConfigure scenario result
  | resetDeactivate goal => exact effect_concludeResetDeactivate goal result
  | resetCleanup goal => exact effect_concludeResetCleanup goal result

theorem effect_beginCall (call : Call) :
    Effect id next world (beginCall clients input id next call world) (.call call.operation) := by
  cases call with
  | configure scenario =>
    cases scenario with
    | error text => exact effect_finish .configure { success := false, error := text }
    | ok scenario =>
      refine Effect.of_bridge { world.bridge with simulationDuration := scenario.duration } rfl ?_
      unfold beginCall
      dsimp only
      split
      · exact Effect.cancelling _ (effect_finish .configure { success := false, error := _ })
          (fun _ absent => by cases absent) (List.Subset.refl _)
      · exact effect_beginReset (.configure scenario)
  | activate =>
    exact effect_changeState .activate fun result _ => effect_concludeActivate result
  | deactivate => exact effect_deactivate .route
  | cleanup => exact effect_changeState .cleanup fun result _ => effect_concludeCleanup result
  | reset => exact effect_beginReset .cleanup

theorem effect_broadcastToNode {rest : World → Turn Point World} {sent : Nat → Point}
    (node : String) (transition : Transition) (skips : Effect id next world (rest world) .node)
    (isNodeTask : (sent 19).role = .node) :
    Effect id next world (broadcastToNode input id node transition sent rest world) .node := by
  refine broadcastToNode_of (Effect id next world · .node) node transition skips ?_
  exact
    { mgr := rfl
      requests := ⟨[], (List.append_nil _).symm⟩
      timer := Or.inl rfl
      spawned := Or.inl (List.forall_mem_nil _)
      role := fun _ isPoint => Option.some.inj isPoint ▸ isNodeTask
      children := List.forall_mem_nil _
      sent := one_added _ rfl
      returned := nothing_added _ }

theorem effect_expireBackup : Effect id next world (expireBackup world) role where
  mgr := rfl
  requests := ⟨[], (List.append_nil _).symm⟩
  timer := Or.inr fun _ isTimer => Option.mem_toList.mpr isTimer
  spawned := Or.inl (List.forall_mem_nil _)
  role _ absent := by cases absent
  children := List.forall_mem_nil _
  sent := nothing_added _
  returned := nothing_added _

theorem effect_sleepFor (sleep : Point) :
    Effect id next world (sleepFor sleep world) sleep.role := by
  unfold sleepFor
  split
  exacts [effect_sleep sleep, effect_done]

theorem effect_pollSecondaryNode (node : String) (deadline : Nat) :
    Effect id next world (pollSecondaryNode input id node deadline world) .node := by
  unfold pollSecondaryNode
  split_ifs
  · exact effect_done
  · split
    · exact effect_broadcastToNode node .deactivate (effect_sleep (.resetNodePause node)) rfl
    · exact effect_broadcastToNode node .cleanup effect_done rfl
    · exact effect_done
    · split
      exacts [effect_done, effect_sleep (.resetNodeQuery node _)]

/-- No turn of the bridge does more than this. -/
theorem effect_turn (clients : Clients) (input : Input) (id next : TaskId) (world : World)
    (point : Point) :
    Effect id next world (turn clients input id next point world) point.role := by
  cases point with
  | call call => exact effect_beginCall call
  | resetGathered goal =>
    exact queryState_of (Effect id next world · _) goal (effect_resetFrom goal none)
      (effect_sleep (.query goal _ 19))
  | query goal query deadline =>
    exact pollState_of (Effect id next world · _) goal query deadline (effect_resetFrom goal)
      fun left _ => effect_sleep (.query goal query left)
  | injected scenario =>
    unfold turn afterInjection
    dsimp only
    split
    · exact effect_finish .configure _
    · exact effect_requestConfigure scenario
  | exchange purpose request deadline =>
    exact pollReply_of (Effect id next world · _) purpose request deadline
      (fun result _ => effect_conclude purpose result) (fun _ _ => effect_conclude purpose _)
      fun left _ => effect_sleep (.exchange purpose request left)
  | activateBroadcast => exact effect_startTimers
  | deactivateBroadcast => exact effect_finish .deactivate _
  | cleanupBroadcast => exact effect_finish .cleanup _
  | autoStop => exact effect_sleepFor .autoStopSleep
  | autoStopSleep => exact effect_deactivate .timer
  | backup => exact effect_sleepFor .backupSleep
  | backupSleep => exact effect_expireBackup
  | broadcast transition =>
    exact broadcastTransition_of (Effect id next world · _) transition .broadcastGathered []
      effect_done (effect_gather .broadcastGathered _ _ fun _ => rfl)
  | broadcastGathered => exact effect_done
  | toNode node transition => exact effect_broadcastToNode node transition effect_done rfl
  | toNodeReply deadline =>
    exact pollNode_of (Effect id next world · _) deadline effect_done
      fun left => effect_sleep (.toNodeReply left)
  | resetNode node =>
    unfold turn resetSecondaryNode
    dsimp only
    split_ifs
    exacts [effect_sleep (.resetNodeQuery node 9), effect_done]
  | resetNodeQuery node deadline => exact effect_pollSecondaryNode node deadline
  | resetNodeDeactivated node deadline =>
    exact pollNode_of (Effect id next world · _) deadline (effect_sleep (.resetNodePause node))
      fun left => effect_sleep (.resetNodeDeactivated node left)
  | resetNodePause node => exact effect_broadcastToNode node .cleanup effect_done rfl

end Effects

end MassL3.SilOrchestrator
