/-
This file follows the auto-stop timer from its expiry to the nodes it is to stop. The timer's task
runs deactivate() itself, so the cancellation of the timer that deactivate() makes is one of the
task it runs in. It is delivered at the next await, which is the one that gathers the requests to
the nodes: each of them is cancelled before its first turn, and none is sent.
-/

import MassTdl.SilOrchestrator.Turns

namespace MassL3.SilOrchestrator

open Asyncio (TaskId Turn Status Next)

/-! ### What the timer is to do -/

/-- The auto-stop task reads that the manager has accepted DEACTIVATE. -/
def Accepts (loop : Loop) (id : TaskId) (input : Input) : Prop :=
  ∃ request deadline,
    loop.tasks[id]?.bind Status.runs = some (.exchange (.deactivate .timer) request deadline) ∧
      input.raised = none ∧
      (loop.state.requests[request]?).map Request.progress = some (.delivered true)

/-- A node's service is there in every state of a run. -/
def AvailableThroughout (clients : Clients) (loop : Loop) (steps : List Step) (node : String) :
    Prop :=
  ∀ count, (Runs.stateAt (Loop.next clients) loop steps count).state.available
    (.changeState node) = true

/-- The end of a task in a run. -/
def Over (clients : Clients) (loop : Loop) (steps : List Step) (id : TaskId) : Prop :=
  (Runs.run (Loop.next clients) loop steps).tasks[id]?.any Status.isFinished = true

/-- Each time the auto-stop is accepted, by the end of its task every registered node whose service
was there all along has been sent DEACTIVATE by the broadcast that the acceptance begins. -/
def AutoStopsNodes (clients : Clients) (steps : List Step) : Prop :=
  ∀ front id input rest, steps = front ++ .run id input :: rest →
    Accepts (after clients front) id input →
    Over clients (after clients (front ++ [.run id input])) rest id →
    ∀ number node, clients.changeState[number]? = some node →
      AvailableThroughout clients (after clients (front ++ [.run id input])) rest node →
      ⟨(after clients front).tasks.length + number, node, .deactivate⟩ ∈
        (after clients steps).state.sent

/-- In no such time is the service of a registered node there all along. -/
def NoNodeThere (clients : Clients) (steps : List Step) : Prop :=
  ∀ front id input rest, steps = front ++ .run id input :: rest →
    Accepts (after clients front) id input →
    Over clients (after clients (front ++ [.run id input])) rest id →
    ∀ node ∈ clients.changeState,
      ¬ AvailableThroughout clients (after clients (front ++ [.run id input])) rest node

/-! ### Every run keeps note of its timer -/

section Runs

variable {clients : Clients} {loop : Loop} {id : TaskId} {input : Input} {status : Status Point}
  {point : Point}

/-- An auto-stop task that is not cancelled is the bridge's timer, and what has been sent was sent
by a task. -/
structure Timed (loop : Loop) : Prop where
  timer : ∀ id point, loop.tasks[id]?.bind Status.point = some point → point.role = .timer →
    loop.state.bridge.timerTask = some id
  sent : ∀ sent ∈ loop.state.sent, sent.sender < loop.tasks.length

/-- What happens outside leaves the bridge and its messages alone. -/
theorem outside_frame (event : Event) (world : World) :
    (world.outside event).bridge = world.bridge ∧ (world.outside event).sent = world.sent := by
  cases event with
  | carryOut request outcome =>
    unfold World.outside World.carryOut
    dsimp only
    split <;> exact ⟨rfl, rfl⟩
  | deliver request =>
    unfold World.outside World.deliver
    dsimp only
    split <;> exact ⟨rfl, rfl⟩
  | tell query => exact ⟨rfl, rfl⟩
  | availability available => exact ⟨rfl, rfl⟩

theorem timed_turn (timed : Timed loop) (present : loop.tasks[id]? = some status)
    (runs : status.runs = some point) :
    Timed (loop.settle id (turn clients input id loop.tasks.length point loop.state)) := by
  have effect : Effect id loop.tasks.length loop.state
      (turn clients input id loop.tasks.length point loop.state) point.role :=
    effect_turn clients input id loop.tasks.length loop.state point
  have before : id < loop.tasks.length := (List.getElem?_eq_some_iff.mp present).1
  -- A timer that the turn has not cancelled is still the bridge's.
  have kept : ∀ other, loop.state.bridge.timerTask = some other →
      other ∉ (turn clients input id loop.tasks.length point loop.state).cancels →
      (turn clients input id loop.tasks.length point loop.state).state.bridge.timerTask =
        some other := by
    intro other isTimer uncancelled
    rcases effect.timer with same | cancelled
    · exact same.trans isTimer
    · exact absurd (cancelled other isTimer) uncancelled
  constructor
  · intro other later isAt isTimer
    rcases Asyncio.Loop.point_settle (present ▸ rfl) isAt with
      ⟨rfl, isNext, uncancelled⟩ | ⟨wasAt, uncancelled⟩ | ⟨number, isSpawned, rfl⟩ | isChild
    · refine kept other (timed.timer other point ?_ ?_) uncancelled
      · rw [present, Option.bind_some]
        exact Status.point_of_runs runs
      · rw [← effect.role later isNext]
        exact isTimer
    · exact kept other (timed.timer other later wasAt isTimer) uncancelled
    · rcases effect.spawned with plain | ⟨timers, isNoted⟩
      · rw [plain later (List.mem_of_getElem? isSpawned)] at isTimer
        cases isTimer
      · rw [timers] at isSpawned
        rcases number with _ | _ | number
        · exact isNoted
        · rw [← Option.some.inj isSpawned] at isTimer
          cases isTimer
        · cases isSpawned
    · rw [effect.children later isChild] at isTimer
      cases isTimer
  · obtain ⟨new, isSent, own⟩ := effect.sent
    intro sent member
    refine lt_of_lt_of_le ?_ Asyncio.Loop.length_settle_ge
    change sent ∈ (turn clients input id loop.tasks.length point loop.state).state.sent at member
    rw [isSent] at member
    rcases List.mem_append.mp member with old | added
    · exact timed.sent sent old
    · rw [own sent added]
      exact before

/-- A status that tells as much of a task's point does not matter. -/
theorem timed_set {later : Status Point} (timed : Timed loop)
    (present : loop.tasks[id]? = some status) (same : later.point = status.point) :
    Timed { loop with tasks := loop.tasks.set id later } := by
  constructor
  · intro other point isAt
    rw [Asyncio.bind_set present same] at isAt
    exact timed.timer other point isAt
  · intro sent member
    change _ < (loop.tasks.set id later).length
    rw [List.length_set]
    exact timed.sent sent member

theorem timed_next (timed : Timed loop) (step : Step) : Timed (loop.next clients step) := by
  have moves := loop.moves_step (program clients) step
  change Timed (Asyncio.Loop.step (program clients) loop step)
  generalize Asyncio.Loop.step (program clients) loop step = later at moves
  cases moves with
  | idle => exact timed
  | resting => exact timed
  | readied _ _ id own moved present alive samePoint => exact timed_set timed present samePoint
  | stillborn id input point present => exact timed_set timed present rfl
  | turned id input own point present runs => exact timed_turn timed present runs
  | threw id input point present =>
    have before : id < loop.tasks.length := (List.getElem?_eq_some_iff.mp present).1
    constructor
    · intro other later isAt isTimer
      rcases Asyncio.Loop.point_settle (present ▸ rfl) isAt with
        ⟨-, absent, -⟩ | ⟨wasAt, -⟩ | ⟨number, absent, -⟩ | absent
      · cases absent
      · exact timed.timer other later wasAt isTimer
      · cases absent
      · cases absent
    · intro sent member
      exact lt_of_lt_of_le (timed.sent sent member) Asyncio.Loop.length_settle_ge
  | called call =>
    constructor
    · intro other later isAt isTimer
      rcases Nat.lt_or_ge other loop.tasks.length with before | created
      · refine timed.timer other later ?_ isTimer
        rw [← isAt]
        exact congrArg (·.bind Status.point) (List.getElem?_append_left before).symm
      · change ((loop.tasks ++ [.created (Point.call call) false])[other]?).bind Status.point =
          some later at isAt
        rw [List.getElem?_append_right created] at isAt
        obtain ⟨status, isStatus, isPoint⟩ := Option.bind_eq_some_iff.mp isAt
        rw [List.mem_singleton.mp (List.mem_of_getElem? isStatus)] at isPoint
        rw [← Option.some.inj isPoint] at isTimer
        cases isTimer
    · intro sent member
      change _ < (loop.tasks ++ [_]).length
      rw [List.length_append]
      exact Nat.lt_add_right _ (timed.sent sent member)
  | disturbed event =>
    obtain ⟨sameBridge, sameSent⟩ := outside_frame event loop.state
    constructor
    · intro other later isAt isTimer
      change (loop.state.outside event).bridge.timerTask = some other
      rw [sameBridge]
      exact timed.timer other later isAt isTimer
    · intro sent member
      change sent ∈ (loop.state.outside event).sent at member
      rw [sameSent] at member
      exact timed.sent sent member

theorem timed_after (steps : List Step) : Timed (after clients steps) :=
  Runs.run_invariant Timed
    ⟨fun _ _ absent => (by cases absent), fun _ absent => (by cases absent)⟩
    fun _ step timed => timed_next timed step

/-- A task that never runs sends nothing more. -/
theorem silent_next {other : TaskId} {status : Status Point} (step : Step)
    (present : loop.tasks[other]? = some status) (doomed : status.Doomed)
    (silent : ∀ sent ∈ loop.state.sent, sent.sender ≠ other) :
    ∀ sent ∈ (loop.next clients step).state.sent, sent.sender ≠ other := by
  have moves := loop.moves_step (program clients) step
  change ∀ sent ∈ (Asyncio.Loop.step (program clients) loop step).state.sent, _
  generalize Asyncio.Loop.step (program clients) loop step = later at moves
  cases moves with
  | turned id input own point isOwn runs =>
    obtain ⟨new, isSent, ofTask⟩ :=
      (effect_turn clients input id loop.tasks.length loop.state point).sent
    intro sent member
    change sent ∈ (turn clients input id loop.tasks.length point loop.state).state.sent at member
    rw [isSent] at member
    rcases List.mem_append.mp member with old | added
    · exact silent sent old
    · rintro rfl
      rw [← ofTask sent added, present] at isOwn
      rw [← Option.some.inj isOwn, doomed.runs] at runs
      cases runs
  | disturbed event =>
    intro sent member
    change sent ∈ (loop.state.outside event).sent at member
    rw [(outside_frame event loop.state).2] at member
    exact silent sent member
  | _ => exact silent

theorem silent_run {other : TaskId} {status : Status Point} (steps : List Step)
    (present : loop.tasks[other]? = some status) (doomed : status.Doomed)
    (silent : ∀ sent ∈ loop.state.sent, sent.sender ≠ other) :
    ∀ sent ∈ (Runs.run (Loop.next clients) loop steps).state.sent, sent.sender ≠ other := by
  refine (Runs.run_invariant (fun loop : Loop =>
    (∃ status, loop.tasks[other]? = some status ∧ status.Doomed) ∧
      ∀ sent ∈ loop.state.sent, sent.sender ≠ other) ⟨⟨status, present, doomed⟩, silent⟩ ?_).2
  rintro loop step ⟨⟨status, present, doomed⟩, silent⟩
  exact ⟨Asyncio.Loop.doomed_step step present doomed, silent_next step present doomed silent⟩

/-- The turn in which the auto-stop is accepted, where there is a node to tell. -/
def acceptance (clients : Clients) (world : World) : Turn Point World where
  state := { world with bridge := { world.bridge.withoutTimers with state := .inactive } }
  cancels := world.bridge.timers
  next := .gathering (clients.changeState.map (.toNode · .deactivate)) (.deactivateBroadcast .timer)

theorem turn_eq_acceptance {number : ℕ} {node : String} {request : ℕ} (id next deadline : ℕ)
    (world : World) (calm : input.raised = none)
    (accepted : (world.requests[request]?).map Request.progress = some (.delivered true))
    (isNode : clients.changeState[number]? = some node) :
    turn clients input id next (.exchange (.deactivate .timer) request deadline) world =
      acceptance clients world := by
  unfold turn pollReply
  dsimp only
  rw [calm, accepted]
  change broadcastTransition clients _ _ _ _ _ = _
  unfold broadcastTransition
  split
  case h_1 empty =>
    rw [empty] at isNode
    cases isNode
  case h_2 => rfl

/-- The task that would tell a node is cancelled before it has begun, and nothing it could send has
been sent. -/
theorem child_doomed {number : ℕ} {node : String} (timed : Timed loop)
    (accepts : Accepts loop id input) (isNode : clients.changeState[number]? = some node) :
    (loop.next clients (.run id input)).tasks[loop.tasks.length + number]? =
        some (.created (.toNode node .deactivate) true) ∧
      ∀ sent ∈ (loop.next clients (.run id input)).state.sent,
        sent.sender ≠ loop.tasks.length + number := by
  obtain ⟨request, deadline, runs, calm, accepted⟩ := accepts
  have isTimer : loop.state.bridge.timerTask = some id := by
    obtain ⟨status, present, isRunning⟩ := Option.bind_eq_some_iff.mp runs
    refine timed.timer id (.exchange (.deactivate .timer) request deadline) ?_ rfl
    rw [present, Option.bind_some]
    exact Status.point_of_runs isRunning
  have isStep : loop.next clients (.run id input) =
      loop.settle id (acceptance clients loop.state) :=
    (Asyncio.Loop.step_run (program clients) runs).trans (congrArg (loop.settle id)
      (turn_eq_acceptance id loop.tasks.length deadline loop.state calm accepted isNode))
  rw [isStep]
  constructor
  · have isChild : (acceptance clients loop.state).next.children[number]? =
        some (.toNode node .deactivate) := by
      change (clients.changeState.map (Point.toNode · .deactivate))[number]? = _
      rw [List.getElem?_map, isNode]
      rfl
    have isDoomed := loop.settle_child_doomed (acceptance clients loop.state)
      (List.mem_append_left _ (Option.mem_toList.mpr isTimer)) isChild
    rw [← isDoomed]
    exact congrArg (fun index => (loop.settle id _).tasks[loop.tasks.length + index]?)
      (Nat.zero_add number).symm
  · intro sent member
    exact Nat.ne_of_lt (Nat.lt_add_right number (timed.sent sent member))

end Runs

/-! ### The result -/

theorem after_append {clients : Clients} (front rest : List Step) :
    after clients (front ++ rest) = Runs.run (Loop.next clients) (after clients front) rest :=
  Runs.run_append _ _ _ _

/-- The auto-stop stops no node. -/
theorem autoStopsNodes_iff (clients : Clients) (steps : List Step) :
    AutoStopsNodes clients steps ↔ NoNodeThere clients steps := by
  constructor
  · intro stops front id input rest isRun accepts ended node member there
    obtain ⟨number, isNode⟩ := List.mem_iff_getElem?.mp member
    have isSent := stops front id input rest isRun accepts ended number node isNode there
    obtain ⟨isCreated, silent⟩ := child_doomed (timed_after front) accepts isNode
    rw [isRun, ← List.singleton_append, ← List.append_assoc, after_append _ rest,
      after_append front] at isSent
    exact silent_run rest isCreated (Or.inl ⟨_, rfl⟩) silent _ isSent rfl
  · intro nobody front id input rest isRun accepts ended number node isNode there
    exact absurd there (nobody front id input rest isRun accepts ended node
      (List.mem_of_getElem? isNode))

/-- A scenario of one second is configured and activated with one node, its timer expires and the
manager accepts. -/
def expiry : List Step :=
  [.outside (.availability fun _ => true),
    .call (.configure (.ok ⟨"crossing", some (.seconds 1), .ok false⟩)),
    .run 0 {}, .run 1 {}, .run 2 {}, .run 3 {}, .run 4 {}, .run 5 {}, .run 6 {}, .run 7 {},
    .run 8 {}, .join 0, .run 0 {}, .outside (.tell 0), .wake 0, .run 0 {},
    .outside (.carryOut 0 .success), .outside (.deliver 0), .wake 0, .run 0 {},
    .call .activate, .run 10 {}, .outside (.carryOut 1 .success), .outside (.deliver 1), .wake 10,
    .run 10 {}, .run 11 {}, .wake 11, .run 11 { nodeReply := some .active }, .join 10, .run 10 {},
    .run 12 {}, .wake 12, .run 12 {}, .outside (.carryOut 2 .success), .outside (.deliver 2),
    .wake 12]

theorem autoStopsNodes_false :
    ¬ ∀ (clients : Clients) (steps : List Step), AutoStopsNodes clients steps := by
  intro stops
  have sent := stops { changeState := ["ship_dynamics_node"], getState := [] }
    (expiry ++ .run 12 {} :: [.run 14 {}, .join 12, .run 12 {}]) expiry 12 {}
    [.run 14 {}, .join 12, .run 12 {}] rfl ⟨2, 149, rfl, rfl, rfl⟩ rfl 0
    "ship_dynamics_node" rfl ?_
  · revert sent
    decide
  · intro count
    rcases count with _ | _ | _ | _ | count <;> rfl

end MassL3.SilOrchestrator
