/-
This file compares the state that the bridge keeps with the state of the manager that it mirrors.
The two move apart when an ACTIVATE is carried out, until the activate() call that asked for it has
read the reply, and this is no fault. What is a fault is a mirror that says INACTIVE or UNCONFIGURED
while the manager is active and no such call is there to correct it. It comes about by the steps
that write the mirror without having moved the manager, and by those that leave an ACTIVATE with
nobody to read its reply.
-/

import MassTdl.SilOrchestrator.Turns

namespace MassL3.SilOrchestrator

open Asyncio (TaskId Turn Status Next)

/-! ### The mirror and the manager -/

/-- The mirror says INACTIVE or UNCONFIGURED. -/
def World.SaysStopped (world : World) : Prop :=
  world.bridge.state = .inactive ∨ world.bridge.state = .unconfigured

def World.progress (world : World) (request : Nat) : Option Progress :=
  (world.requests[request]?).map Request.progress

/-- The manager has carried out a request with success. -/
def World.Succeeded (world : World) (request : Nat) : Prop :=
  world.progress request = some (.carriedOut true) ∨
    world.progress request = some (.delivered true)

/-- A task is an activate() call that waits for the reply to a request. -/
def WaitsFor (loop : Loop) (id : TaskId) (request : Nat) : Prop :=
  ∃ deadline, loop.tasks[id]?.bind Status.place = some (.exchange .activate request deadline)

/-- An activate() call has yet to read that its ACTIVATE was a success. -/
def ToRead (loop : Loop) (id : TaskId) : Prop :=
  ∃ request, WaitsFor loop id request ∧ loop.state.Succeeded request

/-- Where the mirror says INACTIVE or UNCONFIGURED the manager is not active, or an activate() call
has yet to read that it is. -/
def Mirrors (loop : Loop) : Prop :=
  loop.state.SaysStopped → loop.state.mgr = .active → ∃ id, ToRead loop id

/-! ### The steps that keep it -/

/-- The manager is not active, or another task has yet to read that it is. -/
def Excused (loop : Loop) (id : TaskId) : Prop :=
  loop.state.mgr = .active → ∃ other, other ≠ id ∧ ToRead loop other

/-- The state query ends without having found the manager inactive or active. -/
def FindsNothing (input : Input) (world : World) (query deadline : Nat) : Prop :=
  input.raised.isSome ∨
    match world.queries[query]?.join with
    | none => deadline = 0
    | some label => label = .unconfigured ∨ label = .finalized

/-- An exchange ends and its reply is a success. -/
def ReadsSuccess (input : Input) (world : World) (request : Nat) : Prop :=
  input.raised = none ∧ world.progress request = some (.delivered true)

/-- An exchange ends otherwise. -/
def GivesUp (input : Input) (world : World) (request deadline : Nat) : Prop :=
  input.raised.isSome ∨ world.progress request = some (.delivered false) ∨
    world.progress request ≠ some (.delivered true) ∧ deadline = 0

/-- What is asked of the turns. -/
def SoundTurn (loop : Loop) (id : TaskId) (input : Input) : Point → Prop
  | .backupSleep => Excused loop id
  | .resetGathered _ =>
      (loop.state.available (.getState scenarioLifecycleMgr) = false ∨ input.raised.isSome) →
        Excused loop id
  | .query _ query deadline =>
      FindsNothing input loop.state query deadline → Excused loop id
  | .exchange .activate request deadline =>
      GivesUp input loop.state request deadline → loop.state.SaysStopped → Excused loop id
  | .exchange _ request _ => ReadsSuccess input loop.state request → Excused loop id
  | _ => True

/-- What is asked of the tasks that are cancelled. -/
def SoundCut (loop : Loop) (id : TaskId) (point : Point) : Prop :=
  ∀ request deadline, point = .exchange .activate request deadline →
    loop.state.SaysStopped → Excused loop id

/-- What is asked of the manager: an ACTIVATE of nobody is not carried out. -/
def SoundEvent (loop : Loop) : Event → Prop
  | .carryOut request .success =>
      loop.state.requests[request]? = some ⟨.activate, .pending⟩ → loop.state.mgr = .inactive →
        loop.state.SaysStopped → ∃ id, WaitsFor loop id request ∨ ToRead loop id
  | _ => True

/-- The steps that keep the mirror. -/
def Sound (loop : Loop) : Step → Prop
  | .run id input =>
      (∀ point, loop.tasks[id]?.bind Status.runs = some point → SoundTurn loop id input point) ∧
        ∀ point, loop.tasks[id]?.bind Status.cut = some point → SoundCut loop id point
  | .outside event => SoundEvent loop event
  | _ => True

/-! ### What a turn writes into the mirror -/

variable {request deadline : ℕ}

section Turns

variable {clients : Clients} {input : Input} {id next : TaskId} {world : World}

/-- A turn that leaves the mirror as it is. -/
def Keeps (world : World) (turn : Turn Point World) : Prop :=
  turn.state.bridge.state = world.bridge.state

theorem keeps_changeState (clients : Clients) (next : TaskId) (purpose : Purpose) :
    Keeps world (changeState input purpose (conclude clients input id next purpose) world) :=
  changeState_conclude (Keeps world) purpose (fun _ _ _ => rfl) rfl

theorem keeps_requestConfigure (scenario : Scenario) :
    Keeps world (requestConfigure input id scenario world) :=
  keeps_changeState ⟨[], []⟩ 0 (.configure scenario)

theorem keeps_requestResetCleanup (world : World) (goal : Goal) :
    Keeps world (requestResetCleanup input id goal world) :=
  keeps_changeState ⟨[], []⟩ 0 (.resetCleanup goal)

theorem keeps_startTimers (world : World) : Keeps world (startTimers id next world) := by
  unfold Keeps startTimers
  cases world.bridge.simulationDuration <;> rfl

theorem keeps_deactivate (caller : Caller) :
    Keeps world (deactivate clients input id caller world) := by
  unfold deactivate
  split_ifs
  · rfl
  · exact keeps_changeState clients 0 (.deactivate caller)

theorem keeps_beginCall (call : Call) :
    Keeps world (beginCall clients input id next call world) := by
  cases call with
  | configure scenario =>
    rcases scenario with text | ⟨name, duration, _ | injections⟩
    · rfl
    · rfl
    · rfl
  | activate => exact keeps_changeState clients next .activate
  | deactivate => exact keeps_deactivate .route
  | cleanup => exact keeps_changeState clients 0 .cleanup
  | reset => rfl

theorem keeps_afterReset (world : World) (goal : Goal) :
    Keeps world (afterReset input id goal world) := by
  rcases goal with _ | ⟨name, duration, _ | _ | _⟩
  · rfl
  · exact keeps_requestConfigure _
  · exact keeps_requestConfigure _
  · rfl

theorem unconfigure_state (goal : Goal) :
    (unconfigure input id goal world).state.bridge.state = .unconfigured :=
  keeps_afterReset { world with bridge := { world.bridge with state := .unconfigured } } goal

/-- A success of any request but ACTIVATE is noted as a stop. -/
theorem conclude_stops (purpose : Purpose) (other : purpose ≠ .activate) :
    (conclude clients input id next purpose { success := true } world).state.SaysStopped := by
  cases purpose with
  | activate => exact absurd rfl other
  | deactivate caller =>
    exact broadcastTransition_of (fun turn : Turn Point World => turn.state.SaysStopped)
      .deactivate (.deactivateBroadcast caller) _ (Or.inl rfl) (Or.inl rfl)
  | cleanup =>
    exact broadcastTransition_of (fun turn : Turn Point World => turn.state.SaysStopped)
      .cleanup .cleanupBroadcast _ (Or.inr rfl) (Or.inr rfl)
  | configure scenario => exact Or.inl rfl
  | resetDeactivate goal =>
    exact Or.inl (keeps_requestResetCleanup
      { world with bridge := { world.bridge with state := .inactive } } goal)
  | resetCleanup goal => exact Or.inr (unconfigure_state goal)

/-- A success of ACTIVATE is noted as such. -/
theorem conclude_activates :
    (conclude clients input id next .activate { success := true } world).state.bridge.state =
      .active := by
  refine broadcastTransition_of
    (fun turn : Turn Point World => turn.state.bridge.state = .active) .activate
    .activateBroadcast _ ?_ rfl
  exact keeps_startTimers { world with bridge := { world.bridge with state := .active } }

theorem resetFrom_state (input : Input) (id : TaskId) (world : World) (goal : Goal)
    (label : Option NodeState) :
    if label = some .inactive ∨ label = some .active then
      Keeps world (resetFrom input id goal label world)
    else (resetFrom input id goal label world).state.bridge.state = .unconfigured := by
  rcases label with _ | _ | _ | _ | _
  · exact unconfigure_state goal
  · exact unconfigure_state goal
  · exact keeps_requestResetCleanup world goal
  · exact keeps_changeState ⟨[], []⟩ 0 (.resetDeactivate goal)
  · exact unconfigure_state goal

theorem GivesUp.not_reads (givesUp : GivesUp input world request deadline) :
    ¬ ReadsSuccess input world request := by
  rintro ⟨calm, success⟩
  rcases givesUp with raised | rejected | ⟨unanswered, -⟩
  · rw [calm] at raised
    cases raised
  · rw [success] at rejected
    cases rejected
  · exact unanswered success

/-- What a poll for a reply can come to. -/
theorem pollReply_cases (input : Input) (purpose : Purpose) (request deadline : ℕ)
    (conclude : LifecycleResult → World → Turn Point World) (world : World) :
    (GivesUp input world request deadline ∧ ∃ result : LifecycleResult, result.success = false ∧
        pollReply input purpose request deadline conclude world = conclude result world) ∨
      (ReadsSuccess input world request ∧
        pollReply input purpose request deadline conclude world =
          conclude { success := true } world) ∨
      (¬ GivesUp input world request deadline ∧ ¬ ReadsSuccess input world request ∧ ∃ left,
        pollReply input purpose request deadline conclude world =
          { state := world, next := .sleeping (.exchange purpose request left) }) := by
  unfold pollReply
  cases raised : input.raised with
  | some text =>
    exact Or.inl ⟨Or.inl (raised ▸ rfl), { success := false, error := text }, rfl, rfl⟩
  | none =>
    dsimp only
    split
    case h_1 delivered => exact Or.inr (Or.inl ⟨⟨raised, delivered⟩, rfl⟩)
    case h_2 rejected =>
      exact Or.inl ⟨Or.inr (Or.inl rejected),
        { success := false, error := "Transition rejected by node" }, rfl, rfl⟩
    case h_3 notDelivered notRejected =>
      have unread : ¬ ReadsSuccess input world request := fun reads => notDelivered reads.2
      cases deadline with
      | zero => exact Or.inl ⟨Or.inr (Or.inr ⟨notDelivered, rfl⟩), _, rfl, rfl⟩
      | succ left =>
        refine Or.inr (Or.inr ⟨?_, unread, left, rfl⟩)
        rintro (absent | rejected | ⟨-, absent⟩)
        · rw [raised] at absent
          cases absent
        · exact notRejected rejected
        · cases absent

/-- What a poll for the manager's state does to the mirror. -/
theorem pollState_state (input : Input) (id : TaskId) (goal : Goal) (query deadline : ℕ)
    (world : World) :
    (FindsNothing input world query deadline ∧
        (pollState input id goal query deadline world).state.bridge.state = .unconfigured) ∨
      (¬ FindsNothing input world query deadline ∧
        Keeps world (pollState input id goal query deadline world)) := by
  unfold pollState FindsNothing
  split_ifs with raised
  · exact Or.inl ⟨Or.inl raised, unconfigure_state goal⟩
  · cases told : world.queries[query]?.join with
    | none =>
      cases deadline with
      | zero => exact Or.inl ⟨Or.inr rfl, unconfigure_state goal⟩
      | succ left => exact Or.inr ⟨not_or_intro raised (Nat.succ_ne_zero left), rfl⟩
    | some label =>
      have written := resetFrom_state input id world goal (some label)
      cases label with
      | unconfigured => exact Or.inl ⟨Or.inr (Or.inl rfl), written⟩
      | inactive =>
        exact Or.inr ⟨not_or_intro raised (by rintro (absent | absent) <;> cases absent), written⟩
      | active =>
        exact Or.inr ⟨not_or_intro raised (by rintro (absent | absent) <;> cases absent), written⟩
      | finalized => exact Or.inl ⟨Or.inr (Or.inr rfl), written⟩

theorem queryState_state (input : Input) (id : TaskId) (goal : Goal) (world : World) :
    ((world.available (.getState scenarioLifecycleMgr) = false ∨ input.raised.isSome) ∧
        (queryState input id goal world).state.bridge.state = .unconfigured) ∨
      (¬ (world.available (.getState scenarioLifecycleMgr) = false ∨ input.raised.isSome) ∧
        Keeps world (queryState input id goal world)) := by
  unfold queryState
  cases world.available (.getState scenarioLifecycleMgr) with
  | false => exact Or.inl ⟨Or.inl rfl, unconfigure_state goal⟩
  | true =>
    split_ifs with raised
    · exact Or.inl ⟨Or.inr raised, unconfigure_state goal⟩
    · exact Or.inr ⟨not_or_intro (by decide) raised, rfl⟩

theorem keeps_broadcastToNode {rest : World → Turn Point World} {sent : Nat → Point}
    (node : String) (transition : Transition) (skips : Keeps world (rest world)) :
    Keeps world (broadcastToNode input id node transition sent rest world) :=
  broadcastToNode_of (Keeps world) node transition skips rfl

/-- The requests to the nodes leave the mirror alone. -/
theorem keeps_turn_node {point : Point} (isNode : point.role = .node) :
    Keeps world (turn clients input id next point world) := by
  cases point with
  | toNode node transition => exact keeps_broadcastToNode node transition rfl
  | toNodeReply deadline => exact pollNode_of (Keeps world) deadline rfl fun _ => rfl
  | resetNode node =>
    unfold turn resetSecondaryNode
    dsimp only
    split_ifs <;> rfl
  | resetNodeQuery node deadline =>
    unfold turn pollSecondaryNode
    dsimp only
    split_ifs
    · rfl
    · split
      · exact keeps_broadcastToNode node .deactivate rfl
      · exact keeps_broadcastToNode node .cleanup rfl
      · rfl
      · split <;> rfl
  | resetNodeDeactivated node deadline => exact pollNode_of (Keeps world) deadline rfl fun _ => rfl
  | resetNodePause node => exact keeps_broadcastToNode node .cleanup rfl
  | exchange purpose =>
    rcases purpose with _ | (_ | _) | _ | _ | _ | _ <;> cases isNode
  | deactivateBroadcast caller => rcases caller with _ | _ <;> cases isNode
  | _ => cases isNode

theorem keeps_sleepFor (sleep : Point) : Keeps world (sleepFor sleep world) := by
  unfold sleepFor
  split <;> rfl

theorem keeps_afterInjection (scenario : Scenario) :
    Keeps world (afterInjection input id scenario world) := by
  unfold afterInjection
  split
  · rfl
  · exact keeps_requestConfigure scenario

end Turns

/-! ### What a turn leaves to be read -/

section Readers

variable {clients : Clients} {input : Input} {loop : Loop} {id other : TaskId}
  {status : Status Point} {point : Point} {taken : Turn Point World}

variable {role : Role}

/-- A request that is new is not carried out yet. -/
theorem Effect.succeeded_iff {next : TaskId} {world : World}
    (effect : Effect id next world taken role) (request : Nat) :
    taken.state.Succeeded request ↔ world.Succeeded request := by
  obtain ⟨transitions, isRequests⟩ := effect.requests
  unfold World.Succeeded World.progress
  rw [isRequests]
  rcases Nat.lt_or_ge request world.requests.length with old | new
  · rw [List.getElem?_append_left old]
  · rw [List.getElem?_append_right new, List.getElem?_eq_none new, List.getElem?_map]
    cases transitions[request - world.requests.length]? with
    | none => exact Iff.rfl
    | some transition =>
      refine iff_of_false ?_ ?_
      · rintro (absent | absent) <;> cases absent
      · rintro (absent | absent) <;> cases absent

section

variable (effect : Effect id loop.tasks.length loop.state taken role)
include effect

/-- Whether another task has something to read is not changed by a turn. -/
theorem toRead_settle_other (different : other ≠ id) :
    ToRead (loop.settle id taken) other ↔ ToRead loop other := by
  refine exists_congr fun request => and_congr ?_ (effect.succeeded_iff request)
  refine exists_congr fun deadline => ?_
  rcases Nat.lt_or_ge other loop.tasks.length with before | created
  · rw [Asyncio.Loop.place_settle_other different before]
  · refine iff_of_false (fun isAt => ?_) fun isAt => ?_
    · have isCall : (Point.exchange .activate request deadline).role = .call .activate := rfl
      rcases Asyncio.Loop.place_settle_new created isAt with spawned | child
      · rcases effect.spawned with plain | ⟨timers, -⟩
        · cases plain _ spawned
        · rw [timers] at spawned
          rcases List.mem_cons.mp spawned with absent | rest
          · cases absent
          · cases List.mem_singleton.mp rest
      · rw [effect.children _ child] at isCall
        cases isCall
    · rw [List.getElem?_eq_none created] at isAt
      cases isAt

theorem toRead_settle_own (present : loop.tasks[id]? = some status) :
    ToRead (loop.settle id taken) id ↔
      ∃ request, (∃ deadline, taken.next.point = some (.exchange .activate request deadline)) ∧
        loop.state.Succeeded request := by
  refine exists_congr fun request => and_congr ?_ (effect.succeeded_iff request)
  refine exists_congr fun deadline => ?_
  rw [Asyncio.Loop.place_settle_own present]

/-- A turn after which its own task has nothing to read. -/
theorem exists_toRead_settle (present : loop.tasks[id]? = some status)
    (elsewhere : ∀ request deadline,
      taken.next.point = some (.exchange .activate request deadline) →
        ¬ loop.state.Succeeded request) :
    (∃ reader, ToRead (loop.settle id taken) reader) ↔
      ∃ other, other ≠ id ∧ ToRead loop other := by
  constructor
  · rintro ⟨reader, toRead⟩
    rcases eq_or_ne reader id with rfl | different
    · obtain ⟨request, ⟨deadline, isNext⟩, succeeded⟩ :=
        (toRead_settle_own effect present).mp toRead
      exact absurd succeeded (elsewhere request deadline isNext)
    · exact ⟨reader, different, (toRead_settle_other effect different).mp toRead⟩
  · rintro ⟨other, different, toRead⟩
    exact ⟨other, (toRead_settle_other effect different).mpr toRead⟩

/-- A turn that writes a stop into the mirror. -/
theorem mirrors_stop (present : loop.tasks[id]? = some status)
    (elsewhere : ∀ request deadline,
      taken.next.point = some (.exchange .activate request deadline) →
        ¬ loop.state.Succeeded request)
    (stops : taken.state.SaysStopped) :
    Mirrors (loop.settle id taken) ↔ Excused loop id := by
  change (taken.state.SaysStopped → taken.state.mgr = .active → _) ↔ _
  rw [effect.mgr, exists_toRead_settle effect present elsewhere]
  exact ⟨fun mirrors => mirrors stops, fun excused _ => excused⟩

/-- A turn that leaves the mirror, of a task that has nothing to read before or after it. -/
theorem mirrors_keep (present : loop.tasks[id]? = some status)
    (elsewhere : ∀ request deadline,
      taken.next.point = some (.exchange .activate request deadline) →
        ¬ loop.state.Succeeded request)
    (keeps : Keeps loop.state taken) :
    Mirrors (loop.settle id taken) ↔ (loop.state.SaysStopped → Excused loop id) := by
  change (taken.state.SaysStopped → taken.state.mgr = .active → _) ↔ _
  rw [effect.mgr, exists_toRead_settle effect present elsewhere]
  unfold World.SaysStopped
  rw [keeps]
  exact Iff.rfl

end

/-- A task that does not wait for an ACTIVATE is no reader. -/
theorem Mirrors.excused (mirrors : Mirrors loop) (isAt : loop.tasks[id]?.bind Status.place =
      some point) (elsewhere : ∀ request deadline, point ≠ .exchange .activate request deadline)
    (stopped : loop.state.SaysStopped) : Excused loop id := by
  intro isActive
  obtain ⟨reader, request, ⟨deadline, waits⟩, succeeded⟩ := mirrors stopped isActive
  refine ⟨reader, ?_, request, ⟨deadline, waits⟩, succeeded⟩
  rintro rfl
  exact elsewhere request deadline (Option.some.inj (isAt.symm.trans waits))

/-- A point of a task that is no activate() call. -/
theorem Effect.elsewhere (effect : Effect id loop.tasks.length loop.state taken point.role)
    (noCall : point.role ≠ .call .activate) (request deadline : ℕ)
    (isNext : taken.next.point = some (.exchange .activate request deadline)) :
    ¬ loop.state.Succeeded request :=
  absurd (effect.role _ isNext).symm noCall

theorem ne_exchange_of_role (noCall : point.role ≠ .call .activate) (request deadline : ℕ) :
    point ≠ .exchange .activate request deadline := by
  rintro rfl
  exact noCall rfl

/-- A turn of such a task that leaves the mirror alone keeps it right. -/
theorem mirrors_keeps (mirrors : Mirrors loop) (present : loop.tasks[id]? = some status)
    (runs : status.runs = some point) (noCall : point.role ≠ .call .activate)
    (keeps : Keeps loop.state (turn clients input id loop.tasks.length point loop.state)) :
    Mirrors (loop.settle id (turn clients input id loop.tasks.length point loop.state)) := by
  have effect := effect_turn clients input id loop.tasks.length loop.state point
  have isAt : loop.tasks[id]?.bind Status.place = some point := by
    rw [present, Option.bind_some]
    exact Status.place_of_runs runs
  exact (mirrors_keep effect present (effect.elsewhere noCall) keeps).mpr
    (mirrors.excused isAt (ne_exchange_of_role noCall))

/-- One that writes a stop keeps it right exactly when it is excused. -/
theorem mirrors_stops (present : loop.tasks[id]? = some status)
    (noCall : point.role ≠ .call .activate)
    (stops : (turn clients input id loop.tasks.length point loop.state).state.SaysStopped) :
    Mirrors (loop.settle id (turn clients input id loop.tasks.length point loop.state)) ↔
      Excused loop id := by
  have effect := effect_turn clients input id loop.tasks.length loop.state point
  exact mirrors_stop effect present (effect.elsewhere noCall) stops

/-- The turns of an activate() call before its request is sent. -/
theorem mirrors_activate (mirrors : Mirrors loop) (present : loop.tasks[id]? = some status)
    (runs : status.runs = some (.call .activate)) :
    Mirrors (loop.settle id
      (turn clients input id loop.tasks.length (.call .activate) loop.state)) := by
  have effect := effect_turn clients input id loop.tasks.length loop.state (.call .activate)
  have isAt : loop.tasks[id]?.bind Status.place = some (.call .activate) := by
    rw [present, Option.bind_some]
    exact Status.place_of_runs runs
  refine (mirrors_keep effect present ?_ (keeps_beginCall .activate)).mpr
    (mirrors.excused isAt fun _ _ absent => by cases absent)
  refine changeState_conclude (fun turn : Turn Point World => ∀ request deadline,
    turn.next.point = some (.exchange .activate request deadline) →
      ¬ loop.state.Succeeded request) .activate (fun _ _ _ _ _ absent => by cases absent) ?_
  intro request deadline isNext
  cases isNext
  unfold World.Succeeded World.progress
  rw [List.getElem?_eq_none (Nat.le_refl _)]
  rintro (absent | absent) <;> cases absent

/-- The turns of an activate() call that waits for the reply. -/
theorem mirrors_exchange_activate (mirrors : Mirrors loop) (present : loop.tasks[id]? = some status)
    (runs : status.runs = some (.exchange .activate request deadline)) :
    Mirrors (loop.settle id (turn clients input id loop.tasks.length
        (.exchange .activate request deadline) loop.state)) ↔
      SoundTurn loop id input (.exchange .activate request deadline) := by
  have effect := effect_turn clients input id loop.tasks.length loop.state
    (.exchange .activate request deadline)
  have waits : WaitsFor loop id request := by
    refine ⟨deadline, ?_⟩
    rw [present, Option.bind_some]
    exact Status.place_of_runs runs
  rcases pollReply_cases input .activate request deadline
      (conclude clients input id loop.tasks.length .activate) loop.state with
    ⟨givesUp, result, failed, isTurn⟩ | ⟨reads, isTurn⟩ | ⟨keepsOn, -, left, isTurn⟩
  · obtain ⟨operation, isFinish⟩ :=
      conclude_failed clients input id loop.tasks.length loop.state .activate failed
    have isTurn := isTurn.trans isFinish
    change turn clients input id loop.tasks.length (.exchange .activate request deadline)
      loop.state = _ at isTurn
    rw [isTurn] at effect ⊢
    exact (mirrors_keep effect present (fun _ _ absent => by cases absent) rfl).trans
      ⟨fun sound _ => sound, fun sound => sound givesUp⟩
  · refine iff_of_true (fun stopped => ?_) fun givesUp => absurd reads givesUp.not_reads
    have isActive : (turn clients input id loop.tasks.length (.exchange .activate request deadline)
        loop.state).state.bridge.state = .active := by
      change (pollReply _ _ _ _ _ _).state.bridge.state = _
      rw [isTurn]
      exact conclude_activates
    rcases stopped with inactive | unconfigured
    · cases isActive.symm.trans inactive
    · cases isActive.symm.trans unconfigured
  · refine iff_of_true ?_ fun givesUp => absurd givesUp keepsOn
    change turn clients input id loop.tasks.length (.exchange .activate request deadline)
      loop.state = _ at isTurn
    rw [isTurn] at effect ⊢
    intro stopped isActive
    obtain ⟨reader, ⟨other, isWaiting, succeeded⟩⟩ := mirrors stopped isActive
    rcases eq_or_ne reader id with rfl | different
    · obtain ⟨least, isAt⟩ := isWaiting
      obtain ⟨most, same⟩ := waits
      cases Option.some.inj (isAt.symm.trans same)
      exact ⟨reader, (toRead_settle_own effect present).mpr ⟨request, ⟨left, rfl⟩, succeeded⟩⟩
    · exact ⟨reader, (toRead_settle_other effect different).mpr ⟨other, isWaiting, succeeded⟩⟩

/-- The turns of the other calls that wait for a reply. -/
theorem mirrors_exchange {purpose : Purpose} (mirrors : Mirrors loop)
    (present : loop.tasks[id]? = some status)
    (runs : status.runs = some (.exchange purpose request deadline)) (other : purpose ≠ .activate) :
    Mirrors (loop.settle id (turn clients input id loop.tasks.length
        (.exchange purpose request deadline) loop.state)) ↔
      (ReadsSuccess input loop.state request → Excused loop id) := by
  have noCall : (Point.exchange purpose request deadline).role ≠ .call .activate := by
    rcases purpose with _ | (_ | _) | _ | _ | (_ | _) | (_ | _) <;>
      first | exact absurd rfl other | exact fun absent => by cases absent
  rcases pollReply_cases input purpose request deadline
      (conclude clients input id loop.tasks.length purpose) loop.state with
    ⟨givesUp, result, failed, isTurn⟩ | ⟨reads, isTurn⟩ | ⟨-, unread, left, isTurn⟩
  · refine iff_of_true (mirrors_keeps mirrors present runs noCall ?_)
      fun reads => absurd reads givesUp.not_reads
    obtain ⟨operation, isFinish⟩ :=
      conclude_failed clients input id loop.tasks.length loop.state purpose failed
    change Keeps loop.state (pollReply _ _ _ _ _ _)
    rw [isTurn, isFinish]
    rfl
  · refine (mirrors_stops present noCall ?_).trans (imp_iff_right reads).symm
    change (pollReply _ _ _ _ _ _).state.SaysStopped
    rw [isTurn]
    exact conclude_stops purpose other
  · refine iff_of_true (mirrors_keeps mirrors present runs noCall ?_)
      fun reads => absurd reads unread
    change Keeps loop.state (pollReply _ _ _ _ _ _)
    rw [isTurn]
    rfl

/-- A turn keeps the mirror right exactly when it is sound. -/
theorem mirrors_turn (mirrors : Mirrors loop) (present : loop.tasks[id]? = some status)
    (runs : status.runs = some point) :
    Mirrors (loop.settle id (turn clients input id loop.tasks.length point loop.state)) ↔
      SoundTurn loop id input point := by
  have keeping (noCall : point.role ≠ .call .activate)
      (keeps : Keeps loop.state (turn clients input id loop.tasks.length point loop.state)) :=
    mirrors_keeps mirrors present runs noCall keeps
  cases point with
  | call call =>
    refine iff_of_true ?_ trivial
    cases call with
    | activate => exact mirrors_activate mirrors present runs
    | _ =>
      exact keeping (fun absent => by cases absent) (keeps_beginCall _)
  | resetGathered goal =>
    have noCall : (Point.resetGathered goal).role ≠ .call .activate := by
      cases goal <;> exact fun absent => by cases absent
    rcases queryState_state input id goal loop.state with
      ⟨unknown, stops⟩ | ⟨asks, keeps⟩
    · exact (mirrors_stops present noCall (Or.inr stops)).trans (imp_iff_right unknown).symm
    · exact iff_of_true (keeping noCall keeps)
        fun unknown => absurd unknown asks
  | query goal query deadline =>
    have noCall : (Point.query goal query deadline).role ≠ .call .activate := by
      cases goal <;> exact fun absent => by cases absent
    rcases pollState_state input id goal query deadline loop.state with
      ⟨finds, stops⟩ | ⟨asks, keeps⟩
    · exact (mirrors_stops present noCall (Or.inr stops)).trans (imp_iff_right finds).symm
    · exact iff_of_true (keeping noCall keeps)
        fun finds => absurd finds asks
  | exchange purpose request deadline =>
    cases purpose with
    | activate => exact mirrors_exchange_activate mirrors present runs
    | _ => exact mirrors_exchange mirrors present runs fun absent => by cases absent
  | backupSleep => exact mirrors_stops present (fun absent => by cases absent) (Or.inl rfl)
  | activateBroadcast =>
    refine iff_of_true ?_ trivial
    have effect := effect_turn clients input id loop.tasks.length loop.state .activateBroadcast
    have isAt : loop.tasks[id]?.bind Status.place = some .activateBroadcast := by
      rw [present, Option.bind_some]
      exact Status.place_of_runs runs
    exact (mirrors_keep effect present (fun _ _ absent => by cases absent)
      (keeps_startTimers loop.state)).mpr (mirrors.excused isAt fun _ _ absent => by cases absent)
  | injected scenario =>
    exact iff_of_true (keeping (fun absent => by cases absent)
      (keeps_afterInjection scenario)) trivial
  | deactivateBroadcast caller =>
    refine iff_of_true (keeping ?_ rfl) trivial
    cases caller <;> exact fun absent => by cases absent
  | cleanupBroadcast =>
    exact iff_of_true (keeping (fun absent => by cases absent) rfl) trivial
  | autoStop =>
    exact iff_of_true (keeping (fun absent => by cases absent)
      (keeps_sleepFor .autoStopSleep)) trivial
  | autoStopSleep =>
    exact iff_of_true (keeping (fun absent => by cases absent) (keeps_deactivate .timer)) trivial
  | backup =>
    exact iff_of_true (keeping (fun absent => by cases absent)
      (keeps_sleepFor .backupSleep)) trivial
  | broadcast transition =>
    exact iff_of_true (keeping (fun absent => by cases absent)
      (broadcastTransition_of (Keeps loop.state) transition .broadcastGathered [] rfl rfl)) trivial
  | broadcastGathered =>
    exact iff_of_true (keeping (fun absent => by cases absent) rfl) trivial
  | _ =>
    exact iff_of_true (keeping (fun absent => by cases absent) (keeps_turn_node rfl)) trivial

end Readers

/-! ### What happens outside of the bridge -/

section Events

variable {world : World} {loop : Loop} {id : TaskId} {request : ℕ}

variable {transition : Transition}

/-- The requests after one of them has come further. -/
theorem progress_set {earlier later : Progress}
    (present : world.requests[request]? = some ⟨transition, earlier⟩) (mgr : NodeState)
    (other : ℕ) :
    ({ world with
        mgr
        requests := world.requests.set request ⟨transition, later⟩ } : World).progress other =
      if other = request then some later else world.progress other := by
  unfold World.progress
  dsimp only
  split_ifs with same
  · rw [same, List.getElem?_set_self (List.getElem?_eq_some_iff.mp present).1]
    rfl
  · rw [List.getElem?_set_ne (Ne.symm same)]

/-- A loop in which the same is to be read mirrors as much. -/
theorem mirrors_congr {later : Loop} (loop : Loop)
    (sameBridge : later.state.bridge = loop.state.bridge)
    (sameMgr : later.state.mgr = loop.state.mgr)
    (sameReaders : ∀ id, ToRead later id ↔ ToRead loop id) :
    Mirrors later ↔ Mirrors loop := by
  unfold Mirrors World.SaysStopped
  rw [sameBridge, sameMgr]
  exact imp_congr_right fun _ => imp_congr_right fun _ => exists_congr sameReaders

theorem mirrors_of_inactive (inactive : loop.state.mgr ≠ .active) : Mirrors loop :=
  fun _ isActive => absurd isActive inactive

/-- A reply that arrives does not change what has been carried out. -/
theorem succeeded_deliver (other : ℕ) :
    (world.deliver request).Succeeded other ↔ world.Succeeded other := by
  unfold World.deliver
  split
  case h_1 transition success present =>
    unfold World.Succeeded
    rw [progress_set present world.mgr other]
    split_ifs with same
    · have progress : world.progress request = some (.carriedOut success) := by
        unfold World.progress
        rw [present]
        rfl
      rw [same, progress]
      cases success
      · exact iff_of_false (by rintro (absent | absent) <;> cases absent)
          (by rintro (absent | absent) <;> cases absent)
      · exact iff_of_true (Or.inr rfl) (Or.inl rfl)
    · exact Iff.rfl
  case h_2 => exact Iff.rfl

/-- Nor does a transition that is not a success. -/
theorem succeeded_refused (present : world.requests[request]? = some ⟨transition, .pending⟩)
    (mgr : NodeState) (other : ℕ) :
    ({ world with
        mgr
        requests := world.requests.set request ⟨transition, .carriedOut false⟩ } : World).Succeeded
          other ↔ world.Succeeded other := by
  unfold World.Succeeded
  rw [progress_set present mgr other]
  split_ifs with same
  · have progress : world.progress request = some .pending := by
      unfold World.progress
      rw [present]
      rfl
    rw [same, progress]
    exact iff_of_false (by rintro (absent | absent) <;> cases absent)
      (by rintro (absent | absent) <;> cases absent)
  · exact Iff.rfl

theorem deliver_frame :
    (world.deliver request).bridge = world.bridge ∧ (world.deliver request).mgr = world.mgr ∧
      (world.deliver request).requests.length = world.requests.length ∧
      (world.deliver request).returned = world.returned := by
  unfold World.deliver
  split
  · exact ⟨rfl, rfl, List.length_set, rfl⟩
  · exact ⟨rfl, rfl, rfl, rfl⟩

theorem mirrors_deliver :
    Mirrors { loop with state := loop.state.deliver request } ↔ Mirrors loop :=
  mirrors_congr loop deliver_frame.1 deliver_frame.2.1 fun _ => exists_congr fun other =>
    and_congr_right fun _ => succeeded_deliver other

theorem mirrors_refused (present : loop.state.requests[request]? = some ⟨transition, .pending⟩) :
    Mirrors { loop with
        state :=
          { loop.state with
            requests := loop.state.requests.set request ⟨transition, .carriedOut false⟩ } } ↔
      Mirrors loop :=
  mirrors_congr loop rfl rfl fun _ => exists_congr fun other => and_congr_right fun _ =>
    succeeded_refused present loop.state.mgr other

/-- After an ACTIVATE has been carried out the mirror is right when it is awaited, or another is to
be read. -/
theorem mirrors_activated
    (present : loop.state.requests[request]? = some ⟨.activate, .pending⟩) :
    Mirrors { loop with
        state :=
          { loop.state with
            mgr := .active
            requests := loop.state.requests.set request ⟨.activate, .carriedOut true⟩ } } ↔
      (loop.state.SaysStopped → ∃ id, WaitsFor loop id request ∨ ToRead loop id) := by
  refine imp_congr_right fun _ => (imp_iff_right rfl).trans (exists_congr fun id => ?_)
  have readers : ∀ other, ({ loop.state with
      mgr := .active
      requests := loop.state.requests.set request ⟨.activate, .carriedOut true⟩ } :
        World).Succeeded other ↔ other = request ∨ loop.state.Succeeded other := by
    intro other
    unfold World.Succeeded
    rw [progress_set present .active other]
    split_ifs with same
    · exact iff_of_true (Or.inl rfl) (Or.inl same)
    · exact (or_iff_right same).symm
  constructor
  · rintro ⟨other, waits, succeeded⟩
    rcases (readers other).mp succeeded with rfl | earlier
    · exact Or.inl waits
    · exact Or.inr ⟨other, waits, earlier⟩
  · rintro (waits | ⟨other, waits, succeeded⟩)
    · exact ⟨request, waits, (readers request).mpr (Or.inl rfl)⟩
    · exact ⟨other, waits, (readers other).mpr (Or.inr succeeded)⟩

/-- Only an inactive manager is activated. -/
theorem after_active {mgr : NodeState} (activates : mgr.after transition = some .active) :
    mgr = .inactive ∧ transition = .activate := by
  cases mgr <;> cases transition <;> first | exact ⟨rfl, rfl⟩ | cases activates

theorem mirrors_carryOut (mirrors : Mirrors loop) (outcome : Outcome) :
    Mirrors { loop with state := loop.state.carryOut request outcome } ↔
      SoundEvent loop (.carryOut request outcome) := by
  unfold World.carryOut
  split
  case h_2 notPending =>
    refine iff_of_true mirrors ?_
    cases outcome with
    | success => exact fun isActivate => absurd isActivate (notPending .activate)
    | failure => trivial
    | error => trivial
  case h_1 transition present =>
    have refused := (mirrors_refused present).mpr mirrors
    unfold NodeState.carryOut
    cases after : loop.state.mgr.after transition with
    | none =>
      refine iff_of_true refused ?_
      cases outcome with
      | success =>
        intro isActivate isInactive
        cases Option.some.inj (present.symm.trans isActivate)
        rw [isInactive] at after
        cases after
      | failure => trivial
      | error => trivial
    | some later =>
      cases outcome with
      | failure => exact iff_of_true refused trivial
      | error recovered =>
        refine iff_of_true (mirrors_of_inactive ?_) trivial
        cases recovered <;> exact fun absent => by cases absent
      | success =>
        by_cases activates : later = .active
        · rw [activates] at after ⊢
          obtain ⟨isInactive, rfl⟩ := after_active after
          exact (mirrors_activated present).trans
            ((imp_iff_right isInactive).symm.trans (imp_iff_right present).symm)
        · refine iff_of_true (mirrors_of_inactive activates) fun isActivate isInactive => ?_
          cases Option.some.inj (present.symm.trans isActivate)
          rw [isInactive] at after
          exact absurd (Option.some.inj after).symm activates

theorem mirrors_outside (mirrors : Mirrors loop) (event : Event) :
    Mirrors { loop with state := loop.state.outside event } ↔ SoundEvent loop event := by
  cases event with
  | carryOut request outcome => exact mirrors_carryOut mirrors outcome
  | deliver request => exact iff_of_true (mirrors_deliver.mpr mirrors) trivial
  | tell query => exact iff_of_true mirrors trivial
  | availability available => exact iff_of_true mirrors trivial

end Events

/-! ### One step -/

section Steps

variable {clients : Clients} {loop : Loop} {id : TaskId} {status : Status Point} {point : Point}

/-- A task that is cut off loses what it has to read. -/
theorem mirrors_lost {later : Loop} (mirrors : Mirrors loop)
    (isAt : loop.tasks[id]?.bind Status.place = some point)
    (lost : Mirrors later ↔ (loop.state.SaysStopped → Excused loop id)) :
    Mirrors later ↔ SoundCut loop id point := by
  refine lost.trans ⟨fun excused _ _ _ => excused, fun sound => ?_⟩
  by_cases waits : ∃ request deadline, point = .exchange .activate request deadline
  · obtain ⟨request, deadline, isExchange⟩ := waits
    exact sound request deadline isExchange
  · exact mirrors.excused isAt fun request deadline isExchange =>
      waits ⟨request, deadline, isExchange⟩

theorem mirrors_finished (present : loop.tasks[id]? = some status) :
    Mirrors { loop with tasks := loop.tasks.set id .finished } ↔
      (loop.state.SaysStopped → Excused loop id) := by
  refine imp_congr_right fun _ => imp_congr_right fun _ => ⟨?_, ?_⟩
  · rintro ⟨reader, request, ⟨deadline, isAt⟩, succeeded⟩
    change (loop.tasks.set id .finished)[reader]?.bind Status.place = _ at isAt
    rcases eq_or_ne reader id with rfl | different
    · rw [List.getElem?_set_self (List.getElem?_eq_some_iff.mp present).1] at isAt
      cases isAt
    · rw [List.getElem?_set_ne different.symm] at isAt
      exact ⟨reader, different, request, ⟨deadline, isAt⟩, succeeded⟩
  · rintro ⟨reader, different, request, ⟨deadline, isAt⟩, succeeded⟩
    refine ⟨reader, request, ⟨deadline, ?_⟩, succeeded⟩
    change (loop.tasks.set id .finished)[reader]?.bind Status.place = _
    rw [List.getElem?_set_ne different.symm]
    exact isAt

theorem mirrors_called (mirrors : Mirrors loop) (call : Call) :
    Mirrors { loop with tasks := loop.tasks ++ [.created (.call call) false] } := by
  intro stopped isActive
  obtain ⟨reader, request, ⟨deadline, isAt⟩, succeeded⟩ := mirrors stopped isActive
  refine ⟨reader, request, ⟨deadline, ?_⟩, succeeded⟩
  obtain ⟨status, present, -⟩ := Option.bind_eq_some_iff.mp isAt
  change (loop.tasks ++ [_])[reader]?.bind Status.place = _
  rw [List.getElem?_append_left (List.getElem?_eq_some_iff.mp present).1]
  exact isAt

/-- A task that runs is not cut off, and the other way round. -/
theorem sound_run_iff {input : Input} (present : loop.tasks[id]? = some status)
    (runs : status.runs = some point) :
    Sound loop (.run id input) ↔ SoundTurn loop id input point := by
  have uncut : status.cut = none := by
    rcases status with ⟨_, _ | _⟩ | _ | ⟨_, _ | _⟩ | _ | _ <;> first | rfl | cases runs
  change (∀ point, loop.tasks[id]?.bind Status.runs = some point → _) ∧ _ ↔ _
  rw [present, Option.bind_some, Option.bind_some, runs, uncut]
  refine ⟨fun sound => sound.1 point rfl, fun sound => ⟨fun other same => ?_, fun _ absent => ?_⟩⟩
  · exact Option.some.inj same ▸ sound
  · cases absent

theorem sound_run_iff_cut {input : Input} (present : loop.tasks[id]? = some status)
    (cut : status.cut = some point) : Sound loop (.run id input) ↔ SoundCut loop id point := by
  have unready : status.runs = none := by
    rcases status with ⟨_, _ | _⟩ | _ | ⟨_, _ | _⟩ | _ | _ <;> first | rfl | cases cut
  change (∀ point, loop.tasks[id]?.bind Status.runs = some point → _) ∧ _ ↔ _
  rw [present, Option.bind_some, Option.bind_some, cut, unready]
  refine ⟨fun sound => sound.2 point rfl, fun sound => ⟨fun _ absent => ?_, fun other same => ?_⟩⟩
  · cases absent
  · exact Option.some.inj same ▸ sound

/-- A step keeps the mirror right exactly when it is sound. -/
theorem mirrors_next (mirrors : Mirrors loop) (step : Step) :
    Mirrors (loop.next clients step) ↔ Sound loop step := by
  have moves := loop.moves_step (program clients) step
  change Mirrors (Asyncio.Loop.step (program clients) loop step) ↔ _
  generalize Asyncio.Loop.step (program clients) loop step = later at moves
  cases moves with
  | idle _ readies =>
    obtain ⟨id, rfl | rfl⟩ := readies
    · exact iff_of_true mirrors trivial
    · exact iff_of_true mirrors trivial
  | resting id input unready uncut =>
    refine iff_of_true mirrors ⟨fun point runs => ?_, fun point cut => ?_⟩
    · cases unready.symm.trans runs
    · cases uncut.symm.trans cut
  | readied _ readies id own moved present alive samePoint samePlace =>
    have still : Mirrors { loop with tasks := loop.tasks.set id moved } ↔ Mirrors loop := by
      refine mirrors_congr loop rfl rfl fun reader => exists_congr fun request =>
        and_congr_left fun _ => exists_congr fun deadline => ?_
      change (loop.tasks.set id moved)[reader]?.bind Status.place = _ ↔ _
      rw [Asyncio.bind_set present samePlace]
    obtain ⟨other, rfl | rfl⟩ := readies
    · exact iff_of_true (still.mpr mirrors) trivial
    · exact iff_of_true (still.mpr mirrors) trivial
  | stillborn id input point present =>
    have isAt : loop.tasks[id]?.bind Status.place = some point := by
      rw [present]
      rfl
    exact (mirrors_lost mirrors isAt (mirrors_finished present)).trans
      (sound_run_iff_cut present rfl).symm
  | turned id input own point present runs =>
    exact (mirrors_turn mirrors present runs).trans (sound_run_iff present runs).symm
  | threw id input point present =>
    have isAt : loop.tasks[id]?.bind Status.place = some point := by
      rw [present]
      rfl
    have effect : Effect id loop.tasks.length loop.state (done loop.state) .node := effect_done
    have lost := mirrors_keep effect present (fun _ _ absent => by cases absent) rfl
    exact (mirrors_lost mirrors isAt lost).trans (sound_run_iff_cut present rfl).symm
  | called call => exact iff_of_true (mirrors_called mirrors call) trivial
  | disturbed event => exact mirrors_outside mirrors event

end Steps

end MassL3.SilOrchestrator
