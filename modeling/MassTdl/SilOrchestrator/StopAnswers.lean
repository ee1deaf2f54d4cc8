/-
This file asks what a success of configure() or deactivate() is worth: whether the manager has been
other than active at some time of the call. An exchange with the manager vouches for it, because a
transition that is carried out either leaves `active` or never was there. The one answer that rests
on no exchange is the one that deactivate() gives when the mirror says INACTIVE. The mirror promises
that it says so only while the manager is not active, and the answers of a run are true exactly if
that promise is kept in each step.
-/

import MassTdl.SilOrchestrator.MirrorState

namespace MassL3.SilOrchestrator

open Asyncio (TaskId Turn Status Next)

/-! ### What is asked -/

/-- The loop after the first `count` steps of a run. -/
def loopAt (clients : Clients) (steps : List Step) (count : ℕ) : Loop :=
  Runs.stateAt (Loop.next clients) { state := {} } steps count

/-- The operation that a turn begins. -/
def Point.begins : Point → Option Operation
  | .call begun => some begun.operation
  | .autoStopSleep => some .deactivate
  | _ => none

/-- Between the beginning of a configure() or deactivate() and its success the manager has been
other than active. -/
def AnswersTruly (clients : Clients) (steps : List Step) : Prop :=
  ∀ first last id point operation result, first ≤ last →
    (loopAt clients steps first).tasks[id]?.bind Status.runs = some point →
    point.begins = some operation → operation = .configure ∨ operation = .deactivate →
    ⟨id, operation, result⟩ ∈ (loopAt clients steps last).state.returned.drop
      (loopAt clients steps first).state.returned.length →
    result.success = true →
    ∃ count, first ≤ count ∧ count ≤ last ∧ (loopAt clients steps count).state.mgr ≠ .active

/-- The mirror is right in every state of a run, and the answers are. -/
structure MirrorsNode (clients : Clients) (steps : List Step) : Prop where
  mirrored : ∀ count, Mirrors (loopAt clients steps count)
  answered : AnswersTruly clients steps

/-- A deactivate() that finds the mirror INACTIVE does not find the manager active. -/
def SoundAnswer (loop : Loop) : Step → Prop
  | .run id _ =>
      ∀ point, loop.tasks[id]?.bind Status.runs = some point → point.begins = some .deactivate →
        loop.state.bridge.state = .inactive → loop.state.mgr ≠ .active
  | _ => True

/-! ### Calls without a success of the manager -/

section Turns

variable {clients : Clients} {input : Input} {id next : TaskId} {world : World} {since : ℕ}

/-- A point of a call none of whose requests, all of them younger than `since`, was a success. -/
def Point.Serves (since : ℕ) : Point → Prop
  | .exchange _ request _ => since ≤ request
  | .deactivateBroadcast _ => False
  | _ => True

/-- The tasks that configure or deactivate. -/
def Role.Stops (role : Role) : Prop :=
  role = .call .configure ∨ role = .call .deactivate ∨ role = .timer

/-- A turn of such a call that does not return success. -/
def Fruitless (since : ℕ) (world : World) (turn : Turn Point World) : Prop :=
  (∀ point, turn.next.point = some point → point.Serves since) ∧
    ∃ new : List Returned, turn.state.returned = world.returned ++ new ∧
      ∀ returned ∈ new, returned.result.success = false

theorem fruitless_finish (operation : Operation) {result : LifecycleResult}
    (failed : result.success = false) :
    Fruitless since world (finish id operation result world) :=
  ⟨fun _ absent => (by cases absent), _, rfl, fun _ new => List.mem_singleton.mp new ▸ failed⟩

/-- Nothing is returned by a turn that leaves the list as it is. -/
theorem exists_returned_nil (returned : List Returned) :
    ∃ new : List Returned, returned = returned ++ new ∧
      ∀ returned ∈ new, returned.result.success = false :=
  ⟨[], (List.append_nil _).symm, fun _ absent => (by cases absent)⟩

theorem fruitless_next {later : Next Point} {queries : List (Option NodeState)}
    (serves : ∀ point, later.point = some point → point.Serves since) :
    Fruitless since world { state := { world with queries }, next := later } :=
  ⟨serves, exists_returned_nil world.returned⟩

theorem fruitless_changeState (clients : Clients) (next : TaskId) (purpose : Purpose)
    (recent : since ≤ world.requests.length) :
    Fruitless since world
      (changeState input purpose (conclude clients input id next purpose) world) := by
  refine changeState_conclude (Fruitless since world) purpose
    (fun operation _ failed => fruitless_finish operation failed)
    ⟨fun point isPoint => ?_, exists_returned_nil world.returned⟩
  exact Option.some.inj isPoint ▸ recent

theorem fruitless_requestConfigure (scenario : Scenario) (recent : since ≤ world.requests.length) :
    Fruitless since world (requestConfigure input id scenario world) :=
  fruitless_changeState ⟨[], []⟩ 0 (.configure scenario) recent

theorem fruitless_unconfigure (scenario : Scenario) (recent : since ≤ world.requests.length) :
    Fruitless since world (unconfigure input id (.configure scenario) world) := by
  obtain ⟨name, duration, injections⟩ := scenario
  rcases injections with _ | _ | _
  · exact fruitless_requestConfigure _ recent
  · exact fruitless_requestConfigure _ recent
  · exact ⟨fun _ isPoint => Option.some.inj isPoint ▸ trivial, exists_returned_nil world.returned⟩

theorem fruitless_resetFrom (scenario : Scenario) (label : Option NodeState)
    (recent : since ≤ world.requests.length) :
    Fruitless since world (resetFrom input id (.configure scenario) label world) := by
  rcases label with _ | _ | _ | _ | _
  · exact fruitless_unconfigure scenario recent
  · exact fruitless_unconfigure scenario recent
  · exact fruitless_changeState ⟨[], []⟩ 0 (.resetCleanup (.configure scenario)) recent
  · exact fruitless_changeState ⟨[], []⟩ 0 (.resetDeactivate (.configure scenario)) recent
  · exact fruitless_unconfigure scenario recent

/-- A deactivate() that does not find the mirror INACTIVE asks the manager. -/
theorem fruitless_deactivate (caller : Caller) (started : world.bridge.state ≠ .inactive)
    (recent : since ≤ world.requests.length) :
    Fruitless since world (deactivate clients input id caller world) := by
  unfold deactivate
  rw [if_neg started]
  exact fruitless_changeState clients 0 (.deactivate caller) recent

theorem fruitless_exchange {purpose : Purpose} {request deadline : ℕ} (recent : since ≤ request)
    (unsuccessful : ¬ world.Succeeded request) :
    Fruitless since world
      (turn clients input id next (.exchange purpose request deadline) world) := by
  change Fruitless since world (pollReply _ _ _ _ _ _)
  rcases pollReply_cases input purpose request deadline (conclude clients input id next purpose)
    world with ⟨-, result, failed, isTurn⟩ | ⟨reads, -⟩ | ⟨-, -, left, isTurn⟩
  · obtain ⟨operation, isFinish⟩ := conclude_failed clients input id next world purpose failed
    rw [isTurn, isFinish]
    exact fruitless_finish operation failed
  · exact absurd (Or.inr reads.2) unsuccessful
  · rw [isTurn]
    exact fruitless_next fun _ isPoint => Option.some.inj isPoint ▸ recent

/-- As long as the manager carries nothing out, a call that configures or deactivates does not
succeed, unless it is answered from the mirror. -/
theorem fruitless_turn (point : Point) (stops : point.role.Stops) (serves : point.Serves since)
    (recent : since ≤ world.requests.length)
    (unsuccessful : ∀ request, since ≤ request → ¬ world.Succeeded request)
    (started : point.begins = some .deactivate → world.bridge.state ≠ .inactive) :
    Fruitless since world (turn clients input id next point world) := by
  cases point with
  | call call =>
    cases call with
    | configure scenario =>
      rcases scenario with text | ⟨name, duration, text | injections⟩
      · exact fruitless_finish .configure rfl
      · exact fruitless_finish .configure rfl
      · exact ⟨fun _ isPoint => Option.some.inj isPoint ▸ trivial,
          exists_returned_nil world.returned⟩
    | deactivate => exact fruitless_deactivate .route (started rfl) recent
    | _ => rcases stops with absent | absent | absent <;> cases absent
  | resetGathered goal =>
    cases goal with
    | configure scenario =>
      exact queryState_of (Fruitless since world) _ (fruitless_resetFrom scenario none recent)
        (fruitless_next fun _ isPoint => Option.some.inj isPoint ▸ trivial)
    | cleanup => rcases stops with absent | absent | absent <;> cases absent
  | query goal query deadline =>
    cases goal with
    | configure scenario =>
      exact pollState_of (Fruitless since world) _ query deadline
        (fun label => fruitless_resetFrom scenario label recent)
        fun left _ => fruitless_next fun _ isPoint => Option.some.inj isPoint ▸ trivial
    | cleanup => rcases stops with absent | absent | absent <;> cases absent
  | injected scenario =>
    unfold turn afterInjection
    dsimp only
    split
    · exact fruitless_finish .configure rfl
    · exact fruitless_requestConfigure scenario recent
  | exchange purpose request deadline =>
    exact fruitless_exchange serves (unsuccessful request serves)
  | autoStop =>
    unfold turn sleepFor
    dsimp only
    split
    · exact fruitless_next fun _ isPoint => Option.some.inj isPoint ▸ trivial
    · exact fruitless_next fun _ absent => by cases absent
  | autoStopSleep => exact fruitless_deactivate .timer (started rfl) recent
  | deactivateBroadcast caller => exact serves.elim
  | _ => rcases stops with absent | absent | absent <;> cases absent

end Turns

/-! ### Calls while the manager is active -/

section Loops

variable {clients : Clients} {loop : Loop} {id : TaskId} {since earlier : ℕ}

/-- A task that has returned no success since, and has no request that was one. -/
structure Unanswered (since earlier : ℕ) (id : TaskId) (loop : Loop) : Prop where
  present : id < loop.tasks.length
  recent : since ≤ loop.state.requests.length
  unsuccessful : ∀ request, since ≤ request → ¬ loop.state.Succeeded request
  serves : ∀ point, loop.tasks[id]?.bind Status.place = some point →
    point.role.Stops ∧ point.Serves since
  known : earlier ≤ loop.state.returned.length
  unanswered : ∀ returned ∈ loop.state.returned.drop earlier, returned.task = id →
    returned.result.success = false

/-- A step that leaves the world alone, and the place of the task, or ends it. -/
theorem Unanswered.of_tasks {tasks : List (Status Point)}
    (before : Unanswered since earlier id loop)
    (present : id < tasks.length)
    (sooner : ∀ point, tasks[id]?.bind Status.place = some point →
      loop.tasks[id]?.bind Status.place = some point) :
    Unanswered since earlier id { loop with tasks } :=
  ⟨present, before.recent, before.unsuccessful,
    fun point isAt => before.serves point (sooner point isAt), before.known, before.unanswered⟩

/-- What the turns of other tasks leave of it, and its own when they are fruitless. -/
theorem Unanswered.settle {own : TaskId} {taken : Turn Point World} {role : Role}
    {status : Status Point} (before : Unanswered since earlier id loop)
    (effect : Effect own loop.tasks.length loop.state taken role)
    (present : loop.tasks[own]? = some status)
    (fruitless : own = id → role.Stops ∧ Fruitless since loop.state taken) :
    Unanswered since earlier id (loop.settle own taken) := by
  obtain ⟨transitions, isRequests⟩ := effect.requests
  obtain ⟨new, isReturned, ofTask⟩ := effect.returned
  refine ⟨lt_of_lt_of_le before.present Asyncio.Loop.length_settle_ge, ?_,
    fun request recent => ?_, fun point isAt => ?_, ?_, fun returned member isTask => ?_⟩
  · change since ≤ taken.state.requests.length
    rw [isRequests, List.length_append]
    exact Nat.le_add_right_of_le before.recent
  · exact mt (effect.succeeded_iff request).mp (before.unsuccessful request recent)
  · rcases eq_or_ne id own with rfl | different
    · obtain ⟨stops, serving, -⟩ := fruitless rfl
      rw [Asyncio.Loop.place_settle_own present] at isAt
      exact ⟨(effect.role point isAt).symm ▸ stops, serving point isAt⟩
    · rw [Asyncio.Loop.place_settle_other different before.present] at isAt
      exact before.serves point isAt
  · change earlier ≤ taken.state.returned.length
    rw [isReturned, List.length_append]
    exact Nat.le_add_right_of_le before.known
  · change returned ∈ taken.state.returned.drop earlier at member
    rw [isReturned, List.drop_append_of_le_length before.known] at member
    rcases List.mem_append.mp member with old | added
    · exact before.unanswered returned old isTask
    · rcases eq_or_ne id own with rfl | different
      · obtain ⟨-, -, same, isSame, failed⟩ := fruitless rfl
        have isNew : new = same := List.append_cancel_left (isReturned.symm.trans isSame)
        exact failed returned (isNew ▸ added)
      · exact absurd (isTask.symm.trans (ofTask returned added)) different

/-- A manager that stays active carries nothing out. -/
theorem not_success_of_active {transition : Transition} {outcome : Outcome}
    (staysActive : (NodeState.active.carryOut transition outcome).1 = .active) :
    (NodeState.active.carryOut transition outcome).2 = false := by
  cases transition with
  | deactivate =>
    rcases outcome with _ | _ | _ | _
    · cases staysActive
    · rfl
    · rfl
    · rfl
  | _ => rfl

/-- What happens outside leaves it, unless the manager is stopped by it. -/
theorem Unanswered.outside (before : Unanswered since earlier id loop)
    (isActive : loop.state.mgr = .active) (event : Event)
    (staysActive : (loop.state.outside event).mgr = .active) :
    Unanswered since earlier id { loop with state := loop.state.outside event } := by
  have kept : ∀ later : World, later.returned = loop.state.returned →
      later.requests.length = loop.state.requests.length →
      (∀ request, later.Succeeded request ↔ loop.state.Succeeded request) →
      Unanswered since earlier id { loop with state := later } := by
    intro later sameReturned sameLength sameSuccesses
    refine ⟨before.present, sameLength.symm ▸ before.recent, fun request recent => ?_,
      before.serves, ?_, ?_⟩
    · exact mt (sameSuccesses request).mp (before.unsuccessful request recent)
    · exact sameReturned.symm ▸ before.known
    · exact sameReturned.symm ▸ before.unanswered
  cases event with
  | carryOut request outcome =>
    change (loop.state.carryOut request outcome).mgr = .active at staysActive
    change Unanswered since earlier id { loop with state := loop.state.carryOut request outcome }
    unfold World.carryOut at staysActive ⊢
    split at staysActive
    case h_1 transition present =>
      dsimp only at staysActive ⊢
      rw [isActive] at staysActive ⊢
      rw [not_success_of_active staysActive]
      exact kept _ rfl List.length_set (succeeded_refused present _)
    case h_2 => exact before
  | deliver request =>
    exact kept (loop.state.deliver request) deliver_frame.2.2.2 deliver_frame.2.2.1
      succeeded_deliver
  | tell query => exact kept _ rfl rfl fun _ => Iff.rfl
  | availability available => exact kept _ rfl rfl fun _ => Iff.rfl

theorem Unanswered.next (before : Unanswered since earlier id loop) (step : Step)
    (isActive : loop.state.mgr = .active)
    (staysActive : (loop.next clients step).state.mgr = .active)
    (sound : SoundAnswer loop step) :
    Unanswered since earlier id (loop.next clients step) := by
  have moves := loop.moves_step (program clients) step
  change (Asyncio.Loop.step (program clients) loop step).state.mgr = _ at staysActive
  change Unanswered since earlier id (Asyncio.Loop.step (program clients) loop step)
  generalize Asyncio.Loop.step (program clients) loop step = later at moves staysActive
  cases moves with
  | idle => exact before
  | resting => exact before
  | readied _ _ own status moved present alive samePoint samePlace =>
    refine before.of_tasks (List.length_set.symm ▸ before.present) fun point isAt => ?_
    rw [Asyncio.bind_set present samePlace] at isAt
    exact isAt
  | stillborn own input point present =>
    refine before.of_tasks (List.length_set.symm ▸ before.present) fun point isAt => ?_
    rcases eq_or_ne own id with rfl | different
    · rw [List.getElem?_set_self before.present] at isAt
      cases isAt
    · rw [List.getElem?_set_ne different] at isAt
      exact isAt
  | turned own input status point present runs =>
    refine before.settle (effect_turn clients input own loop.tasks.length loop.state point) present
      ?_
    rintro rfl
    have isAt : loop.tasks[own]?.bind Status.place = some point := by
      rw [present, Option.bind_some]
      exact Status.place_of_runs runs
    obtain ⟨stops, serves⟩ := before.serves point isAt
    refine ⟨stops, fruitless_turn point stops serves before.recent before.unsuccessful
      fun begins stopped => sound point ?_ begins stopped isActive⟩
    rw [present, Option.bind_some]
    exact runs
  | threw own input point present =>
    have isAt : loop.tasks[own]?.bind Status.place = some point := by
      rw [present]
      rfl
    have effect : Effect own loop.tasks.length loop.state (done loop.state) point.role :=
      effect_done
    refine before.settle effect present ?_
    rintro rfl
    exact ⟨(before.serves point isAt).1, fruitless_next fun _ absent => by cases absent⟩
  | called call =>
    refine before.of_tasks ?_ fun point isAt => ?_
    · rw [List.length_append]
      exact Nat.lt_add_right _ before.present
    · rw [List.getElem?_append_left before.present] at isAt
      exact isAt
  | disturbed event => exact before.outside isActive event staysActive

end Loops

/-! ### The result -/

section Runs

variable {clients : Clients} {steps : List Step} {count : ℕ} {step : Step}

theorem loopAt_succ (present : steps[count]? = some step) :
    loopAt clients steps (count + 1) = (loopAt clients steps count).next clients step :=
  Runs.stateAt_succ _ _ _ present

/-- The mirror is right throughout a run exactly when its steps are sound. -/
theorem mirrored_iff :
    (∀ count, Mirrors (loopAt clients steps count)) ↔
      ∀ count step, steps[count]? = some step → Sound (loopAt clients steps count) step := by
  constructor
  · intro mirrored count step present
    have mirrorsNext : Mirrors ((loopAt clients steps count).next clients step) :=
      loopAt_succ present ▸ mirrored (count + 1)
    exact (mirrors_next (mirrored count) step).mp mirrorsNext
  · intro sound count
    exact Runs.stateAt_invariant Mirrors (fun _ absent => by cases absent)
      (fun count step present mirrors => (mirrors_next mirrors step).mpr (sound count step present))
      count

/-- The operation that a turn begins is what its task is there for. -/
theorem stops_of_begins {point : Point} {operation : Operation}
    (begins : point.begins = some operation)
    (stopping : operation = .configure ∨ operation = .deactivate) :
    point.role.Stops ∧ ∀ since, point.Serves since := by
  cases point with
  | call call =>
    refine ⟨?_, fun _ => trivial⟩
    rcases stopping with rfl | rfl
    · exact Or.inl (congrArg Role.call (Option.some.inj begins))
    · exact Or.inr (Or.inl (congrArg Role.call (Option.some.inj begins)))
  | autoStopSleep => exact ⟨Or.inr (Or.inr rfl), fun _ => trivial⟩
  | _ => cases begins

/-- A deactivate() that finds the mirror INACTIVE returns at once. -/
theorem turn_stopped (clients : Clients) (id next : TaskId) (input : Input) {world : World}
    {point : Point}
    (begins : point.begins = some .deactivate) (stopped : world.bridge.state = .inactive) :
    (turn clients input id next point world).state.returned =
        world.returned ++ [⟨id, .deactivate, { success := true }⟩] ∧
      (turn clients input id next point world).state.mgr = world.mgr := by
  have isFinish : ∀ caller, deactivate clients input id caller world = _ := fun _ => if_pos stopped
  cases point with
  | call call =>
    cases call with
    | deactivate =>
      change (deactivate clients input id .route world).state.returned = _ ∧
        (deactivate clients input id .route world).state.mgr = _
      rw [isFinish]
      exact ⟨rfl, rfl⟩
    | _ => cases begins
  | autoStopSleep =>
    change (deactivate clients input id .timer world).state.returned = _ ∧
      (deactivate clients input id .timer world).state.mgr = _
    rw [isFinish]
    exact ⟨rfl, rfl⟩
  | _ => cases begins

/-- A task that is about to begin is unanswered. -/
theorem unanswered_of_begins {loop : Loop} {id : TaskId} {point : Point} {operation : Operation}
    (runs : loop.tasks[id]?.bind Status.runs = some point)
    (begins : point.begins = some operation)
    (stopping : operation = .configure ∨ operation = .deactivate) :
    Unanswered loop.state.requests.length loop.state.returned.length id loop := by
  obtain ⟨status, present, isRunning⟩ := Option.bind_eq_some_iff.mp runs
  obtain ⟨stops, serves⟩ := stops_of_begins begins stopping
  refine ⟨(List.getElem?_eq_some_iff.mp present).1, le_rfl, fun request recent => ?_,
    fun other isAt => ?_, le_rfl, fun returned member => ?_⟩
  · unfold World.Succeeded World.progress
    rw [List.getElem?_eq_none recent]
    rintro (absent | absent) <;> cases absent
  · rw [present, Option.bind_some, Status.place_of_runs isRunning] at isAt
    exact Option.some.inj isAt ▸ ⟨stops, serves _⟩
  · rw [List.drop_length] at member
    cases member

/-- The answers are true exactly when no deactivate() finds the mirror INACTIVE and the manager
active. -/
theorem answersTruly_iff :
    AnswersTruly clients steps ↔
      ∀ count step, steps[count]? = some step →
        SoundAnswer (loopAt clients steps count) step := by
  constructor
  · intro truly count step present
    cases step with
    | run id input =>
      intro point runs begins stopped isActive
      obtain ⟨isReturned, sameMgr⟩ := turn_stopped clients id
        (loopAt clients steps count).tasks.length input begins stopped
      have isNext : (loopAt clients steps (count + 1)).state = (turn clients input id
          (loopAt clients steps count).tasks.length point
            (loopAt clients steps count).state).state :=
        congrArg Asyncio.Loop.state
          ((loopAt_succ present).trans (Asyncio.Loop.step_run (program clients) runs))
      have answered : ⟨id, .deactivate, { success := true }⟩ ∈
          (loopAt clients steps (count + 1)).state.returned.drop
            (loopAt clients steps count).state.returned.length := by
        rw [isNext, isReturned, List.drop_left]
        exact List.mem_singleton_self _
      obtain ⟨other, above, below, neverActive⟩ := truly count (count + 1) id point .deactivate _
        (Nat.le_succ count) runs begins (Or.inr rfl) answered rfl
      rcases Nat.le_succ_iff.mp below with before | rfl
      · rw [Nat.le_antisymm before above] at neverActive
        exact neverActive isActive
      · rw [isNext, sameMgr] at neverActive
        exact neverActive isActive
    | _ => trivial
  · intro sound first last id point operation result later runs begins stopping answered success
    by_contra neverStopped
    have isActive : ∀ count, first ≤ count → count ≤ last →
        (loopAt clients steps count).state.mgr = .active := by
      intro count above below
      by_contra stopped
      exact neverStopped ⟨count, above, below, stopped⟩
    have unanswered := Runs.stateAt_invariant_between
      (Unanswered (loopAt clients steps first).state.requests.length
        (loopAt clients steps first).state.returned.length id) later
      (unanswered_of_begins runs begins stopping)
      fun count step above below present before => by
        have staysActive : ((loopAt clients steps count).next clients step).state.mgr = .active :=
          loopAt_succ present ▸ isActive (count + 1) (Nat.le_succ_of_le above) below
        exact before.next step (isActive count above below.le) staysActive
          (sound count step present)
    rw [unanswered.unanswered _ answered rfl] at success
    cases success

end Runs

/-- The mirror is right in a run, and the answers are, exactly when each of its steps is sound. -/
theorem mirrorsNode_iff (clients : Clients) (steps : List Step) :
    MirrorsNode clients steps ↔ ∀ count step, steps[count]? = some step →
      Sound (loopAt clients steps count) step ∧ SoundAnswer (loopAt clients steps count) step := by
  constructor
  · rintro ⟨mirrored, answered⟩ count step present
    exact ⟨mirrored_iff.mp mirrored count step present,
      answersTruly_iff.mp answered count step present⟩
  · intro sound
    exact ⟨mirrored_iff.mpr fun count step present => (sound count step present).1,
      answersTruly_iff.mpr fun count step present => (sound count step present).2⟩

/-- A scenario of one second is configured and activated. The manager refuses the DEACTIVATE of its
timer, the backup timer expires, and deactivate() is called. -/
def refusedStop : List Step :=
  [.outside (.availability fun _ => true),
    .call (.configure (.ok ⟨"crossing", some (.seconds 1), .ok false⟩)),
    .run 0 {}, .run 1 {}, .run 2 {}, .run 3 {}, .run 4 {}, .run 5 {}, .run 6 {}, .run 7 {},
    .run 8 {}, .join 0, .run 0 {}, .outside (.tell 0), .wake 0, .run 0 {},
    .outside (.carryOut 0 .success), .outside (.deliver 0), .wake 0, .run 0 {},
    .call .activate, .run 10 {}, .outside (.carryOut 1 .success), .outside (.deliver 1), .wake 10,
    .run 10 {}, .run 11 {}, .run 12 {}, .wake 11, .run 11 {}, .outside (.carryOut 2 .failure),
    .outside (.deliver 2), .wake 11, .run 11 {}, .wake 12, .run 12 {}, .call .deactivate,
    .run 13 {}]

theorem mirrorsNode_false :
    ¬ ∀ (clients : Clients) (steps : List Step), MirrorsNode clients steps := by
  intro mirrors
  obtain ⟨count, above, below, stopped⟩ := (mirrors ⟨[], []⟩ refusedStop).answered 37 38 13
    (.call .deactivate) .deactivate { success := true } (by decide) rfl rfl (Or.inr rfl)
    (List.mem_of_getElem? (i := 0) rfl) rfl
  rcases Nat.le_succ_iff.mp below with before | rfl
  · rw [Nat.le_antisymm before above] at stopped
    exact stopped rfl
  · exact stopped rfl

end MassL3.SilOrchestrator
