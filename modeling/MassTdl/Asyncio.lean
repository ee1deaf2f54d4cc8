/-
This file is a small library about cooperative tasks that can be cancelled. A program says what a
task does from one suspension to the next; the loop keeps a status for each task and runs them in
any order. A cancellation is a note that is delivered when the task next runs: a task that has not
started never runs its body, a task that gathers children hands the cancellation down to them, and
a task that cancels itself meets it at its own next suspension.

Nothing in it names a particular program.
-/

import Mathlib.Data.List.Basic
import Mathlib.Data.List.Range
import Mathlib.Tactic.Common

namespace Asyncio

/-! ### Tasks -/

abbrev TaskId := Nat

/-- Where a task is. The flag of a cancellation that is yet to be delivered comes last. -/
inductive Status (Point : Type) where
  | created (point : Point) (cancelled : Bool)
  | sleeping (point : Point)
  | woken (point : Point) (cancelled : Bool)
  | gathering (children : List TaskId) (point : Point) (cancelled : Bool)
  | finished

/-- How a turn ends: with the task, or at a suspension and the point after it. -/
inductive Next (Point : Type) where
  | finished
  | sleeping (point : Point)
  | gathering (children : List Point) (point : Point)

/-- What a task does between two suspensions. -/
structure Turn (Point State : Type) where
  state : State
  cancels : List TaskId := []
  spawned : List Point := []
  next : Next Point := .finished

/-- What tasks do at their points, given their own identifier and the next free one, what they do
where a cancellation is delivered, and where a call from outside begins. -/
structure Program (Point State Input Call Event : Type) where
  entry : Call → Point
  turn : Input → TaskId → TaskId → Point → State → Turn Point State
  thrown : Point → State → Turn Point State
  outside : Event → State → State

structure Loop (Point State : Type) where
  state : State
  tasks : List (Status Point) := []

section Tasks

variable {Point : Type}

namespace Status

/-- The note of a cancellation. A sleep is ended by it. -/
def cancel : Status Point → Status Point
  | created point _ => created point true
  | sleeping point => woken point true
  | woken point _ => woken point true
  | gathering children point _ => gathering children point true
  | finished => finished

def isFinished : Status Point → Bool
  | finished => true
  | _ => false

/-- The point of a task that is not cancelled. -/
def point : Status Point → Option Point
  | created point false => some point
  | sleeping point => some point
  | woken point false => some point
  | gathering _ point false => some point
  | _ => none

/-- The point of a task, cancelled or not. -/
def place : Status Point → Option Point
  | created point _ => some point
  | sleeping point => some point
  | woken point _ => some point
  | gathering _ point _ => some point
  | finished => none

/-- The point from which the task runs in its next turn. -/
def runs : Status Point → Option Point
  | created point false => some point
  | woken point false => some point
  | _ => none

/-- The point at which the task is cut off in its next turn. -/
def cut : Status Point → Option Point
  | created point true => some point
  | woken point true => some point
  | _ => none

/-- The task never runs its body, or never again. -/
def Doomed (status : Status Point) : Prop :=
  (∃ point, status = created point true) ∨ status = finished

end Status

namespace Next

/-- The status at the end of a turn, for children with given identifiers. -/
def status (next : Next Point) (firstChild : TaskId) (cancelled : Bool) : Status Point :=
  match next with
  | finished => .finished
  | sleeping point => if cancelled then .woken point true else .sleeping point
  | gathering children point =>
      .gathering (List.range' firstChild children.length) point cancelled

def children : Next Point → List Point
  | gathering children _ => children
  | _ => []

def point : Next Point → Option Point
  | finished => none
  | sleeping point => some point
  | gathering _ point => some point

end Next

/-- The tasks that the cancellation of a task reaches: itself and the children it gathers. -/
def reached (tasks : List (Status Point)) : Nat → TaskId → List TaskId
  | 0, id => [id]
  | fuel + 1, id =>
      match tasks[id]? with
      | some (.gathering children _ _) => id :: children.flatMap (reached tasks fuel)
      | _ => [id]

def reach (tasks : List (Status Point)) (ids : List TaskId) : List TaskId :=
  ids.flatMap (reached tasks tasks.length)

def cancelAll (tasks : List (Status Point)) (ids : List TaskId) : List (Status Point) :=
  tasks.mapIdx fun id status => if id ∈ reach tasks ids then status.cancel else status

end Tasks

/-! ### The loop -/

/-- A step of the loop: a sleep is over, a task runs, gathered children are all done, a call comes
from outside, or the state changes from outside. -/
inductive Step (Input Call Event : Type) where
  | wake (id : TaskId)
  | run (id : TaskId) (input : Input)
  | join (id : TaskId)
  | call (call : Call)
  | outside (event : Event)

namespace Loop

variable {Point State Input Call Event : Type}

/-- The loop after a turn of a task. -/
def settle (loop : Loop Point State) (id : TaskId) (turn : Turn Point State) :
    Loop Point State where
  state := turn.state
  tasks :=
    let cancelled : Bool := id ∈ reach loop.tasks turn.cancels
    (cancelAll loop.tasks turn.cancels).set id
        (turn.next.status (loop.tasks.length + turn.spawned.length) cancelled) ++
      (turn.spawned.map (Status.created · false) ++
        turn.next.children.map (Status.created · cancelled))

/-- The loop after a task has run. -/
def runTask (program : Program Point State Input Call Event) (loop : Loop Point State)
    (id : TaskId) (input : Input) : Loop Point State :=
  match loop.tasks[id]? with
  | some (.created point false) | some (.woken point false) =>
      loop.settle id (program.turn input id loop.tasks.length point loop.state)
  | some (.created _ true) => { loop with tasks := loop.tasks.set id .finished }
  | some (.woken point true) => loop.settle id (program.thrown point loop.state)
  | _ => loop

def wake (loop : Loop Point State) (id : TaskId) : Loop Point State :=
  match loop.tasks[id]? with
  | some (.sleeping point) => { loop with tasks := loop.tasks.set id (.woken point false) }
  | _ => loop

def join (loop : Loop Point State) (id : TaskId) : Loop Point State :=
  match loop.tasks[id]? with
  | some (.gathering children point cancelled) =>
      if children.all fun child => loop.tasks[child]?.any Status.isFinished then
        { loop with tasks := loop.tasks.set id (.woken point cancelled) }
      else loop
  | _ => loop

def step (program : Program Point State Input Call Event) (loop : Loop Point State) :
    Step Input Call Event → Loop Point State
  | .wake id => loop.wake id
  | .run id input => loop.runTask program id input
  | .join id => loop.join id
  | .call call => { loop with tasks := loop.tasks ++ [.created (program.entry call) false] }
  | .outside event => { loop with state := program.outside event loop.state }

end Loop

/-! ### What a cancellation leaves -/

section Cancellations

variable {Point : Type} {tasks : List (Status Point)} {ids : List TaskId} {id : TaskId}
  {status : Status Point}

/-- A cancelled task is at no point any more. -/
theorem Status.point_cancel : status.cancel.point = none := by
  cases status <;> rfl

theorem Status.place_cancel : status.cancel.place = status.place := by
  cases status <;> rfl

theorem Status.Doomed.cancel (doomed : status.Doomed) : status.cancel.Doomed := by
  rcases doomed with ⟨point, rfl⟩ | rfl
  · exact Or.inl ⟨point, rfl⟩
  · exact Or.inr rfl

theorem Status.Doomed.runs (doomed : status.Doomed) : status.runs = none := by
  rcases doomed with ⟨point, rfl⟩ | rfl <;> rfl

/-- A task that can run is at the point from which it runs. -/
theorem Status.point_of_runs {point : Point} (runs : status.runs = some point) :
    status.point = some point := by
  rcases status with ⟨_, _ | _⟩ | _ | ⟨_, _ | _⟩ | _ | _ <;> first | exact runs | cases runs

theorem Status.place_of_runs {point : Point} (runs : status.runs = some point) :
    status.place = some point := by
  rcases status with ⟨_, _ | _⟩ | _ | ⟨_, _ | _⟩ | _ | _ <;> first | exact runs | cases runs

/-- A cancellation reaches the task it is meant for. -/
theorem mem_reach (member : id ∈ ids) : id ∈ reach tasks ids := by
  refine List.mem_flatMap.mpr ⟨id, member, ?_⟩
  cases tasks.length with
  | zero => exact List.mem_singleton_self id
  | succ fuel =>
    unfold reached
    split
    · exact List.mem_cons_self
    · exact List.mem_singleton_self id

theorem length_cancelAll : (cancelAll tasks ids).length = tasks.length := List.length_mapIdx

theorem getElem?_cancelAll :
    (cancelAll tasks ids)[id]? =
      tasks[id]?.map fun status => if id ∈ reach tasks ids then status.cancel else status :=
  List.getElem?_mapIdx

end Cancellations

/-! ### What a turn leaves -/

section Turns

variable {Point State : Type} {loop : Loop Point State} {id other : TaskId}
  {turn : Turn Point State} {status : Status Point} {point : Point}

theorem Next.place_status {next : Next Point} {first : TaskId} {cancelled : Bool} :
    (next.status first cancelled).place = next.point := by
  cases next <;> cases cancelled <;> rfl

theorem Next.point_status {next : Next Point} {first : TaskId} {cancelled : Bool} :
    (next.status first cancelled).point = if cancelled then none else next.point := by
  cases next <;> cases cancelled <;> rfl

/-- The tasks before a turn keep their places. -/
theorem Loop.getElem?_settle_of_lt (before : other < loop.tasks.length) :
    (loop.settle id turn).tasks[other]? =
      ((cancelAll loop.tasks turn.cancels).set id
        (turn.next.status (loop.tasks.length + turn.spawned.length)
          (decide (id ∈ reach loop.tasks turn.cancels))))[other]? := by
  refine List.getElem?_append_left ?_
  rw [List.length_set, length_cancelAll]
  exact before

/-- What a turn leaves of another task. -/
theorem Loop.settle_other (different : other ≠ id) (present : loop.tasks[other]? = some status) :
    (loop.settle id turn).tasks[other]? =
      some (if other ∈ reach loop.tasks turn.cancels then status.cancel else status) := by
  obtain ⟨before, -⟩ := List.getElem?_eq_some_iff.mp present
  rw [getElem?_settle_of_lt before, List.getElem?_set_ne different.symm, getElem?_cancelAll,
    present]
  rfl

/-- The task itself after its turn. -/
theorem Loop.settle_own (present : loop.tasks[id]? = some status) :
    (loop.settle id turn).tasks[id]? =
      some (turn.next.status (loop.tasks.length + turn.spawned.length)
        (decide (id ∈ reach loop.tasks turn.cancels))) := by
  obtain ⟨before, -⟩ := List.getElem?_eq_some_iff.mp present
  rw [getElem?_settle_of_lt before, List.getElem?_set_self]
  rw [length_cancelAll]
  exact before

/-- The tasks that a turn creates. -/
theorem Loop.settle_new {number : ℕ} :
    (loop.settle id turn).tasks[loop.tasks.length + number]? =
      (turn.spawned.map (Status.created · false) ++ turn.next.children.map
        (Status.created · (decide (id ∈ reach loop.tasks turn.cancels))))[number]? := by
  have length : ((cancelAll loop.tasks turn.cancels).set id
      (turn.next.status (loop.tasks.length + turn.spawned.length)
        (decide (id ∈ reach loop.tasks turn.cancels)))).length = loop.tasks.length := by
    rw [List.length_set, length_cancelAll]
  unfold settle
  dsimp only
  rw [List.getElem?_append_right (length.trans_le (Nat.le_add_right _ _)), length,
    Nat.add_sub_cancel_left]

theorem Loop.length_settle_ge : loop.tasks.length ≤ (loop.settle id turn).tasks.length := by
  unfold settle
  dsimp only
  rw [List.length_append, List.length_set, length_cancelAll]
  exact Nat.le_add_right _ _

/-- Where an uncancelled task is after a turn: it has taken the turn, it has stood there and was not
cancelled, or the turn has created it. -/
theorem Loop.point_settle (present : loop.tasks[id]?.isSome = true)
    (isAt : (loop.settle id turn).tasks[other]?.bind Status.point = some point) :
    (other = id ∧ turn.next.point = some point ∧ id ∉ turn.cancels) ∨
      (loop.tasks[other]?.bind Status.point = some point ∧ other ∉ turn.cancels) ∨
      (∃ number, turn.spawned[number]? = some point ∧ other = loop.tasks.length + number) ∨
      point ∈ turn.next.children := by
  obtain ⟨own, isOwn⟩ := Option.isSome_iff_exists.mp present
  rcases Nat.lt_or_ge other loop.tasks.length with before | created
  · obtain ⟨status, isStatus⟩ : ∃ status, loop.tasks[other]? = some status :=
      ⟨_, List.getElem?_eq_getElem before⟩
    by_cases same : other = id
    · subst same
      rw [settle_own isOwn, Option.bind_some, Next.point_status] at isAt
      split_ifs at isAt with cancelled
      refine Or.inl ⟨rfl, isAt, fun member => cancelled ?_⟩
      exact decide_eq_true (mem_reach member)
    · rw [settle_other same isStatus, Option.bind_some] at isAt
      split_ifs at isAt with cancelled
      · rw [Status.point_cancel] at isAt
        cases isAt
      · refine Or.inr (Or.inl ⟨?_, fun member => cancelled (mem_reach member)⟩)
        rw [isStatus, Option.bind_some, isAt]
  · obtain ⟨number, rfl⟩ := Nat.exists_eq_add_of_le created
    rw [settle_new] at isAt
    obtain ⟨status, isStatus, isPoint⟩ := Option.bind_eq_some_iff.mp isAt
    rcases Nat.lt_or_ge number (turn.spawned.map (Status.created · false)).length with spawned |
      later
    · rw [List.getElem?_append_left spawned, List.getElem?_map] at isStatus
      obtain ⟨point, isSpawned, rfl⟩ := Option.map_eq_some_iff.mp isStatus
      exact Or.inr (Or.inr (Or.inl ⟨number, isSpawned.trans isPoint, rfl⟩))
    · rw [List.getElem?_append_right later] at isStatus
      obtain ⟨child, isChild, rfl⟩ := List.mem_map.mp (List.mem_of_getElem? isStatus)
      refine Or.inr (Or.inr (Or.inr ?_))
      cases cancelled : decide (id ∈ reach loop.tasks turn.cancels) with
      | false =>
        rw [cancelled] at isPoint
        exact Option.some.inj isPoint ▸ isChild
      | true =>
        rw [cancelled] at isPoint
        cases isPoint

/-- Where a task is after a turn, cancelled or not. -/
theorem Loop.place_settle_other (different : other ≠ id) (before : other < loop.tasks.length) :
    (loop.settle id turn).tasks[other]?.bind Status.place =
      loop.tasks[other]?.bind Status.place := by
  have present : loop.tasks[other]? = some loop.tasks[other] := List.getElem?_eq_getElem before
  rw [settle_other different present, present, Option.bind_some, Option.bind_some]
  split_ifs
  exacts [Status.place_cancel, rfl]

theorem Loop.place_settle_own (present : loop.tasks[id]? = some status) :
    (loop.settle id turn).tasks[id]?.bind Status.place = turn.next.point := by
  rw [settle_own present, Option.bind_some, Next.place_status]

/-- A task that a turn creates is one it spawns or a child it gathers. -/
theorem Loop.place_settle_new (created : loop.tasks.length ≤ other)
    (isAt : (loop.settle id turn).tasks[other]?.bind Status.place = some point) :
    point ∈ turn.spawned ∨ point ∈ turn.next.children := by
  obtain ⟨number, rfl⟩ := Nat.exists_eq_add_of_le created
  rw [settle_new] at isAt
  obtain ⟨status, isStatus, isPoint⟩ := Option.bind_eq_some_iff.mp isAt
  rcases List.mem_append.mp (List.mem_of_getElem? isStatus) with spawned | child
  · obtain ⟨point, isSpawned, rfl⟩ := List.mem_map.mp spawned
    exact Or.inl (Option.some.inj isPoint ▸ isSpawned)
  · obtain ⟨point, isChild, rfl⟩ := List.mem_map.mp child
    exact Or.inr (Option.some.inj isPoint ▸ isChild)

/-- What is read of the tasks is not changed by another status that reads the same. -/
theorem bind_set {Read : Type} {read : Status Point → Option Read} {tasks : List (Status Point)}
    {later : Status Point} (present : tasks[id]? = some status) (same : read later = read status) :
    (tasks.set id later)[other]?.bind read = tasks[other]?.bind read := by
  rcases eq_or_ne id other with rfl | different
  · rw [List.getElem?_set_self (List.getElem?_eq_some_iff.mp present).1, present]
    exact same
  · rw [List.getElem?_set_ne different]

end Turns

/-! ### What a step can do -/

section Moves

variable {Point State Input Call Event : Type} {program : Program Point State Input Call Event}
  {loop : Loop Point State}

/-- A step that is about the readiness of a task. -/
def Step.Readies (step : Step Input Call Event) : Prop :=
  ∃ id, step = .wake id ∨ step = .join id

/-- What a step makes of the loop. -/
inductive Loop.Moves (program : Program Point State Input Call Event) (loop : Loop Point State) :
    Step Input Call Event → Loop Point State → Prop
  /-- A task is not to become ready yet. -/
  | idle (step : Step Input Call Event) (readies : step.Readies) : Moves program loop step loop
  /-- A task is not to run yet. -/
  | resting (id : TaskId) (input : Input) (unready : loop.tasks[id]?.bind Status.runs = none)
      (uncut : loop.tasks[id]?.bind Status.cut = none) : Moves program loop (.run id input) loop
  /-- A task becomes ready where it is. -/
  | readied (step : Step Input Call Event) (readies : step.Readies) (id : TaskId)
      (status later : Status Point) (present : loop.tasks[id]? = some status)
      (alive : ¬ status.Doomed)
      (samePoint : later.point = status.point) (samePlace : later.place = status.place) :
      Moves program loop step { loop with tasks := loop.tasks.set id later }
  /-- A task that was cancelled before its first turn is over. -/
  | stillborn (id : TaskId) (input : Input) (point : Point)
      (present : loop.tasks[id]? = some (.created point true)) :
      Moves program loop (.run id input) { loop with tasks := loop.tasks.set id .finished }
  | turned (id : TaskId) (input : Input) (status : Status Point) (point : Point)
      (present : loop.tasks[id]? = some status) (runs : status.runs = some point) :
      Moves program loop (.run id input)
        (loop.settle id (program.turn input id loop.tasks.length point loop.state))
  | threw (id : TaskId) (input : Input) (point : Point)
      (present : loop.tasks[id]? = some (.woken point true)) :
      Moves program loop (.run id input) (loop.settle id (program.thrown point loop.state))
  | called (call : Call) :
      Moves program loop (.call call)
        { loop with tasks := loop.tasks ++ [.created (program.entry call) false] }
  | disturbed (event : Event) :
      Moves program loop (.outside event)
        { loop with state := program.outside event loop.state }

theorem Loop.moves_wake (id : TaskId) :
    Moves program loop (.wake id) (loop.step program (.wake id)) := by
  change Moves program loop (.wake id) (loop.wake id)
  unfold Loop.wake
  split
  case h_1 point present =>
    exact .readied _ ⟨id, Or.inl rfl⟩ id _ _ present
      (fun doomed => by rcases doomed with ⟨_, h⟩ | h <;> cases h) rfl rfl
  case h_2 => exact .idle _ ⟨id, Or.inl rfl⟩

theorem Loop.moves_join (id : TaskId) :
    Moves program loop (.join id) (loop.step program (.join id)) := by
  change Moves program loop (.join id) (loop.join id)
  unfold Loop.join
  split
  case h_1 children point cancelled present =>
    split_ifs
    · exact .readied _ ⟨id, Or.inr rfl⟩ id _ _ present
        (fun doomed => by rcases doomed with ⟨_, h⟩ | h <;> cases h)
        (by cases cancelled <;> rfl) rfl
    · exact .idle _ ⟨id, Or.inr rfl⟩
  case h_2 => exact .idle _ ⟨id, Or.inr rfl⟩

theorem Loop.moves_run (id : TaskId) (input : Input) :
    Moves program loop (.run id input) (loop.step program (.run id input)) := by
  change Moves program loop (.run id input) (loop.runTask program id input)
  unfold Loop.runTask
  split
  case h_1 point present => exact .turned id input _ point present rfl
  case h_2 point present => exact .turned id input _ point present rfl
  case h_3 point present => exact .stillborn id input point present
  case h_4 point present => exact .threw id input point present
  case h_5 notCreated notWoken notDoomed notThrown =>
    cases present : loop.tasks[id]? with
    | none => exact .resting id input (by rw [present]; rfl) (by rw [present]; rfl)
    | some status =>
      rcases status with ⟨point, _ | _⟩ | point | ⟨point, _ | _⟩ | _ | _
      · exact absurd present (notCreated point)
      · exact absurd present (notDoomed point)
      · exact .resting id input (by rw [present]; rfl) (by rw [present]; rfl)
      · exact absurd present (notWoken point)
      · exact absurd present (notThrown point)
      · exact .resting id input (by rw [present]; rfl) (by rw [present]; rfl)
      · exact .resting id input (by rw [present]; rfl) (by rw [present]; rfl)

theorem Loop.moves_step (program : Program Point State Input Call Event) (loop : Loop Point State)
    (step : Step Input Call Event) :
    Moves program loop step (loop.step program step) := by
  cases step with
  | wake id => exact moves_wake id
  | run id input => exact moves_run id input
  | join id => exact moves_join id
  | call call => exact .called call
  | outside event => exact .disturbed event

/-- A task that can run takes its turn. -/
theorem Loop.step_run (program : Program Point State Input Call Event) {id : TaskId}
    {input : Input} {point : Point} (runs : loop.tasks[id]?.bind Status.runs = some point) :
    loop.step program (.run id input) =
      loop.settle id (program.turn input id loop.tasks.length point loop.state) := by
  obtain ⟨status, present, isPoint⟩ := Option.bind_eq_some_iff.mp runs
  change loop.runTask program id input = _
  unfold Loop.runTask
  rw [present]
  rcases status with ⟨own, _ | _⟩ | own | ⟨own, _ | _⟩ | _ | _ <;> cases isPoint <;> rfl

end Moves

/-! ### Tasks that never run -/

section Doomed

variable {Point State Input Call Event : Type} {program : Program Point State Input Call Event}
  {loop : Loop Point State} {id other : TaskId} {own status : Status Point}

/-- The turns of others leave a doomed task doomed. -/
theorem Loop.doomed_settle (turn : Turn Point State) (different : other ≠ id)
    (present : loop.tasks[other]? = some status) (doomed : status.Doomed) :
    ∃ later, (loop.settle id turn).tasks[other]? = some later ∧ later.Doomed := by
  refine ⟨_, settle_other different present, ?_⟩
  split_ifs
  exacts [doomed.cancel, doomed]

/-- A doomed task stays so in every step. -/
theorem Loop.doomed_step (step : Step Input Call Event)
    (present : loop.tasks[other]? = some status) (doomed : status.Doomed) :
    ∃ later, (loop.step program step).tasks[other]? = some later ∧ later.Doomed := by
  have before : other < loop.tasks.length := (List.getElem?_eq_some_iff.mp present).1
  have moves := loop.moves_step program step
  generalize loop.step program step = later at moves
  cases moves with
  | idle => exact ⟨status, present, doomed⟩
  | resting => exact ⟨status, present, doomed⟩
  | readied _ _ id own moved isOwn alive =>
    have different : id ≠ other := by
      rintro rfl
      exact alive (Option.some.inj (present.symm.trans isOwn) ▸ doomed)
    exact ⟨status, (List.getElem?_set_ne different).trans present, doomed⟩
  | stillborn id input point isOwn =>
    rcases eq_or_ne id other with rfl | different
    · exact ⟨.finished, List.getElem?_set_self before, Or.inr rfl⟩
    · exact ⟨status, (List.getElem?_set_ne different).trans present, doomed⟩
  | turned id input own point isOwn runs =>
    refine doomed_settle _ ?_ present doomed
    rintro rfl
    rw [Option.some.inj (isOwn.symm.trans present), doomed.runs] at runs
    cases runs
  | threw id input point isOwn =>
    refine doomed_settle _ ?_ present doomed
    rintro rfl
    rw [Option.some.inj (present.symm.trans isOwn)] at doomed
    rcases doomed with ⟨_, created⟩ | finished
    · cases created
    · cases finished
  | called call => exact ⟨status, (List.getElem?_append_left before).trans present, doomed⟩
  | disturbed event => exact ⟨status, present, doomed⟩

/-- The children of a task that has cancelled itself in the turn that gathers them are doomed. -/
theorem Loop.settle_child_doomed (turn : Turn Point State) {number : ℕ} {point : Point}
    (suicidal : id ∈ turn.cancels) (isChild : turn.next.children[number]? = some point) :
    (loop.settle id turn).tasks[loop.tasks.length + (turn.spawned.length + number)]? =
      some (.created point true) := by
  rw [settle_new, List.getElem?_append_right (by rw [List.length_map]; exact Nat.le_add_right _ _),
    List.length_map, Nat.add_sub_cancel_left, List.getElem?_map, isChild, Option.map_some,
    decide_eq_true (mem_reach suicidal)]

end Doomed

end Asyncio
