/-
This file models the manager of the rescans. Requests ask for a rescan or for how far it is, from
any thread, and a single worker runs what has been accepted; every access to the snapshot takes
one lock, so a run is some order of the pieces of code between taking the lock and leaving it.

Whatever that order is, no two rescans run at the same time, each one that was accepted is run
once, in the order of acceptance, and the snapshot shows the last accepted one and nothing that
any other has reported.
-/

import MassTdl.Runs

namespace MassL3.EvidenceLibrary.Rescans

/-! ### The manager -/

inductive JobState where
  | idle
  | queued
  | running
  | completed
  | failed
  deriving DecidableEq

structure ReportedError where
  path : String
  error : String
  deriving DecidableEq

/-- What a scan reports, each field only if it is named. -/
structure Progress (Cleanup : Type) where
  total : Option Nat := none
  processed : Option Nat := none
  ingested : Option Nat := none
  skipped : Option Nat := none
  pruned : Option Nat := none
  errors : Option (List ReportedError) := none
  cleanupPending : Option (List Cleanup) := none

structure Snapshot (Cleanup Time : Type) where
  jobId : Option String
  state : JobState
  force : Bool
  total : Nat
  processed : Nat
  ingested : Nat
  skipped : Nat
  pruned : Nat
  errors : List ReportedError
  cleanupPending : List Cleanup
  startedAt : Option Time
  finishedAt : Option Time

structure Job where
  jobId : String
  repoRoot : Option String
  force : Bool
  deriving DecidableEq

variable {Cleanup Time : Type}

def newSnapshot (jobId : Option String) (force : Bool) : Snapshot Cleanup Time where
  jobId := jobId
  state := if jobId = none then .idle else .queued
  force := force
  total := 0
  processed := 0
  ingested := 0
  skipped := 0
  pruned := 0
  errors := []
  cleanupPending := []
  startedAt := none
  finishedAt := none

/-- The fields that are named are overwritten. -/
def Snapshot.put (snapshot : Snapshot Cleanup Time) (progress : Progress Cleanup) :
    Snapshot Cleanup Time :=
  { snapshot with
    total := progress.total.getD snapshot.total
    processed := progress.processed.getD snapshot.processed
    ingested := progress.ingested.getD snapshot.ingested
    skipped := progress.skipped.getD snapshot.skipped
    pruned := progress.pruned.getD snapshot.pruned
    errors := progress.errors.getD snapshot.errors
    cleanupPending := progress.cleanupPending.getD snapshot.cleanupPending }

/-- The manager with its executor: what is submitted and not begun, and what the worker runs. -/
structure EvidenceRescanManager (Cleanup Time : Type) where
  snapshot : Snapshot Cleanup Time
  queue : List Job
  running : Option Job

namespace EvidenceRescanManager

def initial : EvidenceRescanManager Cleanup Time where
  snapshot := newSnapshot none false
  queue := []
  running := none

variable (manager : EvidenceRescanManager Cleanup Time)

def active : Bool := manager.snapshot.state = .queued || manager.snapshot.state = .running

/-- A request for a rescan, with the name a new job would get. The first result is the answer. -/
def start (jobId : String) (repoRoot : Option String) (force : Bool) :
    Snapshot Cleanup Time × EvidenceRescanManager Cleanup Time :=
  if manager.active then (manager.snapshot, manager)
  else
    let queued := newSnapshot (some jobId) force
    (queued, { manager with
      snapshot := queued
      queue := manager.queue ++ [{ jobId, repoRoot, force }] })

def status : Snapshot Cleanup Time := manager.snapshot

def updateProgress (jobId : String) (updates : Progress Cleanup) :
    EvidenceRescanManager Cleanup Time :=
  if manager.snapshot.jobId ≠ some jobId then manager
  else { manager with snapshot := manager.snapshot.put updates }

/-- The worker takes the next job. It leaves it if the snapshot is of another one. -/
def runBegins (now : Time) : EvidenceRescanManager Cleanup Time :=
  match manager.running, manager.queue with
  | none, job :: rest =>
    if manager.snapshot.jobId ≠ some job.jobId then { manager with queue := rest }
    else
      { snapshot := { manager.snapshot with state := .running, startedAt := some now }
        queue := rest
        running := some job }
  | _, _ => manager

/-- The scan returns. -/
def runCompletes (job : Job) (result : Progress Cleanup) (now : Time) :
    EvidenceRescanManager Cleanup Time :=
  let manager := { manager with running := none }
  if manager.snapshot.jobId ≠ some job.jobId then manager
  else
    { manager with
      snapshot := { manager.snapshot.put result with state := .completed, finishedAt := some now } }

/-- The scan raises an exception. -/
def runFails (job : Job) (error : String) (now : Time) : EvidenceRescanManager Cleanup Time :=
  let manager := { manager with running := none }
  if manager.snapshot.jobId = some job.jobId then
    { manager with
      snapshot := { manager.snapshot with
        state := .failed
        errors := [{ path := "rescan", error }]
        finishedAt := some now } }
  else manager

end EvidenceRescanManager

/-! ### Runs -/

/-- What one thread does while it has the lock. A report or an end comes from the scan that is
running; where none is, it does not happen. -/
inductive Event (Cleanup Time : Type) where
  | start (jobId : String) (repoRoot : Option String) (force : Bool)
  | status
  | begins (now : Time)
  | progress (updates : Progress Cleanup)
  | completes (result : Progress Cleanup) (now : Time)
  | fails (error : String) (now : Time)

def step (manager : EvidenceRescanManager Cleanup Time) :
    Event Cleanup Time → EvidenceRescanManager Cleanup Time
  | .start jobId repoRoot force => (manager.start jobId repoRoot force).2
  | .status => manager
  | .begins now => manager.runBegins now
  | .progress updates =>
    match manager.running with
    | some job => manager.updateProgress job.jobId updates
    | none => manager
  | .completes result now =>
    match manager.running with
    | some job => manager.runCompletes job result now
    | none => manager
  | .fails error now =>
    match manager.running with
    | some job => manager.runFails job error now
    | none => manager

/-! ### What has happened -/

/-- What a scan has done to the snapshot. -/
inductive Report (Cleanup Time : Type) where
  | began (now : Time)
  | progress (updates : Progress Cleanup)
  | completed (result : Progress Cleanup) (now : Time)
  | failed (error : String) (now : Time)

def Report.put (snapshot : Snapshot Cleanup Time) : Report Cleanup Time → Snapshot Cleanup Time
  | began now => { snapshot with state := .running, startedAt := some now }
  | progress updates => snapshot.put updates
  | completed result now => { snapshot.put result with state := .completed, finishedAt := some now }
  | failed error now =>
    { snapshot with
      state := .failed
      errors := [{ path := "rescan", error }]
      finishedAt := some now }

/-- What is to be shown of a job that has reported. -/
def shown (job : Option Job) (reports : List (Report Cleanup Time)) : Snapshot Cleanup Time :=
  reports.foldl Report.put
    (newSnapshot (job.map (·.jobId)) ((job.map (·.force)).getD false))

/-- The manager with its history: the jobs that were accepted, those whose scan was called, those
whose scan is over, and what the scans have reported since the last job was accepted. -/
structure History (Cleanup Time : Type) where
  manager : EvidenceRescanManager Cleanup Time
  accepted : List Job
  begun : List Job
  ended : List Job
  reports : List (Report Cleanup Time)

namespace History

def initial : History Cleanup Time where
  manager := .initial
  accepted := []
  begun := []
  ended := []
  reports := []

/-- The reports that an event adds. -/
def reportsOf (manager : EvidenceRescanManager Cleanup Time) :
    Event Cleanup Time → List (Report Cleanup Time)
  | .start .. | .status => []
  | .begins now =>
    if manager.running = none ∧ (manager.runBegins now).running ≠ none then [.began now] else []
  | .progress updates => if manager.running = none then [] else [.progress updates]
  | .completes result now => if manager.running = none then [] else [.completed result now]
  | .fails error now => if manager.running = none then [] else [.failed error now]

def step (history : History Cleanup Time) (event : Event Cleanup Time) :
    History Cleanup Time where
  manager := Rescans.step history.manager event
  accepted := match event with
    | .start jobId repoRoot force =>
      if history.manager.active then history.accepted
      else history.accepted ++ [{ jobId, repoRoot, force }]
    | _ => history.accepted
  begun := match event, history.manager.running with
    | .begins now, none => history.begun ++ (history.manager.runBegins now).running.toList
    | _, _ => history.begun
  ended := match event with
    | .completes .. | .fails .. => history.ended ++ history.manager.running.toList
    | _ => history.ended
  reports := match event with
    | .start .. => if history.manager.active then history.reports else []
    | _ => history.reports ++ reportsOf history.manager event

end History

/-! ### One scan at a time -/

/-- What the worker and the executor are at, and that the snapshot is of that job. -/
inductive Phase (manager : EvidenceRescanManager Cleanup Time) : Prop where
  | resting (queue : manager.queue = []) (running : manager.running = none)
      (rests : manager.active = false)
  | waiting (job : Job) (queue : manager.queue = [job]) (running : manager.running = none)
      (state : manager.snapshot.state = .queued) (own : manager.snapshot.jobId = some job.jobId)
  | scanning (job : Job) (queue : manager.queue = []) (running : manager.running = some job)
      (state : manager.snapshot.state = .running) (own : manager.snapshot.jobId = some job.jobId)

/-- What holds between the manager and its history. -/
structure RescanLaw (history : History Cleanup Time) : Prop where
  /-- No more than one job is accepted and not over. -/
  phase : Phase history.manager
  /-- Each accepted job is scanned once, in the order of acceptance. -/
  accepted : history.accepted = history.begun ++ history.manager.queue
  begun : history.begun = history.ended ++ history.manager.running.toList
  /-- The snapshot shows the last accepted job, and what its scan has reported. -/
  shows : history.manager.snapshot = shown history.accepted.getLast? history.reports

theorem shown_append (job : Option Job) (reports later : List (Report Cleanup Time)) :
    shown job (reports ++ later) = later.foldl Report.put (shown job reports) :=
  List.foldl_append

namespace RescanLaw

variable {history : History Cleanup Time} (law : RescanLaw history)
include law

/-- A request during a scan is answered with it and changes nothing. -/
theorem start_of_active (active : history.manager.active = true) (jobId : String)
    (repoRoot : Option String) (force : Bool) :
    RescanLaw (history.step (.start jobId repoRoot force)) := by
  have same : history.step (.start jobId repoRoot force) = history := by
    unfold History.step step EvidenceRescanManager.start
    simp only [active, if_true]
  rw [same]
  exact law

theorem start_of_resting (rests : history.manager.active = false) (jobId : String)
    (repoRoot : Option String) (force : Bool) :
    RescanLaw (history.step (.start jobId repoRoot force)) := by
  have started : history.step (.start jobId repoRoot force) =
      { manager := { history.manager with
          snapshot := newSnapshot (some jobId) force
          queue := history.manager.queue ++ [{ jobId, repoRoot, force }] }
        accepted := history.accepted ++ [{ jobId, repoRoot, force }]
        begun := history.begun
        ended := history.ended
        reports := [] } := by
    unfold History.step step EvidenceRescanManager.start
    simp only [rests, Bool.false_eq_true, if_false]
  rw [started]
  cases law.phase with
  | waiting _ _ _ state | scanning _ _ _ state =>
    rw [EvidenceRescanManager.active, state] at rests
    cases rests
  | resting queue running _ =>
    refine ⟨.waiting { jobId, repoRoot, force } ?_ running rfl rfl, ?_, law.begun, ?_⟩
    · show history.manager.queue ++ _ = _
      rw [queue, List.nil_append]
    · show history.accepted ++ _ = _
      rw [law.accepted, List.append_assoc]
    · show _ = shown _ _
      rw [List.getLast?_concat]
      rfl

theorem begins (now : Time) : RescanLaw (history.step (.begins now)) := by
  cases law.phase with
  | resting queue running rests =>
    have same : history.manager.runBegins now = history.manager := by
      unfold EvidenceRescanManager.runBegins
      rw [running, queue]
    have unchanged : history.step (.begins now) = history := by
      unfold History.step step History.reportsOf
      simp [same, running]
    rw [unchanged]
    exact law
  | waiting job queue running state own =>
    have begun : history.manager.runBegins now =
        { snapshot := { history.manager.snapshot with state := .running, startedAt := some now }
          queue := []
          running := some job } := by
      unfold EvidenceRescanManager.runBegins
      rw [running, queue]
      exact if_neg (not_not.mpr own)
    have stepped : history.step (.begins now) =
        { manager := history.manager.runBegins now
          accepted := history.accepted
          begun := history.begun ++ [job]
          ended := history.ended
          reports := history.reports ++ [.began now] } := by
      unfold History.step step History.reportsOf
      simp [begun, running]
    rw [stepped, begun]
    refine ⟨.scanning job rfl rfl rfl own, ?_, ?_, ?_⟩
    · show history.accepted = _ ++ _
      rw [law.accepted, queue, List.append_nil]
    · show history.begun ++ [job] = history.ended ++ [job]
      rw [law.begun, running, Option.toList_none, List.append_nil]
    · show _ = shown _ _
      rw [shown_append, ← law.shows]
      rfl
  | scanning job queue running state own =>
    have same : history.manager.runBegins now = history.manager := by
      unfold EvidenceRescanManager.runBegins
      rw [running]
    have unchanged : history.step (.begins now) = history := by
      unfold History.step step History.reportsOf
      simp [same, running]
    rw [unchanged]
    exact law

omit law in
/-- Without a scan nothing is reported. -/
theorem unchanged_of_free (free : history.manager.running = none) :
    (∀ updates, history.step (.progress updates) = history) ∧
      (∀ result now, history.step (.completes result now) = history) ∧
      ∀ error now, history.step (.fails error now) = history := by
  refine ⟨fun updates => ?_, fun result now => ?_, fun error now => ?_⟩ <;>
    simp [History.step, step, History.reportsOf, free]

theorem progress (updates : Progress Cleanup) : RescanLaw (history.step (.progress updates)) := by
  cases law.phase with
  | resting queue running | waiting _ queue running =>
    rw [(unchanged_of_free running).1]
    exact law
  | scanning job queue running state own =>
    have stepped : history.step (.progress updates) =
        { history with
          manager := { history.manager with snapshot := history.manager.snapshot.put updates }
          reports := history.reports ++ [.progress updates] } := by
      unfold History.step step History.reportsOf EvidenceRescanManager.updateProgress
      simp [running, own]
    rw [stepped]
    refine ⟨.scanning job queue running state own, law.accepted, law.begun, ?_⟩
    show _ = shown _ _
    rw [shown_append, ← law.shows]
    rfl

theorem completes (result : Progress Cleanup) (now : Time) :
    RescanLaw (history.step (.completes result now)) := by
  cases law.phase with
  | resting queue running | waiting _ queue running =>
    rw [(unchanged_of_free running).2.1]
    exact law
  | scanning job queue running state own =>
    have stepped : history.step (.completes result now) =
        { history with
          manager :=
            { snapshot := { history.manager.snapshot.put result with
                state := .completed
                finishedAt := some now }
              queue := history.manager.queue
              running := none }
          ended := history.ended ++ [job]
          reports := history.reports ++ [.completed result now] } := by
      unfold History.step step History.reportsOf EvidenceRescanManager.runCompletes
      simp [running, own]
    rw [stepped]
    refine ⟨.resting queue rfl rfl, law.accepted, ?_, ?_⟩
    · show history.begun = history.ended ++ [job] ++ _
      rw [law.begun, running, Option.toList_none, List.append_nil]
      rfl
    · show _ = shown _ _
      rw [shown_append, ← law.shows]
      rfl

theorem fails (error : String) (now : Time) : RescanLaw (history.step (.fails error now)) := by
  cases law.phase with
  | resting queue running | waiting _ queue running =>
    rw [(unchanged_of_free running).2.2]
    exact law
  | scanning job queue running state own =>
    have stepped : history.step (.fails error now) =
        { history with
          manager :=
            { snapshot := { history.manager.snapshot with
                state := .failed
                errors := [{ path := "rescan", error }]
                finishedAt := some now }
              queue := history.manager.queue
              running := none }
          ended := history.ended ++ [job]
          reports := history.reports ++ [.failed error now] } := by
      unfold History.step step History.reportsOf EvidenceRescanManager.runFails
      simp [running, own]
    rw [stepped]
    refine ⟨.resting queue rfl rfl, law.accepted, ?_, ?_⟩
    · show history.begun = history.ended ++ [job] ++ _
      rw [law.begun, running, Option.toList_none, List.append_nil]
      rfl
    · show _ = shown _ _
      rw [shown_append, ← law.shows]
      rfl

theorem step (event : Event Cleanup Time) : RescanLaw (history.step event) := by
  cases event with
  | start jobId repoRoot force =>
    cases active : history.manager.active with
    | true => exact law.start_of_active active jobId repoRoot force
    | false => exact law.start_of_resting active jobId repoRoot force
  | status =>
    have same : history.step .status = history := by
      simp [History.step, Rescans.step, History.reportsOf]
    rw [same]
    exact law
  | begins now => exact law.begins now
  | progress updates => exact law.progress updates
  | completes result now => exact law.completes result now
  | fails error now => exact law.fails error now

end RescanLaw

theorem rescanLaw_initial : RescanLaw (History.initial : History Cleanup Time) :=
  ⟨.resting rfl rfl rfl, rfl, rfl, rfl⟩

/-- The history is one of the manager. -/
theorem manager_run (events : List (Event Cleanup Time)) (history : History Cleanup Time) :
    (Runs.run History.step history events).manager = Runs.run step history.manager events := by
  induction events generalizing history with
  | nil => rfl
  | cons event events inductionHypothesis => exact inductionHypothesis (history.step event)

/-- In whatever order the threads take the lock, the manager keeps to the law. -/
theorem rescanLaw_run (events : List (Event Cleanup Time)) :
    RescanLaw (Runs.run History.step History.initial events) ∧
      (Runs.run History.step History.initial events).manager =
        Runs.run step EvidenceRescanManager.initial events :=
  ⟨Runs.run_invariant RescanLaw rescanLaw_initial fun _ event law => law.step event,
    manager_run events History.initial⟩

end MassL3.EvidenceLibrary.Rescans
