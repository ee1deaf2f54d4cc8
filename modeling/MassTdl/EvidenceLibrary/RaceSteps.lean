/-
This file says what a deletion and an ingest of the same session do while the other is running.
Each relies on the other to leave its own transactions alone, and a deletion relies on its files
being its own; each guarantees what the other relies on, and that the rows of the index are what
the transactions make of them. The steps on the files are those of a deletion that is alone.
-/

import MassTdl.EvidenceLibrary.FrontendIngest

namespace MassL3.EvidenceLibrary

open Resumptions (Program Pool)
open Resumptions.Program

variable {Content : Type}

/-! ### Transactions -/

def Commit.party : Commit → Party
  | deleted _ => .deletion
  | pruned _ | indexed _ => .ingestion

/-- The transactions that a party has committed. -/
def Database.own (database : Database) (party : Party) : List Commit :=
  database.commits.filter fun commit => commit.party == party

/-- The rows are what the transactions since make of them. -/
def Logged (first second : Database) : Prop :=
  ∃ commits, second.commits = first.commits ++ commits ∧
    second.rows = commits.foldl Commit.applied first.rows

theorem Logged.refl (database : Database) : Logged database database :=
  ⟨[], (List.append_nil _).symm, rfl⟩

theorem Logged.trans {first second third : Database} (earlier : Logged first second)
    (later : Logged second third) : Logged first third := by
  obtain ⟨before, isBefore, rowsBefore⟩ := earlier
  obtain ⟨after, isAfter, rowsAfter⟩ := later
  refine ⟨before ++ after, ?_, ?_⟩
  · rw [isAfter, isBefore, List.append_assoc]
  · rw [rowsAfter, rowsBefore, List.foldl_append]

/-- What a party takes for granted while it waits for its turn. -/
structure Relies (party : Party) (first second : Disk Content) : Prop where
  files : party = .deletion → second.files = first.files
  own : second.database.own party = first.database.own party

/-- What a party does in its turn. -/
structure Guarantees (party : Party) (first second : Disk Content) : Prop where
  files : party = .ingestion → second.files = first.files
  logged : Logged first.database second.database
  others : ∀ other, other ≠ party → second.database.own other = first.database.own other

theorem Relies.refl (party : Party) (disk : Disk Content) : Relies party disk disk :=
  ⟨fun _ => rfl, rfl⟩

theorem Relies.trans {party : Party} {first second third : Disk Content}
    (earlier : Relies party first second) (later : Relies party second third) :
    Relies party first third :=
  ⟨fun isDeletion => (later.files isDeletion).trans (earlier.files isDeletion),
    later.own.trans earlier.own⟩

theorem Guarantees.refl (party : Party) (disk : Disk Content) : Guarantees party disk disk :=
  ⟨fun _ => rfl, Logged.refl _, fun _ _ => rfl⟩

theorem Guarantees.relies {party other : Party} {first second : Disk Content}
    (different : party ≠ other) (guarantees : Guarantees party first second) :
    Relies other first second := by
  refine ⟨fun isDeletion => guarantees.files ?_, guarantees.others other (Ne.symm different)⟩
  subst isDeletion
  cases party with
  | deletion => exact absurd rfl different
  | ingestion => rfl

/-! ### The target of a deletion -/

/-- A deletion that has staged its target has moved it away. -/
theorem meets_stageDeletionTarget {files : Files Content} :
    stageDeletionTarget.Meets (fun _ => True) Eq (fun _ _ => True)
      (fun outcome after => outcome = .ok () → after.target = none) files := by
  have guaranteed (between after : Files Content) : (fun _ _ => True) between after := trivial
  have failing (raised : Raised) (after : Files Content) :
      (.error raised : Except Raised Unit) = .ok () → after.target = none :=
    fun absurdity => absurd absurdity (by simp)
  refine meets_bind_of_guaranteed guaranteed failing fun _ _ => ?_
  refine meets_read fun _ _ => ⟨trivial, ?_⟩
  split
  · exact meets_throw (failing _ _)
  refine meets_bind_of_guaranteed guaranteed failing fun _ _ => ?_
  refine meets_bind_of_guaranteed guaranteed failing fun _ _ => ?_
  refine meets_bind_of_guaranteed guaranteed failing fun _ _ => ?_
  refine meets_tryCatch (meets_attempt (fun _ _ _ _ _ => ⟨trivial, ?_⟩)
    fun _ _ _ _ _ => ⟨trivial, fun _ => rfl⟩)
  refine meets_bind_of_guaranteed guaranteed failing fun _ _ => ?_
  refine meets_bind_of_guaranteed guaranteed failing fun _ _ => ?_
  refine meets_bind_of_guaranteed guaranteed failing fun _ _ => ?_
  exact meets_bind_of_guaranteed guaranteed failing fun _ _ => meets_throw (failing _ _)

/-- The target is not brought back. -/
def StaysAway (before after : Files Content) : Prop := before.target = none → after.target = none

theorem steps_io {change : Files Content → Files Content}
    (changes : ∀ files, StaysAway files (change files)) : (io change).Steps StaysAway :=
  steps_attempt (fun _ => id) changes

theorem steps_removeEmptyDirs : (removeEmptyDirs : FileTask Content Unit).Steps StaysAway := by
  refine Steps.bind (Steps.tryCatch (steps_io fun files away => ?_) fun _ => steps_pure)
    fun _ => Steps.tryCatch (steps_io fun files away => ?_) fun _ => steps_pure
  · split <;> exact away
  · split <;> exact away

theorem steps_removeEntries (entries : List (String × Content)) :
    (removeEntries entries).Steps StaysAway := by
  induction entries with
  | nil => exact steps_io fun _ => id
  | cons entry entries inductionHypothesis =>
    refine Steps.bind (steps_io fun files => ?_) fun _ => inductionHypothesis
    exact id

theorem steps_unlink (slot : Slot) : (unlink slot : FileTask Content Unit).Steps StaysAway :=
  steps_io fun _ => id

theorem steps_cleanUp : (cleanUp : FileTask Content Unit).Steps StaysAway := by
  have removes : (removeStaged : FileTask Content Unit).Steps StaysAway := by
    refine steps_read (fun _ => id) fun files => ?_
    split
    · exact steps_throw
    split
    · exact steps_removeEntries _
    · exact steps_throw
  refine removes.bind fun _ => (steps_unlink .metadata).bind fun _ => ?_
  exact (steps_unlink .record).bind fun _ => steps_unlink .recordTmp

/-! ### What each of them does -/

abbrev RaceResult : Party → Type
  | .deletion => Cleanup
  | .ingestion => String

/-- A deletion that reports a payload as removed, or as still to be removed, has moved it away
and committed its transaction. -/
def Deletes (session : SessionConfig Content) (outcome : Except Raised Cleanup)
    (after : Disk Content) : Prop :=
  ∀ cleanup, outcome = .ok cleanup → cleanup ≠ .notNeeded →
    after.files.target = none ∧ after.database.own .deletion = [.deleted session.evidenceId]

/-- The ingest commits one transaction, or none. -/
def Ingests (after : Disk Content) : Prop :=
  after.database.own .ingestion = [] ∨
    ∃ evidenceId, after.database.own .ingestion = [.indexed evidenceId]

/-- What each of them has done when it has ended. -/
def Ended (session : SessionConfig Content) : (party : Party) → Except Raised (RaceResult party) →
    Disk Content → Prop
  | .deletion, outcome, after => Deletes session outcome after
  | .ingestion, _, after => Ingests after

theorem Ended.of_relies {session : SessionConfig Content} (party : Party)
    (outcome : Except Raised (RaceResult party)) (first second : Disk Content)
    (relied : Relies party first second) (ended : Ended session party outcome first) :
    Ended session party outcome second := by
  cases party with
  | deletion =>
    intro cleanup isOk needed
    obtain ⟨away, deletes⟩ := ended cleanup isOk needed
    exact ⟨relied.files rfl ▸ away, relied.own.trans deletes⟩
  | ingestion =>
    refine Or.imp (relied.own.trans ·) ?_ ended
    exact fun ⟨evidenceId, ingests⟩ => ⟨evidenceId, relied.own.trans ingests⟩

/-! ### Steps of the parties -/

section Steps

/-- A program of one of the parties, in a race. -/
abbrev Races {Result : Type} (party : Party) (post : Except Raised Result → Disk Content → Prop)
    (program : Task Content Result) (disk : Disk Content) : Prop :=
  program.Meets (fun _ => True) (Relies party) (Guarantees party) post disk

variable {party : Party} {disk : Disk Content}

theorem races_looks {Result : Type} {task : Task Content Result}
    {post : Except Raised Result → Disk Content → Prop} (looks : task.Looks)
    (ended : ∀ outcome after, Relies party disk after → post outcome after) :
    Races party post task disk := by
  refine Steps.meets looks (Relies party) (fun before after same => ?_) (Relies.refl party)
    (fun _ _ _ => Relies.trans) (fun before after moved => ?_) ended
  · subst same
    exact Guarantees.refl party after
  · rcases moved with relied | same
    · exact relied
    · subst same
      exact Relies.refl party after

/-- What a deletion does to the files it does as when it is alone. -/
theorem races_onFiles {Result : Type} {task : FileTask Content Result}
    {filePost : Except Raised Result → Files Content → Prop}
    {post : Except Raised Result → Disk Content → Prop}
    (meets : task.Meets (fun _ => True) Eq (fun _ _ => True) filePost disk.files)
    (ended : ∀ outcome after, filePost outcome after.files →
      after.database.own .deletion = disk.database.own .deletion → post outcome after) :
    Races .deletion post (onFiles task) disk := by
  have zoomed : (onFiles task).Meets (fun _ => True) (Relies .deletion) (Guarantees .deletion)
      (fun outcome after => filePost outcome after.files ∧
        after.database.own .deletion = disk.database.own .deletion) disk := by
    refine Meets.zoom (fun first second : Disk Content =>
      second.database.own .deletion = first.database.own .deletion) meets ?_ ?_ ?_ ?_ ?_ ?_ ?_
    · exact fun _ _ => rfl
    · exact fun _ _ relied => relied.files rfl
    · exact fun _ => rfl
    · exact fun _ _ _ earlier later => later.trans earlier
    · exact fun _ _ relied => relied.own
    · exact fun _ _ => rfl
    · exact fun between part _ _ =>
        ⟨fun absurdity => absurd absurdity (by decide), Logged.refl _, fun _ _ => rfl⟩
  exact zoomed.weaken fun outcome after facts => ended outcome after facts.1 facts.2

/-- Whatever it does to the files. -/
theorem races_anything {Result : Type} {task : FileTask Content Result}
    {post : Except Raised Result → Disk Content → Prop}
    (ended : ∀ outcome after,
      after.database.own .deletion = disk.database.own .deletion → post outcome after) :
    Races .deletion post (onFiles task) disk := by
  have meets : task.Meets (fun _ => True) Eq (fun _ _ => True) (fun _ _ => True) disk.files :=
    meets_of_guaranteed (fun _ _ => trivial) fun _ _ => trivial
  exact races_onFiles meets fun outcome after _ => ended outcome after

/-- The target stays away. -/
theorem races_away {Result : Type} {task : FileTask Content Result}
    {post : Except Raised Result → Disk Content → Prop} (steps : task.Steps StaysAway)
    (away : disk.files.target = none)
    (ended : ∀ outcome after, after.files.target = none →
      after.database.own .deletion = disk.database.own .deletion → post outcome after) :
    Races .deletion post (onFiles task) disk := by
  refine races_onFiles (Steps.meets steps StaysAway (fun _ _ _ => trivial) (fun _ => id)
    (fun _ _ _ earlier later isAway => later (earlier isAway)) (fun before after moved => ?_)
    fun outcome after moved => moved away) ended
  rcases moved with same | moved
  · exact same ▸ id
  · exact moved

variable {post : Except Raised Unit → Disk Content → Prop}

/-- A step on the index that is no commit. -/
theorem races_unlogged {fails : Fault → Disk Content → Bool} {raised : Raised}
    {change : Disk Content → Disk Content}
    (unlogged : ∀ disk : Disk Content, (change disk).files = disk.files ∧
      (change disk).database.rows = disk.database.rows ∧
        (change disk).database.commits = disk.database.commits)
    (ended : ∀ outcome after, Relies party disk after → post outcome after) :
    Races party post (attempt fails raised change) disk := by
  refine meets_attempt (fun between relied _ _ _ => ?_) fun between relied _ _ _ => ?_
  · exact ⟨Guarantees.refl party between, ended _ _ relied⟩
  · obtain ⟨files, rows, commits⟩ := unlogged between
    have sameOwn (party : Party) : (change between).database.own party =
        between.database.own party := by
      unfold Database.own
      rw [commits]
    refine ⟨⟨fun _ => files, ⟨[], ?_, rows⟩, fun other _ => sameOwn other⟩, ended _ _ ?_⟩
    · rw [commits, List.append_nil]
    · exact relied.trans ⟨fun _ => files, sameOwn party⟩

theorem races_beginWrite {writer : Party}
    (ended : ∀ outcome after, Relies party disk after → post outcome after) :
    Races party post (beginWrite writer) disk :=
  races_unlogged (fun _ => ⟨rfl, rfl, rfl⟩) ended

theorem races_rollback {writer : Party}
    (ended : ∀ outcome after, Relies party disk after → post outcome after) :
    Races party post (rollback writer) disk := by
  refine races_unlogged (fun disk => ?_) ended
  unfold Disk.onDatabase
  by_cases isWriter : disk.database.writer = some writer
  · simp only [if_pos isWriter, and_self]
  · simp only [if_neg isWriter, and_self]

theorem races_commitRows {commit : Commit} (isParty : commit.party = party)
    (failing : ∀ after, Relies party disk after → post (.error .database) after)
    (committed : ∀ after, (party = .deletion → after.files = disk.files) →
      after.database.own party = disk.database.own party ++ [commit] → post (.ok ()) after) :
    Races party post (commitRows commit) disk := by
  refine meets_attempt (fun between relied _ _ _ => ?_) fun between relied _ _ _ => ?_
  · exact ⟨Guarantees.refl party between, failing _ relied⟩
  · have ownAfter (other : Party) : ((between.onDatabase fun database =>
        ⟨commit.applied database.rows, none, database.commits ++ [commit]⟩).database.own other) =
        between.database.own other ++ if party = other then [commit] else [] := by
      simp only [Disk.onDatabase, Database.own, List.filter_append, List.filter_singleton,
        isParty, Bool.cond_eq_ite, beq_iff_eq]
    refine ⟨⟨fun _ => rfl, ⟨[commit], rfl, rfl⟩, fun other isOther => ?_⟩,
      committed _ relied.files ?_⟩
    · rw [ownAfter, if_neg (Ne.symm isOther), List.append_nil]
    · rw [ownAfter, if_pos rfl, relied.own]

theorem races_closing {Result : Type} {task : Task Content Result}
    {post : Except Raised Result → Disk Content → Prop}
    (races : Races party (fun outcome after =>
      match outcome with
      | .ok value => post (.ok value) after
      | .error _ => ∀ raised later, Relies party after later → post (.error raised) later)
      task disk) :
    Races party post (closing party task) disk := by
  refine meets_tryCatch (races.weaken fun outcome after ended => ?_)
  cases outcome with
  | ok value => exact ended
  | error raised =>
    refine meets_bind (races_rollback fun outcome later relied => ?_)
    cases outcome with
    | ok _ => exact meets_throw (ended _ later relied)
    | error _ => exact ended _ later relied

end Steps

/-! ### The deletion -/

section Deletion

variable {session : SessionConfig Content} {disk : Disk Content}

variable {post : Except Raised Unit → Disk Content → Prop}

theorem races_deleteRows (own : disk.database.own .deletion = [])
    (failing : ∀ raised after, post (.error raised) after)
    (deleted : ∀ after, after.files = disk.files →
      after.database.own .deletion = [.deleted session.evidenceId] → post (.ok ()) after) :
    Races .deletion post (deleteRows session) disk := by
  refine meets_bind (races_beginWrite fun outcome between relied => ?_)
  cases outcome with
  | error raised => exact failing raised between
  | ok _ =>
    refine races_commitRows rfl (fun after _ => failing _ after) fun after files isOwn => ?_
    refine deleted after ((files rfl).trans (relied.files rfl)) ?_
    rw [isOwn, relied.own, own, List.nil_append]

/-- It never returns. -/
theorem races_restoreAfter {raised : Raised}
    (failing : ∀ raised after, post (.error raised) after) :
    Races .deletion post (restoreAfter raised) disk := by
  refine meets_bind (races_rollback fun outcome after _ => ?_)
  cases outcome with
  | error raised => exact failing raised after
  | ok _ =>
    refine meets_bind (meets_tryCatch (races_anything fun outcome after _ => ?_))
    cases outcome with
    | ok _ => exact meets_throw (failing raised after)
    | error _ => exact meets_throw (failing .runtime after)

/-- A payload that was staged and not put back means one transaction. -/
theorem races_deleteIndexed {post : Except Raised Bool → Disk Content → Prop}
    (own : disk.database.own .deletion = [])
    (failing : ∀ raised after, post (.error raised) after)
    (nothing : ∀ after, post (.ok false) after)
    (deleted : ∀ after, after.files.target = none →
      after.database.own .deletion = [.deleted session.evidenceId] → post (.ok true) after) :
    Races .deletion post (deleteIndexed session) disk := by
  refine meets_read fun between relied => ⟨Guarantees.refl _ _, ?_⟩
  split
  · exact meets_throw (failing _ _)
  split
  · exact meets_throw (failing _ _)
  refine meets_bind (meets_tryCatch (races_anything fun outcome after isOwn => ?_))
  cases outcome with
  | error _ => exact meets_throw (failing _ _)
  | ok _ =>
    refine meets_read fun again reliedAgain => ⟨Guarantees.refl _ _, ?_⟩
    have againOwn : again.database.own .deletion = [] := by
      rw [reliedAgain.own, isOwn, relied.own, own]
    split
    · exact meets_bind (races_deleteRows againOwn failing fun after _ _ =>
        meets_pure (nothing after))
    refine meets_bind (races_onFiles meets_stageDeletionTarget fun outcome after away isOwn => ?_)
    cases outcome with
    | error raised => exact failing raised after
    | ok _ =>
      refine meets_bind (meets_tryCatch (races_deleteRows (isOwn.trans againOwn)
        (fun raised after => ?_) fun later files isDeleted => ?_))
      · exact races_restoreAfter failing
      · exact meets_pure (deleted later (files ▸ away rfl) isDeleted)

theorem races_finishCleanup {post : Except Raised Cleanup → Disk Content → Prop}
    (away : disk.files.target = none)
    (ended : ∀ outcome after, after.files.target = none →
      after.database.own .deletion = disk.database.own .deletion → post outcome after) :
    Races .deletion post finishCleanup disk := by
  refine meets_bind (meets_tryCatch (meets_bind (races_away steps_cleanUp away
    fun outcome cleaned isAway isOwn => ?_)))
  cases outcome with
  | error _ => exact meets_pure (meets_pure (ended _ cleaned isAway isOwn))
  | ok _ =>
    refine meets_pure (meets_bind (races_away steps_removeEmptyDirs isAway
      fun outcome after isAway sameOwn => ?_))
    cases outcome with
    | ok _ => exact meets_pure (ended _ after isAway (sameOwn.trans isOwn))
    | error _ => exact ended _ after isAway (sameOwn.trans isOwn)

theorem races_deleteEvidenceSessionLocked (own : disk.database.own .deletion = []) :
    Races .deletion (Deletes session) (deleteEvidenceSessionLocked session) disk := by
  refine meets_bind (races_closing (races_deleteIndexed own (fun _ after raised later _ => ?_)
    (fun after => ?_) fun after away isDeleted => ?_))
  · exact fun cleanup absurdity => absurd absurdity (by simp)
  · refine meets_pure fun cleanup isCleanup needed => ?_
    exact absurd (Except.ok.inj isCleanup).symm needed
  · exact races_finishCleanup away fun outcome after isAway isOwn _ _ _ =>
      ⟨isAway, isOwn.trans isDeleted⟩

end Deletion

/-! ### The ingest -/

section Ingest

variable {F Time Content : Type} [LinearOrder Time] {python : Python F Time} {json : JsonText F}
  {contents : Contents F Content} {session : SessionConfig (StoredFile Time Content)}
  {place : SessionPlace} {rawTracePolicy : String} {disk : Disk (StoredFile Time Content)}

theorem races_ingestFrontendSession (own : disk.database.own .ingestion = []) :
    Races .ingestion (fun _ after => Ingests after)
      (ingestFrontendSession python json contents session place rawTracePolicy) disk := by
  refine meets_bind (races_looks (looks_rootForSessionDir _) fun outcome first relied => ?_)
  have firstOwn := relied.own.trans own
  cases outcome with
  | error _ => exact Or.inl firstOwn
  | ok root =>
  refine meets_bind (races_looks looks_readSession fun outcome second relied => ?_)
  have secondOwn := relied.own.trans firstOwn
  cases outcome with
  | error _ => exact Or.inl secondOwn
  | ok read =>
  -- the transaction
  refine races_closing (meets_bind (races_beginWrite fun outcome third relied => ?_))
  have thirdOwn := relied.own.trans secondOwn
  cases outcome with
  | error _ => exact fun raised later relied => Or.inl (relied.own.trans thirdOwn)
  | ok _ =>
  refine meets_bind (races_looks (looks_readRows _ _ _ _) fun outcome fourth relied => ?_)
  have fourthOwn := relied.own.trans thirdOwn
  cases outcome with
  | error _ => exact fun raised later relied => Or.inl (relied.own.trans fourthOwn)
  | ok _ =>
  refine meets_bind (races_commitRows rfl (fun after relied => ?_) fun after _ isOwn => ?_)
  · exact fun raised later reliedLater => Or.inl (reliedLater.own.trans
      (relied.own.trans fourthOwn))
  · rw [fourthOwn, List.nil_append] at isOwn
    exact meets_pure (Or.inr ⟨_, isOwn⟩)

end Ingest

end MassL3.EvidenceLibrary
