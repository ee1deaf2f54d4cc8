/-
This file carries the steps of a deletion from its files to the index. A deletion that starts
with the session indexed and its payload whole ends with the row gone and what is left in staging
on record, or with the row as it was and the payload whole. At every step in between one of the
two holds, since the transaction is the one step that goes from one to the other.
-/

import MassTdl.EvidenceLibrary.StagedFiles

namespace MassL3.EvidenceLibrary

open Resumptions (Program)
open Resumptions.Program

variable {Content : Type}

/-! ### Files and rows -/

section Consistency

variable (session : SessionConfig Content) (payload : Payload Content)

structure Indexed (disk : Disk Content) : Prop where
  row : session.evidenceId ∈ disk.database.rows
  whole : Whole payload disk.files

structure Gone (disk : Disk Content) : Prop where
  row : session.evidenceId ∉ disk.database.rows
  removed : Removed disk.files

def Consistent (disk : Disk Content) : Prop := Indexed session payload disk ∨ Gone session disk

/-- The payload is back, and nothing records a deletion. -/
def Restored (files : Files Content) : Prop := AtPlace payload files ∧ Clean files

end Consistency

variable {session : SessionConfig Content} {payload : Payload Content} {allowed : Fault → Prop}
  {disk : Disk Content}

/-! ### Single steps -/

variable {Invariant : Disk Content → Prop}

/-- A program on the files leaves the index as it is. -/
theorem keeps_onFiles {Result : Type} {task : FileTask Content Result}
    {FilesInvariant : Files Content → Prop} {post : Except Raised Result → Disk Content → Prop}
    (keeps : task.Keeps allowed FilesInvariant
      (fun outcome files => post outcome { disk with files := files }) disk.files)
    (kept : ∀ files, FilesInvariant files → Invariant { disk with files := files }) :
    (onFiles task).Keeps allowed Invariant post disk := by
  have zoomed : (onFiles task).Meets allowed Eq (fun _ after => Invariant after)
      (fun outcome after => post outcome { disk with files := after.files } ∧
        after.database = disk.database) disk := by
    refine Meets.zoom (fun first second : Disk Content => second.database = first.database) keeps
      ?_ ?_ ?_ ?_ ?_ ?_ ?_
    · exact fun _ _ => rfl
    · exact fun first second same => same ▸ rfl
    · exact fun _ => rfl
    · exact fun _ _ _ left right => right.trans left
    · exact fun first second same => same ▸ rfl
    · exact fun _ _ => rfl
    intro between part same holds
    have isPart : { between with files := part } = { disk with files := part } :=
      congrArg (Disk.mk part) same
    exact isPart ▸ kept part holds
  refine zoomed.weaken fun outcome after ended => ?_
  obtain ⟨holds, same⟩ := ended
  have isAfter : { disk with files := after.files } = after :=
    congrArg (Disk.mk after.files) same.symm
  exact isAfter ▸ holds

variable {party : Party} {post : Except Raised Unit → Disk Content → Prop}

/-- A transaction that has begun has changed no rows. -/
theorem keeps_beginWrite
    (failing : allowed .database ∨ (disk.database.writer.any fun other => other != party) = true →
      Invariant disk ∧ post (.error .database) disk)
    (begun : ∀ database : Database, database.rows = disk.database.rows →
      Invariant { disk with database := database } ∧
        post (.ok ()) { disk with database := database }) :
    (beginWrite party).Keeps allowed Invariant post disk := by
  refine keeps_attempt (fun input isAllowed fails => failing ?_) fun _ _ _ => begun _ rfl
  rcases Bool.or_eq_true_iff.mp fails with isDatabase | isOther
  · exact Or.inl (eq_of_beq isDatabase ▸ isAllowed)
  · exact Or.inr isOther

theorem keeps_commitRows {commit : Commit}
    (failing : allowed .database → Invariant disk ∧ post (.error .database) disk)
    (committed : ∀ database : Database, database.rows = commit.applied disk.database.rows →
      Invariant { disk with database := database } ∧
        post (.ok ()) { disk with database := database }) :
    (commitRows commit).Keeps allowed Invariant post disk :=
  keeps_attempt (fun _ isAllowed fails => failing (eq_of_beq fails ▸ isAllowed))
    fun _ _ _ => committed _ rfl

/-- Only the transaction is given up. -/
theorem keeps_rollback
    (rolledBack : ∀ database : Database, database.rows = disk.database.rows →
      Invariant { disk with database := database } ∧
        post (.ok ()) { disk with database := database }) :
    (rollback party).Keeps allowed Invariant post disk := by
  refine keeps_attempt (fun _ _ fails => absurd fails (by decide)) fun _ _ _ => ?_
  have sameRows : (if disk.database.writer = some party then
      { disk.database with writer := none } else disk.database).rows = disk.database.rows := by
    split <;> rfl
  exact rolledBack _ sameRows

theorem keeps_closing {Result : Type} {task : Task Content Result}
    {post : Except Raised Result → Disk Content → Prop}
    (keeps : task.Keeps allowed Invariant (fun outcome after =>
      match outcome with
      | .ok value => post (.ok value) after
      | .error raised => ∀ database : Database, database.rows = after.database.rows →
          Invariant { after with database := database } ∧
            post (.error raised) { after with database := database }) disk) :
    (closing party task).Keeps allowed Invariant post disk := by
  refine meets_tryCatch (keeps.weaken fun outcome after ended => ?_)
  cases outcome with
  | ok value => exact ended
  | error raised =>
    exact meets_bind (keeps_rollback fun database sameRows =>
      ⟨(ended database sameRows).1, meets_throw (ended database sameRows).2⟩)

/-! ### The transaction -/

/-- With the payload in staging, the transaction either fails and leaves the row, or takes it
away. -/
theorem keeps_deleteRows (isDirectory : payload.isDirectory = true)
    (row : session.evidenceId ∈ disk.database.rows) (staged : Staged payload disk.files)
    (gone : ∀ after, after.files = disk.files → Gone session after → post (.ok ()) after)
    (failing : ∀ after, session.evidenceId ∈ after.database.rows → after.files = disk.files →
      post (.error .database) after) :
    (deleteRows session).Keeps allowed (Consistent session payload) post disk := by
  have indexed {database : Database} (sameRow : session.evidenceId ∈ database.rows) :
      Consistent session payload { disk with database := database } :=
    Or.inl ⟨sameRow, Or.inr staged.inStaging⟩
  refine meets_bind (keeps_beginWrite (fun _ => ⟨indexed row, failing _ row rfl⟩)
    fun begun sameRows => ?_)
  have begunRow : session.evidenceId ∈ begun.rows := sameRows ▸ row
  refine ⟨indexed begunRow, keeps_commitRows
    (fun _ => ⟨indexed begunRow, failing _ begunRow rfl⟩) fun committed isFiltered => ?_⟩
  have isGone : Gone session { disk with database := committed } :=
    ⟨by simp [isFiltered, Commit.applied], staged.removed isDirectory⟩
  exact ⟨Or.inr isGone, gone _ rfl isGone⟩

/-- A failed transaction puts the payload back where it belongs. -/
theorem keeps_restoreAfter {raised : Raised} (isDirectory : payload.isDirectory = true)
    (row : session.evidenceId ∈ disk.database.rows) (staged : Staged payload disk.files)
    (failing : ∀ raised after, Indexed session payload after →
      (¬allowed .io → Restored payload after.files) → post (.error raised) after) :
    (restoreAfter raised).Keeps allowed (Consistent session payload) post disk := by
  refine meets_bind (keeps_rollback fun database sameRows => ?_)
  have indexed {files : Files Content} (whole : Whole payload files) :
      Indexed session payload ⟨files, database⟩ := ⟨sameRows ▸ row, whole⟩
  refine ⟨Or.inl (indexed (Or.inr staged.inStaging)), ?_⟩
  refine meets_bind (meets_tryCatch (keeps_onFiles (keeps_restoreStagedTarget isDirectory
    staged.inStaging staged.metadata (fun files atPlace clean => ?_)
    fun fails raised files whole => ?_) fun files whole => Or.inl (indexed whole)))
  · exact meets_throw (failing _ _ (indexed (Or.inl atPlace)) fun _ => ⟨atPlace, clean⟩)
  · exact meets_throw (failing _ _ (indexed whole) fun never => absurd fails never)

/-! ### The deletion -/

/-- After the transaction nothing is raised any more. -/
theorem keeps_finishCleanup {post : Except Raised Cleanup → Disk Content → Prop}
    (isGone : Gone session disk)
    (ended : ∀ cleanup after, Gone session after → post (.ok cleanup) after) :
    finishCleanup.Keeps allowed (Consistent session payload) post disk := by
  have gone {files : Files Content} (removed : Removed files) :
      Gone session { disk with files := files } := ⟨isGone.row, removed⟩
  refine meets_bind (meets_tryCatch (meets_bind (keeps_onFiles (keeps_cleanUp isGone.removed
    fun outcome files removed => ?_) fun files removed => Or.inr (gone removed))))
  cases outcome with
  | error raised => exact meets_pure (meets_pure (ended _ _ (gone removed)))
  | ok _ =>
    refine meets_bind (keeps_onFiles (keeps_removeEmptyDirs fun staging recovery => ?_)
      fun files removed => Or.inr (gone removed))
    have isRemoved : Removed { files with stagingDir := staging, recoveryDir := recovery } :=
      ⟨removed.target, removed.staged⟩
    exact ⟨isRemoved, meets_pure (ended _ _ (gone isRemoved))⟩

/-- There is nothing to delete when the row is gone. -/
theorem keeps_deleteEvidenceSessionLocked_gone (isGone : Gone session disk) :
    (deleteEvidenceSessionLocked session).Keeps allowed (Gone session)
      (fun _ after => Gone session after) disk := by
  refine meets_bind (keeps_closing (keeps_read isGone ?_))
  rw [if_pos isGone.row]
  refine meets_throw fun database sameRows => ?_
  have stillGone : Gone session { disk with database := database } :=
    ⟨sameRows ▸ isGone.row, isGone.removed⟩
  exact ⟨stillGone, stillGone⟩

section Deletion

variable (isDirectory : payload.isDirectory = true)
  (resolves : ∀ files, Whole payload files → resolveDeletionTarget session files = true)

include isDirectory resolves

theorem keeps_deleteIndexed {post : Except Raised Bool → Disk Content → Prop}
    (indexed : Indexed session payload disk)
    (gone : ∀ staged after, Gone session after → post (.ok staged) after)
    (failing : ∀ raised after, Indexed session payload after →
      (¬allowed .io → Restored payload after.files) → post (.error raised) after) :
    (deleteIndexed session).Keeps allowed (Consistent session payload) post disk := by
  have whole {files : Files Content} (isWhole : Whole payload files) :
      Indexed session payload { disk with files := files } := ⟨indexed.row, isWhole⟩
  refine keeps_read (Or.inl indexed) ?_
  rw [if_neg (fun absent => absent indexed.row), if_neg (by simp [resolves _ indexed.whole])]
  refine meets_bind (meets_tryCatch (keeps_onFiles (keeps_recoverIndexedDeletion isDirectory
    indexed.whole (fun acted files atPlace clean => ?_) fun fails raised files isWhole => ?_)
    fun files isWhole => Or.inl (whole isWhole)))
  swap
  · exact meets_throw (failing _ _ (whole isWhole) fun never => absurd fails never)
  refine keeps_read (Or.inl (whole (Or.inl atPlace))) ?_
  rw [if_neg (by simp [atPlace.target])]
  refine meets_bind (keeps_onFiles (keeps_stageDeletionTarget atPlace clean
    (fun after isStaged => ?_) fun fails raised after isAtPlace => ?_)
    fun files isWhole => Or.inl (whole isWhole))
  swap
  · exact failing _ _ (whole (Or.inl isAtPlace)) fun never => absurd fails never
  refine meets_bind (meets_tryCatch (keeps_deleteRows isDirectory indexed.row isStaged
    (fun ended _ isGone => ?_) fun ended row same => ?_))
  · exact meets_pure (gone _ _ isGone)
  · exact keeps_restoreAfter isDirectory row (same ▸ isStaged) failing

/-- A deletion of an indexed session. When it raises and no operation on a file has failed, the
payload is back. -/
theorem keeps_deleteEvidenceSessionLocked (indexed : Indexed session payload disk) :
    (deleteEvidenceSessionLocked session).Keeps allowed (Consistent session payload)
      (fun outcome after =>
        match outcome with
        | .ok _ => Gone session after
        | .error _ => Indexed session payload after ∧
            (¬allowed .io → Restored payload after.files)) disk := by
  refine meets_bind (keeps_closing (keeps_deleteIndexed isDirectory resolves indexed
    (fun staged after isGone => ?_) fun raised after isIndexed restored database sameRows => ?_))
  · cases staged with
    | true => exact keeps_finishCleanup isGone fun cleanup after isGone => isGone
    | false => exact meets_pure isGone
  · have stillIndexed : Indexed session payload { after with database := database } :=
      ⟨sameRows ▸ isIndexed.row, isIndexed.whole⟩
    exact ⟨Or.inl stillIndexed, stillIndexed, restored⟩

end Deletion

end MassL3.EvidenceLibrary
