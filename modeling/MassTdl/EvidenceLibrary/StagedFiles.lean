/-
This file says what the steps of a deletion on its files do, function by function. As long as
the row of the session is indexed its payload is whole, at its place or in staging, and in
staging there is a record of where it belongs; once the row is gone, what is left in staging is
on record too. Every function keeps this at each of its steps, whichever of them fail, and where
it is cut off.
-/

import MassTdl.EvidenceLibrary.Deletion

namespace MassL3.EvidenceLibrary

open Resumptions (Program)
open Resumptions.Program

variable {Content : Type}

/-! ### What holds of the files -/

section Stages

variable (payload : Payload Content)

structure AtPlace (files : Files Content) : Prop where
  target : files.target = some payload
  staged : files.staged = none

structure InStaging (files : Files Content) : Prop where
  target : files.target = none
  staged : files.staged = some payload
  recorded : ∃ slot, files.document slot = some .complete
  /-- The recovery record is renamed into place when it is complete. -/
  record : files.document .record ≠ some .incomplete

/-- The payload of an indexed row. -/
def Whole (files : Files Content) : Prop := AtPlace payload files ∨ InStaging payload files

/-- What may be left of the payload when the row is gone. -/
structure Removed (files : Files Content) : Prop where
  target : files.target = none
  staged : ∀ left, files.staged = some left →
    left.isDirectory = true ∧ files.document .record = some .complete

def Clean (files : Files Content) : Prop := ∀ slot, files.document slot = none

end Stages

variable {payload : Payload Content} {allowed : Fault → Prop} {files : Files Content}
  {Invariant : Files Content → Prop}

/-! ### Single steps -/

variable {post : Except Raised Unit → Files Content → Prop}

theorem keeps_io {change : Files Content → Files Content}
    (failing : allowed .io → Invariant files ∧ post (.error .os) files)
    (changing : Invariant (change files) ∧ post (.ok ()) (change files)) :
    (io change).Keeps allowed Invariant post files := by
  refine keeps_attempt (fun input isAllowed isIo => failing ?_) fun _ _ _ => changing
  exact eq_of_beq isIo ▸ isAllowed

theorem keeps_passOver {change : Files Content → Files Content}
    (left : Invariant files ∧ post (.ok ()) files)
    (changing : Invariant (change files) ∧ post (.ok ()) (change files)) :
    (passOver (io change)).Keeps allowed Invariant post files :=
  meets_tryCatch (keeps_io (fun _ => left) changing)

@[simp] theorem write_target (slot : Slot) (document : Option Document) :
    (files.write slot document).target = files.target := rfl

@[simp] theorem write_staged (slot : Slot) (document : Option Document) :
    (files.write slot document).staged = files.staged := rfl

theorem write_document (slot other : Slot) (document : Option Document) :
    (files.write slot document).document other =
      if other = slot then document else files.document other := by
  unfold Files.write
  exact Function.update_apply _ _ _ _

/-- Taking empty directories away leaves the files in them alone. -/
theorem keeps_removeEmptyDirs
    (kept : ∀ staging recovery,
      Invariant { files with stagingDir := staging, recoveryDir := recovery } ∧
        post (.ok ()) { files with stagingDir := staging, recoveryDir := recovery }) :
    removeEmptyDirs.Keeps allowed Invariant post files := by
  have second (staging : Bool) : removeEmptyRecoveryDir.Keeps allowed Invariant post
      { files with stagingDir := staging } := by
    refine keeps_passOver (kept staging files.recoveryDir) ?_
    split
    · exact kept staging files.recoveryDir
    · exact kept staging false
  refine meets_bind (keeps_passOver ⟨(kept files.stagingDir files.recoveryDir).1,
    second files.stagingDir⟩ ?_)
  split
  · exact ⟨(kept files.stagingDir files.recoveryDir).1, second files.stagingDir⟩
  · exact ⟨(kept false files.recoveryDir).1, second false⟩

/-! ### The metadata files -/

/-- Only the metadata files in the list may have changed. -/
def Rewritten (files : Files Content) (slots : List Slot) (after : Files Content) : Prop :=
  ∃ document : Slot → Option Document,
    (∀ other, other ∉ slots → document other = files.document other) ∧
      after = { files with document := document }

theorem Rewritten.refl (slots : List Slot) : Rewritten files slots files :=
  ⟨files.document, fun _ _ => rfl, rfl⟩

variable {slots : List Slot} {after : Files Content}

theorem Rewritten.write (rewritten : Rewritten files slots after) (slot : Slot)
    (member : slot ∈ slots) (document : Option Document) :
    Rewritten files slots (after.write slot document) := by
  obtain ⟨documents, same, rfl⟩ := rewritten
  refine ⟨Function.update documents slot document, fun other outside => ?_, rfl⟩
  have isOther : other ≠ slot := fun isSlot => outside (isSlot ▸ member)
  rw [Function.update_of_ne isOther]
  exact same other outside

variable {slot : Slot}

theorem keeps_writeTemporary
    (kept : ∀ after, Rewritten files [slot, slot.temporary] after → Invariant after)
    (failing : allowed .io → ∀ after, Rewritten files [slot, slot.temporary] after →
      post (.error .os) after)
    (written : ∀ after, Rewritten files [slot, slot.temporary] after →
      after.document slot = some .complete → post (.ok ()) after) :
    (writeTemporary slot).Keeps allowed Invariant post files := by
  have same : Rewritten files [slot, slot.temporary] files := Rewritten.refl _
  have opened := same.write slot.temporary (by simp) (some .incomplete)
  have filled := opened.write slot.temporary (by simp) (some .complete)
  have renamed := (filled.write slot.temporary (by simp) none).write slot (by simp)
    (some .complete)
  refine meets_bind (keeps_io (fun fails => ⟨kept _ same, failing fails _ same⟩)
    ⟨kept _ opened, ?_⟩)
  refine meets_bind (keeps_io (fun fails => ⟨kept _ opened, failing fails _ opened⟩)
    ⟨kept _ filled, ?_⟩)
  refine meets_bind (keeps_io (fun fails => ⟨kept _ filled, failing fails _ filled⟩)
    ⟨kept _ filled, ?_⟩)
  refine keeps_io (fun fails => ⟨kept _ filled, failing fails _ filled⟩)
    ⟨kept _ renamed, written _ renamed ?_⟩
  rw [write_document, if_pos rfl]

variable {start : Files Content}

theorem keeps_unlink (member : slot ∈ slots) (rewritten : Rewritten start slots files)
    (kept : ∀ after, Rewritten start slots after → Invariant after)
    (failing : allowed .io → post (.error .os) files)
    (unlinked : ∀ after, Rewritten start slots after → after = files.write slot none →
      post (.ok ()) after) :
    (unlink slot).Keeps allowed Invariant post files :=
  keeps_io (fun fails => ⟨kept _ rewritten, failing fails⟩)
    ⟨kept _ (rewritten.write slot member none), unlinked _ (rewritten.write slot member none) rfl⟩

/-- Only its own two files are touched, and it succeeds with the metadata in place. It fails
when an operation does, or when one of the files is there. -/
theorem keeps_writeStageMetadata
    (kept : ∀ after, Rewritten files [slot, slot.temporary] after → Invariant after)
    (failing : allowed .io ∨ files.has slot ∨ files.has slot.temporary → ∀ after,
      Rewritten files [slot, slot.temporary] after → post (.error .os) after)
    (written : ∀ after, Rewritten files [slot, slot.temporary] after →
      after.document slot = some .complete → post (.ok ()) after) :
    (writeStageMetadata slot).Keeps allowed Invariant post files := by
  refine keeps_read (kept _ (Rewritten.refl _)) ?_
  split
  · rename_i present
    exact meets_throw (failing (Or.inr (by simpa using present)) _ (Rewritten.refl _))
  · refine meets_tryCatch (keeps_writeTemporary kept (fun fails after rewritten => ?_) written)
    -- the temporary file is taken away again, as far as that succeeds
    refine meets_bind (keeps_unlink (by simp) rewritten kept
      (fun _ => failing (Or.inl fails) _ rewritten) fun again rewrittenAgain _ => ?_)
    exact meets_throw (failing (Or.inl fails) _ rewrittenAgain)

theorem keeps_unlinkPresent (member : slot ∈ slots) (rewritten : Rewritten start slots files)
    (kept : ∀ after, Rewritten start slots after → Invariant after)
    (failing : allowed .io → post (.error .os) files)
    (unlinked : ∀ after, Rewritten start slots after → after = files.write slot none →
      post (.ok ()) after) :
    (unlinkPresent slot).Keeps allowed Invariant post files := by
  refine keeps_read (kept _ rewritten) ?_
  split
  · exact keeps_unlink member rewritten kept failing unlinked
  · rename_i absent
    refine meets_pure (unlinked _ rewritten ?_)
    have isNone : files.document slot = none := by simpa [Files.has] using absent
    unfold Files.write
    rw [← isNone, Function.update_eq_self]

/-- All the files in the list are taken away, one after the other. -/
theorem keeps_clearStageMetadataSources {slots within : List Slot}
    (members : ∀ slot ∈ slots, slot ∈ within) (rewritten : Rewritten start within files)
    (kept : ∀ after, Rewritten start within after → Invariant after)
    (failing : allowed .io → ∀ after, Rewritten start within after → post (.error .os) after)
    (cleared : ∀ after, Rewritten start within after →
      (∀ slot ∈ slots, after.document slot = none) →
      (∀ slot, files.document slot = none → after.document slot = none) → post (.ok ()) after) :
    (clearStageMetadataSources slots).Keeps allowed Invariant post files := by
  induction slots generalizing files with
  | nil =>
    exact meets_pure (cleared files rewritten (fun _ member => absurd member List.not_mem_nil)
      fun _ isNone => isNone)
  | cons slot slots inductionHypothesis =>
    obtain ⟨member, members⟩ := List.forall_mem_cons.mp members
    refine meets_bind (keeps_unlinkPresent member rewritten kept
      (fun fails => failing fails _ rewritten) fun next rewrittenNext isNext => ?_)
    refine inductionHypothesis members rewrittenNext ?_
    intro after rewrittenAfter isCleared staysNone
    have stays (other : Slot) (isNone : files.document other = none) :
        next.document other = none := by
      rw [isNext, write_document, isNone, ite_self]
    have first : next.document slot = none := by rw [isNext, write_document, if_pos rfl]
    exact cleared after rewrittenAfter (List.forall_mem_cons.mpr ⟨staysNone slot first, isCleared⟩)
      fun other isNone => staysNone other (stays other isNone)

/-! ### Staging -/

theorem AtPlace.rewritten (atPlace : AtPlace payload files)
    (rewritten : Rewritten files slots after) :
    AtPlace payload after := by
  obtain ⟨document, -, rfl⟩ := rewritten
  exact ⟨atPlace.target, atPlace.staged⟩

theorem AtPlace.write (atPlace : AtPlace payload files) (slot : Slot)
    (document : Option Document) : AtPlace payload (files.write slot document) :=
  ⟨atPlace.target, atPlace.staged⟩

theorem Rewritten.document (rewritten : Rewritten files slots after) {other : Slot}
    (outside : other ∉ slots) :
    after.document other = files.document other := by
  obtain ⟨document, same, rfl⟩ := rewritten
  exact same other outside

/-- The payload is moved aside, on record in both places. -/
structure Staged (payload : Payload Content) (files : Files Content) : Prop where
  target : files.target = none
  staged : files.staged = some payload
  metadata : files.document .metadata = some .complete
  record : files.document .record = some .complete

theorem Staged.inStaging (isStaged : Staged payload files) : InStaging payload files where
  target := isStaged.target
  staged := isStaged.staged
  recorded := ⟨.metadata, isStaged.metadata⟩
  record := by simp [isStaged.record]

/-- A payload at its place stays there. -/
theorem keeps_undoMetadata {raised : Raised} (atPlace : AtPlace payload files)
    (failing : ∀ raised after, AtPlace payload after → post (.error raised) after) :
    (undoMetadata raised).Keeps allowed (Whole payload) post files := by
  have unlinked := atPlace.write .metadata none
  refine meets_bind (keeps_io (fun _ => ⟨Or.inl atPlace, failing _ _ atPlace⟩)
    ⟨Or.inl unlinked, ?_⟩)
  refine meets_bind (keeps_removeEmptyDirs fun staging recovery => ?_)
  exact ⟨Or.inl ⟨unlinked.target, unlinked.staged⟩,
    meets_throw (failing _ _ ⟨unlinked.target, unlinked.staged⟩)⟩

theorem keeps_undoRecords {raised : Raised} (atPlace : AtPlace payload files)
    (failing : ∀ raised after, AtPlace payload after → post (.error raised) after) :
    (undoRecords raised).Keeps allowed (Whole payload) post files := by
  have first := atPlace.write .metadata none
  have second := first.write .record none
  have third := second.write .recordTmp none
  refine meets_bind (keeps_io (fun _ => ⟨Or.inl atPlace, failing _ _ atPlace⟩)
    ⟨Or.inl first, ?_⟩)
  refine meets_bind (keeps_io (fun _ => ⟨Or.inl first, failing _ _ first⟩) ⟨Or.inl second, ?_⟩)
  refine meets_bind (keeps_io (fun _ => ⟨Or.inl second, failing _ _ second⟩) ⟨Or.inl third, ?_⟩)
  refine meets_bind (keeps_removeEmptyDirs fun staging recovery => ?_)
  exact ⟨Or.inl ⟨third.target, third.staged⟩,
    meets_throw (failing _ _ ⟨third.target, third.staged⟩)⟩

theorem keeps_ensureStagingDir
    (kept : ∀ staging, Invariant { files with stagingDir := staging } ∧
      post (.ok ()) { files with stagingDir := staging })
    (failing : allowed .io → post (.error .os) files) :
    ensureStagingDir.Keeps allowed Invariant post files := by
  refine keeps_read (kept files.stagingDir).1 ?_
  split
  · exact meets_pure (kept files.stagingDir).2
  · exact keeps_io (fun fails => ⟨(kept files.stagingDir).1, failing fails⟩) (kept true)

theorem keeps_ensureRecoveryDir
    (kept : ∀ recovery, Invariant { files with recoveryDir := recovery } ∧
      post (.ok ()) { files with recoveryDir := recovery })
    (failing : allowed .io → post (.error .os) files) :
    ensureRecoveryDir.Keeps allowed Invariant post files := by
  refine keeps_read (kept files.recoveryDir).1 ?_
  split
  · exact meets_pure (kept files.recoveryDir).2
  · exact keeps_io (fun fails => ⟨(kept files.recoveryDir).1, failing fails⟩) (kept true)

theorem keeps_renameToStaging (atPlace : AtPlace payload files)
    (metadata : files.document .metadata = some .complete)
    (record : files.document .record = some .complete)
    (staged : ∀ after, Staged payload after → post (.ok ()) after)
    (failing : allowed .io → ∀ raised after, AtPlace payload after → post (.error raised) after) :
    (MonadExcept.tryCatch renameToStaging undoRecords).Keeps allowed (Whole payload) post
      files := by
  refine meets_tryCatch (keeps_attempt (fun input isAllowed fails => ?_) fun _ _ _ => ?_)
  · have isIo : input = .io := by simpa [atPlace.target] using fails
    exact ⟨Or.inl atPlace, keeps_undoRecords atPlace (failing (isIo ▸ isAllowed))⟩
  · have isStaged : Staged payload { files with target := none, staged := files.target } :=
      ⟨rfl, atPlace.target, metadata, record⟩
    exact ⟨Or.inr isStaged.inStaging, staged _ isStaged⟩

/-- The payload ends up in staging with both records, or stays where it is because an operation
failed. -/
theorem keeps_stageDeletionTarget (atPlace : AtPlace payload files) (clean : Clean files)
    (staged : ∀ after, Staged payload after → post (.ok ()) after)
    (failing : allowed .io → ∀ raised after, AtPlace payload after → post (.error raised) after) :
    stageDeletionTarget.Keeps allowed (Whole payload) post files := by
  refine meets_bind (keeps_ensureStagingDir (fun staging => ?_)
    fun fails => failing fails _ _ atPlace)
  have atPlace : AtPlace payload { files with stagingDir := staging } :=
    ⟨atPlace.target, atPlace.staged⟩
  refine ⟨Or.inl atPlace, keeps_read (Or.inl atPlace) ?_⟩
  rw [if_neg (by simpa using atPlace.staged)]
  refine meets_bind (keeps_ensureRecoveryDir (fun recovery => ?_)
    fun fails => failing fails _ _ atPlace)
  have atPlace : AtPlace payload
      { files with stagingDir := staging, recoveryDir := recovery } :=
    ⟨atPlace.target, atPlace.staged⟩
  refine ⟨Or.inl atPlace, ?_⟩
  -- the metadata beside the payload
  refine meets_bind (keeps_writeStageMetadata (fun after rewritten =>
    Or.inl (atPlace.rewritten rewritten)) (fun fails after rewritten => ?_) ?_)
  · refine failing ?_ _ _ (atPlace.rewritten rewritten)
    simpa [Files.has, clean _] using fails
  intro withMetadata rewritten metadata
  have atPlace := atPlace.rewritten rewritten
  -- the recovery record
  refine meets_bind (meets_tryCatch (keeps_writeStageMetadata (fun after rewritten =>
    Or.inl (atPlace.rewritten rewritten)) (fun fails after rewrittenAfter => ?_) ?_))
  · refine keeps_undoMetadata (atPlace.rewritten rewrittenAfter) (failing ?_)
    have isRecord : withMetadata.document .record = none :=
      (rewritten.document (by decide)).trans (clean .record)
    have isRecordTmp : withMetadata.document .recordTmp = none :=
      (rewritten.document (by decide)).trans (clean .recordTmp)
    simpa [Files.has, Slot.temporary, isRecord, isRecordTmp] using fails
  · intro withRecord rewrittenRecord record
    exact keeps_renameToStaging (atPlace.rewritten rewrittenRecord)
      ((rewrittenRecord.document (by decide)).trans metadata) record staged failing

/-! ### Recovery -/

theorem InStaging.rewritten (inStaging : InStaging payload files)
    (rewritten : Rewritten files slots after) (record : .record ∉ slots) (outside : slot ∉ slots)
    (complete : files.document slot = some .complete) : InStaging payload after := by
  have isRecord := rewritten.document record
  have isComplete := (rewritten.document outside).trans complete
  obtain ⟨document, -, rfl⟩ := rewritten
  exact ⟨inStaging.target, inStaging.staged, ⟨slot, isComplete⟩, isRecord ▸ inStaging.record⟩

theorem keeps_restoreStagedTarget (isDirectory : payload.isDirectory = true)
    (inStaging : InStaging payload files) (metadata : files.document .metadata = some .complete)
    (restored : ∀ after, AtPlace payload after → Clean after → post (.ok ()) after)
    (failing : allowed .io → ∀ raised after, Whole payload after → post (.error raised) after) :
    restoreStagedTarget.Keeps allowed (Whole payload) post files := by
  have isRestorable : restorable files = true := by
    simp [restorable, metadata, inStaging.staged, inStaging.target, isDirectory]
  refine keeps_read (Or.inr inStaging) ?_
  rw [if_neg (by simp [isRestorable])]
  refine meets_bind (keeps_attempt (fun input isAllowed fails => ?_) fun _ _ _ => ?_)
  · have isIo : input = .io := by simpa [inStaging.staged] using fails
    exact ⟨Or.inr inStaging, failing (isIo ▸ isAllowed) _ _ (Or.inr inStaging)⟩
  have atPlace : AtPlace payload { files with target := files.staged, staged := none } :=
    ⟨inStaging.staged, rfl⟩
  have first := atPlace.write .metadata none
  have second := first.write .metadataTmp none
  have third := second.write .record none
  have fourth := third.write .recordTmp none
  refine ⟨Or.inl atPlace, ?_⟩
  refine meets_bind (keeps_io (fun fails => ⟨Or.inl atPlace, failing fails _ _ (Or.inl atPlace)⟩)
    ⟨Or.inl first, ?_⟩)
  refine meets_bind (keeps_io (fun fails => ⟨Or.inl first, failing fails _ _ (Or.inl first)⟩)
    ⟨Or.inl second, ?_⟩)
  refine meets_bind (keeps_io (fun fails => ⟨Or.inl second, failing fails _ _ (Or.inl second)⟩)
    ⟨Or.inl third, ?_⟩)
  refine meets_bind (keeps_io (fun fails => ⟨Or.inl third, failing fails _ _ (Or.inl third)⟩)
    ⟨Or.inl fourth, ?_⟩)
  refine keeps_removeEmptyDirs fun staging recovery => ?_
  refine ⟨Or.inl ⟨fourth.target, fourth.staged⟩, restored _ ⟨fourth.target, fourth.staged⟩ ?_⟩
  intro slot
  cases slot <;> simp [write_document]

/-- The temporary file is the record until it is renamed. -/
theorem keeps_renameMetadataTmp (inStaging : InStaging payload files)
    (metadataTmp : files.document .metadataTmp = some .complete)
    (renewed : ∀ after, InStaging payload after → after.document .metadata = some .complete →
      post (.ok ()) after)
    (failing : allowed .io → ∀ raised after, Whole payload after → post (.error raised) after) :
    (unlinkPresent .metadata >>= fun _ =>
      io fun files => (files.write .metadataTmp none).write .metadata (some .complete)).Keeps
      allowed (Whole payload) post files := by
  have unlinked {after : Files Content} (rewritten : Rewritten files [.metadata] after) :
      InStaging payload after :=
    inStaging.rewritten rewritten (by decide) (by decide) metadataTmp
  refine meets_bind (keeps_unlinkPresent (by simp) (Rewritten.refl [.metadata])
    (fun after rewritten => Or.inr (unlinked rewritten))
    (fun fails => failing fails _ _ (Or.inr inStaging)) fun after rewritten _ => ?_)
  have isUnlinked := unlinked rewritten
  refine keeps_io (fun fails => ⟨Or.inr isUnlinked, failing fails _ _ (Or.inr isUnlinked)⟩) ?_
  have isRenamed : InStaging payload
      ((after.write .metadataTmp none).write .metadata (some .complete)) :=
    ⟨isUnlinked.target, isUnlinked.staged, ⟨.metadata, by simp [write_document]⟩,
      by simpa [write_document] using isUnlinked.record⟩
  exact ⟨Or.inr isRenamed, renewed _ isRenamed (by simp [write_document])⟩

/-- One of the records in the configuration directory stays while the metadata is written anew. -/
theorem keeps_rewriteMetadata (inStaging : InStaging payload files)
    (outside : slot ∉ [Slot.metadata, Slot.metadataTmp])
    (complete : files.document slot = some .complete)
    (renewed : ∀ after, InStaging payload after → after.document .metadata = some .complete →
      post (.ok ()) after)
    (failing : allowed .io → ∀ raised after, Whole payload after → post (.error raised) after) :
    (clearStageMetadataSources [.metadata, .metadataTmp] >>= fun _ =>
      writeStageMetadata .metadata).Keeps allowed (Whole payload) post files := by
  have kept {after : Files Content}
      (rewritten : Rewritten files [.metadata, .metadataTmp] after) : InStaging payload after :=
    inStaging.rewritten rewritten (by decide) outside complete
  refine meets_bind (keeps_clearStageMetadataSources (fun _ member => member)
    (Rewritten.refl [.metadata, .metadataTmp]) (fun after rewritten => Or.inr (kept rewritten))
    (fun fails after rewritten => failing fails _ _ (Or.inr (kept rewritten))) ?_)
  intro cleared rewritten isCleared _
  have clearedComplete := (rewritten.document outside).trans complete
  have keptAgain {after : Files Content}
      (rewrittenAgain : Rewritten cleared [.metadata, .metadataTmp] after) :
      InStaging payload after :=
    (kept rewritten).rewritten rewrittenAgain (by decide) outside clearedComplete
  refine keeps_writeStageMetadata (fun after rewrittenAgain => Or.inr (keptAgain rewrittenAgain))
    (fun fails after rewrittenAgain => failing ?_ _ _ (Or.inr (keptAgain rewrittenAgain)))
    fun after rewrittenAgain isComplete => renewed _ (keptAgain rewrittenAgain) isComplete
  simpa [Files.has, Slot.temporary, isCleared .metadata (by simp),
    isCleared .metadataTmp (by simp)] using fails

/-- The record beside the payload is made valid; until then another one says where the payload
belongs. -/
theorem keeps_renewMetadata (inStaging : InStaging payload files)
    (renewed : ∀ after, InStaging payload after → after.document .metadata = some .complete →
      post (.ok ()) after)
    (failing : allowed .io → ∀ raised after, Whole payload after → post (.error raised) after) :
    renewMetadata.Keeps allowed (Whole payload) post files := by
  refine keeps_read (Or.inr inStaging) ?_
  split
  · rename_i isComplete
    exact meets_pure (renewed _ inStaging (eq_of_beq isComplete))
  rename_i notComplete
  split
  · rename_i isTmp
    exact keeps_renameMetadataTmp inStaging (eq_of_beq isTmp) renewed failing
  · rename_i notTmp
    obtain ⟨slot, complete⟩ := inStaging.recorded
    refine keeps_rewriteMetadata inStaging (fun member => ?_) complete renewed failing
    rcases List.mem_pair.mp member with isSlot | isSlot
    · exact notComplete (beq_iff_eq.mpr (isSlot ▸ complete))
    · exact notTmp (beq_iff_eq.mpr (isSlot ▸ complete))

/-- A payload that was moved aside is put back and its records are taken away, unless an
operation fails. -/
theorem keeps_recoverIndexedDeletion {post : Except Raised Bool → Files Content → Prop}
    (isDirectory : payload.isDirectory = true) (whole : Whole payload files)
    (recovered : ∀ acted after, AtPlace payload after → Clean after → post (.ok acted) after)
    (failing : allowed .io → ∀ raised after, Whole payload after → post (.error raised) after) :
    recoverIndexedDeletion.Keeps allowed (Whole payload) post files := by
  refine keeps_read whole ?_
  split
  · rename_i nothing
    obtain ⟨isStaged, clean⟩ : files.staged = none ∧ Clean files := by
      have isNothing : files.staged.isSome = false ∧
          stageMetadataSources.any files.has = false := by
        simpa [hasIndexedRecoveryArtifacts] using nothing
      refine ⟨by simpa using isNothing.1, fun slot => ?_⟩
      have absent := List.any_eq_false.mp isNothing.2 slot (by cases slot <;> decide)
      simpa [Files.has] using absent
    rcases whole with atPlace | inStaging
    · exact meets_pure (recovered _ _ atPlace clean)
    · exact absurd (isStaged.symm.trans inStaging.staged) (by simp)
  rcases whole with atPlace | inStaging
  · rw [if_pos (by simp [atPlace.target, atPlace.staged])]
    refine meets_bind (keeps_clearStageMetadataSources (fun _ member => member)
      (Rewritten.refl stageMetadataSources)
      (fun after rewritten => Or.inl (atPlace.rewritten rewritten))
      (fun fails after rewritten => failing fails _ _ (Or.inl (atPlace.rewritten rewritten))) ?_)
    intro cleared rewritten isCleared _
    have isAtPlace := atPlace.rewritten rewritten
    refine meets_bind (keeps_removeEmptyDirs fun staging recovery => ?_)
    refine ⟨Or.inl ⟨isAtPlace.target, isAtPlace.staged⟩, meets_pure ?_⟩
    refine recovered _ _ ⟨isAtPlace.target, isAtPlace.staged⟩ fun slot => ?_
    exact isCleared slot (by cases slot <;> decide)
  · obtain ⟨slot, complete⟩ := inStaging.recorded
    have recorded : stageMetadataSources.any
        (fun slot => files.document slot == some .complete) = true :=
      List.any_eq_true.mpr ⟨slot, by cases slot <;> decide, beq_iff_eq.mpr complete⟩
    rw [if_neg (by simp [inStaging.target]), if_neg (by simp [inStaging.target, inStaging.staged]),
      if_neg (by simp [inStaging.staged, isDirectory]), if_neg (by simp [recorded])]
    refine meets_bind (keeps_renewMetadata inStaging (fun renewed isInStaging metadata => ?_)
      failing)
    refine meets_bind (keeps_restoreStagedTarget isDirectory isInStaging metadata
      (fun after atPlace clean => ?_) failing)
    exact meets_pure (recovered _ _ atPlace clean)

/-! ### After the transaction -/

theorem Staged.removed (isStaged : Staged payload files)
    (isDirectory : payload.isDirectory = true) : Removed files where
  target := isStaged.target
  staged left isLeft := by
    have isPayload : left = payload := Option.some.inj (isLeft.symm.trans isStaged.staged)
    exact ⟨isPayload ▸ isDirectory, isStaged.record⟩

theorem keeps_removeEntries {entries : List (String × Content)} (removed : Removed files)
    (failing : ∀ raised after, Removed after → post (.error raised) after)
    (emptied : ∀ after, Removed after → after.staged = none → post (.ok ()) after) :
    (removeEntries entries).Keeps allowed Removed post files := by
  induction entries generalizing files with
  | nil =>
    have isEmptied : Removed { files with staged := none } := ⟨removed.target, by simp⟩
    exact keeps_io (fun _ => ⟨removed, failing _ _ removed⟩) ⟨isEmptied, emptied _ isEmptied rfl⟩
  | cons entry entries inductionHypothesis =>
    refine meets_bind (keeps_io (fun _ => ⟨removed, failing _ _ removed⟩) ?_)
    refine (fun left => ⟨left, inductionHypothesis left⟩) ⟨removed.target, fun left isLeft => ?_⟩
    obtain ⟨before, isBefore, rfl⟩ := Option.map_eq_some_iff.mp isLeft
    exact removed.staged before isBefore

/-- What is left in staging stays on record until nothing is left. -/
theorem keeps_cleanUp (removed : Removed files)
    (ended : ∀ outcome after, Removed after → post outcome after) :
    cleanUp.Keeps allowed Removed post files := by
  have written {after : Files Content} (isRemoved : Removed after) (isEmpty : after.staged = none)
      (slot : Slot) : Removed (after.write slot none) :=
    ⟨isRemoved.target, by simp [isEmpty]⟩
  refine meets_bind (keeps_read removed ?_)
  split
  · exact meets_throw (ended _ _ removed)
  split
  · refine keeps_removeEntries removed (fun raised after isRemoved => ended _ _ isRemoved) ?_
    intro after isRemoved isEmpty
    have first := written isRemoved isEmpty .metadata
    have second := written first isEmpty .record
    have third := written second isEmpty .recordTmp
    refine meets_bind (keeps_io (fun _ => ⟨isRemoved, ended _ _ isRemoved⟩) ⟨first, ?_⟩)
    refine meets_bind (keeps_io (fun _ => ⟨first, ended _ _ first⟩) ⟨second, ?_⟩)
    exact keeps_io (fun _ => ⟨second, ended _ _ second⟩) ⟨third, ended _ _ third⟩
  · exact meets_throw (ended _ _ removed)

end MassL3.EvidenceLibrary
