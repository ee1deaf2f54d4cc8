/-
This file runs the frontend's ingest of a session beside a deletion of it, in every order of
their steps. The ingest takes none of the locks under which deletions and rescans keep out of each
other's way, so its transaction can be the later one, and then it brings the row back. What the
index holds at the end is read off the order of the two transactions.
-/

import MassTdl.EvidenceLibrary.IncrementalRescan
import MassTdl.EvidenceLibrary.RaceSteps

namespace MassL3.EvidenceLibrary

open Resumptions (Pool)

/-! ### The log -/

theorem filter_party_of_nil {commits : List Commit} {party other : Party}
    (different : party ≠ other)
    (nothing : commits.filter (fun commit => commit.party == other) = []) :
    commits.filter (fun commit => commit.party == party) = commits := by
  refine List.filter_eq_self.mpr fun commit member => ?_
  have notOther := List.filter_eq_nil_iff.mp nothing commit member
  cases isParty : commit.party <;> cases party <;> cases other <;> simp_all

theorem commits_of_head {commit first second : Commit} {commits : List Commit}
    {party other : Party} (different : party ≠ other) (isParty : commit.party = party)
    (own : (commit :: commits).filter (fun commit => commit.party == party) = [first])
    (others : (commit :: commits).filter (fun commit => commit.party == other) = [second]) :
    commit :: commits = [first, second] := by
  rw [List.filter_cons, if_pos (by simp [isParty])] at own
  rw [List.filter_cons, if_neg (by simp [isParty, different])] at others
  obtain ⟨isFirst, nothing⟩ := List.cons.inj own
  have isRest := filter_party_of_nil (Ne.symm different) nothing
  rw [isFirst, ← isRest, others]

/-- With one transaction of each party, they come in one order or the other. -/
theorem commits_of_own {database : Database} {first second : Commit}
    (deletes : database.own .deletion = [first]) (ingests : database.own .ingestion = [second]) :
    database.commits = [first, second] ∨ database.commits = [second, first] := by
  unfold Database.own at deletes ingests
  cases isCommits : database.commits with
  | nil => simp [isCommits] at deletes
  | cons commit commits =>
    rw [isCommits] at deletes ingests
    cases isParty : commit.party with
    | deletion => exact Or.inl (commits_of_head (by decide) isParty deletes ingests)
    | ingestion => exact Or.inr (commits_of_head (by decide) isParty ingests deletes)

theorem mem_indexRow {evidenceId row : String} {rows : List String} :
    row ∈ indexRow evidenceId rows ↔ row = evidenceId ∨ row ∈ rows := by
  unfold indexRow
  split
  · rename_i member
    exact ⟨Or.inr, fun isRow => isRow.elim (fun same => same ▸ member) id⟩
  · rw [List.mem_append, List.mem_singleton, or_comm]

/-- What the two transactions leave. -/
theorem rows_eq_nil_iff {evidenceId : String} {before after : Database}
    (fresh : before.commits = []) (logged : Logged before after)
    (deletes : after.own .deletion = [.deleted evidenceId])
    (ingests : after.own .ingestion = [] ∨
      ∃ ingestedId, after.own .ingestion = [.indexed ingestedId]) :
    after.rows = [] ↔ (∀ row ∈ before.rows, row = evidenceId) ∧
      (after.commits = [.deleted evidenceId] ∨
        after.commits = [.indexed evidenceId, .deleted evidenceId]) := by
  obtain ⟨commits, isCommits, isRows⟩ := logged
  rw [fresh, List.nil_append] at isCommits
  rw [← isCommits] at isRows
  rcases ingests with nothing | ⟨ingestedId, ingests⟩
  · have only : after.commits = [.deleted evidenceId] :=
      (filter_party_of_nil (by decide) nothing).symm.trans deletes
    rw [isRows, only]
    simp [Commit.applied]
  · rcases commits_of_own deletes ingests with order | order
    · -- the row is back
      have isBack : ingestedId ∈ after.rows := by
        rw [isRows, order]
        exact mem_indexRow.mpr (Or.inl rfl)
      constructor
      · exact fun empty => absurd isBack (by simp [empty])
      · rintro ⟨_, isOrder⟩
        simp [order] at isOrder
    · rw [isRows, order]
      simp only [List.foldl_cons, List.foldl_nil, Commit.applied, List.filter_eq_nil_iff,
        mem_indexRow, bne_iff_ne, not_not, forall_eq_or_imp, List.cons.injEq, Commit.indexed.injEq,
        and_true, reduceCtorEq, false_and, false_or]
      exact and_comm

/-! ### The race -/

section Race

variable {F Time Content : Type} [LinearOrder Time] (python : Python F Time) (json : JsonText F)
  (contents : Contents F Content) (session : SessionConfig (StoredFile Time Content))
  (place : SessionPlace) (rawTracePolicy : String)

/-- Both begin on the same disk. -/
def race (disk : Disk (StoredFile Time Content)) :
    Pool (Disk (StoredFile Time Content)) Fault Raised RaceResult where
  programs
    | .deletion => deleteEvidenceSessionLocked session
    | .ingestion => ingestFrontendSession python json contents session place rawTracePolicy
  state := disk

theorem race_meets {disk : Disk (StoredFile Time Content)} (fresh : disk.database.commits = []) :
    (race python json contents session place rawTracePolicy disk).Meets Relies Guarantees
      (Ended session) := by
  have nothing (party : Party) : disk.database.own party = [] := by
    unfold Database.own
    rw [fresh, List.filter_nil]
  intro party
  cases party with
  | deletion => exact races_deleteEvidenceSessionLocked (nothing .deletion)
  | ingestion => exact races_ingestFrontendSession (nothing .ingestion)

/-- When both have ended and the deletion reports the payload as removed, or as still to be
removed, the payload is not at its path. No row points there exactly when there was none under
another evidence id, and the ingest committed nothing, or committed before the deletion and under
the evidence id that is deleted. -/
theorem race_rows_eq_nil_iff {disk : Disk (StoredFile Time Content)}
    {turns : List (Party × Fault)} {cleanup : Cleanup} {ingested : Except Raised String}
    (fresh : disk.database.commits = [])
    (deletes : ((race python json contents session place rawTracePolicy disk).run turns).programs
      .deletion = .done (.ok cleanup))
    (needed : cleanup ≠ .notNeeded)
    (ingests : ((race python json contents session place rawTracePolicy disk).run turns).programs
      .ingestion = .done ingested) :
    ((race python json contents session place rawTracePolicy disk).run
        turns).state.files.target = none ∧
      (((race python json contents session place rawTracePolicy disk).run
          turns).state.database.rows = [] ↔
        (∀ row ∈ disk.database.rows, row = session.evidenceId) ∧
          (((race python json contents session place rawTracePolicy disk).run
              turns).state.database.commits = [.deleted session.evidenceId] ∨
            ((race python json contents session place rawTracePolicy disk).run
              turns).state.database.commits =
                [.indexed session.evidenceId, .deleted session.evidenceId])) := by
  obtain ⟨meets, logged⟩ := (race_meets python json contents session place rawTracePolicy
    fresh).run Relies.refl (fun _ _ _ _ => Relies.trans)
      (fun _ _ different _ _ guarantees => guarantees.relies different) Ended.of_relies
      (fun first second => Logged first.database second.database) (fun _ => Logged.refl _)
      (fun _ _ _ _ guarantees later => guarantees.logged.trans later) turns
  have isDeleted := meets .deletion
  have isIngested := meets .ingestion
  rw [deletes] at isDeleted
  rw [ingests] at isIngested
  obtain ⟨away, isOwn⟩ := isDeleted cleanup rfl needed
  exact ⟨away, rows_eq_nil_iff fresh logged isOwn isIngested⟩

end Race

/-! ### An ingest that commits last -/

def harbourSession : SessionConfig (StoredFile Int (Json Int)) where
  evidenceId := "runs/runs/harbour"
  rootId := "runs"
  layout := .legacy
  idMatches := true
  misplaced := false
  runMetaValid _ := true
  roots := [{
    rootId := "runs"
    source := "cli"
    enabled := true
    trusted := true
    session := ⟨false, [.above], false⟩
    run := ⟨false, [], false⟩ }]
  discoveredIds := ["runs/runs/harbour"]

/-- A session with a manifest and nothing else, which is indexed. -/
def harbourDisk : Disk (StoredFile Int (Json Int)) where
  files := {
    target := some ⟨true, [("manifest.json", ⟨1, .dict []⟩)]⟩
    staged := none
    document := fun _ => none
    stagingDir := false
    stagingOthers := false
    recoveryDir := false
    recoveryOthers := false }
  database := ⟨["runs/runs/harbour"], none, []⟩

def harbourRace (turns : List (Party × Fault)) :
    Pool (Disk (StoredFile Int (Json Int))) Fault Raised RaceResult :=
  (race wholeNumbers documents documentContents harbourSession ⟨"/runs/harbour", "harbour"⟩ "keep"
    harbourDisk).run turns

/-- The ingest has read the directory; then the whole deletion, and the rest of the ingest. -/
def ingestLast : List (Party × Fault) :=
  List.replicate 8 (.ingestion, .none) ++ List.replicate 29 (.deletion, .none) ++
    List.replicate 8 (.ingestion, .none)

def ingestAfterwards : List (Party × Fault) :=
  List.replicate 29 (.deletion, .none) ++ List.replicate 8 (.ingestion, .none)

theorem race_rows_harbour :
    (harbourRace ingestAfterwards).state.files.target = none ∧
      ((harbourRace ingestAfterwards).state.database.rows = [] ↔
        (∀ row ∈ harbourDisk.database.rows, row = harbourSession.evidenceId) ∧
          ((harbourRace ingestAfterwards).state.database.commits =
              [.deleted harbourSession.evidenceId] ∨
            (harbourRace ingestAfterwards).state.database.commits =
              [.indexed harbourSession.evidenceId, .deleted harbourSession.evidenceId])) :=
  race_rows_eq_nil_iff wholeNumbers documents documentContents harbourSession
    ⟨"/runs/harbour", "harbour"⟩ "keep" rfl
    (show (harbourRace ingestAfterwards).programs .deletion = .done (.ok .completed) from rfl)
    (by decide)
    (show (harbourRace ingestAfterwards).programs .ingestion = .done (.error .os) from rfl)

/-- The payload is gone, both have ended, and the row is there. -/
theorem race_row_recreated :
    (harbourRace ingestLast).programs .deletion = .done (.ok .completed) ∧
      (harbourRace ingestLast).programs .ingestion = .done (.ok "runs/runs/harbour") ∧
      (harbourRace ingestLast).state.files.target = none ∧
      (harbourRace ingestLast).state.database.rows = ["runs/runs/harbour"] :=
  ⟨rfl, rfl, rfl, rfl⟩

end MassL3.EvidenceLibrary
