import RateSweep.Proofs.FileFate

namespace RateSweep

def Openable (directory : String) (f : String × Entry) : Prop :=
  FileTree.pathFault? (Path.join directory f.1) = none ∧ f.2 ≠ .locked

structure Accounts (directory : String) (kind : LogKind) (fresh : Session)
    (files : List RegularFile) (i : Intake) : Prop where
  ofKind : i.kind = kind
  summaries : i.summaries = files.filterMap fun f => (f.fate directory kind fresh).summary?
  bareFiles : i.bareFiles = files.filterMap fun f => (f.fate directory kind fresh).bare?
  skipped : i.skipped = files.countP fun f => (f.fate directory kind fresh).isSkipped
  failed : i.failed = files.countP fun f => (f.fate directory kind fresh).isFailed

structure Reached (directory : String) (kind : LogKind) (fresh before : Session)
    (files : List RegularFile) (i : Intake) (s : Session) : Prop where
  accounts : Accounts directory kind fresh files i
  clusterSize : s.clusterSize = before.clusterSize
  filesFolded : s.filesFolded = before.filesFolded + i.summaries.length + i.bareFiles.length
  diagnostics : s.diagnostics =
    before.diagnostics ++ files.flatMap (RegularFile.remarks directory kind fresh)

section Run

variable {directory : String} {kind : LogKind} {fresh before s : Session}
  {files : List RegularFile} {i : Intake}

theorem Accounts.length_eq (h : Accounts directory kind fresh files i) :
    i.summaries.length + i.bareFiles.length + i.skipped + i.failed = files.length := by
  rw [h.summaries, h.bareFiles, h.skipped, h.failed]
  clear h
  induction files with
  | nil => rfl
  | cons f files ih =>
    simp only [Fate.summary?, Fate.bare?, Fate.isSkipped, Fate.isFailed] at ih ⊢
    cases hf : f.fate directory kind fresh <;> simp [hf] <;> omega

theorem Accounts.snoc (h : Accounts directory kind fresh files i) (f : RegularFile) :
    Accounts directory kind fresh (files ++ [f]) (i.record (f.fate directory kind fresh)) where
  ofKind := by rw [Intake.kind_record, h.ofKind]
  summaries := by
    rw [Intake.summaries_record, h.summaries, List.filterMap_append]
    cases hf : (f.fate directory kind fresh).summary? <;> simp [hf]
  bareFiles := by
    rw [Intake.bareFiles_record, h.bareFiles, List.filterMap_append]
    cases hf : (f.fate directory kind fresh).bare? <;> simp [hf]
  skipped := by rw [Intake.skipped_record, h.skipped, List.countP_append, List.countP_singleton]
  failed := by rw [Intake.failed_record, h.failed, List.countP_append, List.countP_singleton]

theorem reached_empty (directory : String) (kind : LogKind) (fresh before : Session) :
    Reached directory kind fresh before [] (Intake.empty kind) before where
  accounts := ⟨rfl, rfl, rfl, rfl, rfl⟩
  clusterSize := rfl
  filesFolded := rfl
  diagnostics := by simp

theorem Reached.step (hfresh : fresh.diagnostics = [])
    (hsize : before.clusterSize = fresh.clusterSize)
    (h : Reached directory kind fresh before files i s) (f : RegularFile)
    (hopen : FileTree.pathFault? (f.path directory) = none) :
    ∃ i' s', Intake.addFile (f.path directory) f.name (.file f.body) (i, s) = .ok (i', s') ∧
      Reached directory kind fresh before (files ++ [f]) i' s' := by
  obtain ⟨s', hadd, hcluster, hfolded, hdiag⟩ := addFile_eq_record directory f h.accounts.ofKind
    hfresh (h.clusterSize.trans hsize) hopen
  refine ⟨_, s', hadd, h.accounts.snoc f, hcluster.trans h.clusterSize, ?_, ?_⟩
  · have hbefore := h.filesFolded
    simp only [hfolded, Intake.summaries_record, Intake.bareFiles_record, List.length_append]
    omega
  · rw [hdiag, h.diagnostics, List.flatMap_append, List.flatMap_singleton, List.append_assoc]

theorem Reached.run (hfresh : fresh.diagnostics = [])
    (hsize : before.clusterSize = fresh.clusterSize)
    (h : Reached directory kind fresh before files i s) (more : List RegularFile)
    (hopen : ∀ f ∈ more, FileTree.pathFault? (f.path directory) = none) :
    ∃ i' s', Intake.addFiles directory (i, s) (more.map RegularFile.entry) = .ok (i', s') ∧
      Reached directory kind fresh before (files ++ more) i' s' := by
  induction more generalizing files i s with
  | nil => exact ⟨i, s, rfl, by rwa [List.append_nil]⟩
  | cons f more ih =>
    obtain ⟨hf, hmore⟩ := List.forall_mem_cons.1 hopen
    obtain ⟨i', s', hnext, hreached⟩ := h.step hfresh hsize f hf
    obtain ⟨i'', s'', hlast, hdone⟩ := ih hreached hmore
    refine ⟨i'', s'', ?_, by rwa [List.append_assoc] at hdone⟩
    rw [List.map_cons, RegularFile.entry, Intake.addFiles]
    exact (congrArg (Except.bind · _) hnext).trans hlast

end Run

theorem mem_logFiles (entries : List (String × Entry)) (f : String × Entry) :
    f ∈ Intake.logFiles entries ↔ f ∈ entries ∧ f.2.isFile := by
  rw [Intake.logFiles, List.mem_mergeSort, List.mem_filter]

theorem pairwise_logFiles (entries : List (String × Entry)) :
    (Intake.logFiles entries).Pairwise fun f g => f.1 ≤ g.1 := by
  refine (List.pairwise_mergeSort ?_ ?_ _).imp of_decide_eq_true
  · intro a b c hab hbc
    exact decide_eq_true ((of_decide_eq_true hab).trans (of_decide_eq_true hbc))
  · intro a b
    simpa using le_total a.1 b.1

theorem exists_regularFiles {directory : String} {entries : List (String × Entry)}
    (hopen : ∀ f ∈ entries, f.2.isFile → Openable directory f) :
    ∃ files : List RegularFile, files.map RegularFile.entry = Intake.logFiles entries := by
  rw [← Set.mem_range, Set.range_list_map]
  intro f hf
  obtain ⟨hmem, hfile⟩ := (mem_logFiles entries f).1 hf
  obtain ⟨name, entry⟩ := f
  cases entry with
  | file body => exact ⟨⟨name, body⟩, rfl⟩
  | directory => cases hfile
  | locked => exact absurd rfl (hopen _ hmem hfile).2

theorem ofDirectory?_accounts (t : FileTree) (directory : String) (kind : LogKind)
    (session : Session) (bins : Nat) {entries : List (String × Entry)}
    (hlist : t.list directory = .ok entries)
    (hopen : ∀ f ∈ entries, f.2.isFile → Openable directory f)
    (hnone : session.diagnostics = []) :
    ∃ (files : List RegularFile) (i : Intake) (s : Session),
      (files.map RegularFile.entry).Perm (entries.filter (·.2.isFile)) ∧
      (files.Pairwise fun f g => f.name ≤ g.name) ∧
      Intake.ofDirectory? t directory kind session = .ok (i, s) ∧
      Accounts directory kind (.start session.clusterSize bins) files i ∧
      i.summaries.length + i.bareFiles.length + i.skipped + i.failed = files.length ∧
      (∀ f ∈ files, (f.fate directory kind (.start session.clusterSize bins)).isSkipped ↔
        ∀ e, readLogName f.name ≠ .ok (kind, e)) ∧
      s.filesFolded = session.filesFolded + i.summaries.length + i.bareFiles.length ∧
      i.diagnostics =
        files.flatMap (·.remarks directory kind (.start session.clusterSize bins)) ∧
      (∀ f ∈ files, (f.fate directory kind (.start session.clusterSize bins)).summary? = none →
        ∃ message, f.remarks directory kind (.start session.clusterSize bins) =
          [⟨f.path directory, message⟩]) ∧
      s.diagnostics = [] := by
  obtain ⟨files, hfiles⟩ := exists_regularFiles hopen
  have hpaths : ∀ f ∈ files, FileTree.pathFault? (f.path directory) = none := by
    intro f hf
    have hmem : f.entry ∈ Intake.logFiles entries := hfiles ▸ List.mem_map_of_mem hf
    obtain ⟨hmem, hfile⟩ := (mem_logFiles entries f.entry).1 hmem
    exact (hopen _ hmem hfile).1
  have hempty := reached_empty directory kind (.start session.clusterSize bins) session
  obtain ⟨i, s, hrun, hreached⟩ := hempty.run (by rfl) (by rfl) files hpaths
  rw [hfiles] at hrun
  have haccounts : Accounts directory kind (.start session.clusterSize bins) files
      { i with diagnostics := s.diagnostics } :=
    { hreached.accounts with }
  have hdiagnostics := hreached.diagnostics
  rw [hnone, List.nil_append] at hdiagnostics
  have hread : Intake.ofDirectory? t directory kind session =
      .ok ({ i with diagnostics := s.diagnostics }, { s with diagnostics := [] }) := by
    rw [Intake.ofDirectory?, hlist]
    exact congrArg (Except.bind · _) hrun
  have hperm : (files.map RegularFile.entry).Perm (entries.filter (·.2.isFile)) := by
    rw [hfiles]
    exact List.mergeSort_perm _ _
  have hsorted := pairwise_logFiles entries
  rw [← hfiles, List.pairwise_map] at hsorted
  refine ⟨files, _, _, hperm, hsorted, hread, haccounts, haccounts.length_eq, ?_,
    hreached.filesFolded, hdiagnostics, ?_, rfl⟩
  · intro f _
    exact isSkipped_fate_iff directory kind _ f
  · intro f _ hf
    exact remarks_eq_singleton hf

def mixedEntries : List (String × Entry) :=
  [("nested", .directory), ("notes.txt", .file [104, 105]),
    ("client-exp-rr-lat-0-homog-true-int-20-fsz-s-rate-99.csv", .file [100, 10, 48, 44, 48]),
    ("lb-exp-rr-lat-0-homog-true-int-20-fsz-s-rate-10.csv", .file []),
    ("client-exp-rr-lat-0-homog-true-int-20-fsz-s-rate-50.csv", .file [100, 10, 49, 44, 49]),
    ("client-exp-rr-lat-0-homog-true-int-20-fsz-s-rate-10.csv", .file [100, 10, 49])]

def mixedTree : FileTree where
  workingDirectory := []
  entries := (["logs"], .directory) :: mixedEntries.map fun f => (["logs", f.1], f.2)

theorem ofDirectory?_accounts_mixedTree :
    mixedTree.list "logs" = .ok mixedEntries ∧
      (∀ f ∈ mixedEntries, f.2.isFile → Openable "logs" f) ∧
      ∃ i s, Intake.ofDirectory? mixedTree "logs" .client (.start 2 10) = .ok (i, s) ∧
        i.summaries.length + i.bareFiles.length + i.skipped + i.failed = 5 ∧
        s.filesFolded = i.summaries.length + i.bareFiles.length := by
  have hlist : mixedTree.list "logs" = .ok mixedEntries := rfl
  have hopen : ∀ f ∈ mixedEntries, f.2.isFile → Openable "logs" f := by
    unfold Openable
    decide
  refine ⟨hlist, hopen, ?_⟩
  obtain ⟨files, i, s, hperm, -, hread, -, htotal, -, hfolded, -⟩ :=
    ofDirectory?_accounts mixedTree "logs" .client (.start 2 10) 10 hlist hopen rfl
  have hlength : files.length = 5 := by
    rw [← List.length_map RegularFile.entry, hperm.length_eq]
    rfl
  exact ⟨i, s, hread, htotal.trans hlength, by simpa [Session.start] using hfolded⟩

end RateSweep
