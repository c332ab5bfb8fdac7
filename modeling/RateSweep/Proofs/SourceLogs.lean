import RateSweep.Proofs.DirectoryIntake
import RateSweep.Proofs.StableSort
import RateSweep.Proofs.TaskPlans

namespace RateSweep

def LogKind.admits (kind : LogKind) (name : String) : Bool :=
  (Intake.admission kind name).toOption.isSome

theorem LogKind.admits_iff {kind : LogKind} {name : String} :
    kind.admits name = true ↔ ∃ e, readLogName name = .ok (kind, e) := by
  simp only [← admission_eq_ok_iff, admits]
  cases Intake.admission kind name <;> simp [Except.toOption]

def logs (kind : LogKind) (entries : List (String × Entry)) : List (String × Entry) :=
  entries.filter fun f => f.2.isFile && kind.admits f.1

def Outcome.summary? : Except FoldError Outcome → Option Summary
  | .ok (.summary s) => some s
  | _ => none

def logSummary? (kind : LogKind) (clusterSize : Nat) (f : String × Entry) : Option Summary :=
  match Intake.admission kind f.1 with
  | .error _ => none
  | .ok e =>
    match f.2 with
    | .file body => Outcome.summary? (FileFold.ofBody clusterSize kind e body).result
    | _ => none

theorem logSummary?_of_error {kind : LogKind} {f : String × Entry} {note : String}
    (h : Intake.admission kind f.1 = .error note) (clusterSize : Nat) :
    logSummary? kind clusterSize f = none := by
  unfold logSummary?
  rw [h]

theorem logSummary?_of_ok {kind : LogKind} {f : String × Entry} {e : Experiment}
    (h : Intake.admission kind f.1 = .ok e) (clusterSize : Nat) :
    logSummary? kind clusterSize f =
      match f.2 with
      | .file body => Outcome.summary? (FileFold.ofBody clusterSize kind e body).result
      | _ => none := by
  unfold logSummary?
  rw [h]

theorem logSummary?_of_not_admits {kind : LogKind} {f : String × Entry}
    (h : kind.admits f.1 = false) (clusterSize : Nat) : logSummary? kind clusterSize f = none := by
  unfold LogKind.admits at h
  cases ha : Intake.admission kind f.1 with
  | ok e =>
    rw [ha] at h
    cases h
  | error note => exact logSummary?_of_error ha clusterSize

section AddFiles

variable {directory : String} {kind : LogKind} {f : String × Entry}
  {files : List (String × Entry)} {i : Intake} (session : Session)

structure Gained (files : List (String × Entry)) (i i' : Intake) (session session' : Session) :
    Prop where
  kind : i'.kind = i.kind
  clusterSize : session'.clusterSize = session.clusterSize
  summaries : i'.summaries = i.summaries ++ files.filterMap (logSummary? i.kind session.clusterSize)

theorem addFile_of_openable (h : i.kind.admits f.1 = true → Openable directory f) :
    ∃ i' session', Intake.addFile (Path.join directory f.1) f.1 f.2 (i, session) =
      .ok (i', session') ∧ Gained [f] i i' session session' := by
  unfold Intake.addFile
  cases ha : Intake.admission i.kind f.1 with
  | error note =>
    have hnone := logSummary?_of_error ha session.clusterSize
    simp only [ha]
    exact ⟨_, _, rfl, ⟨rfl, rfl, by simp [hnone]⟩⟩
  | ok e =>
    have hsummary := logSummary?_of_ok ha session.clusterSize
    have hadmits : i.kind.admits f.1 = true := by
      rw [LogKind.admits, ha]
      rfl
    obtain ⟨hpath, hlocked⟩ := h hadmits
    simp only [ha, hpath]
    cases hentry : f.2 with
    | file body =>
      simp only [hentry] at hsummary
      simp only [Session.fold_eq_absorb]
      cases hresult : (FileFold.ofBody session.clusterSize i.kind e body).result with
      | error err =>
        rw [hresult] at hsummary
        exact ⟨_, _, rfl, ⟨rfl, rfl, by simp [hsummary, Outcome.summary?]⟩⟩
      | ok outcome =>
        rw [hresult] at hsummary
        cases outcome with
        | summary s => exact ⟨_, _, rfl, ⟨rfl, rfl, by simp [hsummary, Outcome.summary?]⟩⟩
        | noValidRecords v => exact ⟨_, _, rfl, ⟨rfl, rfl, by simp [hsummary, Outcome.summary?]⟩⟩
    | directory =>
      simp only [hentry] at hsummary
      exact ⟨_, _, rfl, ⟨rfl, rfl, by simp [hsummary]⟩⟩
    | locked => exact absurd hentry hlocked

theorem addFile_of_not_openable (hlog : i.kind.admits f.1 = true) (hno : ¬ Openable directory f) :
    ∃ path cause, Intake.addFile (Path.join directory f.1) f.1 f.2 (i, session) =
      .error (.unopenable path cause) := by
  obtain ⟨name, entry⟩ := f
  obtain ⟨e, ha⟩ : ∃ e, Intake.admission i.kind name = .ok e := by
    obtain ⟨e, he⟩ := LogKind.admits_iff.1 hlog
    exact ⟨e, (admission_eq_ok_iff i.kind name e).2 he⟩
  unfold Intake.addFile
  simp only [ha]
  cases hpath : FileTree.pathFault? (Path.join directory name) with
  | some cause => exact ⟨_, cause, rfl⟩
  | none =>
    cases entry with
    | locked => exact ⟨_, _, rfl⟩
    | _ => exact absurd ⟨hpath, by simp⟩ hno

theorem addFiles_of_openable (h : ∀ f ∈ files, i.kind.admits f.1 = true → Openable directory f) :
    ∃ i' session', Intake.addFiles directory (i, session) files = .ok (i', session') ∧
      Gained files i i' session session' := by
  induction files generalizing i session with
  | nil => exact ⟨i, session, rfl, rfl, rfl, by simp⟩
  | cons f files ih =>
    obtain ⟨hf, hfiles⟩ := List.forall_mem_cons.1 h
    obtain ⟨i₁, session₁, hadd, hfirst⟩ := addFile_of_openable session hf
    rw [← hfirst.kind] at hfiles
    obtain ⟨i', session', hrun, hrest⟩ := ih session₁ hfiles
    refine ⟨i', session', ?_, hrest.kind.trans hfirst.kind,
      hrest.clusterSize.trans hfirst.clusterSize, ?_⟩
    · rw [Intake.addFiles]
      exact bind_eq_ok_iff.2 ⟨_, hadd, hrun⟩
    · rw [hrest.summaries, hfirst.summaries, hfirst.kind, hfirst.clusterSize, List.append_assoc,
        ← List.filterMap_append, List.singleton_append]

theorem addFiles_of_not_openable (hf : f ∈ files) (hlog : i.kind.admits f.1 = true)
    (hno : ¬ Openable directory f) : ∃ path cause,
      Intake.addFiles directory (i, session) files = .error (.unopenable path cause) := by
  induction files generalizing i session with
  | nil => cases hf
  | cons g files ih =>
    rw [Intake.addFiles]
    by_cases hg : i.kind.admits g.1 = true → Openable directory g
    · obtain ⟨i₁, session₁, hadd, hfirst⟩ := addFile_of_openable session hg
      have hmem : f ∈ files := by
        rcases List.mem_cons.1 hf with rfl | hmem
        · exact absurd (hg hlog) hno
        · exact hmem
      rw [← hfirst.kind] at hlog
      obtain ⟨path, cause, hrun⟩ := ih session₁ hmem hlog
      refine ⟨path, cause, ?_⟩
      rw [hadd]
      exact hrun
    · push Not at hg
      obtain ⟨path, cause, hadd⟩ := addFile_of_not_openable session hg.1 hg.2
      refine ⟨path, cause, ?_⟩
      rw [hadd]
      rfl

end AddFiles

def logSummaries (kind : LogKind) (clusterSize : Nat) (entries : List (String × Entry)) :
    List Summary :=
  ((logs kind entries).mergeSort fun a b => decide (a.1 ≤ b.1)).filterMap
    (logSummary? kind clusterSize)

theorem filterMap_logFiles (kind : LogKind) (clusterSize : Nat) (entries : List (String × Entry)) :
    (Intake.logFiles entries).filterMap (logSummary? kind clusterSize) =
      logSummaries kind clusterSize entries := by
  have hadmitted : (Intake.logFiles entries).filterMap (logSummary? kind clusterSize) =
      ((Intake.logFiles entries).filter fun f => kind.admits f.1).filterMap
        (logSummary? kind clusterSize) := by
    rw [List.filterMap_filter]
    apply List.filterMap_congr
    intro f _
    cases hf : kind.admits f.1 with
    | true => simp
    | false => simp [logSummary?_of_not_admits hf]
  rw [hadmitted, logSummaries, Intake.logFiles, filter_mergeSort, List.filter_filter]
  · rw [logs]
    simp only [Bool.and_comm]
  · intro a b c hab hbc
    exact decide_eq_true ((of_decide_eq_true hab).trans (of_decide_eq_true hbc))
  · intro a b
    simpa using le_total a.1 b.1

theorem mem_logs {kind : LogKind} {entries : List (String × Entry)} {f : String × Entry} :
    f ∈ logs kind entries ↔ f ∈ Intake.logFiles entries ∧ kind.admits f.1 = true := by
  rw [mem_logFiles, logs, List.mem_filter, Bool.and_eq_true, and_assoc]

section Intake

variable {s : Settings} {t : FileTree} {source : String} {kind : LogKind}
  {entries : List (String × Entry)}

theorem exists_intake (s : Settings) (hlist : t.list source = .ok entries)
    (hopen : ∀ f ∈ logs kind entries, Openable source f) :
    ∃ i, Task.intake s t source kind = .ok i ∧
      i.summaries = logSummaries kind s.clusterSize entries := by
  have hfiles : ∀ f ∈ Intake.logFiles entries,
      (Intake.empty kind).kind.admits f.1 = true → Openable source f :=
    fun f hf hlog => hopen f (mem_logs.2 ⟨hf, hlog⟩)
  obtain ⟨i, session, hrun, hgained⟩ :=
    addFiles_of_openable (.start s.clusterSize s.histogramBins) hfiles
  refine ⟨{ i with diagnostics := session.diagnostics }, ?_, ?_⟩
  · simp only [Task.intake, Intake.ofDirectory?, hlist, hrun]
    rfl
  · rw [← filterMap_logFiles]
    exact hgained.summaries

theorem intake_of_list_error (s : Settings) (kind : LogKind) {cause : DiskError}
    (hlist : t.list source = .error cause) :
    Task.intake s t source kind = .error (.intake (.missingDirectory source cause)) := by
  simp only [Task.intake, Intake.ofDirectory?, hlist]

theorem intake_of_not_openable (s : Settings) (hlist : t.list source = .ok entries)
    {f : String × Entry} (hf : f ∈ logs kind entries) (hno : ¬ Openable source f) :
    ∃ path cause, Task.intake s t source kind = .error (.intake (.unopenable path cause)) := by
  obtain ⟨hfile, hlog⟩ := mem_logs.1 hf
  have hempty : (Intake.empty kind).kind.admits f.1 = true := hlog
  obtain ⟨path, cause, hrun⟩ :=
    addFiles_of_not_openable (.start s.clusterSize s.histogramBins) hfile hempty hno
  refine ⟨path, cause, ?_⟩
  simp only [Task.intake, Intake.ofDirectory?, hlist, hrun]
  rfl

theorem exists_of_intake {i : Intake} (h : Task.intake s t source kind = .ok i) :
    ∃ entries, t.list source = .ok entries ∧ (∀ f ∈ logs kind entries, Openable source f) ∧
      i.summaries = logSummaries kind s.clusterSize entries := by
  cases hlist : t.list source with
  | error cause =>
    rw [intake_of_list_error s kind hlist] at h
    cases h
  | ok entries =>
    have hopen : ∀ f ∈ logs kind entries, Openable source f := by
      intro f hf
      by_contra hno
      obtain ⟨path, cause, herror⟩ := intake_of_not_openable s hlist hf hno
      rw [herror] at h
      cases h
    obtain ⟨i', hi', hsummaries⟩ := exists_intake s hlist hopen
    rw [hi'] at h
    obtain rfl := Except.ok.inj h
    exact ⟨entries, rfl, hopen, hsummaries⟩

end Intake

end RateSweep
