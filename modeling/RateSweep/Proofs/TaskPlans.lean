import RateSweep.Proofs.TaskSteps
import RateSweep.Proofs.Walks

namespace RateSweep.Task

variable {s : Settings} {output file name : String} {t t' : FileTree} {task : Task} {p : Plan}
  {kind : LogKind} {e : Entry}

def logDirectory? : Task → Option (String × LogKind)
  | clients source => some (source, .client)
  | balancer source => some (source, .balancer)
  | cluster source => some (source, .cluster)
  | queues _ => none
  | filter _ _ => none

def logFile? : Task → Option String
  | queues file => some file
  | filter file _ => some file
  | _ => none

theorem exists_source (task : Task) :
    (∃ source kind, task.logDirectory? = some (source, kind)) ∨
      ∃ file, task.logFile? = some file := by
  cases task with
  | queues file => exact .inr ⟨file, rfl⟩
  | filter file f => exact .inr ⟨file, rfl⟩
  | _ => exact .inl ⟨_, _, rfl⟩

theorem logFile?_eq_none {source : String} (h : task.logDirectory? = some (source, kind)) :
    task.logFile? = none := by
  cases task with
  | queues file => cases h
  | filter file f => cases h
  | _ => rfl

def planLogs (s : Settings) (output : String) (i : Intake) : LogKind → Plan
  | .client => planClients s output i
  | .balancer => planBalancer s output i
  | .cluster => planCluster s output i

theorem plan_of_logDirectory? {source : String} (h : task.logDirectory? = some (source, kind))
    (s : Settings) (output : String) (t : FileTree) :
    task.plan s output t = (intake s t source kind).map fun i => planLogs s output i kind := by
  cases task with
  | queues file => cases h
  | filter file f => cases h
  | _ =>
    obtain ⟨rfl, rfl⟩ := Prod.mk.inj (Option.some.inj h)
    rfl

theorem run_eq_ok_iff : task.run s output t = (.ok p, t') ↔
    task.plan s output t = .ok p ∧ Output.writeAll t p.outputs = (t', none) := by
  rw [run_eq_carriedOut]
  unfold carriedOut
  cases task.plan s output t with
  | error e => simp
  | ok p' =>
    simp only [Except.ok.injEq]
    constructor
    · intro h
      split at h
      · next hwrite =>
        obtain ⟨hp, rfl⟩ := Prod.mk.inj h
        obtain rfl := Except.ok.inj hp
        exact ⟨rfl, hwrite⟩
      · cases h
    · rintro ⟨rfl, hwrite⟩
      rw [hwrite]

section File

theorem classify_eq_ok_iff : classify file = .ok (kind, name) ↔
    Path.fileName? file = some name ∧ LogKind.ofFileName? name = some kind := by
  unfold classify
  cases Path.fileName? file with
  | none => simp
  | some name' =>
    simp only [Option.some.injEq]
    cases hkind : LogKind.ofFileName? name' with
    | none =>
      simp only [reduceCtorEq, false_iff]
      rintro ⟨rfl, h⟩
      rw [hkind] at h
      cases h
    | some kind' =>
      simp only [Except.ok.injEq, Prod.mk.injEq]
      constructor
      · rintro ⟨rfl, rfl⟩
        exact ⟨rfl, hkind⟩
      · rintro ⟨rfl, h⟩
        rw [hkind] at h
        exact ⟨Option.some.inj h, rfl⟩

theorem openLog_eq_ok_iff : openLog t file = .ok e ↔ t.openAt file = .ok e := by
  unfold openLog
  cases t.openAt file <;> simp [Except.mapError]

theorem mapError_digest_eq_ok_iff {α : Type} {compute : List UInt8 → Except RecordError α} {a : α}
    {wrap : RecordError → TaskError} : (digest e compute).mapError wrap = .ok a ↔
      ∃ body, e = .file body ∧ compute body = .ok a := by
  cases e with
  | file body => cases hc : compute body <;> simp [digest, FileTree.contents, hc, Except.mapError]
  | directory => simp [digest, FileTree.contents, Except.mapError]
  | locked => simp [digest, FileTree.contents, Except.mapError]

theorem planQueues_eq_ok_iff : planQueues s output t file = .ok p ↔
    ∃ kind name body, classify file = .ok (kind, name) ∧ t.openAt file = .ok (.file body) ∧
      ((kind = .balancer ∧ ∃ series, QueueSeries.ofBody? s.clusterSize body = .ok series ∧
          p = single .table output s!"lb-queue-{withoutExtension name}{extension}" series.csv) ∨
        (kind = .cluster ∧ ∃ connections, Connections.ofBody? body = .ok connections ∧
          p = single .table output s!"cl-queue-{withoutExtension name}{extension}"
            connections.csv)) := by
  unfold planQueues
  simp only [bind_eq_ok_iff, Prod.exists, openLog_eq_ok_iff]
  constructor
  · rintro ⟨kind, name, hclassify, entry, hopen, h⟩
    cases kind with
    | client => cases h
    | balancer =>
      obtain ⟨series, hdigest, hp⟩ := bind_eq_ok_iff.1 h
      obtain ⟨body, rfl, hseries⟩ := mapError_digest_eq_ok_iff.1 hdigest
      exact ⟨_, _, body, hclassify, hopen, .inl ⟨rfl, series, hseries, (Except.ok.inj hp).symm⟩⟩
    | cluster =>
      obtain ⟨connections, hdigest, hp⟩ := bind_eq_ok_iff.1 h
      obtain ⟨body, rfl, hconnections⟩ := mapError_digest_eq_ok_iff.1 hdigest
      exact ⟨_, _, body, hclassify, hopen,
        .inr ⟨rfl, connections, hconnections, (Except.ok.inj hp).symm⟩⟩
  · rintro ⟨kind, name, body, hclassify, hopen, ⟨rfl, series, hseries, rfl⟩ |
      ⟨rfl, connections, hconnections, rfl⟩⟩
    · refine ⟨_, _, hclassify, _, hopen, bind_eq_ok_iff.2 ⟨series, ?_, rfl⟩⟩
      exact mapError_digest_eq_ok_iff.2 ⟨body, rfl, hseries⟩
    · refine ⟨_, _, hclassify, _, hopen, bind_eq_ok_iff.2 ⟨connections, ?_, rfl⟩⟩
      exact mapError_digest_eq_ok_iff.2 ⟨body, rfl, hconnections⟩

theorem planFilter_eq_ok_iff {f : LogFilter} : planFilter s output t file f = .ok p ↔
    ∃ kind name body, classify file = .ok (kind, name) ∧ t.openAt file = .ok (.file body) ∧
      ∃ filtered, FilteredLog.ofBody? s.clusterSize kind f body = .ok filtered ∧
        p = single .copy output s!"filtered-{name}" filtered.text := by
  unfold planFilter
  simp only [bind_eq_ok_iff, Prod.exists, openLog_eq_ok_iff]
  constructor
  · rintro ⟨kind, name, hclassify, entry, hopen, filtered, hdigest, hp⟩
    obtain ⟨body, rfl, hfiltered⟩ := mapError_digest_eq_ok_iff.1 hdigest
    exact ⟨kind, name, body, hclassify, hopen, filtered, hfiltered, (Except.ok.inj hp).symm⟩
  · rintro ⟨kind, name, body, hclassify, hopen, filtered, hfiltered, rfl⟩
    refine ⟨kind, name, hclassify, _, hopen, filtered, ?_, rfl⟩
    exact mapError_digest_eq_ok_iff.2 ⟨body, rfl, hfiltered⟩

theorem plan_congr (h : task.logFile? = some file) (s : Settings) (output : String)
    (hopen : t'.openAt file = t.openAt file) : task.plan s output t' = task.plan s output t := by
  cases task with
  | queues file' =>
    obtain rfl := Option.some.inj h
    simp only [plan, planQueues, openLog, hopen]
  | filter file' f =>
    obtain rfl := Option.some.inj h
    simp only [plan, planFilter, openLog, hopen]
  | _ => cases h

end File

end RateSweep.Task
