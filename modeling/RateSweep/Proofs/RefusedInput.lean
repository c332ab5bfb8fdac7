import RateSweep.Proofs.ReaderAgreement
import RateSweep.Proofs.SourceLogs

namespace RateSweep

theorem faultOf_eq_none_iff {ε α : Type} {x : Except ε α} : faultOf x = none ↔ ∃ a, x = .ok a := by
  cases x <;> simp [faultOf]

namespace Log

variable {α : Type} (read : Row → Except RecordError α)

def Undecodable (x : Except RecordError Row) : Prop := ∃ e, (x >>= read) = .error e

theorem failure_eq_none_iff (rows : List (Except RecordError Row)) :
    (decodeRows read rows).failure = none ↔ ∀ x ∈ rows, ¬ Undecodable read x := by
  induction rows with
  | nil => simp [decodeRows]
  | cons x rows ih =>
    rw [List.forall_mem_cons, ← ih]
    cases x with
    | error e =>
      have hbad : Undecodable read (.error e) := ⟨e, rfl⟩
      simp [decodeRows, hbad]
    | ok row =>
      cases hread : read row with
      | error e =>
        have hbad : Undecodable read (.ok row) := ⟨e, hread⟩
        simp [decodeRows, hread, hbad]
      | ok a =>
        have hgood : ¬ Undecodable read (.ok row) := by
          rintro ⟨e, he⟩
          rw [show read row = .error e from he] at hread
          cases hread
        simp [decodeRows, hread, hgood, Decoded.cons]

/-- A bad row is bad for readers that keep the header and for those that pass it over. -/
theorem forall_rows_passedOver_iff (body : List UInt8) :
    (∀ x ∈ rows .passedOver body, ¬ Undecodable read x) ↔
      ∀ x ∈ rows .kept body, ¬ Undecodable read x := by
  rcases rows_cases body with ⟨-, hrows⟩ | ⟨r, field, n, others, -, -, -, hkept, hpassed⟩
  · rw [hrows]
  · have hbad (e : RecordError) : Undecodable read (.error e) := ⟨e, rfl⟩
    rw [hkept, hpassed]
    simp [hbad]

end Log

def LogKind.HasBadRow (kind : LogKind) (clusterSize : Nat) (body : List UInt8) : Prop :=
  match kind with
  | .client => ∃ x ∈ Log.rows .kept body, Log.Undecodable ClientRecord.ofRow? x
  | .balancer => ∃ x ∈ Log.rows .kept body, Log.Undecodable (BalancerRecord.ofRow? clusterSize) x
  | .cluster => ∃ x ∈ Log.rows .kept body, Log.Undecodable ClusterRecord.ofRow? x

section Bodies

variable (clusterSize : Nat) (body : List UInt8)

theorem queueSeries_ok_iff : (∃ series, QueueSeries.ofBody? clusterSize body = .ok series) ↔
    ¬ LogKind.balancer.HasBadRow clusterSize body := by
  rw [← faultOf_eq_none_iff, faultOf_queueSeries, Log.decode, Log.failure_eq_none_iff,
    Log.forall_rows_passedOver_iff]
  simp [LogKind.HasBadRow]

theorem connections_ok_iff : (∃ connections, Connections.ofBody? body = .ok connections) ↔
    ¬ LogKind.cluster.HasBadRow clusterSize body := by
  rw [← faultOf_eq_none_iff, faultOf_connections, Log.decode, Log.failure_eq_none_iff,
    Log.forall_rows_passedOver_iff]
  simp [LogKind.HasBadRow]

theorem ofRows?_ok_iff {α : Type} (read : Row → Except RecordError α) (keep : α → Bool) :
    (∃ filtered, FilteredLog.ofRows? read keep body = .ok filtered) ↔
      (∃ header, Log.header body = .ok header) ∧
        ∀ x ∈ Log.rows .kept body, ¬ Log.Undecodable read x := by
  cases hheader : Log.header body with
  | error e =>
    have herror : FilteredLog.ofRows? read keep body = .error e := by
      rw [FilteredLog.ofRows?, hheader]
      rfl
    simp [herror]
  | ok header =>
    rw [← faultOf_eq_none_iff, faultOf_ofRows? read body keep hheader, Log.failure_eq_none_iff]
    simp

theorem filtered_ok_iff (kind : LogKind) (f : LogFilter) :
    (∃ filtered, FilteredLog.ofBody? clusterSize kind f body = .ok filtered) ↔
      (∃ header, Log.header body = .ok header) ∧ ¬ kind.HasBadRow clusterSize body := by
  cases kind <;> simp only [FilteredLog.ofBody?, ofRows?_ok_iff, LogKind.HasBadRow, not_exists,
    not_and]

end Bodies

def TaskError.IsInputFault : TaskError → Prop
  | directory _ _ => False
  | table _ _ => False
  | copy _ _ => False
  | _ => True

namespace Task

/-- What is wrong with the input of a task: its directory cannot be listed or a log in it cannot be
opened; its file has no name or not the name of a log, cannot be opened or is a directory; a client log
has no queues; a filter copies the header; a row is no record. -/
inductive Refused (s : Settings) (t : FileTree) : Task → Prop where
  | unlisted {task : Task} {source : String} {kind : LogKind} {cause : DiskError}
      (hsource : task.logDirectory? = some (source, kind)) (hlist : t.list source = .error cause) :
      Refused s t task
  | unopenableLog {task : Task} {source : String} {kind : LogKind} {f : String × Entry}
      {entries : List (String × Entry)} (hsource : task.logDirectory? = some (source, kind))
      (hlist : t.list source = .ok entries) (hf : f ∈ logs kind entries)
      (hno : ¬ Openable source f) : Refused s t task
  | unnamed {task : Task} {file : String} (hfile : task.logFile? = some file)
      (hname : Path.fileName? file = none) : Refused s t task
  | unknownKind {task : Task} {file name : String} (hfile : task.logFile? = some file)
      (hname : Path.fileName? file = some name) (hkind : LogKind.ofFileName? name = none) :
      Refused s t task
  | unopenable {task : Task} {file : String} {cause : DiskError}
      (hfile : task.logFile? = some file) (hopen : t.openAt file = .error cause) : Refused s t task
  | unreadable {task : Task} {file : String} {e : Entry} (hfile : task.logFile? = some file)
      (hopen : t.openAt file = .ok e) (hbody : ∀ body, e ≠ .file body) : Refused s t task
  | noQueues {file name : String} (hname : Path.fileName? file = some name)
      (hkind : LogKind.ofFileName? name = some .client) : Refused s t (.queues file)
  | badHeader {file : String} {f : LogFilter} {body : List UInt8} {e : RecordError}
      (hopen : t.openAt file = .ok (.file body)) (hheader : Log.header body = .error e) :
      Refused s t (.filter file f)
  | badRow {task : Task} {file name : String} {kind : LogKind} {body : List UInt8}
      (hfile : task.logFile? = some file) (hname : Path.fileName? file = some name)
      (hkind : LogKind.ofFileName? name = some kind) (hopen : t.openAt file = .ok (.file body))
      (hrow : kind.HasBadRow s.clusterSize body) : Refused s t task

def Takes : Task → LogKind → List UInt8 → Prop
  | queues _, kind, _ => kind ≠ .client
  | filter _ _, _, body => ∃ header, Log.header body = .ok header
  | _, _, _ => False

variable {s : Settings} {output file source : String} {kind : LogKind} {t t' : FileTree}
  {task : Task}

def FileReadable (s : Settings) (t : FileTree) (task : Task) (file : String) : Prop :=
  ∃ name kind body, Path.fileName? file = some name ∧ LogKind.ofFileName? name = some kind ∧
    t.openAt file = .ok (.file body) ∧ task.Takes kind body ∧ ¬ kind.HasBadRow s.clusterSize body

def DirectoryReadable (t : FileTree) (source : String) (kind : LogKind) : Prop :=
  ∃ entries, t.list source = .ok entries ∧ ∀ f ∈ logs kind entries, Openable source f

theorem exists_plan_file_iff (hfile : task.logFile? = some file) :
    (∃ p, task.plan s output t = .ok p) ↔ FileReadable s t task file := by
  unfold FileReadable
  cases task with
  | queues file' =>
    obtain rfl := Option.some.inj hfile
    simp only [plan, planQueues_eq_ok_iff, classify_eq_ok_iff]
    constructor
    · rintro ⟨p, kind, name, body, ⟨hname, hkind⟩, hopen, ⟨rfl, series, hseries, -⟩ |
        ⟨rfl, connections, hconnections, -⟩⟩
      · have hrows := (queueSeries_ok_iff s.clusterSize body).1 ⟨series, hseries⟩
        exact ⟨name, _, body, hname, hkind, hopen, by simp [Takes], hrows⟩
      · have hrows := (connections_ok_iff s.clusterSize body).1 ⟨connections, hconnections⟩
        exact ⟨name, _, body, hname, hkind, hopen, by simp [Takes], hrows⟩
    · rintro ⟨name, kind, body, hname, hkind, hopen, htakes, hrows⟩
      cases kind with
      | client => exact absurd rfl htakes
      | balancer =>
        obtain ⟨series, hseries⟩ := (queueSeries_ok_iff s.clusterSize body).2 hrows
        exact ⟨_, _, name, body, ⟨hname, hkind⟩, hopen, .inl ⟨rfl, series, hseries, rfl⟩⟩
      | cluster =>
        obtain ⟨connections, hconnections⟩ := (connections_ok_iff s.clusterSize body).2 hrows
        exact ⟨_, _, name, body, ⟨hname, hkind⟩, hopen, .inr ⟨rfl, connections, hconnections, rfl⟩⟩
  | filter file' f =>
    obtain rfl := Option.some.inj hfile
    simp only [plan, planFilter_eq_ok_iff, classify_eq_ok_iff]
    constructor
    · rintro ⟨p, kind, name, body, ⟨hname, hkind⟩, hopen, filtered, hfiltered, -⟩
      obtain ⟨hheader, hrows⟩ := (filtered_ok_iff s.clusterSize body kind f).1 ⟨filtered, hfiltered⟩
      exact ⟨name, kind, body, hname, hkind, hopen, hheader, hrows⟩
    · rintro ⟨name, kind, body, hname, hkind, hopen, hheader, hrows⟩
      obtain ⟨filtered, hfiltered⟩ :=
        (filtered_ok_iff s.clusterSize body kind f).2 ⟨hheader, hrows⟩
      exact ⟨_, kind, name, body, ⟨hname, hkind⟩, hopen, filtered, hfiltered, rfl⟩
  | _ => cases hfile

theorem exists_plan_directory_iff (hsource : task.logDirectory? = some (source, kind)) :
    (∃ p, task.plan s output t = .ok p) ↔ DirectoryReadable t source kind := by
  simp only [plan_of_logDirectory? hsource]
  constructor
  · rintro ⟨p, hp⟩
    cases hi : intake s t source kind with
    | error e =>
      rw [hi] at hp
      cases hp
    | ok i =>
      obtain ⟨entries, hlist, hopen, -⟩ := exists_of_intake hi
      exact ⟨entries, hlist, hopen⟩
  · rintro ⟨entries, hlist, hopen⟩
    obtain ⟨i, hi, -⟩ := exists_intake s hlist hopen
    rw [hi]
    exact ⟨_, rfl⟩

theorem refused_of_not_fileReadable (hfile : task.logFile? = some file)
    (h : ¬ FileReadable s t task file) : task.Refused s t := by
  cases hname : Path.fileName? file with
  | none => exact .unnamed hfile hname
  | some name =>
    cases hkind : LogKind.ofFileName? name with
    | none => exact .unknownKind hfile hname hkind
    | some kind =>
      cases hopen : t.openAt file with
      | error cause => exact .unopenable hfile hopen
      | ok e =>
        cases e with
        | file body =>
          by_cases hrow : kind.HasBadRow s.clusterSize body
          · exact .badRow hfile hname hkind hopen hrow
          · have hno : ¬ task.Takes kind body := fun htakes =>
              h ⟨name, kind, body, hname, hkind, hopen, htakes, hrow⟩
            cases task with
            | queues file' =>
              obtain rfl := Option.some.inj hfile
              obtain rfl := not_not.1 hno
              exact .noQueues hname hkind
            | filter file' f =>
              obtain rfl := Option.some.inj hfile
              cases hheader : Log.header body with
              | error e => exact .badHeader hopen hheader
              | ok header => exact absurd ⟨header, hheader⟩ hno
            | _ => cases hfile
        | directory => exact .unreadable hfile hopen (by simp)
        | locked => exact .unreadable hfile hopen (by simp)

theorem refused_of_not_directoryReadable (hsource : task.logDirectory? = some (source, kind))
    (h : ¬ DirectoryReadable t source kind) : task.Refused s t := by
  cases hlist : t.list source with
  | error cause => exact .unlisted hsource hlist
  | ok entries =>
    have hno : ¬ ∀ f ∈ logs kind entries, Openable source f := fun hopen => h ⟨entries, hlist, hopen⟩
    push Not at hno
    obtain ⟨f, hf, hclosed⟩ := hno
    exact .unopenableLog hsource hlist hf hclosed

theorem Refused.not_plan {task : Task} (h : task.Refused s t) (output : String) :
    ¬ ∃ p, task.plan s output t = .ok p := by
  have hname_unique {file name name' : String} (hname : Path.fileName? file = some name)
      (hname' : Path.fileName? file = some name') : name = name' :=
    Option.some.inj (hname.symm.trans hname')
  cases h with
  | unlisted hsource hlist =>
    rw [exists_plan_directory_iff hsource]
    rintro ⟨entries, hentries, -⟩
    rw [hlist] at hentries
    cases hentries
  | unopenableLog hsource hlist hf hno =>
    rw [exists_plan_directory_iff hsource]
    rintro ⟨entries, hentries, hopen⟩
    rw [hlist] at hentries
    obtain rfl := Except.ok.inj hentries
    exact hno (hopen _ hf)
  | unnamed hfile hnone =>
    rw [exists_plan_file_iff hfile]
    rintro ⟨name, -, -, hname, -⟩
    rw [hnone] at hname
    cases hname
  | unknownKind hfile hname hnone =>
    rw [exists_plan_file_iff hfile]
    rintro ⟨name, kind, -, hname', hkind, -⟩
    obtain rfl := hname_unique hname hname'
    rw [hnone] at hkind
    cases hkind
  | unopenable hfile hclosed =>
    rw [exists_plan_file_iff hfile]
    rintro ⟨-, -, body, -, -, hopen, -⟩
    rw [hclosed] at hopen
    cases hopen
  | unreadable hfile hentry hbody =>
    rw [exists_plan_file_iff hfile]
    rintro ⟨-, -, body, -, -, hopen, -⟩
    rw [hentry] at hopen
    exact hbody body (Except.ok.inj hopen)
  | noQueues hname hclient =>
    rw [exists_plan_file_iff rfl]
    rintro ⟨name, kind, body, hname', hkind, -, htakes, -⟩
    obtain rfl := hname_unique hname hname'
    rw [hclient] at hkind
    exact htakes (Option.some.inj hkind).symm
  | badHeader hbody hheader =>
    rw [exists_plan_file_iff rfl]
    rintro ⟨-, -, body, -, -, hopen, ⟨header, htakes⟩, -⟩
    rw [hbody] at hopen
    obtain rfl := Entry.file.inj (Except.ok.inj hopen)
    rw [hheader] at htakes
    cases htakes
  | badRow hfile hname hkind hbody hrow =>
    rw [exists_plan_file_iff hfile]
    rintro ⟨name, kind, body, hname', hkind', hopen, -, hrows⟩
    obtain rfl := hname_unique hname hname'
    obtain rfl := Option.some.inj (hkind.symm.trans hkind')
    rw [hbody] at hopen
    obtain rfl := Entry.file.inj (Except.ok.inj hopen)
    exact hrows hrow

theorem exists_plan_or_refused (s : Settings) (output : String) (t : FileTree) (task : Task) :
    (∃ p, task.plan s output t = .ok p) ∨ task.Refused s t := by
  rcases task.exists_source with ⟨source, kind, hsource⟩ | ⟨file, hfile⟩
  · rw [exists_plan_directory_iff hsource]
    exact (em _).imp_right (refused_of_not_directoryReadable hsource)
  · rw [exists_plan_file_iff hfile]
    exact (em _).imp_right (refused_of_not_fileReadable hfile)

section Faults

def FailsOnInput {α : Type} (x : Except TaskError α) : Prop := ∀ e, x = .error e → e.IsInputFault

variable {α β ε : Type} {e : TaskError}

theorem failsOnInput_ok (a : α) : FailsOnInput (.ok a) := by
  intro e h
  cases h

theorem failsOnInput_error (he : e.IsInputFault) : FailsOnInput (.error e : Except TaskError α) := by
  intro e' h
  obtain rfl := Except.error.inj h
  exact he

theorem FailsOnInput.map {x : Except TaskError α} (hx : FailsOnInput x) (f : α → β) :
    FailsOnInput (x.map f) := by
  cases x with
  | error e => exact failsOnInput_error (hx e rfl)
  | ok a => exact failsOnInput_ok (f a)

theorem FailsOnInput.bind {x : Except TaskError α} {f : α → Except TaskError β}
    (hx : FailsOnInput x) (hf : ∀ a, FailsOnInput (f a)) : FailsOnInput (x >>= f) := by
  intro e h
  rcases bind_eq_error_iff.1 h with h | ⟨a, -, h⟩
  · exact hx e h
  · exact hf a e h

theorem failsOnInput_mapError (wrap : ε → TaskError) (hwrap : ∀ cause, (wrap cause).IsInputFault)
    (x : Except ε α) : FailsOnInput (x.mapError wrap) := by
  cases x with
  | error cause => exact failsOnInput_error (hwrap cause)
  | ok a => exact failsOnInput_ok a

theorem failsOnInput_classify (file : String) : FailsOnInput (classify file) := by
  unfold classify
  split
  · exact failsOnInput_error trivial
  · split
    · exact failsOnInput_error trivial
    · exact failsOnInput_ok _

theorem failsOnInput_intake (s : Settings) (t : FileTree) (source : String) (kind : LogKind) :
    FailsOnInput (intake s t source kind) := by
  unfold intake
  split
  · exact failsOnInput_ok _
  · exact failsOnInput_error trivial

theorem failsOnInput_openLog (t : FileTree) (file : String) : FailsOnInput (openLog t file) :=
  failsOnInput_mapError (.unopenable file) (fun _ => trivial) _

theorem failsOnInput_plan (s : Settings) (output : String) (t : FileTree) (task : Task) :
    FailsOnInput (task.plan s output t) := by
  cases task with
  | clients source => exact (failsOnInput_intake s t source .client).map _
  | balancer source => exact (failsOnInput_intake s t source .balancer).map _
  | cluster source => exact (failsOnInput_intake s t source .cluster).map _
  | queues file =>
    apply (failsOnInput_classify file).bind
    rintro ⟨kind, name⟩
    apply (failsOnInput_openLog t file).bind
    intro entry
    cases kind with
    | client => exact failsOnInput_error trivial
    | balancer =>
      apply FailsOnInput.bind
      · exact failsOnInput_mapError (.undecodable file) (fun _ => trivial) _
      · exact fun series => failsOnInput_ok _
    | cluster =>
      apply FailsOnInput.bind
      · exact failsOnInput_mapError (.undecodable file) (fun _ => trivial) _
      · exact fun connections => failsOnInput_ok _
  | filter file f =>
    apply (failsOnInput_classify file).bind
    rintro ⟨kind, name⟩
    apply (failsOnInput_openLog t file).bind
    intro entry
    apply FailsOnInput.bind
    · exact failsOnInput_mapError (.unfilterable file) (fun _ => trivial) _
    · exact fun filtered => failsOnInput_ok _

theorem not_isInputFault_of_write {o : Output} (h : o.write t = (t', some e)) :
    ¬ e.IsInputFault := by
  unfold Output.write at h
  split at h
  · obtain rfl := Option.some.inj (Prod.mk.inj h).2
    exact id
  · split at h
    · obtain rfl := Option.some.inj (Prod.mk.inj h).2
      unfold Output.fault
      split <;> exact id
    · cases h

theorem not_isInputFault_of_writeAll {os : List Output} (h : Output.writeAll t os = (t', some e)) :
    ¬ e.IsInputFault := by
  induction os generalizing t with
  | nil => cases h
  | cons o os ih =>
    rw [Output.writeAll] at h
    split at h
    · exact ih h
    · next hwrite =>
      obtain ⟨rfl, hfault⟩ := Prod.mk.inj h
      obtain rfl := Option.some.inj hfault
      exact not_isInputFault_of_write hwrite

end Faults

theorem refused_leaves_tree (s : Settings) (output : String) (t : FileTree) (task : Task) :
    (task.Refused s t → ∃ e, e.IsInputFault ∧ task.run s output t = (.error e, t)) ∧
      ∀ e t', task.run s output t = (.error e, t') → e.IsInputFault →
        t' = t ∧ task.Refused s t := by
  constructor
  · intro hrefused
    cases hplan : task.plan s output t with
    | ok p => exact absurd ⟨p, hplan⟩ (hrefused.not_plan output)
    | error e =>
      refine ⟨e, failsOnInput_plan s output t task e hplan, ?_⟩
      rw [run_eq_carriedOut, hplan, carriedOut]
  · intro e t' hrun hfault
    cases hplan : task.plan s output t with
    | error e' =>
      rw [run_eq_carriedOut, hplan, carriedOut] at hrun
      have hno : ¬ ∃ p, task.plan s output t = .ok p := by
        rintro ⟨p, hp⟩
        rw [hplan] at hp
        cases hp
      exact ⟨(Prod.mk.inj hrun).2.symm, (exists_plan_or_refused s output t task).resolve_left hno⟩
    | ok p =>
      rw [run_eq_carriedOut, hplan, carriedOut] at hrun
      split at hrun
      · cases hrun
      · next hwrite =>
        obtain ⟨he, rfl⟩ := Prod.mk.inj hrun
        obtain rfl := Except.error.inj he
        exact absurd hfault (not_isInputFault_of_writeAll hwrite)

def earlierTree : FileTree where
  workingDirectory := []
  entries := [(["cluster-log"], .file (Text.encode "h\n1,1,healthcheck,,0,50,0\nx\n")),
    (["out"], .directory), (["out", "investigation"], .directory),
    (["out", "investigation", "filtered-cluster-log"], .file [104, 10])]

theorem refused_leaves_tree_earlier : ∃ e, e.IsInputFault ∧
    run {} "out" earlierTree (filter "cluster-log" {}) = (.error e, earlierTree) := by
  have hopen : earlierTree.openAt "cluster-log" =
      .ok (.file (Text.encode "h\n1,1,healthcheck,,0,50,0\nx\n")) := by decide +kernel
  have hmem : .ok ⟨3, ["x"]⟩ ∈
      Log.rows .kept (Text.encode "h\n1,1,healthcheck,,0,50,0\nx\n") := by decide +kernel
  have hrow : LogKind.cluster.HasBadRow 10 (Text.encode "h\n1,1,healthcheck,,0,50,0\nx\n") :=
    ⟨_, hmem, .columnCount 3 "7 or 8" 1, rfl⟩
  have hname : Path.fileName? "cluster-log" = some "cluster-log" := by decide +kernel
  have hkind : LogKind.ofFileName? "cluster-log" = some .cluster := by decide +kernel
  have hrefused : Refused {} earlierTree (filter "cluster-log" {}) :=
    .badRow rfl hname hkind hopen hrow
  exact (refused_leaves_tree {} "out" earlierTree (filter "cluster-log" {})).1 hrefused

end Task

end RateSweep
