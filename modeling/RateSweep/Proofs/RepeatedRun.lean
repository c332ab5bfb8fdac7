import RateSweep.Proofs.Results
import RateSweep.Proofs.SourceLogs
import RateSweep.Proofs.TreeWrites

/-!
A task run once more on the tree it left. Nothing that a task writes is a log that it reads: the
results of a directory's logs have names that no log has, and a file made of one log has a longer name
than the log. So the second run reads what the first one read, writes the same, and leaves the tree as
it is (`Task.run_again`).
-/

namespace RateSweep

open FileTree

section Names

variable {t : FileTree} {l : Location} {dir name : String}

theorem exists_eq_append_of_locate (hslash : '/' ∉ name.toList) (hlong : 2 < name.length)
    (h : t.locate (Path.join dir name) = .ok l) : ∃ k, l = k ++ [name] := by
  obtain ⟨k, -, hstep⟩ := (follow_join_eq_ok_iff hslash).1 (locate_eq_ok_iff.1 h).2
  exact ⟨k, eq_append_of_step_of_two_lt hlong hstep⟩

theorem Result.two_lt_length_name (r : Result) : 2 < r.name.length := by
  have hext : extension.length = 4 := by decide
  rw [Result.name, String.length_append, hext]
  omega

theorem Result.not_admits_name (r : Result) (kind : LogKind) : kind.admits r.name = false := by
  rw [← Bool.not_eq_true, LogKind.admits_iff]
  rintro ⟨e, he⟩
  exact r.readLogName_name kind e he

end Names

section Listing

variable {t t' : FileTree} {ps : List (Output × Location)} {source : String}
  {entries : List (String × Entry)}

theorem filter_filterMap_eq {α β : Type} (f : α → Option β) (p : β → Bool) (xs : List α) :
    (xs.filterMap f).filter p = (xs.filter fun x => (f x).any p).filterMap f := by
  induction xs with
  | nil => rfl
  | cons x xs ih =>
    cases hx : f x with
    | none => simp [hx, ih]
    | some y => cases hy : p y <;> simp [hx, hy, ih]

def child? (l : Location) (p : Location × Entry) : Option (String × Entry) :=
  match p.1.getLast? with
  | some name => if p.1.dropLast = l then some (name, p.2) else none
  | none => none

theorem children_eq (t : FileTree) (l : Location) : t.children l = t.entries.filterMap (child? l) :=
  rfl

theorem child?_eq_some_iff {l : Location} {p : Location × Entry} {f : String × Entry} :
    child? l p = some f ↔ p = (l ++ [f.1], f.2) := by
  obtain ⟨k, e⟩ := p
  obtain ⟨name, e'⟩ := f
  unfold child?
  constructor
  · intro h
    split at h
    · next last hlast =>
      split at h
      · next hl =>
        obtain ⟨rfl, rfl⟩ := Prod.mk.inj (Option.some.inj h)
        obtain ⟨k', rfl⟩ := List.getLast?_eq_some_iff.1 hlast
        rw [List.dropLast_concat] at hl
        rw [hl]
      · cases h
    · cases h
  · intro h
    obtain ⟨rfl, rfl⟩ := Prod.mk.inj h
    simp

theorem list_eq_ok_iff : t.list source = .ok entries ↔
    ∃ l, t.locate source = .ok l ∧ t.at? l = some .directory ∧ t.children l = entries := by
  unfold list
  simp only [bind_eq_ok_iff]
  constructor
  · rintro ⟨l, hl, h⟩
    split at h
    · cases h
    · next hdirectory => exact ⟨l, hl, hdirectory, Except.ok.inj h⟩
    · cases h
  · rintro ⟨l, hl, hdirectory, rfl⟩
    refine ⟨l, hl, ?_⟩
    rw [hdirectory]
    rfl

theorem logs_children_of_writes (h : Writes t ps t') (l : Location) {kind : LogKind}
    (hnames : ∀ p ∈ ps, ∀ k name, p.2 = k ++ [name] → kind.admits name = false) :
    logs kind (t'.children l) = logs kind (t.children l) := by
  let q : String × Entry → Bool := fun f => f.2.isFile && kind.admits f.1
  have hq (p : Location × Entry) : ((child? l p).any q = true) ↔ ∃ f : String × Entry,
      p = (l ++ [f.1], f.2) ∧ f.2.isFile = true ∧ kind.admits f.1 = true := by
    rw [Option.any_eq_true]
    simp only [child?_eq_some_iff, q, Bool.and_eq_true]
  have hentries : t'.entries.filter (fun p => (child? l p).any q) =
      t.entries.filter fun p => (child? l p).any q := by
    apply h.filter_entries
    · intro k
      rw [← Bool.not_eq_true, hq]
      rintro ⟨f, hf, hfile, -⟩
      rw [← (Prod.mk.inj hf).2] at hfile
      cases hfile
    · intro p hp e
      rw [← Bool.not_eq_true, hq]
      rintro ⟨f, hf, -, hlog⟩
      rw [hnames p hp l f.1 (Prod.mk.inj hf).1] at hlog
      cases hlog
  rw [logs, logs, children_eq, children_eq, filter_filterMap_eq, filter_filterMap_eq, hentries]

end Listing

namespace Task

inductive Reads (t : FileTree) (task : Task) : Location → Prop where
  | listed {source : String} {kind : LogKind} {l : Location} {name : String} {e : Entry}
      (hsource : task.logDirectory? = some (source, kind)) (hl : t.locate source = .ok l)
      (hlog : (name, e) ∈ logs kind (t.children l)) : Reads t task (l ++ [name])
  | opened {file : String} {l : Location} (hfile : task.logFile? = some file)
      (hl : t.locate file = .ok l) : Reads t task l

variable {s : Settings} {output : String} {t t' : FileTree} {task : Task} {p : Plan}

section Directory

variable {source : String} {kind : LogKind}

theorem exists_intake_of_plan (h : task.logDirectory? = some (source, kind))
    (hplan : task.plan s output t = .ok p) :
    ∃ i, intake s t source kind = .ok i ∧ p = planLogs s output i kind := by
  rw [plan_of_logDirectory? h] at hplan
  obtain ⟨i, hi, hp⟩ := exists_of_map_eq_ok hplan
  exact ⟨i, hi, hp.symm⟩

theorem planLogs_congr {i i' : Intake} (h : i'.summaries = i.summaries) (s : Settings)
    (output : String) (kind : LogKind) :
    (planLogs s output i' kind).outputs = (planLogs s output i kind).outputs ∧
      (planLogs s output i' kind).dropped = (planLogs s output i kind).dropped := by
  have hclients : i'.clients = i.clients := congrArg (List.filterMap _) h
  have hbalancers : i'.balancers = i.balancers := congrArg (List.filterMap _) h
  have hclusters : i'.clusters = i.clusters := congrArg (List.filterMap _) h
  cases kind with
  | client => simp only [planLogs, planClients, hclients, and_self]
  | balancer => simp only [planLogs, planBalancer, hbalancers, and_self]
  | cluster => simp only [planLogs, planCluster, hclusters, and_self]

theorem not_admits_of_writes {ps : List (Output × Location)} {i : Intake}
    (hwrites : Writes t ps t')
    (hps : ps.map Prod.fst = (planLogs s output i kind).outputs) (kind' : LogKind) :
    ∀ q ∈ ps, ∀ k name, q.2 = k ++ [name] → kind'.admits name = false := by
  intro q hq k name hk
  have ho : q.1 ∈ (planLogs s output i kind).outputs := hps ▸ List.mem_map_of_mem hq
  obtain ⟨r, -, hr⟩ := exists_left_of_forall₂ (forall₂_files s output i kind) ho
  have hplace := (hwrites.settled hq).place
  rw [Output.path, hr.name] at hplace
  obtain ⟨k', hk'⟩ := exists_eq_append_of_locate r.slash_notMem_name r.two_lt_length_name hplace
  rw [hk] at hk'
  obtain rfl := List.singleton_inj.1 (List.append_inj_right' hk' rfl)
  exact r.not_admits_name kind'

theorem run_again_directory (h : task.logDirectory? = some (source, kind))
    (hrun : task.run s output t = (.ok p, t')) :
    (∀ o ∈ p.outputs, ∃ l, t'.locate o.path = .ok l ∧ ¬ task.Reads t l) ∧
      ∃ p', task.run s output t' = (.ok p', t') ∧ p'.outputs = p.outputs ∧
        p'.dropped = p.dropped := by
  obtain ⟨hplan, hwrite⟩ := run_eq_ok_iff.1 hrun
  obtain ⟨i, hi, rfl⟩ := exists_intake_of_plan h hplan
  obtain ⟨ps, hps, hwrites⟩ := writeAll_eq_iff.1 hwrite
  have hnames := not_admits_of_writes hwrites hps
  constructor
  · intro o ho
    rw [← hps] at ho
    obtain ⟨q, hq, rfl⟩ := List.mem_map.1 ho
    refine ⟨q.2, (hwrites.settled hq).place, fun hreads => ?_⟩
    generalize hl : q.2 = l at hreads
    cases hreads with
    | listed hsource _ hlog =>
      have hadmits := (mem_logs.1 hlog).2
      rw [hnames _ q hq _ _ hl] at hadmits
      cases hadmits
    | opened hfile =>
      rw [logFile?_eq_none h] at hfile
      cases hfile
  · obtain ⟨entries, hlist, hopen, hsummaries⟩ := exists_of_intake hi
    obtain ⟨l, hl, hdirectory, rfl⟩ := list_eq_ok_iff.1 hlist
    have hlogs := logs_children_of_writes hwrites l (hnames kind)
    have hext := hwrites.toExtends
    have hlist' : t'.list source = .ok (t'.children l) :=
      list_eq_ok_iff.2 ⟨l, locate_of_extends hext hl, hext.directory l hdirectory, rfl⟩
    rw [← hlogs] at hopen
    obtain ⟨i', hi', hsummaries'⟩ := exists_intake s hlist' hopen
    have hsame : i'.summaries = i.summaries := by
      rw [hsummaries', hsummaries, logSummaries, logSummaries, hlogs]
    obtain ⟨houtputs, hdropped⟩ := planLogs_congr hsame s output kind
    refine ⟨planLogs s output i' kind, run_eq_ok_iff.2 ⟨?_, ?_⟩, houtputs, hdropped⟩
    · rw [plan_of_logDirectory? h, hi']
      rfl
    · rw [houtputs]
      exact writeAll_eq_iff.2 ⟨ps, hps, hwrites.again⟩

end Directory

section File

variable {file : String}

theorem length_le_withoutExtension (name : String) :
    name.length ≤ (withoutExtension name).length + extension.length := by
  rcases withoutExtension_eq_iff.1 (rfl : withoutExtension name = _) with h | ⟨h, -⟩
  · have hlength := congrArg String.length h
    rw [String.length_append] at hlength
    omega
  · have hlength := congrArg String.length h
    omega

theorem slash_notMem_withoutExtension {name : String} (hname : '/' ∉ name.toList) :
    '/' ∉ (withoutExtension name).toList := by
  rcases withoutExtension_eq_iff.1 (rfl : withoutExtension name = _) with h | ⟨h, -⟩
  · intro hmem
    apply hname
    rw [h, String.toList_append]
    exact List.mem_append_left _ hmem
  · rwa [← h]

structure Outgrows (long name : String) : Prop where
  slash_notMem : '/' ∉ long.toList
  two_lt : 2 < long.length
  name_lt : name.length < long.length

theorem outgrows_append {front name : String} (hfront : '/' ∉ front.toList ∧ 2 < front.length)
    (hname : '/' ∉ name.toList) : Outgrows (front ++ name) name := by
  obtain ⟨hslash, hlength⟩ := hfront
  have hsum := String.length_append front name
  refine ⟨?_, by omega, by omega⟩
  simp [hslash, hname]

theorem outgrows_withoutExtension {front name : String}
    (hfront : '/' ∉ front.toList ∧ 2 < front.length) (hname : '/' ∉ name.toList) :
    Outgrows (front ++ withoutExtension name ++ extension) name := by
  have hstem := outgrows_append hfront (slash_notMem_withoutExtension hname)
  have hlength := length_le_withoutExtension name
  have hlong := hstem.two_lt
  have hstemlt := hstem.name_lt
  have hsum := String.length_append (front ++ withoutExtension name) extension
  have hext : '/' ∉ extension.toList := by decide
  refine ⟨?_, by omega, by omega⟩
  rw [String.toList_append, List.mem_append, not_or]
  exact ⟨hstem.slash_notMem, hext⟩

theorem exists_of_plan_file (h : task.logFile? = some file) (hplan : task.plan s output t = .ok p) :
    ∃ name body o, Path.fileName? file = some name ∧ t.openAt file = .ok (.file body) ∧
      p.outputs = [o] ∧ Outgrows o.name name := by
  cases task with
  | queues file' =>
    obtain rfl := Option.some.inj h
    obtain ⟨kind, name, body, hclassify, hopen, hp⟩ := planQueues_eq_ok_iff.1 hplan
    have hname := (classify_eq_ok_iff.1 hclassify).1
    have hslash := slash_notMem_of_fileName? hname
    rcases hp with ⟨-, series, -, rfl⟩ | ⟨-, connections, -, rfl⟩
    · have hlong : Outgrows ("lb-queue-" ++ withoutExtension name ++ extension) name :=
        outgrows_withoutExtension (by decide) hslash
      exact ⟨name, body, _, hname, hopen, rfl, hlong⟩
    · have hlong : Outgrows ("cl-queue-" ++ withoutExtension name ++ extension) name :=
        outgrows_withoutExtension (by decide) hslash
      exact ⟨name, body, _, hname, hopen, rfl, hlong⟩
  | filter file' f =>
    obtain rfl := Option.some.inj h
    obtain ⟨kind, name, body, hclassify, hopen, filtered, -, rfl⟩ := planFilter_eq_ok_iff.1 hplan
    have hname := (classify_eq_ok_iff.1 hclassify).1
    have hlong : Outgrows ("filtered-" ++ name) name :=
      outgrows_append (by decide) (slash_notMem_of_fileName? hname)
    exact ⟨name, body, _, hname, hopen, rfl, hlong⟩
  | _ => cases h

theorem run_again_file (h : task.logFile? = some file) (hrun : task.run s output t = (.ok p, t')) :
    (∀ o ∈ p.outputs, ∃ l, t'.locate o.path = .ok l ∧ ¬ task.Reads t l) ∧
      task.run s output t' = (.ok p, t') := by
  obtain ⟨hplan, hwrite⟩ := run_eq_ok_iff.1 hrun
  obtain ⟨name, body, o, hname, hopen, houtputs, hlong⟩ := exists_of_plan_file h hplan
  obtain ⟨ps, hps, hwrites⟩ := writeAll_eq_iff.1 hwrite
  obtain ⟨l, hl, hfile⟩ := openAt_eq_ok_file_iff.1 hopen
  have hnot : t.at? l ≠ some .directory := by simp [hfile]
  obtain ⟨outer, houter⟩ := exists_eq_append_of_follow (locate_eq_ok_iff.1 hl).2 hnot hname
  -- the log and what is made of it are told apart by the lengths of their names
  have hapart : ∀ q ∈ ps, q.2 ≠ l := by
    intro q hq hql
    have ho : q.1 = o := by
      have hmem : q.1 ∈ p.outputs := hps ▸ List.mem_map_of_mem hq
      rw [houtputs] at hmem
      exact List.mem_singleton.1 hmem
    have hplace := (hwrites.settled hq).place
    rw [ho] at hplace
    obtain ⟨k, hk⟩ := exists_eq_append_of_locate hlong.slash_notMem hlong.two_lt hplace
    have hsame := List.append_inj_right' (hk.symm.trans (hql.trans houter)) rfl
    exact absurd (congrArg String.length (List.singleton_inj.1 hsame)) hlong.name_lt.ne'
  have hstays : t'.openAt file = .ok (.file body) := by
    refine openAt_eq_ok_file_iff.2 ⟨l, locate_of_extends hwrites.toExtends hl, ?_⟩
    apply hwrites.at?_of_notMem _ hfile
    intro hmem
    obtain ⟨q, hq, hql⟩ := List.mem_map.1 hmem
    exact hapart q hq hql
  constructor
  · intro o' ho'
    rw [← hps] at ho'
    obtain ⟨q, hq, rfl⟩ := List.mem_map.1 ho'
    refine ⟨q.2, (hwrites.settled hq).place, fun hreads => ?_⟩
    generalize hk : q.2 = k at hreads
    cases hreads with
    | listed hsource =>
      rw [logFile?_eq_none hsource] at h
      cases h
    | opened hfile' hl' =>
      obtain rfl := Option.some.inj (h.symm.trans hfile')
      obtain rfl := Except.ok.inj (hl.symm.trans hl')
      exact hapart q hq hk
  · refine run_eq_ok_iff.2 ⟨?_, writeAll_eq_iff.2 ⟨ps, hps, hwrites.again⟩⟩
    rw [plan_congr h s output (hstays.trans hopen.symm), hplan]

end File

theorem run_again (s : Settings) (output : String) (t t' : FileTree) (task : Task) (p : Plan)
    (hrun : task.run s output t = (.ok p, t')) :
    (∀ o ∈ p.outputs, ∃ l, t'.locate o.path = .ok l ∧ ¬ task.Reads t l) ∧
      ∃ p', task.run s output t' = (.ok p', t') ∧ p'.outputs = p.outputs ∧
        p'.dropped = p.dropped := by
  rcases task.exists_source with ⟨source, kind, hsource⟩ | ⟨file, hfile⟩
  · exact run_again_directory hsource hrun
  · obtain ⟨hapart, hagain⟩ := run_again_file hfile hrun
    exact ⟨hapart, p, hagain, rfl, rfl⟩

def nestedTree : FileTree where
  workingDirectory := []
  entries := [(["out"], .directory), (["out", "node-request-counts"], .directory),
    (["out", "node-request-counts", "cluster-exp-rr-lat-0-homog-true-int-20-fsz-s-rate-10.csv"],
      .file [])]

def oneRun : Settings where
  design := ⟨[.roundRobin], [0], [true], [.small], [10], 20⟩

theorem exists_run_nested : ∃ p t',
    run oneRun "out" nestedTree (cluster "out/node-request-counts") = (.ok p, t') ∧
      p.written = ["out/node-request-counts/" ++
          "node-req-count-cluster-exp-rr-lat-0-homog-true-int-20-fsz-s-rate-10.csv",
        "out/idle-times/idle-rr-lat-0-homog-true-fsz-s.csv"] := by
  let first := run oneRun "out" nestedTree (cluster "out/node-request-counts")
  have hwritten : first.1.map Plan.written = .ok ["out/node-request-counts/" ++
      "node-req-count-cluster-exp-rr-lat-0-homog-true-int-20-fsz-s-rate-10.csv",
    "out/idle-times/idle-rr-lat-0-homog-true-fsz-s.csv"] := by decide +kernel
  obtain ⟨p, hp, hpaths⟩ := exists_of_map_eq_ok hwritten
  exact ⟨p, first.2, Prod.ext hp rfl, hpaths⟩

theorem run_again_nested :
    ∃ p t' p', run oneRun "out" nestedTree (cluster "out/node-request-counts") = (.ok p, t') ∧
      run oneRun "out" t' (cluster "out/node-request-counts") = (.ok p', t') ∧
      p'.written = ["out/node-request-counts/" ++
          "node-req-count-cluster-exp-rr-lat-0-homog-true-int-20-fsz-s-rate-10.csv",
        "out/idle-times/idle-rr-lat-0-homog-true-fsz-s.csv"] := by
  obtain ⟨p, t', hrun, hwritten⟩ := exists_run_nested
  obtain ⟨-, p', hagain, houtputs, -⟩ := run_again _ _ _ _ _ _ hrun
  exact ⟨p, t', p', hrun, hagain, (congrArg (List.map Output.path) houtputs).trans hwritten⟩

end Task

end RateSweep
