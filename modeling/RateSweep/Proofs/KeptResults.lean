import RateSweep.Proofs.EncodedText
import RateSweep.Proofs.RepeatedRun

/-!
Results that are written over. Two results of a run have one path only if they are the same result, and
then each is written and the last one stays. A result is the same twice if a design repeats itself,
which does no harm, or if two logs are about one experiment, and then the figures of one log are lost
(`Task.written_nodup_iff`).
-/

namespace RateSweep

open FileTree

variable {s : Settings} {i : Intake} {output : String} {kind : LogKind} {r r' : Result}
  {o o' : Output}

theorem map_eq_map_of_forall₂ {α β γ : Type} {f : α → γ} {g : β → γ} {xs : List α} {ys : List β}
    (h : List.Forall₂ (fun x y => g y = f x) xs ys) : ys.map g = xs.map f := by
  induction h with
  | nil => rfl
  | cons hxy _ ih => rw [List.map_cons, List.map_cons, hxy, ih]

theorem Files.path_eq (h : Files s i output r o) : o.path = r.path output := by
  rw [Output.path, h.directory, h.name, Result.path]

theorem written_planLogs (s : Settings) (output : String) (i : Intake) (kind : LogKind) :
    (Task.planLogs s output i kind).written = (results s i kind).map (Result.path output) :=
  map_eq_map_of_forall₂ ((Task.forall₂_files s output i kind).imp fun _ _ => Files.path_eq)

theorem nodup_written_iff (s : Settings) (output : String) (i : Intake) (kind : LogKind) :
    (Task.planLogs s output i kind).written.Nodup ↔ (results s i kind).Nodup := by
  rw [written_planLogs]
  constructor
  · exact List.Nodup.of_map _
  · intro h
    apply List.Nodup.map_on _ h
    intro r hr r' hr' hpath
    exact Result.path_inj (Task.atInterval_of_mem_results hr) (Task.atInterval_of_mem_results hr')
      hpath

section Disk

variable {t t' : FileTree} {l : Location} {ps : List (Output × Location)} {p : Plan}

theorem Result.two_lt_length_folder (r : Result) : 2 < r.folder.length := by
  cases r
  all_goals
    simp only [folder]
    decide

theorem Result.exists_eq_append_of_locate (r : Result) (h : t.locate (r.path output) = .ok l) :
    ∃ k, t.follow output = .ok k ∧ l = k ++ [r.folder] ++ [r.name] := by
  obtain ⟨k', hk', hstep'⟩ :=
    (follow_join_eq_ok_iff r.slash_notMem_name).1 (locate_eq_ok_iff.1 h).2
  obtain ⟨k, hk, hstep⟩ := (follow_join_eq_ok_iff r.slash_notMem_folder).1 hk'
  have hfolder := eq_append_of_step_of_two_lt r.two_lt_length_folder hstep
  have hname := eq_append_of_step_of_two_lt r.two_lt_length_name hstep'
  exact ⟨k, hk, by rw [hname, hfolder]⟩

theorem path_eq_of_locate (h : Files s i output r o) (h' : Files s i output r' o')
    (hl : t.locate o.path = .ok l) (hl' : t.locate o'.path = .ok l) : o.path = o'.path := by
  rw [h.path_eq] at hl
  rw [h'.path_eq] at hl'
  obtain ⟨k, hk, rfl⟩ := r.exists_eq_append_of_locate hl
  obtain ⟨k', hk', hsame⟩ := r'.exists_eq_append_of_locate hl'
  obtain rfl := Except.ok.inj (hk.symm.trans hk')
  obtain ⟨hfolders, hnames⟩ := List.append_inj' hsame rfl
  have hfolder := List.singleton_inj.1 (List.append_inj_right' hfolders rfl)
  have hname := List.singleton_inj.1 hnames
  rw [h.path_eq, h'.path_eq, Result.path, Result.path, hfolder, hname]

theorem exists_last (hl : l ∈ ps.map Prod.snd) :
    ∃ before o after, ps = before ++ (o, l) :: after ∧ l ∉ after.map Prod.snd := by
  induction ps with
  | nil => cases hl
  | cons q ps ih =>
    by_cases hps : l ∈ ps.map Prod.snd
    · obtain ⟨before, o, after, rfl, hafter⟩ := ih hps
      exact ⟨q :: before, o, after, rfl, hafter⟩
    · obtain rfl : l = q.2 := (List.mem_cons.1 hl).resolve_right hps
      exact ⟨[], q.1, ps, rfl, hps⟩

theorem exists_openAt (hwrites : Writes t ps t') (hfiles : ∀ q ∈ ps, ∃ r, Files s i output r q.1)
    {q : Output × Location} (hq : q ∈ ps) :
    ∃ q' ∈ ps, q.1.path = q'.1.path ∧ t'.openAt q.1.path = .ok q'.1.entry := by
  have hplace := (hwrites.settled hq).place
  -- what stands at a place is the last that was written there
  obtain ⟨before, o, after, hps, hafter⟩ := exists_last (List.mem_map_of_mem (f := Prod.snd) hq)
  have ho : (o, q.2) ∈ ps := by
    rw [hps]
    exact List.mem_append_right _ List.mem_cons_self
  obtain ⟨r, hr⟩ := hfiles q hq
  obtain ⟨r', hr'⟩ := hfiles _ ho
  refine ⟨_, ho, path_eq_of_locate hr hr' hplace (hwrites.settled ho).place, ?_⟩
  rw [hps] at hwrites
  exact openAt_eq_ok_file_iff.2 ⟨q.2, hplace, hwrites.at?_last hafter⟩

theorem kept_iff (hwrite : Output.writeAll t p.outputs = (t', none))
    (hfiles : ∀ o ∈ p.outputs, ∃ r, Files s i output r o) :
    (∀ o ∈ p.outputs, t'.openAt o.path = .ok o.entry) ↔
      ∀ o ∈ p.outputs, ∀ o' ∈ p.outputs, o.path = o'.path → o.text = o'.text := by
  obtain ⟨ps, hps, hwrites⟩ := writeAll_eq_iff.1 hwrite
  have hmem : ∀ o, o ∈ p.outputs ↔ ∃ q ∈ ps, q.1 = o := by
    intro o
    rw [← hps, List.mem_map]
  constructor
  · intro hkept o ho o' ho' hpath
    have hentries := hkept o' ho'
    rw [← hpath, hkept o ho] at hentries
    exact Text.encode_inj (Entry.file.inj (Except.ok.inj hentries))
  · intro htexts o ho
    obtain ⟨q, hq, rfl⟩ := (hmem o).1 ho
    have hfiles' : ∀ q ∈ ps, ∃ r, Files s i output r q.1 := fun q hq =>
      hfiles q.1 ((hmem _).2 ⟨q, hq, rfl⟩)
    obtain ⟨q', hq', hpath, hopen⟩ := exists_openAt hwrites hfiles' hq
    rw [hopen, Output.entry, Output.entry, htexts q.1 ho q'.1 ((hmem _).2 ⟨q', hq', rfl⟩) hpath]

end Disk

section Distinct

structure Design.Distinct (d : Design) : Prop where
  algorithms : d.algorithms.Nodup
  latenciesMs : d.latenciesMs.Nodup
  homogeneity : d.homogeneity.Nodup
  fileSizes : d.fileSizes.Nodup

theorem nodup_flatMap_of_label {α β : Type} {f : α → List β} {xs : List α} (label : β → Option α)
    (hxs : xs.Nodup) (hf : ∀ x, (f x).Nodup) (hlabel : ∀ x, ∀ y ∈ f x, label y = some x) :
    (xs.flatMap f).Nodup := by
  rw [List.nodup_flatMap]
  refine ⟨fun x _ => hf x, hxs.imp ?_⟩
  intro x x' hne y hy hy'
  apply hne
  exact Option.some.inj ((hlabel x y hy).symm.trans (hlabel x' y hy'))

variable {d : Design}

theorem Grouping.nodup_fixedKeys (hd : d.Distinct) (g : Grouping) : (g.fixedKeys d).Nodup := by
  cases g with
  | byAlgorithm => exact hd.fileSizes.map fun _ _ => BinKey.fileSize.inj
  | byFileSize => exact hd.algorithms.map fun _ _ => BinKey.algorithm.inj

theorem Grouping.nodup_configurations (hd : d.Distinct) (g : Grouping) :
    (g.configurations d).Nodup := by
  apply nodup_flatMap_of_label (fun c => some c.homogeneous) hd.homogeneity
  · intro homogeneous
    apply nodup_flatMap_of_label (fun c => some c.fixed) (g.nodup_fixedKeys hd)
    · intro fixed
      exact hd.latenciesMs.map fun _ _ h => congrArg Configuration.latencyMs h
    · intro fixed c hc
      obtain ⟨_, -, rfl⟩ := List.mem_map.1 hc
      rfl
  · intro homogeneous c hc
    obtain ⟨_, -, hc⟩ := List.mem_flatMap.1 hc
    obtain ⟨_, -, rfl⟩ := List.mem_map.1 hc
    rfl

theorem IdleSetting.nodup_all (hd : d.Distinct) : (IdleSetting.all d).Nodup := by
  apply nodup_flatMap_of_label (fun x => some x.algorithm) hd.algorithms
  · intro algorithm
    apply nodup_flatMap_of_label (fun x => some x.latencyMs) hd.latenciesMs
    · intro latency
      apply nodup_flatMap_of_label (fun x => some x.homogeneous) hd.homogeneity
      · intro homogeneous
        exact hd.fileSizes.map fun _ _ h => congrArg IdleSetting.fileSize h
      · intro homogeneous x hx
        obtain ⟨_, -, rfl⟩ := List.mem_map.1 hx
        rfl
    · intro latency x hx
      obtain ⟨_, -, hx⟩ := List.mem_flatMap.1 hx
      obtain ⟨_, -, rfl⟩ := List.mem_map.1 hx
      rfl
  · intro algorithm x hx
    obtain ⟨_, -, hx⟩ := List.mem_flatMap.1 hx
    obtain ⟨_, -, hx⟩ := List.mem_flatMap.1 hx
    obtain ⟨_, -, rfl⟩ := List.mem_map.1 hx
    rfl

theorem map_filterMap_sublist {α β γ : Type} {pick : α → Option β} {f : β → γ} {g : α → γ}
    (h : ∀ x y, pick x = some y → f y = g x) (xs : List α) :
    ((xs.filterMap pick).map f).Sublist (xs.map g) := by
  induction xs with
  | nil => exact .slnil
  | cons x xs ih =>
    cases hx : pick x with
    | none =>
      rw [List.filterMap_cons_none hx]
      exact ih.cons _
    | some y =>
      rw [List.filterMap_cons_some hx, List.map_cons, List.map_cons, h x y hx]
      exact ih.cons_cons _

theorem nodup_map_filterMap {σ : Type} {pick : Summary → Option σ} {experiment : σ → Experiment}
    (hpick : ∀ x y, pick x = some y → experiment y = x.experiment)
    (h : (i.summaries.map Summary.experiment).Nodup) :
    ((i.summaries.filterMap pick).map experiment).Nodup :=
  h.sublist (map_filterMap_sublist hpick i.summaries)

theorem nodup_clients (h : (i.summaries.map Summary.experiment).Nodup) :
    (i.clients.map ClientSummary.experiment).Nodup := by
  apply nodup_map_filterMap _ h
  intro x c hx
  cases x with
  | client c' => rw [← Option.some.inj hx, Summary.experiment]
  | _ => cases hx

theorem nodup_clusters (h : (i.summaries.map Summary.experiment).Nodup) :
    (i.clusters.map ClusterSummary.experiment).Nodup := by
  apply nodup_map_filterMap _ h
  intro x c hx
  cases x with
  | cluster c' => rw [← Option.some.inj hx, Summary.experiment]
  | _ => cases hx

theorem Result.Shows.unique (h : (i.summaries.map Summary.experiment).Nodup) {text text' : String}
    (ht : r.Shows s i text) (ht' : r.Shows s i text') : text = text' := by
  have htable {x : Option RateTable} (hx : ∃ t, x = some t ∧ t.csv = text)
      (hx' : ∃ t, x = some t ∧ t.csv = text') : text = text' := by
    obtain ⟨t, rfl, rfl⟩ := hx
    obtain ⟨t', htt', rfl⟩ := hx'
    rw [Option.some.inj htt']
  cases r with
  | distribution e =>
    obtain ⟨c, hc, he, histogram, hh, rfl⟩ := ht
    obtain ⟨c', hc', he', histogram', hh', rfl⟩ := ht'
    obtain rfl := List.inj_on_of_nodup_map (nodup_clients h) hc hc' (he.trans he'.symm)
    rw [Option.some.inj (hh.symm.trans hh')]
  | requestCounts e =>
    obtain ⟨c, hc, he, rfl⟩ := ht
    obtain ⟨c', hc', he', rfl⟩ := ht'
    rw [List.inj_on_of_nodup_map (nodup_clusters h) hc hc' (he.trans he'.symm)]
  | serviceTimes c => exact htable ht ht'
  | clientErrors c => exact htable ht ht'
  | requestRates c => exact htable ht ht'
  | idleTimes x => exact htable ht ht'

def Result.configuration? : Result → Option Configuration
  | serviceTimes c => some c
  | clientErrors c => some c
  | requestRates c => some c
  | _ => none

def Result.grouping? (r : Result) : Option Grouping := r.configuration?.map Configuration.grouping

theorem Grouping.nodup_all : Grouping.all.Nodup := by decide

section Tables

variable {σ : Type} [Measured σ] {metric : Metric} {ss : List σ} {make : Configuration → Result}

theorem nodup_map_tabulated (hd : d.Distinct) (hmake : ∀ c, (make c).configuration? = some c)
    (g : Grouping) : ((g.tabulated d metric ss).map make).Nodup := by
  refine List.Nodup.map ?_ ((g.nodup_configurations hd).filter _)
  intro c c' h
  have hc := hmake c
  rw [h, hmake c'] at hc
  exact (Option.some.inj hc).symm

theorem grouping?_of_mem {g : Grouping} (hmake : ∀ c, (make c).configuration? = some c)
    (h : r ∈ (g.tabulated d metric ss).map make) : r.grouping? = some g := by
  obtain ⟨c, hc, rfl⟩ := List.mem_map.1 h
  have hgrouping := (Configuration.mem_configurations_iff.1 (List.mem_filter.1 hc).1).1
  rw [Result.grouping?, hmake c, Option.map_some, hgrouping]

end Tables

theorem nodup_results (hd : s.design.Distinct) (h : (i.summaries.map Summary.experiment).Nodup)
    (kind : LogKind) : (results s i kind).Nodup := by
  cases kind with
  | client =>
    have hgrouping (g : Grouping) (r : Result)
        (hr : r ∈ (g.tabulated s.design .meanServiceTime i.clients).map .serviceTimes ++
          (g.tabulated s.design .errorFraction i.clients).map .clientErrors) :
        r.grouping? = some g := by
      rcases List.mem_append.1 hr with hr | hr
      · exact grouping?_of_mem (fun _ => rfl) hr
      · exact grouping?_of_mem (fun _ => rfl) hr
    refine List.nodup_append.2 ⟨?_, ?_, ?_⟩
    · rw [← Function.comp_def Result.distribution, ← List.map_map]
      refine List.Nodup.map (fun _ _ => Result.distribution.inj) ?_
      exact (nodup_clients h).sublist (List.filter_sublist.map _)
    · refine nodup_flatMap_of_label Result.grouping? Grouping.nodup_all (fun g => ?_) hgrouping
      refine List.nodup_append.2 ⟨nodup_map_tabulated hd (fun _ => rfl) g,
        nodup_map_tabulated hd (fun _ => rfl) g, ?_⟩
      rintro r hr r' hr' rfl
      obtain ⟨c, -, rfl⟩ := List.mem_map.1 hr
      obtain ⟨c', -, hsame⟩ := List.mem_map.1 hr'
      cases hsame
    · -- a distribution is of no grouping
      rintro r hr r' hr' rfl
      obtain ⟨c, -, rfl⟩ := List.mem_map.1 hr
      obtain ⟨g, -, hr'⟩ := List.mem_flatMap.1 hr'
      cases hgrouping g _ hr'
  | balancer =>
    refine nodup_flatMap_of_label Result.grouping? Grouping.nodup_all (fun g => ?_) fun g r hr => ?_
    · exact nodup_map_tabulated hd (fun _ => rfl) g
    · exact grouping?_of_mem (fun _ => rfl) hr
  | cluster =>
    refine List.nodup_append.2 ⟨?_, ?_, ?_⟩
    · rw [← Function.comp_def Result.requestCounts, ← List.map_map]
      exact (nodup_clusters h).map fun _ _ => Result.requestCounts.inj
    · exact ((IdleSetting.nodup_all hd).filter _).map fun _ _ => Result.idleTimes.inj
    · rintro r hr r' hr' rfl
      obtain ⟨c, -, rfl⟩ := List.mem_map.1 hr
      obtain ⟨x, -, hsame⟩ := List.mem_map.1 hr'
      cases hsame

end Distinct

theorem Task.written_nodup_iff (s : Settings) (output : String) (t t' : FileTree) (task : Task)
    (p : Plan) {source : String} {kind : LogKind}
    (hsource : task.logDirectory? = some (source, kind))
    (hrun : task.run s output t = (.ok p, t')) :
    ∃ i, Task.intake s t source kind = .ok i ∧
      (p.written.Nodup ↔ (results s i kind).Nodup) ∧
      ((∀ o ∈ p.outputs, t'.openAt o.path = .ok o.entry) ↔
        ∀ o ∈ p.outputs, ∀ o' ∈ p.outputs, o.path = o'.path → o.text = o'.text) ∧
      ((i.summaries.map Summary.experiment).Nodup →
        (∀ o ∈ p.outputs, t'.openAt o.path = .ok o.entry) ∧
          (s.design.Distinct → p.written.Nodup)) := by
  obtain ⟨hplan, hwrite⟩ := run_eq_ok_iff.1 hrun
  obtain ⟨i, hi, rfl⟩ := exists_intake_of_plan hsource hplan
  have hfiles : ∀ o ∈ (planLogs s output i kind).outputs,
      ∃ r ∈ results s i kind, Files s i output r o :=
    fun o ho => exists_left_of_forall₂ (forall₂_files s output i kind) ho
  have hkept := kept_iff hwrite fun o ho => (hfiles o ho).imp fun _ hr => hr.2
  refine ⟨i, hi, nodup_written_iff s output i kind, hkept, fun hexperiments => ⟨?_, ?_⟩⟩
  · refine hkept.2 fun o ho o' ho' hpath => ?_
    obtain ⟨r, hr, hfile⟩ := hfiles o ho
    obtain ⟨r', hr', hfile'⟩ := hfiles o' ho'
    rw [hfile.path_eq, hfile'.path_eq] at hpath
    obtain rfl := Result.path_inj (atInterval_of_mem_results hr) (atInterval_of_mem_results hr') hpath
    exact hfile.text.unique hexperiments hfile'.text
  · intro hdistinct
    exact (nodup_written_iff s output i kind).2 (nodup_results hdistinct hexperiments kind)

theorem Task.written_nodup_iff_nested : ∃ p t',
    Task.run oneRun "out" nestedTree (.cluster "out/node-request-counts") = (.ok p, t') ∧
      p.written.Nodup ∧ ∀ o ∈ p.outputs, t'.openAt o.path = .ok o.entry := by
  obtain ⟨p, t', hrun, -⟩ := exists_run_nested
  obtain ⟨i, hi, -, -, hsound⟩ := written_nodup_iff oneRun "out" nestedTree t'
    (.cluster "out/node-request-counts") p rfl hrun
  have hexperiments : i.summaries.map Summary.experiment = [⟨.roundRobin, 0, true, 20, .small, 10⟩] := by
    have hall : (Task.intake oneRun nestedTree "out/node-request-counts" .cluster).map
        (fun i => i.summaries.map Summary.experiment) =
          .ok [⟨.roundRobin, 0, true, 20, .small, 10⟩] := by decide +kernel
    rw [hi] at hall
    exact Except.ok.inj hall
  have hdistinct : oneRun.design.Distinct :=
    ⟨by decide, by decide, by decide, by decide⟩
  obtain ⟨hkept, hnodup⟩ := hsound (by simp [hexperiments])
  exact ⟨p, t', hrun, hnodup hdistinct, hkept⟩

section Twins

def twinLogs : List (String × Entry) :=
  [("cluster-exp-rr-lat-0-homog-true-int-20-fsz-s-rate-10.csv",
      .file (Text.encode "h\n1,300,file-transfer,lb,5,5,10\n")),
    ("cluster-exp-rr-lat-00-homog-true-int-20-fsz-s-rate-10.csv",
      .file (Text.encode "h\n2,400,file-transfer,lb,5,5,10\n"))]

def twinTree : FileTree where
  workingDirectory := []
  entries := (["logs"], .directory) :: twinLogs.map fun f => (["logs", f.1], f.2)

def largeFiles : Settings where
  design := ⟨[.roundRobin], [0], [true], [.large], [10], 20⟩

def twinSummaries : List Summary :=
  twinLogs.filterMap (logSummary? .cluster largeFiles.clusterSize)

def twinCounts (text : String) : Output :=
  ⟨.table, "out/node-request-counts",
    "node-req-count-cluster-exp-rr-lat-0-homog-true-int-20-fsz-s-rate-10.csv", text⟩

theorem logSummaries_twinLogs :
    logSummaries .cluster largeFiles.clusterSize twinLogs = twinSummaries := by
  have hlogs : logs .cluster twinLogs = twinLogs := by decide +kernel
  rw [logSummaries, hlogs, List.mergeSort_of_pairwise]
  · rfl
  · decide

theorem outputs_twinSummaries :
    (Task.planCluster largeFiles "out" ⟨.cluster, twinSummaries, [], [], 0, 0⟩).outputs =
      [twinCounts "node-id,count,overhead\n1,1,300\n",
        twinCounts "node-id,count,overhead\n2,1,400\n"] := by
  decide +kernel

theorem exists_plan_twins : ∃ p, Task.plan largeFiles "out" twinTree (.cluster "logs") = .ok p ∧
    p.outputs = [twinCounts "node-id,count,overhead\n1,1,300\n",
      twinCounts "node-id,count,overhead\n2,1,400\n"] := by
  have hlist : twinTree.list "logs" = .ok twinLogs := by decide +kernel
  have hopen : ∀ f ∈ logs .cluster twinLogs, Openable "logs" f := by
    unfold Openable
    decide +kernel
  obtain ⟨i, hi, hsummaries⟩ := exists_intake largeFiles hlist hopen
  rw [logSummaries_twinLogs] at hsummaries
  have hcongr := Task.planLogs_congr (i := ⟨.cluster, twinSummaries, [], [], 0, 0⟩) hsummaries
    largeFiles "out" .cluster
  refine ⟨Task.planLogs largeFiles "out" i .cluster, ?_, hcongr.1.trans outputs_twinSummaries⟩
  rw [Task.plan_of_logDirectory? rfl, hi]
  rfl

/-- The counts of the first log are nowhere after the run. -/
theorem Task.not_written_nodup : largeFiles.violation? = none ∧
    ∃ p t', Task.run largeFiles "out" twinTree (.cluster "logs") = (.ok p, t') ∧
      ¬ p.written.Nodup ∧ ¬ ∀ o ∈ p.outputs, t'.openAt o.path = .ok o.entry := by
  obtain ⟨p, hplan, houtputs⟩ := exists_plan_twins
  let counts := [twinCounts "node-id,count,overhead\n1,1,300\n",
    twinCounts "node-id,count,overhead\n2,1,400\n"]
  have hwrite : Output.writeAll twinTree p.outputs = ((Output.writeAll twinTree counts).1, none) := by
    rw [houtputs]
    exact Prod.ext rfl (by decide +kernel)
  refine ⟨by decide, p, _, run_eq_ok_iff.2 ⟨hplan, hwrite⟩, ?_, ?_⟩
  · rw [Plan.written, houtputs]
    decide +kernel
  · rw [houtputs]
    decide +kernel

end Twins

end RateSweep
