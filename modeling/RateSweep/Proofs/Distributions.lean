import RateSweep.Proofs.ClientMetrics
import RateSweep.Proofs.ClientTallies
import RateSweep.Proofs.FoldedRows
import RateSweep.Proofs.Histograms
import RateSweep.Proofs.SettingsChecks
import RateSweep.Proofs.WrittenRecords

namespace RateSweep

section Logs

variable {f : String × Entry} {c : ClientSummary} {n : Nat}

def HoldsClients (f : String × Entry) (rs : List ClientRecord) : Prop :=
  ∃ body, f.2 = .file body ∧ Log.Reads ClientRecord.ofRow? (Log.rows .passedOver body) rs

def SomeSucceeded (f : String × Entry) : Prop :=
  ∃ rs, HoldsClients f rs ∧ ClientTally.succeeded rs ≠ []

structure IsSummaryOf (f : String × Entry) (c : ClientSummary) : Prop where
  named : readLogName f.1 = .ok (.client, c.experiment)
  describes : ∃ rs, HoldsClients f rs ∧ c.Describes c.experiment rs ∧
    ClientTally.succeeded rs ≠ []

def clientSummary? (clusterSize : Nat) (f : String × Entry) : Option ClientSummary :=
  (logSummary? .client clusterSize f).bind Summary.client?

theorem isFinite_of_holdsClients {rs : List ClientRecord} (h : HoldsClients f rs) :
    ∀ r ∈ rs, r.duration.isFinite = true := by
  obtain ⟨body, -, hreads⟩ := h
  intro r hr
  obtain ⟨row, -, hrow⟩ := hreads.exists_row hr
  exact ClientRecord.isFinite_duration hrow

theorem IsSummaryOf.isFinite (h : IsSummaryOf f c) : ∀ v ∈ c.serviceTimes, v.isFinite = true := by
  obtain ⟨rs, hholds, hdescribes, -⟩ := h.describes
  rw [hdescribes.serviceTimes]
  intro v hv
  obtain ⟨r, hr, rfl⟩ := List.mem_map.1 hv
  exact ClientTally.isFinite_serviceTime
    (isFinite_of_holdsClients hholds r (List.mem_filter.1 hr).1)

theorem IsSummaryOf.length (h : IsSummaryOf f c) :
    c.errors + c.serviceTimes.length = c.records ∧ 1 ≤ c.serviceTimes.length := by
  obtain ⟨rs, -, hdescribes, hne⟩ := h.describes
  rw [hdescribes.records, hdescribes.errors, hdescribes.serviceTimes, List.length_map]
  exact ⟨ClientTally.countP_add_length_succeeded rs, List.length_pos_iff.2 hne⟩

theorem holdsClients_iff {body : List UInt8} (hbody : f.2 = .file body) {rs : List ClientRecord} :
    HoldsClients f rs ↔ (Log.decode ClientRecord.ofRow? body).failure = none ∧
      (Log.decode ClientRecord.ofRow? body).records = rs := by
  rw [Log.decode, ← Log.reads_iff]
  constructor
  · rintro ⟨body', hbody', hreads⟩
    rw [hbody] at hbody'
    obtain rfl := Entry.file.inj hbody'
    exact hreads
  · exact fun hreads => ⟨body, hbody, hreads⟩

theorem summary?_ofClient (e : Experiment) {d : Decoded ClientRecord} (h : d.failure = none) :
    (ClientTally.succeeded d.records = [] ∧
        Outcome.summary? (FileFold.ofClient e d).result = none) ∨
      (ClientTally.succeeded d.records ≠ [] ∧ ∃ c : ClientSummary,
        Outcome.summary? (FileFold.ofClient e d).result = some (.client c) ∧
          c.Describes e d.records) := by
  unfold FileFold.ofClient
  rw [h]
  dsimp only
  rcases ClientTally.summary_cases d.records e with ⟨hnil, hs⟩ | ⟨hne, c, hs, hc⟩
  · rw [hs]
    exact .inl ⟨hnil, rfl⟩
  · rw [hs]
    exact .inr ⟨hne, c, rfl, hc⟩

theorem clientSummary?_cases (hlog : LogKind.client.admits f.1 = true) (n : Nat) :
    (¬ SomeSucceeded f ∧ clientSummary? n f = none) ∨
      (SomeSucceeded f ∧ ∃ c, clientSummary? n f = some c ∧ IsSummaryOf f c) := by
  obtain ⟨e, hname⟩ := LogKind.admits_iff.1 hlog
  rw [clientSummary?, logSummary?_of_ok ((admission_eq_ok_iff _ _ _).2 hname)]
  cases hentry : f.2 with
  | directory => exact .inl ⟨fun ⟨_, ⟨body, hbody, _⟩, _⟩ => by simp [hentry] at hbody, rfl⟩
  | locked => exact .inl ⟨fun ⟨_, ⟨body, hbody, _⟩, _⟩ => by simp [hentry] at hbody, rfl⟩
  | file body =>
    cases hfailure : (Log.decode ClientRecord.ofRow? body).failure with
    | some err =>
      refine .inl ⟨?_, ?_⟩
      · rintro ⟨rs, hrs, -⟩
        rw [holdsClients_iff hentry, hfailure] at hrs
        cases hrs.1
      · simp [FileFold.ofBody, FileFold.ofClient, hfailure, FileFold.failed, Outcome.summary?]
    | none =>
      have hholds := (holdsClients_iff hentry).2 ⟨hfailure, rfl⟩
      rcases summary?_ofClient e hfailure with ⟨hnil, hs⟩ | ⟨hne, c, hs, hc⟩
      · refine .inl ⟨?_, by simp [FileFold.ofBody, hs]⟩
        rintro ⟨rs, hrs, hne⟩
        obtain rfl := ((holdsClients_iff hentry).1 hrs).2
        exact hne hnil
      · refine .inr ⟨⟨_, hholds, hne⟩, c, by simp [FileFold.ofBody, hs, Summary.client?], ?_⟩
        obtain rfl := hc.experiment
        exact ⟨hname, _, hholds, hc, hne⟩

end Logs

theorem Histogram.fields_records_csv (h : Histogram) :
    (Csv.records (Text.encode h.csv)).map Csv.Record.fields =
      (["bucket_start_s", "bucket_end_s", "count"] :: h.buckets.map rowText).map
        (·.map Text.encode) := by
  refine Csv.fields_records_write (by simp) (fun r hr => ?_) (by decide)
  obtain ⟨b, -, rfl⟩ := List.mem_map.1 hr
  simp [rowText]

structure Distributes (bins : Nat) (c : ClientSummary) (o : Output) : Prop where
  name : o.name = s!"hist-{c.experiment.logStem .client}{extension}"
  histogram : ∃ h, Histogram.ofValues? c.serviceTimes bins = some h ∧ o.text = h.csv
  table : ∃ header rows, (Csv.records (Text.encode o.text)).map Csv.Record.fields = header :: rows ∧
    rows.length = bins ∧ ∃ counts : List Nat,
      (rows.map fun fields => fields[2]?) = counts.map (fun n => some (Text.encode (toString n))) ∧
        counts.sum = c.records - c.errors
  succeeded : c.records - c.errors = c.serviceTimes.length ∧ 1 ≤ c.serviceTimes.length

namespace Task

variable {s : Settings} {output : String} {f : String × Entry} {c : ClientSummary}

theorem exists_distribution {bins : Nat} (hbins : bins ≠ 0) (hc : IsSummaryOf f c)
    (directory : String) :
    ∃ o, distribution? bins directory c = some o ∧ Distributes bins c o := by
  obtain ⟨hlength, hpos⟩ := hc.length
  have hsucceeded : c.records - c.errors = c.serviceTimes.length := by omega
  cases hh : Histogram.ofValues? c.serviceTimes bins with
  | none =>
    rcases Histogram.ofValues?_eq_none_iff.1 hh with hnil | hzero | ⟨v, hv, hinfinite⟩
    · simp [hnil] at hpos
    · exact absurd hzero hbins
    · rw [hc.isFinite v hv] at hinfinite
      cases hinfinite
  | some h =>
    obtain ⟨hbuckets, htotal⟩ := Histogram.total_of_ofValues? hh
    refine ⟨_, by rw [distribution?, hh]; rfl, rfl, ⟨h, hh, rfl⟩, ?_, hsucceeded, hpos⟩
    refine ⟨_, _, h.fields_records_csv, by simpa using hbuckets, h.buckets.map Bucket.count, ?_, ?_⟩
    · simp [Histogram.rowText]
    · rw [hsucceeded, ← htotal]
      rfl

def distributions (output : String) (os : List Output) : List Output :=
  os.filter fun o => o.directory = Path.join output "client-distributions"

theorem distributions_planLogs (s : Settings) (output : String) (i : Intake) :
    distributions output (planLogs s output i .client).outputs = i.clients.filterMap
      (distribution? s.histogramBins (Path.join output "client-distributions")) := by
  have hdistribution : ∀ o ∈ i.clients.filterMap
      (distribution? s.histogramBins (Path.join output "client-distributions")),
      decide (o.directory = Path.join output "client-distributions") = true := by
    intro o ho
    exact decide_eq_true (directory_of_mem_distributions ho)
  have htable : ∀ o ∈ Grouping.all.flatMap fun g => (clientTables s.design output i.clients g).1,
      ¬ decide (o.directory = Path.join output "client-distributions") = true := by
    intro o ho
    obtain ⟨g, -, hg⟩ := List.mem_flatMap.1 ho
    rw [decide_eq_true_iff]
    rcases List.mem_append.1 hg with ho | ho
    · exact directory_ne_of_mem_tables (by decide) ho
    · exact directory_ne_of_mem_tables (by decide) ho
  rw [distributions, outputs_planLogs_client, List.filter_append, List.filter_eq_self.2 hdistribution,
    List.filter_eq_nil_iff.2 htable, List.append_nil]

theorem forall₂_distributes {bins : Nat} (hbins : bins ≠ 0) {fs : List (String × Entry)}
    {cs : List ClientSummary} (h : List.Forall₂ IsSummaryOf fs cs) (directory : String) :
    List.Forall₂ (Distributes bins) cs (cs.filterMap (distribution? bins directory)) := by
  induction h with
  | nil => exact .nil
  | cons hc _ ih =>
    obtain ⟨o, ho, hdistributes⟩ := exists_distribution hbins hc directory
    rw [List.filterMap_cons_some ho]
    exact .cons hdistributes ih

open scoped Classical in
theorem forall₂_isSummaryOf {source : String} {t : FileTree} {i : Intake}
    (hi : intake s t source .client = .ok i) :
    ∃ entries, t.list source = .ok entries ∧ List.Forall₂ IsSummaryOf
      (((logs .client entries).mergeSort fun a b => decide (a.1 ≤ b.1)).filter (SomeSucceeded ·))
      i.clients := by
  obtain ⟨entries, hlist, -, hsummaries⟩ := exists_of_intake hi
  refine ⟨entries, hlist, ?_⟩
  have hclients : i.clients = ((logs .client entries).mergeSort
      fun a b => decide (a.1 ≤ b.1)).filterMap (clientSummary? s.clusterSize) := by
    rw [Intake.clients, hsummaries, logSummaries, List.filterMap_filterMap]
    rfl
  have hcases : ∀ f ∈ (logs .client entries).mergeSort fun a b => decide (a.1 ≤ b.1),
      (¬ SomeSucceeded f ∧ clientSummary? s.clusterSize f = none) ∨
        (SomeSucceeded f ∧ ∃ c, clientSummary? s.clusterSize f = some c ∧ IsSummaryOf f c) := by
    intro f hf
    exact clientSummary?_cases (mem_logs.1 (List.mem_mergeSort.1 hf)).2 s.clusterSize
  have hsome : ∀ f ∈ (logs .client entries).mergeSort fun a b => decide (a.1 ≤ b.1),
      decide (SomeSucceeded f) = (clientSummary? s.clusterSize f).isSome := by
    intro f hf
    rcases hcases f hf with ⟨hno, hc⟩ | ⟨hyes, c, hc, -⟩
    · simp [hno, hc]
    · simp [hyes, hc]
  rw [List.filter_congr hsome, hclients]
  refine forall₂_filter_filterMap _ _ fun f hf c hc => ?_
  rcases hcases f hf with ⟨-, hnone⟩ | ⟨-, c', hc', hsummary⟩
  · rw [hnone] at hc
    cases hc
  · rw [hc'] at hc
    obtain rfl := Option.some.inj hc
    exact hsummary

theorem histogramBins_ne_zero (h : s.violation? = none) : s.histogramBins ≠ 0 :=
  Nat.ne_of_gt (Settings.violation?_eq_none_iff.1 h).histogramBins

theorem openAt_distribution {i : Intake} {t t' : FileTree} {o : Output}
    (hwrite : Output.writeAll t (planLogs s output i .client).outputs = (t', none))
    (ho : o ∈ distributions output (planLogs s output i .client).outputs) :
    ∃ o' ∈ distributions output (planLogs s output i .client).outputs,
      o'.path = o.path ∧ t'.openAt o.path = .ok o'.entry := by
  obtain ⟨ps, hps, hwrites⟩ := writeAll_eq_iff.1 hwrite
  have hfiles : ∀ q ∈ ps, ∃ r, Files s i output r q.1 := by
    intro q hq
    have hmem : q.1 ∈ (planLogs s output i .client).outputs := hps ▸ List.mem_map_of_mem hq
    obtain ⟨r, -, hr⟩ := exists_left_of_forall₂ (forall₂_files s output i .client) hmem
    exact ⟨r, hr⟩
  obtain ⟨hplanned, hdirectory⟩ := List.mem_filter.1 ho
  rw [← hps] at hplanned
  obtain ⟨q, hq, rfl⟩ := List.mem_map.1 hplanned
  obtain ⟨q', hq', hpath, hopen⟩ := exists_openAt hwrites hfiles hq
  obtain ⟨r, hr⟩ := hfiles q' hq'
  have hfolder : r.folder = "client-distributions" := by
    rw [Output.path, of_decide_eq_true hdirectory, hr.path_eq] at hpath
    exact (Path.join_join_inj (by decide) r.folder_ne_empty (by decide) r.slash_notMem_folder
      hpath).1.symm
  refine ⟨q'.1, List.mem_filter.2 ⟨hps ▸ List.mem_map_of_mem hq', ?_⟩, hpath.symm, hopen⟩
  rw [decide_eq_true_iff, hr.directory, hfolder]

open scoped Classical in
theorem summaries_distributed (s : Settings) (output source : String) (t t' : FileTree) (p : Plan)
    (hvalid : s.violation? = none)
    (hrun : Task.run s output t (.clients source) = (.ok p, t')) :
    ∃ entries i, t.list source = .ok entries ∧ intake s t source .client = .ok i ∧
      List.Forall₂ IsSummaryOf
        (((logs .client entries).mergeSort fun a b => decide (a.1 ≤ b.1)).filter (SomeSucceeded ·))
        i.clients ∧
      List.Forall₂ (Distributes s.histogramBins) i.clients (distributions output p.outputs) ∧
      ∀ o ∈ distributions output p.outputs, ∃ o' ∈ distributions output p.outputs,
        o'.path = o.path ∧ t'.openAt o.path = .ok o'.entry := by
  obtain ⟨hplan, hwrite⟩ := run_eq_ok_iff.1 hrun
  have hsource : (clients source).logDirectory? = some (source, .client) := rfl
  obtain ⟨i, hi, rfl⟩ := exists_intake_of_plan hsource hplan
  obtain ⟨entries, hlist, hsummaries⟩ := forall₂_isSummaryOf hi
  refine ⟨entries, i, hlist, hi, hsummaries, ?_, fun o ho => openAt_distribution hwrite ho⟩
  rw [distributions_planLogs]
  exact forall₂_distributes (histogramBins_ne_zero hvalid) hsummaries _

theorem summaries_distributed_halfFailed : twoSizes.violation? = none ∧
    ∃ p t', Task.run twoSizes "out" clientTree (.clients "logs") = (.ok p, t') ∧
      ∃ c o, distributions "out" p.outputs = [o] ∧ Distributes twoSizes.histogramBins c o ∧
        o.name = "hist-client-exp-rr-lat-0-homog-true-int-20-fsz-s-rate-10.csv" := by
  let first := Task.run twoSizes "out" clientTree (.clients "logs")
  have hfirst : first.1.map (fun p => (distributions "out" p.outputs).map Output.name) =
      .ok ["hist-client-exp-rr-lat-0-homog-true-int-20-fsz-s-rate-10.csv"] := by
    decide +kernel
  obtain ⟨p, hp, hnames⟩ := exists_of_map_eq_ok hfirst
  have hrun : first = (.ok p, first.2) := Prod.ext hp rfl
  obtain ⟨entries, i, -, -, -, hdistributed, -⟩ :=
    summaries_distributed twoSizes "out" "logs" clientTree first.2 p (by decide) hrun
  obtain ⟨o, ho, hname⟩ := List.map_eq_singleton_iff.1 hnames
  obtain ⟨c, -, hc⟩ := exists_left_of_forall₂ hdistributed (ho ▸ List.mem_singleton_self o)
  exact ⟨by decide, p, first.2, hrun, c, o, ho, hc, hname⟩

end Task

end RateSweep
