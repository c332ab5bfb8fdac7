import RateSweep.Proofs.Bins
import RateSweep.Proofs.Report

namespace RateSweep

variable {σ : Type} [Measured σ]

namespace Grouping

def rowKeys (d : Design) (g : Grouping) : List BinKey := (g.seeds d).eraseDups

def rowSummaries (g : Grouping) (c : Configuration) (key : BinKey) (ss : List σ) : List σ :=
  ss.filter fun s =>
    c.covers (Described.experiment s) && g.key? (Described.experiment s) = some key

def Complete (g : Grouping) (d : Design) (metric : Metric) (ss : List σ) (c : Configuration) :
    Prop :=
  g.rowKeys d ≠ [] ∧ ∀ key ∈ g.rowKeys d,
    ((g.rowSummaries c key ss).map requestRate).Perm d.sortedRates ∧
      ∀ s ∈ g.rowSummaries c key ss, (Measured.measure s metric).isSome

instance (g : Grouping) (d : Design) (metric : Metric) (ss : List σ) (c : Configuration) :
    Decidable (g.Complete d metric ss c) := inferInstanceAs (Decidable (_ ∧ _))

def Fills (metric : Metric) (rates : List UInt32) (row : List σ) (values : List Float) : Prop :=
  List.Forall₂ (fun rate value => ∃ s, row.filter (requestRate · = rate) = [s] ∧
    Measured.measure s metric = some value) rates values

structure Tabulates (g : Grouping) (d : Design) (metric : Metric) (ss : List σ)
    (c : Configuration) (t : RateTable) : Prop where
  title : t.title = s!"{metric.title} vs Request Rate: {c.describe}"
  name : t.name = c.name
  keyLabel : t.keyLabel = g.label
  rates : t.rates = d.sortedRates
  rows : List.Forall₂ (fun key (row : TableRow) => row.key = key.code ∧
    Fills metric d.sortedRates (g.rowSummaries c key ss) row.values) (g.rowKeys d) t.rows

theorem grouping_of_mem_configurations {g : Grouping} {d : Design} {c : Configuration}
    (h : c ∈ g.configurations d) : c.grouping = g := by
  simp only [configurations, List.mem_flatMap, List.mem_map] at h
  obtain ⟨homogeneous, _, fixed, _, latency, _, rfl⟩ := h
  rfl

end Grouping

namespace Configuration

def insertCovered (c : Configuration) (b : Bins σ) (s : σ) : Bins σ :=
  let e := Described.experiment s
  if c.covers e then
    match c.grouping.key? e with
    | some key => if (b.get? key).isSome then b.insert key s else b
    | none => b
  else b

theorem bins_eq (c : Configuration) (d : Design) (ss : List σ) :
    c.bins d ss = (ss.foldl c.insertCovered (Bins.seeded (c.grouping.seeds d))).sortByRate := rfl

theorem keys_insertCovered (c : Configuration) (b : Bins σ) (s : σ) :
    (c.insertCovered b s).keys = b.keys := by
  by_cases hc : c.covers (Described.experiment s) = true
  · cases hkey : c.grouping.key? (Described.experiment s) with
    | none => simp [insertCovered, hkey]
    | some key =>
      by_cases hb : key ∈ b.keys
      · simp [insertCovered, hc, hkey, Bins.get?_isSome_iff, hb, Bins.keys_insert]
      · simp [insertCovered, hkey, Bins.get?_isSome_iff, hb]
  · simp [insertCovered, hc]

theorem get?_insertCovered (c : Configuration) (b : Bins σ) (s : σ) (key : BinKey) :
    (c.insertCovered b s).get? key =
      (b.get? key).map (· ++ c.grouping.rowSummaries c key [s]) := by
  by_cases hc : c.covers (Described.experiment s) = true
  · cases hkey : c.grouping.key? (Described.experiment s) with
    | none => simp [insertCovered, Grouping.rowSummaries, hkey]
    | some k =>
      by_cases hk : key = k
      · subst hk
        cases hb : b.get? key with
        | none => simp [insertCovered, hkey, hb]
        | some bucket =>
          simp [insertCovered, Grouping.rowSummaries, hc, hkey, hb, Bins.get?_insert]
      · have hn : (some k : Option BinKey) ≠ some key := fun h => hk (Option.some.inj h).symm
        by_cases hb : (b.get? k).isSome
        · simp [insertCovered, Grouping.rowSummaries, hc, hkey, hb, hn, Bins.get?_insert, hk]
        · simp [insertCovered, Grouping.rowSummaries, hkey, hb, hn]
  · simp [insertCovered, Grouping.rowSummaries, hc]

theorem keys_foldl_insertCovered (c : Configuration) (b : Bins σ) (ss : List σ) :
    (ss.foldl c.insertCovered b).keys = b.keys := by
  induction ss generalizing b with
  | nil => rfl
  | cons s ss ih => rw [List.foldl_cons, ih, keys_insertCovered]

theorem get?_foldl_insertCovered (c : Configuration) (b : Bins σ) (ss : List σ) (key : BinKey) :
    (ss.foldl c.insertCovered b).get? key =
      (b.get? key).map (· ++ c.grouping.rowSummaries c key ss) := by
  induction ss generalizing b with
  | nil => simp [Grouping.rowSummaries]
  | cons s ss ih =>
    have hs : c.grouping.rowSummaries c key (s :: ss) =
        c.grouping.rowSummaries c key [s] ++ c.grouping.rowSummaries c key ss := by
      rw [Grouping.rowSummaries, Grouping.rowSummaries, Grouping.rowSummaries,
        ← List.filter_append, List.singleton_append]
    rw [List.foldl_cons, ih, get?_insertCovered, Option.map_map, hs]
    simp [Function.comp_def]

theorem buckets_bins (c : Configuration) (d : Design) (ss : List σ) :
    (c.bins d ss).buckets = (c.grouping.rowKeys d).map fun key =>
      (key, (c.grouping.rowSummaries c key ss).mergeSort Bins.rateLe) := by
  have hkeys : (c.bins d ss).keys = c.grouping.rowKeys d := by
    rw [bins_eq, Bins.keys_sortByRate, keys_foldl_insertCovered, Bins.keys_seeded]
    rfl
  have hnodup : (c.bins d ss).keys.Nodup := by
    rw [bins_eq, Bins.keys_sortByRate, keys_foldl_insertCovered]
    exact Bins.nodup_keys_seeded _
  rw [Bins.buckets_eq _ hnodup, hkeys]
  apply List.map_congr_left
  intro key hkey
  have hseed : key ∈ c.grouping.seeds d := List.mem_eraseDups.1 hkey
  rw [bins_eq, Bins.get?_sortByRate, get?_foldl_insertCovered, Bins.get?_seeded, if_pos hseed]
  simp

theorem isReportable_bins_iff (c : Configuration) (d : Design) (ss : List σ) :
    (c.bins d ss).isReportable d.sortedRates = true ↔ c.grouping.rowKeys d ≠ [] ∧
      ∀ key ∈ c.grouping.rowKeys d,
        ((c.grouping.rowSummaries c key ss).map requestRate).Perm d.sortedRates := by
  rw [Bins.isReportable_iff, Bins.keys, buckets_bins]
  simp only [List.map_map, List.forall_mem_map, ne_eq, List.map_eq_nil_iff,
    Bins.map_requestRate_mergeSort_eq_iff, d.pairwise_sortedRates, true_and]

theorem isSome_row?_iff (metric : Metric) (key : BinKey) (bucket : List σ) :
    (row? metric key (bucket.mergeSort Bins.rateLe)).isSome ↔
      ∀ s ∈ bucket, (Measured.measure s metric).isSome := by
  simp [row?, isSome_mapM_iff]

theorem isSome_table?_iff (c : Configuration) (d : Design) (metric : Metric) (ss : List σ) :
    (c.table? d metric ss).isSome ↔ c.grouping.Complete d metric ss c := by
  have hreport := isReportable_bins_iff c d ss
  by_cases hb : (c.bins d ss).isReportable d.sortedRates = true
  · obtain ⟨hkeys, hperm⟩ := hreport.1 hb
    have hrows : (c.table? d metric ss).isSome ↔ ∀ key ∈ c.grouping.rowKeys d,
        ∀ s ∈ c.grouping.rowSummaries c key ss, (Measured.measure s metric).isSome := by
      simp only [table?, hb, if_true, Option.isSome_map, isSome_mapM_iff, buckets_bins,
        List.forall_mem_map, isSome_row?_iff]
    rw [hrows]
    constructor
    · intro hm
      exact ⟨hkeys, fun key hkey => ⟨hperm key hkey, hm key hkey⟩⟩
    · rintro ⟨_, hall⟩ key hkey
      exact (hall key hkey).2
  · constructor
    · intro h
      simp [table?, hb] at h
    · rintro ⟨hkeys, hall⟩
      exact absurd (hreport.2 ⟨hkeys, fun key hkey => (hall key hkey).1⟩) hb

/-- The cells stand by place, but the gate makes the place in a sorted bin that of the rate. -/
theorem cells_of_mapM {value : σ → Option Float} {rates : List UInt32} {row : List σ}
    {values : List Float} (hr : rates.Nodup)
    (hb : (row.mergeSort Bins.rateLe).map requestRate = rates)
    (hv : (row.mergeSort Bins.rateLe).mapM value = some values) :
    List.Forall₂ (fun rate v => ∃ s, row.filter (requestRate · = rate) = [s] ∧ value s = some v)
      rates values := by
  have hsort := List.mergeSort_perm row Bins.rateLe
  have hp : (row.map requestRate).Perm rates := hb ▸ (hsort.map requestRate).symm
  have hone := ((Bins.perm_rates_iff row rates hr).1 hp).1
  have honly : ∀ s ∈ row.mergeSort Bins.rateLe,
      row.filter (requestRate · = requestRate s) = [s] := by
    intro s hs
    have hrate : requestRate s ∈ rates := hb ▸ List.mem_map_of_mem hs
    obtain ⟨t, ht⟩ := List.length_eq_one_iff.1 (Bins.count_map_requestRate row _ ▸ hone _ hrate)
    have hst : s ∈ row.filter (requestRate · = requestRate s) := by simpa using hs
    rw [ht, List.mem_singleton] at hst
    rw [ht, hst]
  have hcells := (List.forall₂_and_left _ _).2 ⟨honly, forall₂_of_mapM hv⟩
  rw [← hb, List.forall₂_map_left_iff]
  exact hcells.imp fun s value h => ⟨s, h⟩

theorem tabulates_of_table? {c : Configuration} {d : Design} {metric : Metric} {ss : List σ}
    {t : RateTable} (hd : d.rates.Nodup) (h : c.table? d metric ss = some t) :
    c.grouping.Tabulates d metric ss c t := by
  have hnodup : d.sortedRates.Nodup := d.perm_sortedRates.nodup_iff.2 hd
  by_cases hb : (c.bins d ss).isReportable d.sortedRates = true
  · simp only [table?, hb, if_true, Option.map_eq_some_iff] at h
    obtain ⟨rows, hrows, rfl⟩ := h
    refine ⟨rfl, rfl, rfl, rfl, ?_⟩
    have hrates := ((Bins.isReportable_iff _ _).1 hb).2
    rw [buckets_bins] at hrows hrates
    have hcells := forall₂_of_mapM hrows
    rw [List.forall₂_map_left_iff] at hcells
    rw [List.forall_mem_map] at hrates
    refine ((List.forall₂_and_left _ _).2 ⟨hrates, hcells⟩).imp ?_
    rintro key row ⟨hrate, hrow⟩
    obtain ⟨values, hvalues, rfl⟩ := Option.map_eq_some_iff.1 hrow
    exact ⟨rfl, cells_of_mapM hnodup hrate hvalues⟩
  · simp [table?, hb] at h

end Configuration

theorem compare_tabulates (g : Grouping) (d : Design) (metric : Metric) (ss : List σ)
    (hd : d.rates.Nodup) :
    (∀ c ∈ g.configurations d, (c.table? d metric ss).isSome ↔ g.Complete d metric ss c) ∧
      List.Forall₂ (g.Tabulates d metric ss)
        ((g.configurations d).filter fun c => g.Complete d metric ss c)
        (compare g d metric ss).tables ∧
      (compare g d metric ss).dropped =
        ((g.configurations d).filter fun c => ¬ g.Complete d metric ss c).length ∧
      (compare g d metric ss).tables.length + (compare g d metric ss).dropped =
        (g.configurations d).length := by
  have hsome : ∀ c ∈ g.configurations d,
      (c.table? d metric ss).isSome ↔ g.Complete d metric ss c := by
    intro c hc
    have h := Configuration.isSome_table?_iff c d metric ss
    rwa [Grouping.grouping_of_mem_configurations hc] at h
  refine ⟨hsome, ?_, ?_, Report.length_tables_add_dropped _ _⟩
  · rw [compare, Report.tables_ofResults_map]
    have htables := forall₂_filter_filterMap (R := g.Tabulates d metric ss)
      (fun c => c.table? d metric ss) (g.configurations d) (by
        intro c hc t ht
        have h := Configuration.tabulates_of_table? hd ht
        rwa [Grouping.grouping_of_mem_configurations hc] at h)
    have hfilter := List.filter_congr fun c hc => Bool.eq_iff_iff.2 (by
      simpa using hsome c hc : (c.table? d metric ss).isSome = true ↔
        decide (g.Complete d metric ss c) = true)
    rwa [hfilter] at htables
  · rw [compare, Report.dropped_ofResults_map, List.countP_eq_length_filter]
    congr 1
    apply List.filter_congr
    intro c hc
    simp only [hsome c hc]

def twoRates : Design where
  algorithms := [.roundRobin, .leastConnections, .roundRobin]
  latenciesMs := [0]
  homogeneity := [true]
  fileSizes := [.small, .large]
  rates := [100, 10]

def idleRun (a : Algorithm) (f : FileSize) (rate : UInt32) (idle : Nanos) : ClusterSummary :=
  ⟨⟨a, 0, true, 20, f, rate⟩, [⟨0, some idle, 1, none⟩]⟩

def sweep : List ClusterSummary :=
  [idleRun .leastConnections .small 100 4, idleRun .roundRobin .large 10 5,
    idleRun .roundRobin .small 100 6, idleRun .leastResponseTime .small 10 7,
    idleRun .leastConnections .small 10 8, idleRun .roundRobin .small 10 9]

theorem compare_tabulates_sweep :
    twoRates.rates.Nodup ∧
      List.Forall₂ (Grouping.byAlgorithm.Tabulates twoRates .idleTime sweep)
        [⟨.byAlgorithm, true, 0, 20, .fileSize .small⟩]
        (compare .byAlgorithm twoRates .idleTime sweep).tables ∧
      (compare .byAlgorithm twoRates .idleTime sweep).dropped = 1 := by
  have hd : twoRates.rates.Nodup := by decide
  have hrates : twoRates.sortedRates = [10, 100] := by cbv
  have hsmall : Grouping.byAlgorithm.Complete twoRates .idleTime sweep
      ⟨.byAlgorithm, true, 0, 20, .fileSize .small⟩ := by
    rw [Grouping.Complete, hrates]
    decide
  have hlarge : ¬ Grouping.byAlgorithm.Complete twoRates .idleTime sweep
      ⟨.byAlgorithm, true, 0, 20, .fileSize .large⟩ := by
    rw [Grouping.Complete, hrates]
    decide
  have hall : Grouping.byAlgorithm.configurations twoRates =
    [⟨.byAlgorithm, true, 0, 20, .fileSize .small⟩,
      ⟨.byAlgorithm, true, 0, 20, .fileSize .large⟩] := rfl
  obtain ⟨_, htables, hdropped, _⟩ := compare_tabulates .byAlgorithm twoRates .idleTime sweep hd
  rw [hall] at htables hdropped
  refine ⟨hd, ?_, ?_⟩
  · simpa [hsmall, hlarge] using htables
  · simpa [hsmall, hlarge] using hdropped

end RateSweep
