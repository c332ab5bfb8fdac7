import RateSweep.Proofs.Comparison
import RateSweep.Proofs.OutputNames
import RateSweep.Proofs.SettingsChecks

/-!
Two gates for the runs of a cluster. Algorithms are compared by their mean idle time exactly when each
of them has its table of idle times per node and no run of those tables is without an idle time.
-/

namespace RateSweep

def Report.Shows (r : Report) (name : String) : Prop := ∃ t ∈ r.tables, t.name = name

variable {d : Design}

theorem compare_shows_iff {σ : Type} [Measured σ] (metric : Metric) (ss : List σ)
    {c : Configuration} (hinterval : c.intervalS = d.intervalS) :
    (compare c.grouping d metric ss).Shows c.name ↔
      c ∈ c.grouping.configurations d ∧ c.grouping.Complete d metric ss c := by
  rw [← Configuration.isSome_table?_iff]
  unfold Report.Shows compare
  simp only [Report.tables_ofResults_map, List.mem_filterMap]
  constructor
  · rintro ⟨t, ⟨c', hc', ht⟩, hname⟩
    have hinterval' : c'.intervalS = d.intervalS :=
      (Configuration.mem_configurations_iff.1 hc').2.2.2.1
    rw [Configuration.name_of_table? ht] at hname
    obtain rfl := Configuration.name_inj (hinterval'.trans hinterval.symm) hname
    exact ⟨hc', Option.isSome_of_eq_some ht⟩
  · rintro ⟨hc, ht⟩
    obtain ⟨t, ht⟩ := Option.isSome_iff_exists.1 ht
    exact ⟨t, ⟨c, hc, ht⟩, Configuration.name_of_table? ht⟩

theorem idleTables_shows_iff {ss : List ClusterSummary} {s : IdleSetting}
    (hinterval : s.intervalS = d.intervalS) :
    (idleTables d ss).Shows s.name ↔ s ∈ IdleSetting.all d ∧ (s.table? d ss).isSome := by
  unfold Report.Shows idleTables
  simp only [Report.tables_ofResults_map, List.mem_filterMap]
  constructor
  · rintro ⟨t, ⟨s', hs', ht⟩, hname⟩
    have hinterval' : s'.intervalS = d.intervalS := (IdleSetting.mem_all_iff.1 hs').2.2.2.1
    rw [IdleSetting.name_of_table? ht] at hname
    obtain rfl := IdleSetting.name_inj (hinterval'.trans hinterval.symm) hname
    exact ⟨hs', Option.isSome_of_eq_some ht⟩
  · rintro ⟨hs, ht⟩
    obtain ⟨t, ht⟩ := Option.isSome_iff_exists.1 ht
    exact ⟨t, ⟨s, hs, ht⟩, IdleSetting.name_of_table? ht⟩

namespace IdleSetting

def covered (s : IdleSetting) (ss : List ClusterSummary) : List ClusterSummary :=
  ss.filter fun r => ofExperiment r.experiment = s

theorem perm_runs (s : IdleSetting) (ss : List ClusterSummary) : (s.runs ss).Perm (s.covered ss) :=
  List.mergeSort_perm _ _

theorem isSome_table?_iff (s : IdleSetting) (d : Design) (ss : List ClusterSummary) :
    (s.table? d ss).isSome ↔ ((s.covered ss).map requestRate).Perm d.sortedRates := by
  have hgate : (s.table? d ss).isSome ↔ (s.runs ss).map requestRate = d.sortedRates := by
    unfold table?
    simp only
    split <;> simp_all
  rw [hgate, runs, Bins.map_requestRate_mergeSort_eq_iff, and_iff_right d.pairwise_sortedRates]
  rfl

end IdleSetting

theorem rowSummaries_eq_covered (s : IdleSetting) (ss : List ClusterSummary) :
    Grouping.byAlgorithm.rowSummaries
        ⟨.byAlgorithm, s.homogeneous, s.latencyMs, s.intervalS, .fileSize s.fileSize⟩
        (.algorithm s.algorithm) ss = s.covered ss := by
  apply List.filter_congr
  intro r _
  obtain ⟨algorithm, latency, homogeneous, interval, fileSize⟩ := s
  simp only [Configuration.covers, BinKey.covers, Grouping.key?, IdleSetting.ofExperiment,
    Described.experiment, IdleSetting.mk.injEq, Option.some.injEq, BinKey.algorithm.injEq]
  grind

theorem isSome_measure_idleTime_iff (r : ClusterSummary) :
    (Measured.measure r .idleTime).isSome ↔ ∃ n ∈ r.nodes, n.idleTime.isSome := by
  have hmean : Measured.measure r .idleTime = r.meanIdleTime := rfl
  rw [hmean, ClusterSummary.meanIdleTime]
  simp only [List.isEmpty_map]
  split
  · next h =>
    rw [List.isEmpty_iff, List.filterMap_eq_nil_iff] at h
    simp only [Option.isSome_none, Bool.false_eq_true, false_iff]
    rintro ⟨n, hn, hsome⟩
    rw [h n hn] at hsome
    cases hsome
  · next h =>
    rw [List.isEmpty_iff, List.filterMap_eq_nil_iff] at h
    push Not at h
    simpa [Option.isSome_iff_ne_none] using h

theorem algorithms_ne_nil (hd : d.violation? = none) : d.algorithms ≠ [] := by
  have husable : Settings.Usable { design := d } := Settings.violation?_eq_none_iff.1 hd
  exact husable.algorithms

def RowComplete (d : Design) (c : Configuration) (ss : List ClusterSummary)
    (algorithm : Algorithm) : Prop :=
  ((c.grouping.rowSummaries c (.algorithm algorithm) ss).map requestRate).Perm d.sortedRates ∧
    ∀ r ∈ c.grouping.rowSummaries c (.algorithm algorithm) ss,
      (Measured.measure r .idleTime).isSome

theorem complete_iff {c : Configuration} {ss : List ClusterSummary}
    (hc : c.grouping = .byAlgorithm) (hd : d.violation? = none) :
    c.grouping.Complete d .idleTime ss c ↔
      ∀ algorithm ∈ d.algorithms, RowComplete d c ss algorithm := by
  have hkeys : ∀ key, key ∈ c.grouping.rowKeys d ↔
      ∃ algorithm ∈ d.algorithms, .algorithm algorithm = key := by
    intro key
    rw [hc, Grouping.rowKeys, List.mem_eraseDups, Grouping.seeds, List.mem_map]
  have hrows : c.grouping.rowKeys d ≠ [] := by
    obtain ⟨algorithm, halgorithm⟩ := List.exists_mem_of_ne_nil _ (algorithms_ne_nil hd)
    exact List.ne_nil_of_mem ((hkeys _).2 ⟨algorithm, halgorithm, rfl⟩)
  unfold Grouping.Complete
  constructor
  · rintro ⟨-, hall⟩ algorithm halgorithm
    exact hall _ ((hkeys _).2 ⟨algorithm, halgorithm, rfl⟩)
  · intro hall
    refine ⟨hrows, fun key hkey => ?_⟩
    obtain ⟨algorithm, halgorithm, rfl⟩ := (hkeys key).1 hkey
    exact hall algorithm halgorithm

theorem rowComplete_iff (s : IdleSetting) (ss : List ClusterSummary) :
    RowComplete d ⟨.byAlgorithm, s.homogeneous, s.latencyMs, s.intervalS, .fileSize s.fileSize⟩ ss
        s.algorithm ↔
      (s.table? d ss).isSome ∧ ∀ r ∈ s.runs ss, ∃ n ∈ r.nodes, n.idleTime.isSome := by
  rw [IdleSetting.isSome_table?_iff, RowComplete, rowSummaries_eq_covered]
  simp only [isSome_measure_idleTime_iff, (s.perm_runs ss).mem_iff]

theorem gates_agree (ss : List ClusterSummary) (homogeneous : Bool) (latency : UInt32)
    (fileSize : FileSize) (hd : d.violation? = none) :
    (compare .byAlgorithm d .idleTime ss).Shows
        (Configuration.name ⟨.byAlgorithm, homogeneous, latency, d.intervalS, .fileSize fileSize⟩) ↔
      ∀ algorithm ∈ d.algorithms,
        let s : IdleSetting := ⟨algorithm, latency, homogeneous, d.intervalS, fileSize⟩
        (idleTables d ss).Shows s.name ∧
          ∀ r ∈ s.runs ss, ∃ n ∈ r.nodes, n.idleTime.isSome := by
  let c : Configuration := ⟨.byAlgorithm, homogeneous, latency, d.intervalS, .fileSize fileSize⟩
  have hcompare : (compare .byAlgorithm d .idleTime ss).Shows c.name ↔
      (homogeneous ∈ d.homogeneity ∧ latency ∈ d.latenciesMs ∧ fileSize ∈ d.fileSizes) ∧
        ∀ algorithm ∈ d.algorithms, RowComplete d c ss algorithm := by
    have hinterval : c.intervalS = d.intervalS := rfl
    have hshows := compare_shows_iff .idleTime ss hinterval
    rw [Configuration.mem_configurations_iff, complete_iff rfl hd] at hshows
    exact hshows.trans (and_congr_left' (by simp [c, Grouping.fixedKeys]))
  rw [hcompare]
  constructor
  · rintro ⟨⟨hhomogeneous, hlatency, hsize⟩, hrows⟩ algorithm halgorithm s
    have hrow := rowComplete_iff s ss |>.1 (hrows algorithm halgorithm)
    rw [idleTables_shows_iff rfl, IdleSetting.mem_all_iff]
    exact ⟨⟨⟨halgorithm, hlatency, hhomogeneous, rfl, hsize⟩, hrow.1⟩, hrow.2⟩
  · intro h
    obtain ⟨algorithm, halgorithm⟩ := List.exists_mem_of_ne_nil _ (algorithms_ne_nil hd)
    have hshown := (idleTables_shows_iff rfl).1 (h algorithm halgorithm).1
    obtain ⟨-, hlatency, hhomogeneous, -, hsize⟩ := IdleSetting.mem_all_iff.1 hshown.1
    refine ⟨⟨hhomogeneous, hlatency, hsize⟩, fun algorithm halgorithm => ?_⟩
    obtain ⟨hshown, hidle⟩ := h algorithm halgorithm
    exact rowComplete_iff _ ss |>.2 ⟨((idleTables_shows_iff rfl).1 hshown).2, hidle⟩

theorem gates_agree_sweep :
    twoRates.violation? = none ∧
      (compare .byAlgorithm twoRates .idleTime sweep).Shows
        (Configuration.name ⟨.byAlgorithm, true, 0, 20, .fileSize .small⟩) ∧
      ¬ (compare .byAlgorithm twoRates .idleTime sweep).Shows
        (Configuration.name ⟨.byAlgorithm, true, 0, 20, .fileSize .large⟩) := by
  have hd : twoRates.violation? = none := by decide
  have hrates : twoRates.sortedRates = [10, 100] := by cbv
  refine ⟨hd, ?_, ?_⟩
  · refine (gates_agree sweep true 0 .small hd).2 fun algorithm halgorithm => ⟨?_, ?_⟩
    · refine (idleTables_shows_iff rfl).2 ⟨?_, ?_⟩
      · revert algorithm
        decide
      · rw [IdleSetting.isSome_table?_iff, hrates]
        revert algorithm
        decide
    · simp only [(IdleSetting.perm_runs _ _).mem_iff]
      revert algorithm
      decide
  · intro hshown
    have hall := (gates_agree sweep true 0 .large hd).1 hshown
    have htable := (idleTables_shows_iff rfl).1 (hall .leastConnections (by decide)).1
    rw [IdleSetting.isSome_table?_iff, hrates] at htable
    exact absurd htable.2 (by decide)

end RateSweep
