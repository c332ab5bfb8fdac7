import RateSweep.Proofs.GateAgreement

namespace RateSweep

section Repeats

open List

/-- The loop holds the last element that it kept and, in reverse, those before. -/
theorem mem_eraseReps_loop (x a : UInt32) (xs acc : List UInt32) :
    x ∈ eraseRepsBy.loop (· == ·) a xs acc ↔ x = a ∨ x ∈ xs ∨ x ∈ acc := by
  induction xs generalizing a acc with
  | nil => simp [eraseRepsBy.loop, or_comm]
  | cons b xs ih =>
    rw [eraseRepsBy.loop]
    split
    · next h =>
      obtain rfl : a = b := eq_of_beq h
      rw [ih, mem_cons]
      tauto
    · rw [ih, mem_cons, mem_cons]
      tauto

theorem pairwise_eraseReps_loop {a : UInt32} {xs acc : List UInt32}
    (hxs : (a :: xs).Pairwise (· ≤ ·)) (hacc : (a :: acc).Pairwise fun y z => z < y) :
    (eraseRepsBy.loop (· == ·) a xs acc).Pairwise (· < ·) := by
  induction xs generalizing a acc with
  | nil => exact pairwise_reverse.2 hacc
  | cons b xs ih =>
    obtain ⟨ha, hb⟩ := pairwise_cons.1 hxs
    rw [eraseRepsBy.loop]
    split
    · next h =>
      obtain rfl : a = b := eq_of_beq h
      exact ih hb hacc
    · next h =>
      have hne : a ≠ b := ne_of_beq_false h
      have hlt : a < b := UInt32.lt_of_le_of_ne (ha b mem_cons_self) hne
      refine ih hb (pairwise_cons.2 ⟨?_, hacc⟩)
      rintro c hc
      rcases mem_cons.1 hc with rfl | hc
      · exact hlt
      · exact UInt32.lt_trans ((pairwise_cons.1 hacc).1 c hc) hlt

theorem mem_eraseReps (x : UInt32) (xs : List UInt32) : x ∈ xs.eraseReps ↔ x ∈ xs := by
  cases xs with
  | nil => rfl
  | cons a xs => simpa [eraseReps, eraseRepsBy] using mem_eraseReps_loop x a xs []

theorem pairwise_eraseReps {xs : List UInt32} (h : xs.Pairwise (· ≤ ·)) :
    xs.eraseReps.Pairwise (· < ·) := by
  cases xs with
  | nil => exact .nil
  | cons a xs => exact pairwise_eraseReps_loop h (pairwise_singleton _ _)

end Repeats

namespace IdleSetting

def ofProduct (d : Design) : List IdleSetting :=
  (d.algorithms ×ˢ d.latenciesMs ×ˢ d.homogeneity ×ˢ d.fileSizes).map
    fun (algorithm, latency, homogeneous, fileSize) =>
      ⟨algorithm, latency, homogeneous, d.intervalS, fileSize⟩

def Complete (d : Design) (ss : List ClusterSummary) (x : IdleSetting) : Prop :=
  ((x.covered ss).map requestRate).Perm d.sortedRates

instance (d : Design) (ss : List ClusterSummary) (x : IdleSetting) :
    Decidable (x.Complete d ss) := inferInstanceAs (Decidable (List.Perm _ _))

/-- A node of the runs that has an idle time in all of them. Where there are no runs there is no
node. -/
def Idles (runs : List ClusterSummary) (node : UInt32) : Prop :=
  (∃ r ∈ runs, node ∈ r.nodes.map NodeFigures.node) ∧ ∀ r ∈ runs, (r.idleTime? node).isSome

instance (runs : List ClusterSummary) (node : UInt32) : Decidable (Idles runs node) :=
  inferInstanceAs (Decidable (_ ∧ _))

def Fills (rates : List UInt32) (runs : List ClusterSummary) (node : UInt32)
    (values : List Float) : Prop :=
  List.Forall₂ (fun rate value => ∃ r, runs.filter (requestRate · = rate) = [r] ∧
    (r.idleTime? node).map Int64.toFloat = some value) rates values

structure Tabulates (d : Design) (ss : List ClusterSummary) (x : IdleSetting) (t : RateTable) :
    Prop where
  title : t.title = x.title
  name : t.name = x.name
  keyLabel : t.keyLabel = "Node"
  rates : t.rates = d.sortedRates
  rows : ∃ nodes : List UInt32, nodes.Pairwise (· < ·) ∧
    (∀ node, node ∈ nodes ↔ Idles (x.covered ss) node) ∧
    List.Forall₂ (fun node (row : TableRow) => row.key = s!"Node {node.toNat}" ∧
      Fills d.sortedRates (x.covered ss) node row.values) nodes t.rows

theorem all_eq_ofProduct (d : Design) : all d = ofProduct d := by
  simp [all, ofProduct, SProd.sprod, List.product, List.map_flatMap, Function.comp_def]

theorem length_all (d : Design) : (all d).length =
    d.algorithms.length * d.latenciesMs.length * d.homogeneity.length * d.fileSizes.length := by
  simp only [all_eq_ofProduct, ofProduct, List.length_map, List.length_product, Nat.mul_assoc]

section Table

variable {d : Design} {ss others : List ClusterSummary} {x : IdleSetting} {t : RateTable}

theorem mem_nodeIds {runs : List ClusterSummary} {node : UInt32} :
    node ∈ nodeIds runs ↔ ∃ r ∈ runs, node ∈ r.nodes.map NodeFigures.node := by
  rw [nodeIds, mem_eraseReps, List.mem_mergeSort, List.mem_flatMap]

theorem pairwise_nodeIds (runs : List ClusterSummary) : (nodeIds runs).Pairwise (· < ·) :=
  pairwise_eraseReps (List.pairwise_mergeSort' _ _)

theorem isSome_row?_iff {runs : List ClusterSummary} {node : UInt32} :
    (row? runs node).isSome ↔ ∀ r ∈ runs, (r.idleTime? node).isSome := by
  simp [row?, isSome_mapM_iff]

theorem idles_runs_iff (x : IdleSetting) (ss : List ClusterSummary) (node : UInt32) :
    Idles (x.runs ss) node ↔ Idles (x.covered ss) node := by
  simp only [Idles, (x.perm_runs ss).mem_iff]

theorem tabulates_of_table? (hd : d.rates.Nodup) (h : x.table? d ss = some t) :
    x.Tabulates d ss t := by
  have hnodup : d.sortedRates.Nodup := d.perm_sortedRates.nodup_iff.2 hd
  by_cases hgate : (x.runs ss).map requestRate = d.sortedRates
  · simp only [table?, hgate, if_true, Option.some.injEq] at h
    subst h
    refine ⟨rfl, rfl, rfl, rfl,
      (nodeIds (x.runs ss)).filter fun node => (row? (x.runs ss) node).isSome,
      (pairwise_nodeIds _).filter _, fun node => ?_, ?_⟩
    · rw [List.mem_filter, mem_nodeIds, isSome_row?_iff, ← idles_runs_iff, Idles]
    · apply forall₂_filter_filterMap
      intro node _ row hrow
      obtain ⟨values, hvalues, rfl⟩ := Option.map_eq_some_iff.1 hrow
      exact ⟨rfl, Configuration.cells_of_mapM hnodup hgate hvalues⟩
  · simp [table?, hgate] at h

theorem runs_congr (hd : d.rates.Nodup) (hperm : others.Perm ss) (hcomplete : x.Complete d ss) :
    x.runs others = x.runs ss := by
  have hcovered : (x.covered others).Perm (x.covered ss) := hperm.filter _
  have hruns : (x.runs others).Perm (x.runs ss) :=
    (x.perm_runs others).trans (hcovered.trans (x.perm_runs ss).symm)
  have hrates : ((x.runs ss).map requestRate).Nodup := by
    have hsorted := ((x.perm_runs ss).map requestRate).trans hcomplete
    rw [hsorted.nodup_iff, d.perm_sortedRates.nodup_iff]
    exact hd
  have hascending (ts : List ClusterSummary) :
      (x.runs ts).Pairwise fun r s => requestRate r ≤ requestRate s :=
    List.pairwise_map.1 (Bins.pairwise_requestRate_mergeSort _)
  apply hruns.eq_of_pairwise _ (hascending others) (hascending ss)
  intro r s hr hs hle hge
  exact List.inj_on_of_nodup_map hrates (hruns.mem_iff.1 hr) hs (UInt32.le_antisymm hle hge)

theorem table?_congr (hd : d.rates.Nodup) (hperm : others.Perm ss) :
    x.table? d others = x.table? d ss := by
  have hcovered : (x.covered others).Perm (x.covered ss) := hperm.filter _
  by_cases hcomplete : x.Complete d ss
  · rw [table?, table?, runs_congr hd hperm hcomplete]
  · have hnone : x.table? d ss = none := by
      rwa [← Option.not_isSome_iff_eq_none, isSome_table?_iff]
    rw [hnone, ← Option.not_isSome_iff_eq_none, isSome_table?_iff]
    intro hother
    exact hcomplete ((hcovered.map requestRate).symm.trans hother)

end Table

end IdleSetting

theorem idleTables_tabulate (d : Design) (ss : List ClusterSummary) (hd : d.rates.Nodup) :
    (∀ x ∈ IdleSetting.ofProduct d, (x.table? d ss).isSome ↔ x.Complete d ss) ∧
      List.Forall₂ (IdleSetting.Tabulates d ss)
        ((IdleSetting.ofProduct d).filter fun x => x.Complete d ss) (idleTables d ss).tables ∧
      (idleTables d ss).dropped =
        ((IdleSetting.ofProduct d).filter fun x => ¬ x.Complete d ss).length ∧
      (idleTables d ss).tables.length + (idleTables d ss).dropped =
        d.algorithms.length * d.latenciesMs.length * d.homogeneity.length * d.fileSizes.length ∧
      ∀ others : List ClusterSummary, others.Perm ss → idleTables d others = idleTables d ss := by
  have hsome (x : IdleSetting) : (x.table? d ss).isSome ↔ x.Complete d ss :=
    x.isSome_table?_iff d ss
  rw [← IdleSetting.all_eq_ofProduct, ← IdleSetting.length_all]
  refine ⟨fun x _ => hsome x, ?_, ?_, Report.length_tables_add_dropped _ _, fun others hperm => ?_⟩
  · rw [idleTables, Report.tables_ofResults_map]
    have htables := forall₂_filter_filterMap (R := IdleSetting.Tabulates d ss)
      (fun x => x.table? d ss) (IdleSetting.all d) fun x _ t ht =>
        IdleSetting.tabulates_of_table? hd ht
    have hfilter : (IdleSetting.all d).filter (fun x => (x.table? d ss).isSome) =
        (IdleSetting.all d).filter fun x => x.Complete d ss :=
      List.filter_congr fun x _ => Bool.eq_iff_iff.2 (by simpa using hsome x)
    rwa [hfilter] at htables
  · rw [idleTables, Report.dropped_ofResults_map, List.countP_eq_length_filter]
    simp only [hsome]
  · rw [idleTables, idleTables]
    congr 2
    funext x
    exact IdleSetting.table?_congr hd hperm

def idleNodes (rate : UInt32) (nodes : List NodeFigures) : ClusterSummary :=
  ⟨⟨.roundRobin, 0, true, 20, .small, rate⟩, nodes⟩

def unevenRuns : List ClusterSummary :=
  [idleNodes 100 [⟨0, some 4, 0, none⟩, ⟨1, none, 0, none⟩, ⟨2, some 7, 0, none⟩],
    idleNodes 10 [⟨0, some 5, 0, none⟩, ⟨1, some 8, 0, none⟩, ⟨2, some 6, 0, none⟩,
      ⟨3, some 9, 0, none⟩]]

theorem idleTables_tabulate_unevenRuns :
    twoRates.rates.Nodup ∧
      List.Forall₂ (IdleSetting.Tabulates twoRates unevenRuns)
        [⟨.roundRobin, 0, true, 20, .small⟩, ⟨.roundRobin, 0, true, 20, .small⟩]
        (idleTables twoRates unevenRuns).tables ∧
      (idleTables twoRates unevenRuns).dropped = 4 ∧
      IdleSetting.Idles unevenRuns 0 ∧ ¬ IdleSetting.Idles unevenRuns 1 ∧
      IdleSetting.Idles unevenRuns 2 ∧ ¬ IdleSetting.Idles unevenRuns 3 := by
  have hd : twoRates.rates.Nodup := by decide
  have hrates : twoRates.sortedRates = [10, 100] := by cbv
  obtain ⟨-, htables, hdropped, -, -⟩ := idleTables_tabulate twoRates unevenRuns hd
  have hcomplete : (IdleSetting.ofProduct twoRates).filter
      (fun x => x.Complete twoRates unevenRuns) =
        [⟨.roundRobin, 0, true, 20, .small⟩, ⟨.roundRobin, 0, true, 20, .small⟩] := by
    simp only [IdleSetting.Complete, hrates]
    decide
  have hincomplete : ((IdleSetting.ofProduct twoRates).filter
      fun x => ¬ x.Complete twoRates unevenRuns).length = 4 := by
    simp only [IdleSetting.Complete, hrates]
    decide
  rw [hcomplete] at htables
  exact ⟨hd, htables, hdropped.trans hincomplete, by decide⟩

end RateSweep
