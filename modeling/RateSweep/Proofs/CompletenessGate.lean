import RateSweep.Proofs.BinOperations

namespace RateSweep.Bins

variable {σ : Type} [Described σ] {b b' : Bins σ} {bin : BinKey × List σ} {rates : List UInt32}

theorem isReportable_iff_places (b : Bins σ) (rates : List UInt32) :
    b.isReportable rates = true ↔ b.buckets ≠ [] ∧ ∀ bin ∈ b.buckets,
      bin.2.length = rates.length ∧ ∀ p ∈ bin.2.zip rates, requestRate p.1 = p.2 := by
  have hplaces (bucket : List σ) : bucket.map requestRate = rates ↔
      bucket.length = rates.length ∧ ∀ p ∈ bucket.zip rates, requestRate p.1 = p.2 := by
    rw [← List.forall₂_eq_eq_eq, List.forall₂_map_left_iff, List.forall₂_iff_zip, Prod.forall]
  rw [isReportable_iff, keys, ne_eq, List.map_eq_nil_iff]
  simp only [hplaces, ne_eq]

theorem map_requestRate_eq_iff (hbin : bin ∈ b.sortByRate.buckets) :
    bin.2.map requestRate = rates ↔
      rates.Pairwise (· ≤ ·) ∧ (bin.2.map requestRate).Perm rates := by
  obtain ⟨p, -, rfl⟩ := List.mem_map.1 hbin
  have hsort := (List.mergeSort_perm p.2 rateLe).map requestRate
  rw [map_requestRate_mergeSort_eq_iff, hsort.congr_left]

theorem isReportable_sortByRate_iff (hrates : rates.Pairwise (· ≤ ·)) :
    b.sortByRate.isReportable rates = true ↔ b.sortByRate.buckets ≠ [] ∧
      ∀ bin ∈ b.sortByRate.buckets, (bin.2.map requestRate).Perm rates := by
  rw [isReportable_iff, keys, ne_eq, List.map_eq_nil_iff]
  refine and_congr_right fun _ => forall₂_congr fun bin hbin => ?_
  rw [map_requestRate_eq_iff hbin, and_iff_right hrates]

def OneEach (rates : List UInt32) (bucket : List σ) : Prop :=
  (∀ rate ∈ rates, ∃ s, bucket.filter (requestRate · = rate) = [s]) ∧
    ∀ s ∈ bucket, requestRate s ∈ rates

theorem perm_rates_iff_oneEach (hrates : rates.Nodup) (bucket : List σ) :
    (bucket.map requestRate).Perm rates ↔ OneEach rates bucket := by
  rw [perm_rates_iff bucket rates hrates, OneEach]
  simp only [count_map_requestRate, List.length_eq_one_iff]

section Insertions

variable {seeds : List BinKey} {ops ops' : List (Operation σ)}

theorem Represents.isReportable_iff (h : Represents seeds ops b) (rates : List UInt32) :
    b.sortByRate.isReportable rates = true ↔
      (∃ key, key ∈ seeds ++ (insertions ops).map Prod.fst) ∧
        ∀ key ∈ seeds ++ (insertions ops).map Prod.fst, rates.Pairwise (· ≤ ·) ∧
          ((insertedUnder key ops).map requestRate).Perm rates := by
  have hbin (bin) (hbin : bin ∈ b.sortByRate.buckets) : bin.2.map requestRate = rates ↔
      rates.Pairwise (· ≤ ·) ∧ ((insertedUnder bin.1 ops).map requestRate).Perm rates := by
    rw [map_requestRate_eq_iff hbin]
    exact and_congr_right fun _ => ((h.stablySorts hbin).perm.map requestRate).congr_left rates
  simp only [Bins.isReportable_iff, keys_sortByRate, ← h.mem_keys_iff]
  refine and_congr ?_ ⟨fun hall key hkey => ?_, fun hall bin hmem => ?_⟩
  · exact ⟨List.exists_mem_of_ne_nil _, fun ⟨_, hkey⟩ => List.ne_nil_of_mem hkey⟩
  · rw [← keys_sortByRate] at hkey
    obtain ⟨bin, hmem, rfl⟩ := List.mem_map.1 hkey
    exact (hbin bin hmem).1 (hall bin hmem)
  · have hkey : bin.1 ∈ b.sortByRate.keys := List.mem_map_of_mem hmem
    rw [keys_sortByRate] at hkey
    exact (hbin bin hmem).2 (hall bin.1 hkey)

theorem Represents.isReportable_congr (h : Represents seeds ops b) (h' : Represents seeds ops' b')
    (hops : (insertions ops).Perm (insertions ops')) (rates : List UInt32) :
    b.sortByRate.isReportable rates = b'.sortByRate.isReportable rates := by
  have hkeys : ∀ key, key ∈ seeds ++ (insertions ops).map Prod.fst ↔
      key ∈ seeds ++ (insertions ops').map Prod.fst := fun key =>
    ((hops.map Prod.fst).append_left seeds).mem_iff
  have hinserted : ∀ key, ((insertedUnder key ops).map requestRate).Perm rates ↔
      ((insertedUnder key ops').map requestRate).Perm rates := fun key =>
    (((hops.filter _).map Prod.snd).map requestRate).congr_left rates
  rw [Bool.eq_iff_iff, h.isReportable_iff, h'.isReportable_iff]
  simp only [hkeys, hinserted]

theorem isReportable_binBy_congr {ss ss' : List σ} (hss : ss.Perm ss') (key? : σ → Option BinKey)
    (rates : List UInt32) :
    (binBy key? ss).isReportable rates = (binBy key? ss').isReportable rates := by
  rw [binBy_eq_sortByRate, binBy_eq_sortByRate]
  refine (represents_performAll [] _).isReportable_congr (represents_performAll [] _) ?_ rates
  rw [insertions_keyed, insertions_keyed]
  exact hss.filterMap _

end Insertions

theorem gate_counts_rates (b : Bins σ) (rates : List UInt32) (hrates : rates.Pairwise (· ≤ ·)) :
    (b.isReportable rates = true ↔ b.buckets ≠ [] ∧ ∀ bin ∈ b.buckets,
      bin.2.length = rates.length ∧ ∀ p ∈ bin.2.zip rates, requestRate p.1 = p.2) ∧
    (b.sortByRate.isReportable rates = true ↔ b.sortByRate.buckets ≠ [] ∧
      ∀ bin ∈ b.sortByRate.buckets, (bin.2.map requestRate).Perm rates) ∧
    (rates.Nodup → (b.sortByRate.isReportable rates = true ↔ b.sortByRate.buckets ≠ [] ∧
      ∀ bin ∈ b.sortByRate.buckets, OneEach rates bin.2)) ∧
    (∀ (seeds : List BinKey) (ops ops' : List (Operation σ)),
      (insertions ops).Perm (insertions ops') →
        (performAll seeds ops).sortByRate.isReportable rates =
          (performAll seeds ops').sortByRate.isReportable rates) ∧
    ∀ (key? : σ → Option BinKey) (ss ss' : List σ), ss.Perm ss' →
      (binBy key? ss).isReportable rates = (binBy key? ss').isReportable rates := by
  refine ⟨isReportable_iff_places b rates, isReportable_sortByRate_iff hrates, fun hdistinct => ?_,
    fun seeds ops ops' hops => ?_, fun key? ss ss' hss => isReportable_binBy_congr hss key? rates⟩
  · simp only [isReportable_sortByRate_iff hrates, perm_rates_iff_oneEach hdistinct]
  · exact (represents_performAll seeds ops).isReportable_congr (represents_performAll seeds ops')
      hops rates

theorem keys_alternating :
    (performAll [] alternating).sortByRate.keys = [.algorithm .leastConnections] := by
  rw [keys_sortByRate, (represents_performAll [] alternating).keys]
  decide

theorem stablySorts_alternating {bin : BinKey × List BalancerSummary}
    (hbin : bin ∈ (performAll [] alternating).sortByRate.buckets) :
    StablySorts [numbered 100 0, numbered 10 1, numbered 10 2] bin.2 := by
  have hkey : bin.1 ∈ (performAll [] alternating).sortByRate.keys := List.mem_map_of_mem hbin
  rw [keys_alternating, List.mem_singleton] at hkey
  have hsorts := (represents_performAll [] alternating).stablySorts hbin
  rwa [hkey] at hsorts

theorem gate_counts_rates_alternating :
    ([10, 10, 100] : List UInt32).Pairwise (· ≤ ·) ∧
      (performAll [] alternating).sortByRate.isReportable [10, 10, 100] = true ∧
      (performAll [] alternating.reverse).sortByRate.isReportable [10, 10, 100] = true ∧
      (performAll [] alternating).sortByRate.isReportable [10, 100] = false := by
  have hascending : ([10, 10, 100] : List UInt32).Pairwise (· ≤ ·) := by decide
  have hsome : (performAll [] alternating).sortByRate.buckets ≠ [] := by
    intro hnil
    have hkeys := keys_alternating
    rw [keys, hnil] at hkeys
    cases hkeys
  obtain ⟨-, hgate, -, hordered, -⟩ :=
    gate_counts_rates (performAll [] alternating) [10, 10, 100] hascending
  obtain ⟨-, -, hdistinct, -⟩ :=
    gate_counts_rates (performAll [] alternating) [10, 100] (by decide)
  have hpasses : (performAll [] alternating).sortByRate.isReportable [10, 10, 100] = true := by
    refine hgate.2 ⟨hsome, fun bin hbin => ?_⟩
    refine ((stablySorts_alternating hbin).perm.map requestRate).trans ?_
    decide
  refine ⟨hascending, hpasses, ?_, ?_⟩
  · have hreverse : (insertions alternating.reverse).Perm (insertions alternating) :=
      List.reverse_perm (insertions alternating)
    rw [hordered [] _ _ hreverse, hpasses]
  · rw [Bool.eq_false_iff]
    intro hreportable
    obtain ⟨hnonempty, heach⟩ := (hdistinct (by decide)).1 hreportable
    obtain ⟨bin, hbin⟩ := List.exists_mem_of_ne_nil _ hnonempty
    obtain ⟨s, hs⟩ := (heach bin hbin).1 10 (by decide)
    rw [(stablySorts_alternating hbin).ties 10] at hs
    cases (congrArg List.length hs : 2 = 1)

end RateSweep.Bins
