import Mathlib
import RateSweep.Comparison.Bins

namespace RateSweep

theorem Design.perm_sortedRates (d : Design) : d.sortedRates.Perm d.rates := List.mergeSort_perm _ _

theorem Design.pairwise_sortedRates (d : Design) : d.sortedRates.Pairwise (· ≤ ·) :=
  List.pairwise_mergeSort' _ _

namespace Bins

variable {σ : Type}

def keys (b : Bins σ) : List BinKey := b.buckets.map Prod.fst

theorem keys_changeAt (key : BinKey) (change : List σ → List σ) (bs : List (BinKey × List σ)) :
    keys ⟨changeAt key change bs⟩ =
      if key ∈ keys ⟨bs⟩ then keys ⟨bs⟩ else keys ⟨bs⟩ ++ [key] := by
  induction bs with
  | nil => simp [keys, changeAt]
  | cons p bs ih =>
    obtain ⟨k, bucket⟩ := p
    simp only [keys] at ih
    by_cases hk : k = key
    · simp [keys, changeAt, hk]
    · have hk' : key ≠ k := Ne.symm hk
      simp only [keys, changeAt, hk, if_false, List.map_cons, List.mem_cons, hk', false_or, ih]
      by_cases hm : key ∈ bs.map Prod.fst
      · simp only [hm, if_true]
      · simp only [hm, if_false, List.cons_append]

theorem get?_changeAt (key k : BinKey) (change : List σ → List σ) (bs : List (BinKey × List σ)) :
    get? ⟨changeAt key change bs⟩ k =
      if k = key then some (change ((get? ⟨bs⟩ key).getD [])) else get? ⟨bs⟩ k := by
  induction bs with
  | nil =>
    by_cases hk : k = key
    · simp [get?, changeAt, hk]
    · simp [get?, changeAt, hk, Ne.symm hk]
  | cons p bs ih =>
    obtain ⟨k', bucket⟩ := p
    simp only [get?] at ih
    by_cases hk' : k' = key
    · by_cases hk : k = key
      · simp [get?, changeAt, hk', hk]
      · simp [get?, changeAt, hk', hk, Ne.symm hk]
    · by_cases hk : k = k'
      · simp [get?, changeAt, hk', hk]
      · simp [get?, changeAt, hk', Ne.symm hk, ih]

theorem get?_isSome_iff (b : Bins σ) (key : BinKey) : (b.get? key).isSome ↔ key ∈ b.keys := by
  simp [get?, keys]

theorem keys_addBin (b : Bins σ) (key : BinKey) :
    (b.addBin key).keys = if key ∈ b.keys then b.keys else b.keys ++ [key] :=
  keys_changeAt key id b.buckets

theorem keys_insert (b : Bins σ) (key : BinKey) (s : σ) :
    (b.insert key s).keys = if key ∈ b.keys then b.keys else b.keys ++ [key] :=
  keys_changeAt key (· ++ [s]) b.buckets

theorem get?_insert (b : Bins σ) (key k : BinKey) (s : σ) :
    (b.insert key s).get? k =
      if k = key then some ((b.get? key).getD [] ++ [s]) else b.get? k :=
  get?_changeAt key k (· ++ [s]) b.buckets

theorem nodup_keys_addBin (b : Bins σ) (key : BinKey) (h : b.keys.Nodup) :
    (b.addBin key).keys.Nodup := by
  rw [keys_addBin]
  split
  · exact h
  · next hk => exact List.Nodup.append h (by simp) (by simpa using hk)

theorem seeded_concat (ks : List BinKey) (key : BinKey) :
    seeded (σ := σ) (ks ++ [key]) = (seeded ks).addBin key := by
  simp [seeded]

theorem eraseDups_concat (ks : List BinKey) (key : BinKey) :
    (ks ++ [key]).eraseDups = if key ∈ ks then ks.eraseDups else ks.eraseDups ++ [key] := by
  rw [List.eraseDups_append]
  by_cases hk : key ∈ ks
  · simp [hk, List.removeAll]
  · simp [hk, List.removeAll, List.eraseDups_cons]

theorem keys_seeded (ks : List BinKey) : (seeded (σ := σ) ks).keys = ks.eraseDups := by
  induction ks using List.reverseRecOn with
  | nil => rfl
  | append_singleton ks key ih =>
    rw [seeded_concat, keys_addBin, ih, eraseDups_concat]
    simp only [List.mem_eraseDups]

theorem nodup_keys_seeded (ks : List BinKey) : (seeded (σ := σ) ks).keys.Nodup := by
  induction ks using List.reverseRecOn with
  | nil => exact List.nodup_nil
  | append_singleton ks key ih =>
    rw [seeded_concat]
    exact nodup_keys_addBin _ key ih

theorem get?_seeded (ks : List BinKey) (key : BinKey) :
    (seeded (σ := σ) ks).get? key = if key ∈ ks then some [] else none := by
  induction ks using List.reverseRecOn with
  | nil => rfl
  | append_singleton ks k ih =>
    rw [seeded_concat]
    by_cases hk : key = k
    · subst hk
      have h := get?_changeAt key key id (seeded (σ := σ) ks).buckets
      simp only [if_true, id] at h
      rw [addBin, h]
      change some (((seeded ks).get? key).getD []) = _
      rw [ih]
      split <;> simp
    · rw [addBin, get?_changeAt, if_neg hk]
      change (seeded ks).get? key = _
      rw [ih]
      simp [hk]

theorem buckets_eq (b : Bins σ) (h : b.keys.Nodup) :
    b.buckets = b.keys.map fun key => (key, (b.get? key).getD []) := by
  obtain ⟨bs⟩ := b
  induction bs with
  | nil => rfl
  | cons p bs ih =>
    obtain ⟨k, bucket⟩ := p
    have hn : k ∉ bs.map Prod.fst ∧ (bs.map Prod.fst).Nodup := by simpa [keys] using h
    have hb := ih hn.2
    simp only [keys] at hb ⊢
    have he : ∀ key ∈ bs.map Prod.fst,
        (key, (get? ⟨(k, bucket) :: bs⟩ key).getD []) = (key, (get? ⟨bs⟩ key).getD []) := by
      intro key hkey
      have hk : k ≠ key := fun hk => hn.1 (hk ▸ hkey)
      simp [get?, hk]
    rw [List.map_cons, List.map_cons, List.map_congr_left he, ← hb]
    simp [get?]

theorem get?_eq_none_iff (b : Bins σ) (key : BinKey) : b.get? key = none ↔ key ∉ b.keys := by
  rw [← get?_isSome_iff]
  cases b.get? key <;> simp

theorem get?_eq_some_iff (b : Bins σ) (h : b.keys.Nodup) (key : BinKey) (bucket : List σ) :
    b.get? key = some bucket ↔ (key, bucket) ∈ b.buckets := by
  rw [buckets_eq b h, List.mem_map]
  constructor
  · intro hget
    have hkey : key ∈ b.keys := (get?_isSome_iff b key).1 (by simp [hget])
    exact ⟨key, hkey, by rw [hget, Option.getD_some]⟩
  · rintro ⟨k, hk, heq⟩
    obtain ⟨rfl, rfl⟩ := Prod.mk.inj heq
    obtain ⟨bucket, hbucket⟩ := Option.isSome_iff_exists.1 ((get?_isSome_iff b k).2 hk)
    rw [hbucket, Option.getD_some]

variable [Described σ]

theorem keys_sortByRate (b : Bins σ) : b.sortByRate.keys = b.keys := by
  simp [keys, sortByRate, Function.comp_def]

theorem get?_sortByRate (b : Bins σ) (key : BinKey) :
    b.sortByRate.get? key = (b.get? key).map fun bucket => bucket.mergeSort rateLe := by
  obtain ⟨bs⟩ := b
  simp only [get?, sortByRate, List.find?_map, Option.map_map]
  rfl

theorem map_requestRate_mergeSort (bucket : List σ) :
    (bucket.mergeSort rateLe).map requestRate = (bucket.map requestRate).mergeSort (· ≤ ·) :=
  List.map_mergeSort fun _ _ _ _ => rfl

theorem pairwise_requestRate_mergeSort (bucket : List σ) :
    ((bucket.mergeSort rateLe).map requestRate).Pairwise (· ≤ ·) := by
  rw [map_requestRate_mergeSort]
  exact List.pairwise_mergeSort' _ _

theorem map_requestRate_mergeSort_eq_iff (bucket : List σ) (rates : List UInt32) :
    (bucket.mergeSort rateLe).map requestRate = rates ↔
      rates.Pairwise (· ≤ ·) ∧ (bucket.map requestRate).Perm rates := by
  have hsort := (List.mergeSort_perm bucket rateLe).map requestRate
  constructor
  · rintro rfl
    exact ⟨pairwise_requestRate_mergeSort bucket, hsort.symm⟩
  · rintro ⟨hrates, hperm⟩
    exact (hsort.trans hperm).eq_of_pairwise' (pairwise_requestRate_mergeSort bucket) hrates

theorem count_map_requestRate (bucket : List σ) (rate : UInt32) :
    (bucket.map requestRate).count rate = (bucket.filter (requestRate · = rate)).length := by
  rw [List.count, List.countP_map, List.countP_eq_length_filter]
  rfl

theorem perm_rates_iff (bucket : List σ) (rates : List UInt32) (h : rates.Nodup) :
    (bucket.map requestRate).Perm rates ↔
      (∀ rate ∈ rates, (bucket.map requestRate).count rate = 1) ∧
        ∀ s ∈ bucket, requestRate s ∈ rates := by
  constructor
  · intro hp
    refine ⟨fun rate hr => ?_, fun s hs => hp.mem_iff.1 (List.mem_map_of_mem hs)⟩
    rw [hp.count_eq]
    exact List.count_eq_one_of_mem h hr
  · rintro ⟨hone, hmem⟩
    apply List.perm_iff_count.2
    intro rate
    by_cases hr : rate ∈ rates
    · rw [hone rate hr, List.count_eq_one_of_mem h hr]
    · have hn : rate ∉ bucket.map requestRate := by
        intro hm
        obtain ⟨s, hs, rfl⟩ := List.mem_map.1 hm
        exact hr (hmem s hs)
      rw [List.count_eq_zero_of_not_mem hn, List.count_eq_zero_of_not_mem hr]

theorem isReportable_iff (b : Bins σ) (rates : List UInt32) :
    b.isReportable rates = true ↔
      b.keys ≠ [] ∧ ∀ bin ∈ b.buckets, bin.2.map requestRate = rates := by
  simp [isReportable, keys]

end Bins

end RateSweep
