import RateSweep.Comparison.Report
import RateSweep.Proofs.Bins
import RateSweep.Proofs.StableSort

namespace RateSweep.Bins

variable {σ : Type}

inductive Operation (σ : Type) where
  | insert (key : BinKey) (s : σ)
  | sort

def Operation.insertion? : Operation σ → Option (BinKey × σ)
  | insert key s => some (key, s)
  | sort => none

def insertions (ops : List (Operation σ)) : List (BinKey × σ) :=
  ops.filterMap Operation.insertion?

def insertedUnder (key : BinKey) (ops : List (Operation σ)) : List σ :=
  ((insertions ops).filter (·.1 = key)).map Prod.snd

section Insertions

variable {ops : List (Operation σ)} {key : BinKey}

theorem insertions_concat (ops : List (Operation σ)) (op : Operation σ) :
    insertions (ops ++ [op]) = insertions ops ++ op.insertion?.toList := by
  rw [insertions, List.filterMap_append]
  cases op <;> rfl

theorem insertedUnder_concat_insert (ops : List (Operation σ)) (key k : BinKey) (s : σ) :
    insertedUnder k (ops ++ [.insert key s]) =
      insertedUnder k ops ++ if k = key then [s] else [] := by
  rw [insertedUnder, insertions_concat, List.filter_append, List.map_append]
  by_cases hk : k = key
  · simp [Operation.insertion?, insertedUnder, hk]
  · simp [Operation.insertion?, insertedUnder, hk, Ne.symm hk]

theorem insertedUnder_concat_sort (ops : List (Operation σ)) (k : BinKey) :
    insertedUnder k (ops ++ [.sort]) = insertedUnder k ops := by
  rw [insertedUnder, insertions_concat]
  simp [Operation.insertion?, insertedUnder]

theorem insertedUnder_eq_nil (h : key ∉ (insertions ops).map Prod.fst) :
    insertedUnder key ops = [] := by
  rw [insertedUnder, List.map_eq_nil_iff, List.filter_eq_nil_iff]
  intro p hp hkey
  exact h (of_decide_eq_true hkey ▸ List.mem_map_of_mem hp)

end Insertions

variable [Described σ]

structure Rearranges (inserted bucket : List σ) : Prop where
  perm : bucket.Perm inserted
  ties : ∀ rate, bucket.filter (requestRate · = rate) = inserted.filter (requestRate · = rate)

structure StablySorts (inserted bucket : List σ) : Prop extends Rearranges inserted bucket where
  ascending : bucket.Pairwise (requestRate · ≤ requestRate ·)

section Stable

variable {inserted bucket : List σ}

theorem Rearranges.refl (bucket : List σ) : Rearranges bucket bucket := ⟨.refl _, fun _ => rfl⟩

theorem Rearranges.trans {sorted : List σ} (h : Rearranges inserted bucket)
    (h' : Rearranges bucket sorted) : Rearranges inserted sorted :=
  ⟨h'.perm.trans h.perm, fun rate => (h'.ties rate).trans (h.ties rate)⟩

theorem Rearranges.concat (h : Rearranges inserted bucket) (s : σ) :
    Rearranges (inserted ++ [s]) (bucket ++ [s]) where
  perm := h.perm.append_right [s]
  ties rate := by rw [List.filter_append, List.filter_append, h.ties rate]

theorem stablySorts_mergeSort (bucket : List σ) : StablySorts bucket (bucket.mergeSort rateLe) where
  perm := List.mergeSort_perm bucket rateLe
  ties rate := filter_key_mergeSort requestRate rate bucket
  ascending := pairwise_key_mergeSort requestRate bucket

theorem mergeSort_of_ascending (h : bucket.Pairwise (requestRate · ≤ requestRate ·)) :
    bucket.mergeSort rateLe = bucket :=
  List.mergeSort_of_pairwise (h.imp fun hle => decide_eq_true hle)

end Stable

def perform (b : Bins σ) : Operation σ → Bins σ
  | .insert key s => b.insert key s
  | .sort => b.sortByRate

def performAll (seeds : List BinKey) (ops : List (Operation σ)) : Bins σ :=
  ops.foldl perform (seeded seeds)

structure Represents (seeds : List BinKey) (ops : List (Operation σ)) (b : Bins σ) : Prop where
  keys : b.keys = (seeds ++ (insertions ops).map Prod.fst).eraseDups
  bins : ∀ key bucket, b.get? key = some bucket → Rearranges (insertedUnder key ops) bucket

section Run

variable {seeds : List BinKey} {ops : List (Operation σ)} {b : Bins σ} {key : BinKey}

theorem Represents.nodup_keys (h : Represents seeds ops b) : b.keys.Nodup := by
  rw [h.keys, ← keys_seeded (σ := σ)]
  exact nodup_keys_seeded _

theorem Represents.mem_keys_iff (h : Represents seeds ops b) :
    key ∈ b.keys ↔ key ∈ seeds ++ (insertions ops).map Prod.fst := by
  rw [h.keys, List.mem_eraseDups]

theorem represents_seeded (seeds : List BinKey) :
    Represents seeds ([] : List (Operation σ)) (seeded seeds) where
  keys := by rw [keys_seeded, insertions, List.filterMap_nil, List.map_nil, List.append_nil]
  bins key bucket h := by
    rw [get?_seeded] at h
    split at h
    · obtain rfl := Option.some.inj h
      exact .refl []
    · cases h

theorem Represents.insert (h : Represents seeds ops b) (key : BinKey) (s : σ) :
    Represents seeds (ops ++ [.insert key s]) (b.insert key s) where
  keys := by
    have hkeys : seeds ++ (insertions (ops ++ [.insert key s])).map Prod.fst =
        seeds ++ (insertions ops).map Prod.fst ++ [key] := by
      simp [insertions_concat, Operation.insertion?]
    rw [keys_insert, hkeys, eraseDups_concat, ← h.keys]
    exact if_congr h.mem_keys_iff rfl rfl
  bins k bucket hget := by
    rw [get?_insert] at hget
    rw [insertedUnder_concat_insert]
    by_cases hk : k = key
    · subst hk
      rw [if_pos rfl] at hget ⊢
      obtain rfl := Option.some.inj hget
      apply Rearranges.concat
      cases hb : b.get? k with
      | some bucket => exact h.bins k bucket hb
      | none =>
        -- nothing was put in under a key that is not there
        have hnew := (get?_eq_none_iff b k).1 hb
        rw [h.mem_keys_iff, List.mem_append, not_or] at hnew
        rw [insertedUnder_eq_nil hnew.2]
        exact .refl []
    · rw [if_neg hk] at hget ⊢
      rw [List.append_nil]
      exact h.bins k bucket hget

theorem Represents.sort (h : Represents seeds ops b) :
    Represents seeds (ops ++ [.sort]) b.sortByRate where
  keys := by
    rw [keys_sortByRate, h.keys, insertions_concat]
    simp [Operation.insertion?]
  bins k bucket hget := by
    rw [get?_sortByRate] at hget
    obtain ⟨unsorted, hb, rfl⟩ := Option.map_eq_some_iff.1 hget
    rw [insertedUnder_concat_sort]
    exact (h.bins k unsorted hb).trans (stablySorts_mergeSort unsorted).toRearranges

theorem Represents.perform (h : Represents seeds ops b) (op : Operation σ) :
    Represents seeds (ops ++ [op]) (b.perform op) := by
  cases op with
  | insert key s => exact h.insert key s
  | sort => exact h.sort

theorem performAll_concat (seeds : List BinKey) (ops : List (Operation σ)) (op : Operation σ) :
    performAll seeds (ops ++ [op]) = (performAll seeds ops).perform op := by
  rw [performAll, List.foldl_append]
  rfl

theorem represents_performAll (seeds : List BinKey) (ops : List (Operation σ)) :
    Represents seeds ops (performAll seeds ops) := by
  induction ops using List.reverseRecOn with
  | nil => exact represents_seeded seeds
  | append_singleton ops op ih =>
    rw [performAll_concat]
    exact ih.perform op

theorem Represents.rearranges (h : Represents seeds ops b) {bin : BinKey × List σ}
    (hbin : bin ∈ b.buckets) : Rearranges (insertedUnder bin.1 ops) bin.2 :=
  h.bins _ _ ((get?_eq_some_iff b h.nodup_keys bin.1 bin.2).2 hbin)

theorem Represents.stablySorts (h : Represents seeds ops b) {bin : BinKey × List σ}
    (hbin : bin ∈ b.sortByRate.buckets) : StablySorts (insertedUnder bin.1 ops) bin.2 := by
  obtain ⟨p, hp, rfl⟩ := List.mem_map.1 hbin
  have hsorts := stablySorts_mergeSort p.2
  exact ⟨(h.rearranges hp).trans hsorts.toRearranges, hsorts.ascending⟩

theorem sortByRate_sortByRate (b : Bins σ) : b.sortByRate.sortByRate = b.sortByRate := by
  have hsorted (bucket : List σ) :
      (bucket.mergeSort rateLe).mergeSort rateLe = bucket.mergeSort rateLe :=
    mergeSort_of_ascending (stablySorts_mergeSort bucket).ascending
  simp [sortByRate, hsorted]

end Run

section BinBy

variable (key? : σ → Option BinKey) (ss : List σ)

def keyed (ss : List σ) : List (Operation σ) :=
  ss.filterMap fun s => (key? s).map fun key => .insert key s

omit [Described σ] in
theorem insertions_keyed :
    insertions (keyed key? ss) = ss.filterMap fun s => (key? s).map fun key => (key, s) := by
  rw [insertions, keyed, List.filterMap_filterMap]
  congr 1
  funext s
  cases key? s <;> rfl

omit [Described σ] in
theorem map_fst_insertions_keyed :
    (insertions (keyed key? ss)).map Prod.fst = ss.filterMap key? := by
  rw [insertions_keyed, List.map_filterMap]
  congr 1
  funext s
  cases key? s <;> rfl

omit [Described σ] in
theorem insertedUnder_keyed (key : BinKey) :
    insertedUnder key (keyed key? ss) = ss.filter (key? · = some key) := by
  rw [insertedUnder, insertions_keyed, List.filter_filterMap, List.map_filterMap,
    ← List.filterMap_eq_filter]
  congr 1
  funext s
  cases hs : key? s with
  | none => simp [Option.guard, hs]
  | some k => by_cases hk : k = key <;> simp [Option.guard, Option.filter, hs, hk]

theorem binBy_eq_sortByRate : binBy key? ss = (performAll [] (keyed key? ss)).sortByRate := by
  have hfold : (keyed key? ss).foldl perform empty = performAll [] (keyed key? ss) := rfl
  rw [← hfold, keyed, List.foldl_filterMap]
  unfold binBy
  dsimp only
  congr 2
  funext b s
  cases key? s <;> rfl

theorem mem_bins_binBy_iff {s : σ} (hs : s ∈ ss) :
    (∃ bin ∈ (binBy key? ss).buckets, s ∈ bin.2) ↔ (key? s).isSome := by
  have h := represents_performAll [] (keyed key? ss)
  rw [binBy_eq_sortByRate]
  constructor
  · rintro ⟨bin, hbin, hmem⟩
    have hkey := (h.stablySorts hbin).perm.mem_iff.1 hmem
    rw [insertedUnder_keyed] at hkey
    rw [of_decide_eq_true (List.mem_filter.1 hkey).2]
    rfl
  · intro hkey
    obtain ⟨key, hkey⟩ := Option.isSome_iff_exists.1 hkey
    have hmem : key ∈ (performAll [] (keyed key? ss)).sortByRate.keys := by
      rw [keys_sortByRate, h.mem_keys_iff, List.nil_append, map_fst_insertions_keyed]
      exact List.mem_filterMap.2 ⟨s, hs, hkey⟩
    obtain ⟨bin, hbin, rfl⟩ := List.mem_map.1 hmem
    refine ⟨bin, hbin, (h.stablySorts hbin).perm.mem_iff.2 ?_⟩
    rw [insertedUnder_keyed]
    exact List.mem_filter.2 ⟨hs, decide_eq_true hkey⟩

end BinBy

theorem operations_represented (seeds : List BinKey) (ops : List (Operation σ)) :
    let b := performAll seeds ops
    b.keys.Nodup ∧ b.keys = (seeds ++ (insertions ops).map Prod.fst).eraseDups ∧
      (∀ bin ∈ b.buckets, Rearranges (insertedUnder bin.1 ops) bin.2) ∧
      (∀ bin ∈ (b.perform .sort).buckets, StablySorts (insertedUnder bin.1 ops) bin.2) ∧
      (b.perform .sort).perform .sort = b.perform .sort ∧
      (∀ key bucket, b.get? key = some bucket ↔ (key, bucket) ∈ b.buckets) ∧
      (∀ key, b.get? key = none ↔ key ∉ b.keys) ∧
      ∀ (key? : σ → Option BinKey) (ss : List σ),
        (binBy key? ss).keys = (ss.filterMap key?).eraseDups ∧
        (∀ bin ∈ (binBy key? ss).buckets,
          StablySorts (ss.filter (key? · = some bin.1)) bin.2) ∧
        ∀ s ∈ ss, (∃ bin ∈ (binBy key? ss).buckets, s ∈ bin.2) ↔ (key? s).isSome := by
  intro b
  have h : Represents seeds ops b := represents_performAll seeds ops
  refine ⟨h.nodup_keys, h.keys, fun _ => h.rearranges, fun _ => h.stablySorts,
    sortByRate_sortByRate b, get?_eq_some_iff b h.nodup_keys, get?_eq_none_iff b,
    fun key? ss => ⟨?_, fun bin hbin => ?_, fun s hs => mem_bins_binBy_iff key? ss hs⟩⟩
  · rw [binBy_eq_sortByRate, keys_sortByRate, (represents_performAll _ _).keys,
      map_fst_insertions_keyed, List.nil_append]
  · rw [binBy_eq_sortByRate] at hbin
    rw [← insertedUnder_keyed]
    exact (represents_performAll [] (keyed key? ss)).stablySorts hbin

def numbered (rate : UInt32) (number : Nat) : BalancerSummary :=
  ⟨⟨.leastConnections, 0, true, 20, .small, rate⟩, number, 0.0, none⟩

def alternating : List (Operation BalancerSummary) :=
  [.insert (.algorithm .leastConnections) (numbered 100 0), .sort,
    .insert (.algorithm .leastConnections) (numbered 10 1),
    .insert (.algorithm .leastConnections) (numbered 10 2)]

theorem operations_represented_alternating :
    ∃ bucket, (.algorithm .leastConnections, bucket) ∈
        ((performAll [.algorithm .roundRobin] alternating).perform .sort).buckets ∧
      StablySorts [numbered 100 0, numbered 10 1, numbered 10 2] bucket := by
  obtain ⟨-, hkeys, -, hsorted, -⟩ :=
    operations_represented [.algorithm .roundRobin] alternating
  have hmem : .algorithm .leastConnections ∈
      ((performAll [.algorithm .roundRobin] alternating).perform .sort).keys := by
    rw [perform, keys_sortByRate, hkeys]
    decide
  obtain ⟨⟨key, bucket⟩, hbin, rfl⟩ := List.mem_map.1 hmem
  exact ⟨bucket, hbin, hsorted _ hbin⟩

end RateSweep.Bins
