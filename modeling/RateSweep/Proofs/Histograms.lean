import Mathlib
import RateSweep.Histogram

namespace RateSweep.Histogram

theorem index_lt {bins : Nat} (hbins : 0 < bins) (lo width v : Float) :
    index lo width bins v < bins := by
  unfold index
  dsimp only
  split
  · exact hbins
  · omega

theorem sum_modify_succ {ns : List Nat} {i : Nat} (h : i < ns.length) :
    (ns.modify i (· + 1)).sum = ns.sum + 1 := by
  induction ns generalizing i with
  | nil => cases h
  | cons n ns ih =>
    cases i with
    | zero => simp [Nat.add_right_comm]
    | succ i =>
      rw [List.modify_succ_cons, List.sum_cons, List.sum_cons, ih (Nat.lt_of_succ_lt_succ h),
        Nat.add_assoc]

section Counts

variable {bins : Nat} (hbins : 0 < bins) (lo width : Float) (values : List Float)

include hbins

theorem sum_foldl_modify {cs : Array Nat} (hsize : cs.size = bins) :
    let counted := values.foldl (fun cs v => cs.modify (index lo width bins v) (· + 1)) cs
    counted.size = bins ∧ counted.toList.sum = cs.toList.sum + values.length := by
  induction values generalizing cs with
  | nil => exact ⟨hsize, rfl⟩
  | cons v values ih =>
    have hindex : index lo width bins v < cs.toList.length := by
      simpa [hsize] using index_lt hbins lo width v
    have hstep : (cs.modify (index lo width bins v) (· + 1)).toList.sum = cs.toList.sum + 1 := by
      rw [Array.toList_modify, sum_modify_succ hindex]
    have hsize' : (cs.modify (index lo width bins v) (· + 1)).size = bins := by
      rw [Array.size_modify, hsize]
    obtain ⟨hcounted, hsum⟩ := ih hsize'
    refine ⟨hcounted, ?_⟩
    rw [List.foldl_cons, hsum, hstep, List.length_cons]
    omega

theorem sum_counts : (counts lo width bins values).size = bins ∧
    (counts lo width bins values).toList.sum = values.length := by
  obtain ⟨hsize, hsum⟩ := sum_foldl_modify hbins lo width values Array.size_replicate
  exact ⟨hsize, by simpa [counts] using hsum⟩

end Counts

theorem getElem?_foldl_modify (bins : Nat) (lo width : Float) (values : List Float) (cs : Array Nat)
    (i : Nat) :
    (values.foldl (fun cs v => cs.modify (index lo width bins v) (· + 1)) cs)[i]? =
      cs[i]?.map (· + values.countP fun v => index lo width bins v = i) := by
  induction values generalizing cs with
  | nil => simp
  | cons v values ih =>
    rw [List.foldl_cons, ih, Array.getElem?_modify, List.countP_cons]
    by_cases hi : index lo width bins v = i
    · simp [hi, Function.comp_def, Nat.add_assoc, Nat.add_comm 1]
    · simp [hi]

theorem getElem?_counts (bins : Nat) (lo width : Float) (values : List Float) (i : Nat) :
    (counts lo width bins values)[i]? =
      if i < bins then some (values.countP fun v => index lo width bins v = i) else none := by
  rw [counts, getElem?_foldl_modify, Array.getElem?_replicate]
  split <;> simp

variable {values : List Float} {bins : Nat}

theorem ofValues?_eq_none_iff : ofValues? values bins = none ↔
    values = [] ∨ bins = 0 ∨ ∃ v ∈ values, v.isFinite = false := by
  have hrefused : (values.isEmpty || bins = 0 || values.any (fun v => !v.isFinite)) = true ↔
      values = [] ∨ bins = 0 ∨ ∃ v ∈ values, v.isFinite = false := by
    simp [or_assoc]
  rw [← hrefused, ofValues?]
  split
  · next h => exact iff_of_true rfl h
  · next h => exact iff_of_false (by simp) h

def width (values : List Float) (bins : Nat) : Float :=
  ((range values).2 - (range values).1) / Float.ofNat bins

theorem pos_of_ofValues? {h : Histogram} (hh : ofValues? values bins = some h) : 0 < bins := by
  rw [Nat.pos_iff_ne_zero]
  rintro rfl
  rw [ofValues?_eq_none_iff.2 (.inr (.inl rfl))] at hh
  cases hh

theorem buckets_eq {h : Histogram} (hh : ofValues? values bins = some h) :
    h.buckets = (counts (range values).1 (width values bins) bins values).toList.mapIdx fun i n =>
      ⟨edge (range values).1 (range values).2 (width values bins) bins i,
        edge (range values).1 (range values).2 (width values bins) bins (i + 1), n⟩ := by
  unfold ofValues? at hh
  split at hh
  · cases hh
  · obtain rfl := Option.some.inj hh
    rfl

theorem total_of_ofValues? {h : Histogram} (hh : ofValues? values bins = some h) :
    h.buckets.length = bins ∧ h.total = values.length := by
  obtain ⟨hsize, hsum⟩ :=
    sum_counts (pos_of_ofValues? hh) (range values).1 (width values bins) values
  have hbuckets := buckets_eq hh
  have hcounts : h.buckets.map Bucket.count =
      (counts (range values).1 (width values bins) bins values).toList := by
    rw [hbuckets, List.mapIdx_eq_zipIdx_map, List.map_map]
    exact List.zipIdx_map_fst 0 _
  refine ⟨by simpa [hbuckets] using hsize, ?_⟩
  rw [← hsum, ← hcounts]
  rfl

def bucketOf (values : List Float) (bins : Nat) (v : Float) : Nat :=
  index (range values).1 (width values bins) bins v

structure Tiles (values : List Float) (bins : Nat) (h : Histogram) : Prop where
  length : h.buckets.length = bins
  total : h.total = values.length
  bucketOf_lt : ∀ v ∈ values, bucketOf values bins v < h.buckets.length
  count : ∀ i b, h.buckets[i]? = some b →
    b.count = values.countP fun v => bucketOf values bins v = i
  chained : h.buckets.IsChain fun b next => b.finish = next.start
  finish : h.buckets.getLast?.map Bucket.finish = some (range values).2

theorem tiles_of_ofValues? {h : Histogram} (hh : ofValues? values bins = some h) :
    h.Tiles values bins := by
  have hbins := pos_of_ofValues? hh
  have hbuckets := buckets_eq hh
  obtain ⟨hlength, htotal⟩ := total_of_ofValues? hh
  refine ⟨hlength, htotal, fun v _ => ?_, fun i b hb => ?_, ?_, ?_⟩
  · rw [hlength]
    exact index_lt hbins _ _ v
  · rw [hbuckets, List.getElem?_mapIdx, Array.getElem?_toList, getElem?_counts] at hb
    split at hb
    · obtain rfl := Option.some.inj hb
      rfl
    · cases hb
  · -- The edge between two buckets is one expression, so that its value plays no part.
    rw [hbuckets, List.isChain_iff_getElem]
    intro i hi
    rw [List.getElem_mapIdx, List.getElem_mapIdx]
  · have hlast : h.buckets[bins - 1]?.map Bucket.finish =
        some (edge (range values).1 (range values).2 (width values bins) bins (bins - 1 + 1)) := by
      rw [hbuckets, List.getElem?_mapIdx, Array.getElem?_toList, getElem?_counts,
        if_pos (Nat.sub_lt hbins Nat.one_pos)]
      rfl
    rw [List.getLast?_eq_getElem?, hlength, hlast, Nat.sub_add_cancel hbins, edge, if_pos rfl]

theorem ofValues?_tiles (values : List Float) (bins : Nat) :
    (ofValues? values bins = none ↔
        values = [] ∨ bins = 0 ∨ ∃ v ∈ values, v.isFinite = false) ∧
      ∀ h, ofValues? values bins = some h → h.Tiles values bins :=
  ⟨ofValues?_eq_none_iff, fun _ hh => tiles_of_ofValues? hh⟩

theorem ofValues?_tiles_infinite : (width [-1.7e308, 1.7e308] 2).isInf ∧
    ∃ h, ofValues? [-1.7e308, 1.7e308] 2 = some h ∧ h.Tiles [-1.7e308, 1.7e308] 2 ∧
      h.total = 2 ∧ h.buckets.getLast?.map Bucket.finish = some 1.7e308 := by
  obtain ⟨hrefused, htiles⟩ := ofValues?_tiles [-1.7e308, 1.7e308] 2
  have hkept : ¬ ([-1.7e308, 1.7e308] = ([] : List Float) ∨ 2 = 0 ∨
      ∃ v ∈ [-1.7e308, 1.7e308], v.isFinite = false) := by
    decide +kernel
  obtain ⟨h, hh⟩ := Option.ne_none_iff_exists'.1 (mt hrefused.1 hkept)
  have hhi : (range [-1.7e308, 1.7e308]).2 = 1.7e308 := by decide +kernel
  refine ⟨by decide +kernel, h, hh, htiles h hh, (htiles h hh).total, ?_⟩
  rw [(htiles h hh).finish, hhi]

end RateSweep.Histogram
