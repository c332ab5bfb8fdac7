import Mathlib

namespace RateSweep

section Stable

variable {α : Type} {l₁ l₂ m₁ m₂ : List α} {le : α → α → Bool}

theorem append_inj_of_filter {p : α → Bool} (h : l₁ ++ l₂ = m₁ ++ m₂) (hl₁ : ∀ x ∈ l₁, p x = true)
    (hl₂ : ∀ x ∈ l₂, p x = false) (hm₁ : ∀ x ∈ m₁, p x = true) (hm₂ : ∀ x ∈ m₂, p x = false) :
    l₁ = m₁ ∧ l₂ = m₂ := by
  have hnone {xs : List α} (hxs : ∀ x ∈ xs, p x = false) : xs.filter p = [] := by
    simpa [List.filter_eq_nil_iff] using hxs
  have hfilter := congrArg (List.filter p) h
  rw [List.filter_append, List.filter_append, hnone hl₂, hnone hm₂, List.append_nil, List.append_nil,
    List.filter_eq_self.2 hl₁, List.filter_eq_self.2 hm₁] at hfilter
  exact ⟨hfilter, List.append_cancel_left (hfilter ▸ h)⟩

variable (htrans : ∀ a b c, le a b = true → le b c = true → le a c = true)
  (htotal : ∀ a b, (le a b || le b a) = true)

include htrans htotal

theorem filter_mergeSort (p : α → Bool) (xs : List α) :
    (xs.mergeSort le).filter p = (xs.filter p).mergeSort le := by
  induction xs with
  | nil => simp
  | cons a xs ih =>
    obtain ⟨l₁, l₂, hsort, hrest, hlow⟩ := List.mergeSort_cons htrans htotal a xs
    rw [hrest, List.filter_append] at ih
    cases hp : p a with
    | false =>
      have hdrop : ¬ p a = true := by simp [hp]
      rw [hsort, List.filter_append, List.filter_cons_of_neg hdrop, List.filter_cons_of_neg hdrop, ih]
    | true =>
      -- the head stands behind what is lower, in the sorted list and in the sorted part
      obtain ⟨m₁, m₂, hsort', hrest', hlow'⟩ := List.mergeSort_cons htrans htotal a (xs.filter p)
      have hsorted := List.pairwise_mergeSort htrans htotal (a :: xs)
      have hsorted' := List.pairwise_mergeSort htrans htotal (a :: xs.filter p)
      rw [hsort] at hsorted
      rw [hsort'] at hsorted'
      have hhigh : ∀ b ∈ l₂, le a b = true :=
        (List.pairwise_cons.1 (List.pairwise_append.1 hsorted).2.1).1
      have hhigh' : ∀ b ∈ m₂, le a b = true :=
        (List.pairwise_cons.1 (List.pairwise_append.1 hsorted').2.1).1
      have hparts : l₁.filter p = m₁ ∧ l₂.filter p = m₂ := by
        apply append_inj_of_filter (ih.trans hrest')
        · intro b hb
          exact hlow b (List.mem_filter.1 hb).1
        · intro b hb
          simp [hhigh b (List.mem_filter.1 hb).1]
        · exact hlow'
        · intro b hb
          simp [hhigh' b hb]
      rw [hsort, List.filter_append, List.filter_cons_of_pos hp, List.filter_cons_of_pos hp, hsort',
        hparts.1, hparts.2]

theorem filter_mergeSort_of_ties {p : α → Bool}
    (hties : ∀ a b, p a = true → p b = true → le a b = true) (xs : List α) :
    (xs.mergeSort le).filter p = xs.filter p := by
  rw [filter_mergeSort htrans htotal]
  apply List.mergeSort_of_pairwise
  refine List.pairwise_of_forall_mem_list fun a ha b hb => ?_
  exact hties a b (List.mem_filter.1 ha).2 (List.mem_filter.1 hb).2

end Stable

section Keys

variable {α : Type} (key : α → UInt32)

theorem keyLe_trans (a b c : α) (hab : decide (key a ≤ key b) = true)
    (hbc : decide (key b ≤ key c) = true) : decide (key a ≤ key c) = true :=
  decide_eq_true (UInt32.le_trans (of_decide_eq_true hab) (of_decide_eq_true hbc))

theorem keyLe_total (a b : α) : (decide (key a ≤ key b) || decide (key b ≤ key a)) = true := by
  simpa using UInt32.le_total (key a) (key b)

theorem pairwise_key_mergeSort (xs : List α) :
    (xs.mergeSort fun a b => key a ≤ key b).Pairwise (key · ≤ key ·) :=
  (List.pairwise_mergeSort (keyLe_trans key) (keyLe_total key) xs).imp of_decide_eq_true

theorem filter_key_mergeSort (k : UInt32) (xs : List α) :
    (xs.mergeSort fun a b => key a ≤ key b).filter (key · = k) = xs.filter (key · = k) := by
  refine filter_mergeSort_of_ties (keyLe_trans key) (keyLe_total key) (fun a b ha hb => ?_) xs
  rw [of_decide_eq_true ha, of_decide_eq_true hb]
  exact decide_eq_true (UInt32.le_refl k)

theorem pairwise_lt_mergeSort {ks : List UInt32} (h : ks.Nodup) :
    (ks.mergeSort (· ≤ ·)).Pairwise (· < ·) := by
  have hle : (ks.mergeSort (· ≤ ·)).Pairwise (· ≤ ·) := pairwise_key_mergeSort id ks
  have hnodup : (ks.mergeSort (· ≤ ·)).Nodup := (List.mergeSort_perm _ _).nodup_iff.2 h
  exact (hle.and hnodup).imp fun h => UInt32.lt_of_le_of_ne h.1 h.2

theorem exists_keys (xs : List α) :
    ∃ keys : List UInt32, keys.Pairwise (· < ·) ∧ ∀ k, k ∈ keys ↔ k ∈ xs.map key := by
  exact ⟨(xs.map key).dedup.mergeSort (· ≤ ·), pairwise_lt_mergeSort (List.nodup_dedup _),
    fun k => by simp⟩

variable {key} {xs ys : List α}

theorem append_filter_of_least (hxs : xs.Pairwise (key · ≤ key ·)) {k : UInt32}
    (hleast : ∀ x ∈ xs, k ≤ key x) :
    xs = xs.filter (key · = k) ++ xs.filter (key · ≠ k) := by
  induction xs with
  | nil => rfl
  | cons x xs ih =>
    obtain ⟨hx, hxs⟩ := List.pairwise_cons.1 hxs
    obtain ⟨hkx, hleast⟩ := List.forall_mem_cons.1 hleast
    by_cases heq : key x = k
    · rw [List.filter_cons_of_pos (by simpa using heq), List.filter_cons_of_neg (by simpa using heq),
        List.cons_append, ← ih hxs hleast]
    · have hlater : ∀ y ∈ x :: xs, key y ≠ k := by
        rw [List.forall_mem_cons]
        refine ⟨heq, fun y hy hky => heq ?_⟩
        exact UInt32.le_antisymm (hky ▸ hx y hy) hkx
      have hnone : (x :: xs).filter (key · = k) = [] := by simpa using hlater
      have hall : (x :: xs).filter (key · ≠ k) = x :: xs := by simpa using hlater
      rw [hnone, hall, List.nil_append]

theorem eq_flatMap_filter (hxs : xs.Pairwise (key · ≤ key ·)) {keys : List UInt32}
    (hkeys : keys.Pairwise (· < ·)) (hcover : ∀ x ∈ xs, key x ∈ keys) :
    xs = keys.flatMap fun k => xs.filter (key · = k) := by
  induction keys generalizing xs with
  | nil => exact List.eq_nil_iff_forall_not_mem.2 fun x hx => by simpa using hcover x hx
  | cons k keys ih =>
    obtain ⟨hk, hkeys⟩ := List.pairwise_cons.1 hkeys
    have hleast : ∀ x ∈ xs, k ≤ key x := by
      intro x hx
      rcases List.mem_cons.1 (hcover x hx) with heq | hmem
      · exact heq ▸ UInt32.le_refl _
      · exact UInt32.le_of_lt (hk _ hmem)
    have hcover' : ∀ x ∈ xs.filter (key · ≠ k), key x ∈ keys := by
      intro x hx
      obtain ⟨hmem, hne⟩ := List.mem_filter.1 hx
      exact (List.mem_cons.1 (hcover x hmem)).resolve_left (of_decide_eq_true hne)
    have hrest : xs.filter (key · ≠ k) = keys.flatMap fun j => xs.filter (key · = j) := by
      rw [ih (hxs.filter _) hkeys hcover']
      refine List.flatMap_congr fun j hj => ?_
      rw [List.filter_filter]
      refine List.filter_congr fun x _ => ?_
      by_cases hx : key x = j
      · simp [hx, (UInt32.ne_of_lt (hk j hj)).symm]
      · simp [hx]
    rw [List.flatMap_cons, ← hrest]
    exact append_filter_of_least hxs hleast

theorem eq_of_groups (hxs : xs.Pairwise (key · ≤ key ·)) (hys : ys.Pairwise (key · ≤ key ·))
    (h : ∀ k, xs.filter (key · = k) = ys.filter (key · = k)) : xs = ys := by
  obtain ⟨keys, hkeys, hmem⟩ := exists_keys key xs
  have hcover : ∀ x ∈ xs, key x ∈ keys := fun x hx => (hmem _).2 (List.mem_map_of_mem hx)
  have hcover' : ∀ y ∈ ys, key y ∈ keys := by
    intro y hy
    have hgroup : y ∈ xs.filter (key · = key y) := by
      rw [h]
      exact List.mem_filter.2 ⟨hy, by simp⟩
    exact hcover y (List.mem_filter.1 hgroup).1
  rw [eq_flatMap_filter hxs hkeys hcover, eq_flatMap_filter hys hkeys hcover']
  simp only [h]

end Keys

end RateSweep
