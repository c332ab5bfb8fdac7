import Mathlib
import RateSweep.Comparison.Report

namespace RateSweep

variable {α β : Type}

theorem isSome_mapM_iff (f : α → Option β) (xs : List α) :
    (xs.mapM f).isSome ↔ ∀ x ∈ xs, (f x).isSome := by
  induction xs with
  | nil => simp
  | cons x xs ih =>
    rw [List.forall_mem_cons, ← ih, List.mapM_cons]
    cases f x <;> cases xs.mapM f <;> simp

theorem forall₂_of_mapM {f : α → Option β} {xs : List α} {ys : List β} (h : xs.mapM f = some ys) :
    List.Forall₂ (fun x y => f x = some y) xs ys := by
  induction xs generalizing ys with
  | nil =>
    obtain rfl : [] = ys := by simpa using h
    exact .nil
  | cons x xs ih =>
    rw [List.mapM_cons] at h
    obtain ⟨y, hy, h⟩ := Option.bind_eq_some_iff.1 h
    obtain ⟨zs, hzs, h⟩ := Option.bind_eq_some_iff.1 h
    obtain rfl : y :: zs = ys := by simpa using h
    exact .cons hy (ih hzs)

theorem forall₂_filter_filterMap {R : α → β → Prop} (f : α → Option β) (xs : List α)
    (h : ∀ x ∈ xs, ∀ y, f x = some y → R x y) :
    List.Forall₂ R (xs.filter fun x => (f x).isSome) (xs.filterMap f) := by
  induction xs with
  | nil => exact .nil
  | cons x xs ih =>
    have ht := ih fun z hz => h z (List.mem_cons_of_mem x hz)
    cases hx : f x with
    | none => simpa [hx] using ht
    | some y => simpa [hx] using ⟨h x (by simp) y hx, ht⟩

namespace Report

theorem tables_foldl_add (r : Report) (results : List (Option RateTable)) :
    (results.foldl add r).tables = r.tables ++ results.filterMap id := by
  induction results generalizing r with
  | nil => simp
  | cons result results ih =>
    rw [List.foldl_cons, ih]
    cases result <;> simp [add]

theorem dropped_foldl_add (r : Report) (results : List (Option RateTable)) :
    (results.foldl add r).dropped = r.dropped + results.countP fun t => ¬ t.isSome := by
  induction results generalizing r with
  | nil => simp
  | cons result results ih =>
    rw [List.foldl_cons, ih]
    cases result <;> simp [add]
    omega

variable (make : α → Option RateTable) (xs : List α)

theorem tables_ofResults_map : (ofResults (xs.map make)).tables = xs.filterMap make := by
  rw [ofResults, tables_foldl_add]
  simp [empty, List.filterMap_map]

theorem dropped_ofResults_map :
    (ofResults (xs.map make)).dropped = xs.countP fun x => ¬ (make x).isSome := by
  rw [ofResults, dropped_foldl_add, List.countP_map]
  exact Nat.zero_add _

theorem length_tables_add_dropped :
    (ofResults (xs.map make)).tables.length + (ofResults (xs.map make)).dropped = xs.length := by
  rw [tables_ofResults_map, dropped_ofResults_map, List.length_filterMap_eq_countP]
  exact (List.length_eq_countP_add_countP fun x => (make x).isSome).symm

end Report

end RateSweep
