namespace RateSweep.Text

def split (sep : Char) : List Char → List (List Char)
  | [] => [[]]
  | c :: cs =>
    if c = sep then [] :: split sep cs
    else match split sep cs with
      | [] => [[c]]
      | s :: ss => (c :: s) :: ss

def join (sep : Char) : List (List Char) → List Char
  | [] => []
  | [s] => s
  | s :: ss => s ++ sep :: join sep ss

theorem split_ne_nil (sep : Char) (cs : List Char) : split sep cs ≠ [] := by
  cases cs with
  | nil => simp [split]
  | cons c cs =>
    unfold split
    split
    · simp
    · split <;> simp

theorem split_cons (sep c : Char) (cs : List Char) :
    split sep (c :: cs) =
      if c = sep then [] :: split sep cs else (split sep cs).modifyHead (c :: ·) := by
  rw [split]
  split
  · rfl
  · cases hs : split sep cs with
    | nil => exact absurd hs (split_ne_nil sep cs)
    | cons s ss => rfl

theorem notMem_of_mem_split {sep : Char} {cs s : List Char} (h : s ∈ split sep cs) : sep ∉ s := by
  induction cs generalizing s with
  | nil =>
    obtain rfl := List.mem_singleton.1 h
    exact List.not_mem_nil
  | cons c cs ih =>
    rw [split_cons] at h
    split at h
    · rcases List.mem_cons.1 h with rfl | h
      · exact List.not_mem_nil
      · exact ih h
    · next hc =>
      cases hs : split sep cs with
      | nil => exact absurd hs (split_ne_nil sep cs)
      | cons t ts =>
        rw [hs] at h ih
        rcases List.mem_cons.1 h with rfl | h
        · simp [Ne.symm hc, ih List.mem_cons_self]
        · exact ih (List.mem_cons_of_mem t h)

theorem mem_of_mem_split {sep c : Char} {cs s : List Char} (hs : s ∈ split sep cs) (hc : c ∈ s) :
    c ∈ cs := by
  induction cs generalizing s with
  | nil =>
    obtain rfl := List.mem_singleton.1 hs
    exact hc
  | cons d ds ih =>
    rw [split_cons] at hs
    split at hs
    · rcases List.mem_cons.1 hs with rfl | hs
      · cases hc
      · exact List.mem_cons_of_mem d (ih hs hc)
    · cases hds : split sep ds with
      | nil => exact absurd hds (split_ne_nil sep ds)
      | cons t ts =>
        rw [hds] at hs ih
        rcases List.mem_cons.1 hs with rfl | hs
        · exact List.mem_cons.2 ((List.mem_cons.1 hc).imp id (ih List.mem_cons_self))
        · exact List.mem_cons_of_mem d (ih (List.mem_cons_of_mem t hs) hc)

theorem join_cons (sep : Char) (s : List Char) {ss : List (List Char)} (h : ss ≠ []) :
    join sep (s :: ss) = s ++ sep :: join sep ss := by
  cases ss with
  | nil => exact absurd rfl h
  | cons => rfl

@[simp] theorem join_split (sep : Char) (cs : List Char) : join sep (split sep cs) = cs := by
  induction cs with
  | nil => rfl
  | cons c cs ih =>
    unfold split
    split
    · next h => rw [join_cons _ _ (split_ne_nil sep cs), ih, h, List.nil_append]
    · cases hs : split sep cs with
      | nil => exact absurd hs (split_ne_nil sep cs)
      | cons s ss =>
        rw [hs] at ih
        cases ss with
        | nil => simpa [join] using ih
        | cons t ts => simpa [join] using ih

theorem split_of_notMem {sep : Char} {s : List Char} (h : sep ∉ s) : split sep s = [s] := by
  induction s with
  | nil => rfl
  | cons c cs ih =>
    have hc : c ≠ sep := fun e => h (e ▸ List.mem_cons_self)
    simp [split, hc, ih fun e => h (List.mem_cons_of_mem _ e)]

theorem split_append {sep : Char} {s : List Char} (h : sep ∉ s) (rest : List Char) :
    split sep (s ++ sep :: rest) = s :: split sep rest := by
  induction s with
  | nil => simp [split]
  | cons c cs ih =>
    have hc : c ≠ sep := fun e => h (e ▸ List.mem_cons_self)
    rw [List.cons_append]
    simp [split, hc, ih fun e => h (List.mem_cons_of_mem _ e)]

theorem split_join {sep : Char} {ss : List (List Char)} (hne : ss ≠ [])
    (h : ∀ s ∈ ss, sep ∉ s) : split sep (join sep ss) = ss := by
  induction ss with
  | nil => exact absurd rfl hne
  | cons s ss ih =>
    have hs := h s List.mem_cons_self
    cases ss with
    | nil => exact split_of_notMem hs
    | cons t ts =>
      rw [join_cons _ _ (by simp), split_append hs,
        ih (by simp) fun u hu => h u (List.mem_cons_of_mem _ hu)]

def segments (sep : Char) (s : String) : List String := (split sep s.toList).map String.ofList

end RateSweep.Text
