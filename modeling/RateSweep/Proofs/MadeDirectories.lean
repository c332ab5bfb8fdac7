import RateSweep.Proofs.Walks

namespace RateSweep.FileTree

variable {t t' : FileTree} {l k : Location} {e e' : Entry}

section Entries

variable {es : List (Location × Entry)}

theorem lookupEntry_append (l : Location) (es fs : List (Location × Entry)) :
    lookupEntry l (es ++ fs) = (lookupEntry l es).or (lookupEntry l fs) := by
  induction es with
  | nil => rfl
  | cons p es ih =>
    simp only [List.cons_append, lookupEntry]
    split
    · rfl
    · exact ih

theorem putEntry_of_lookupEntry_eq_none (h : lookupEntry l es = none) :
    putEntry l e es = es ++ [(l, e)] := by
  induction es with
  | nil => rfl
  | cons p es ih =>
    rw [lookupEntry] at h
    split at h
    · cases h
    · next hl => rw [putEntry, if_neg hl, ih h, List.cons_append]

theorem putEntry_self (h : lookupEntry l es = some e) : putEntry l e es = es := by
  induction es with
  | nil => cases h
  | cons p es ih =>
    rw [lookupEntry] at h
    split at h
    · next hl =>
      obtain rfl := Option.some.inj h
      rw [putEntry, if_pos hl, hl]
    · next hl => rw [putEntry, if_neg hl, ih h]

theorem putEntry_putEntry (l : Location) (e e' : Entry) (es : List (Location × Entry)) :
    putEntry l e (putEntry l e' es) = putEntry l e es := by
  induction es with
  | nil => simp [putEntry]
  | cons p es ih =>
    simp only [putEntry]
    split
    · simp [putEntry]
    · next hl => simp only [putEntry, hl, if_false, ih]

-- Two new places would stand in the order in which they are put.
theorem putEntry_comm (hlk : l ≠ k) (h : lookupEntry l es ≠ none) :
    putEntry k e' (putEntry l e es) = putEntry l e (putEntry k e' es) := by
  induction es with
  | nil => exact absurd rfl h
  | cons p es ih =>
    obtain ⟨m, f⟩ := p
    by_cases hl : l = m
    · subst hl
      have hk : k ≠ l := Ne.symm hlk
      simp [putEntry, hk]
    · by_cases hk : k = m
      · subst hk
        simp [putEntry, hlk]
      · rw [lookupEntry, if_neg hl] at h
        simp [putEntry, hl, hk, ih h]

theorem filter_putEntry {q : Location × Entry → Bool} (hq : ∀ e, q (l, e) = false) (e : Entry)
    (es : List (Location × Entry)) : (putEntry l e es).filter q = es.filter q := by
  induction es with
  | nil => simp [putEntry, hq]
  | cons p es ih =>
    obtain ⟨m, f⟩ := p
    rw [putEntry]
    split
    · next hl =>
      subst hl
      simp [hq]
    · simp only [List.filter_cons, ih]

end Entries

structure AddsDirectories (t t' : FileTree) : Prop where
  workingDirectory : t'.workingDirectory = t.workingDirectory
  entries : ∃ made : List Location, t'.entries = t.entries ++ made.map fun l => (l, .directory)

theorem AddsDirectories.refl (t : FileTree) : AddsDirectories t t := ⟨rfl, [], by simp⟩

theorem AddsDirectories.trans {t'' : FileTree} (h : AddsDirectories t t')
    (h' : AddsDirectories t' t'') : AddsDirectories t t'' := by
  obtain ⟨made, hmade⟩ := h.entries
  obtain ⟨made', hmade'⟩ := h'.entries
  refine ⟨h'.workingDirectory.trans h.workingDirectory, made ++ made', ?_⟩
  rw [hmade', hmade, List.map_append, List.append_assoc]

theorem AddsDirectories.at? (h : AddsDirectories t t') (hl : t.at? l = some e) :
    t'.at? l = some e := by
  obtain ⟨made, hmade⟩ := h.entries
  unfold FileTree.at? at hl ⊢
  split at hl
  · next hroot => rw [if_pos hroot, hl]
  · next hroot => rw [if_neg hroot, hmade, lookupEntry_append, hl, Option.some_or]

theorem AddsDirectories.extends (h : AddsDirectories t t') : Extends t t' where
  workingDirectory := h.workingDirectory
  directory _ hl := h.at? hl

theorem ne_nil_of_at? (h : t.at? l ≠ some .directory) : l ≠ [] := by
  rintro rfl
  exact h rfl

theorem addsDirectories_put (h : t.at? l = none) : AddsDirectories t (t.put l .directory) := by
  have hroot : l ≠ [] := ne_nil_of_at? (by rw [h]; simp)
  refine ⟨rfl, [l], putEntry_of_lookupEntry_eq_none ?_⟩
  rwa [FileTree.at?, if_neg hroot] at h

section Made

variable {start : Location} {outer names : List String} {name path : String}

theorem hasDirectory_iff :
    t.hasDirectory start names = true ↔
      ∃ l, names.foldlM t.step start = .ok l ∧ t.at? l = some .directory := by
  unfold hasDirectory
  cases names.foldlM t.step start <;> simp

theorem hasDirectory_of_extends (h : Extends t t') (hd : t.hasDirectory start names = true) :
    t'.hasDirectory start names = true := by
  obtain ⟨l, hw, hl⟩ := hasDirectory_iff.1 hd
  exact hasDirectory_iff.2 ⟨l, foldlM_step_of_extends h hw, h.directory l hl⟩

theorem makeDirectory_eq_ok_iff :
    t.makeDirectory start outer name = .ok t' ↔
      ∃ l, (outer ++ [name]).foldlM t.step start = .ok l ∧ t.at? l = none ∧
        t' = t.put l .directory := by
  unfold makeDirectory
  simp only [bind_eq_ok_iff, foldlM_step_concat]
  constructor
  · rintro ⟨k, hw, l, hstep, hput⟩
    split at hput
    · cases hput
    · next hnone => exact ⟨l, ⟨k, hw, hstep⟩, hnone, (Except.ok.inj hput).symm⟩
  · rintro ⟨l, ⟨k, hw, hstep⟩, hnone, rfl⟩
    refine ⟨k, hw, l, hstep, ?_⟩
    split
    · next hsome => exact absurd (hnone.symm.trans hsome) (by simp)
    · rfl

theorem makeDirectory_of_hasDirectory (h : t.hasDirectory start (outer ++ [name]) = true) :
    t.makeDirectory start outer name = .error .alreadyExists := by
  obtain ⟨l, hw, hl⟩ := hasDirectory_iff.1 h
  obtain ⟨k, hw, hstep⟩ := foldlM_step_concat.1 hw
  refine bind_eq_error_iff.2 (.inr ⟨k, hw, ?_⟩)
  refine bind_eq_error_iff.2 (.inr ⟨l, hstep, ?_⟩)
  rw [hl]
  rfl

def makeOrKeep (start : Location) (outer : List String) (name : String) (t : FileTree) :
    FileTree × Option DiskError :=
  match t.makeDirectory start outer name with
  | .ok t => (t, none)
  | .error e =>
    if e = .alreadyExists && t.hasDirectory start (outer ++ [name]) then (t, none)
    else (t, some e)

theorem makeDirectories_cons (start : Location) (name : String) (outer : List String)
    (t : FileTree) :
    makeDirectories start (name :: outer) t =
      match makeOrKeep start outer.reverse name t with
      | (t, some .notFound) =>
        match makeDirectories start outer t with
        | (t, none) => makeOrKeep start outer.reverse name t
        | fault => fault
      | result => result := rfl

theorem addsDirectories_makeOrKeep (start : Location) (outer : List String) (name : String)
    (t : FileTree) : AddsDirectories t (makeOrKeep start outer name t).1 := by
  unfold makeOrKeep
  split
  · next t' h =>
    obtain ⟨l, -, hnone, rfl⟩ := makeDirectory_eq_ok_iff.1 h
    exact addsDirectories_put hnone
  · split <;> exact .refl t

theorem hasDirectory_of_makeOrKeep (h : makeOrKeep start outer name t = (t', none)) :
    t'.hasDirectory start (outer ++ [name]) = true := by
  unfold makeOrKeep at h
  split at h
  · next t₁ hmake =>
    obtain ⟨rfl, -⟩ := Prod.mk.inj h
    obtain ⟨l, hw, hnone, rfl⟩ := makeDirectory_eq_ok_iff.1 hmake
    have hroot : l ≠ [] := ne_nil_of_at? (by rw [hnone]; simp)
    refine hasDirectory_iff.2 ⟨l, ?_, by rw [at?_put t l _ hroot, if_pos rfl]⟩
    exact foldlM_step_of_extends (addsDirectories_put hnone).extends hw
  · next e hmake =>
    split at h
    · next hkeep =>
      obtain ⟨rfl, -⟩ := Prod.mk.inj h
      exact (Bool.and_eq_true_iff.1 hkeep).2
    · cases h

theorem makeOrKeep_of_hasDirectory (h : t.hasDirectory start (outer ++ [name]) = true) :
    makeOrKeep start outer name t = (t, none) := by
  rw [makeOrKeep, makeDirectory_of_hasDirectory h]
  simp [h]

theorem addsDirectories_makeDirectories (start : Location) (names : List String) (t : FileTree) :
    AddsDirectories t (makeDirectories start names t).1 := by
  induction names generalizing t with
  | nil => exact .refl t
  | cons name outer ih =>
    have hfirst := addsDirectories_makeOrKeep start outer.reverse name t
    rw [makeDirectories_cons]
    split
    · next t₁ hmake =>
      rw [hmake] at hfirst
      have hrest := ih t₁
      split
      · next t₂ hmade =>
        rw [hmade] at hrest
        exact (hfirst.trans hrest).trans (addsDirectories_makeOrKeep _ _ _ _)
      · exact hfirst.trans hrest
    · exact hfirst

theorem hasDirectory_of_makeDirectories {names : List String} (hnames : names ≠ [])
    (h : makeDirectories start names t = (t', none)) :
    t'.hasDirectory start names.reverse = true := by
  cases names with
  | nil => exact absurd rfl hnames
  | cons name outer =>
    rw [makeDirectories_cons] at h
    rw [List.reverse_cons]
    split at h
    · split at h
      · exact hasDirectory_of_makeOrKeep h
      · next hfault => exact absurd h (hfault t')
    · exact hasDirectory_of_makeOrKeep h

theorem makeDirectories_of_hasDirectory {names : List String}
    (h : names ≠ [] → t.hasDirectory start names.reverse = true) :
    makeDirectories start names t = (t, none) := by
  cases names with
  | nil => rfl
  | cons name outer =>
    have hdirectory := h (List.cons_ne_nil _ _)
    rw [List.reverse_cons] at hdirectory
    rw [makeDirectories_cons, makeOrKeep_of_hasDirectory hdirectory]

theorem addsDirectories_createDirectories (t : FileTree) (path : String) :
    AddsDirectories t (t.createDirectories path).1 := by
  unfold createDirectories
  split
  · exact .refl t
  · split
    · exact .refl t
    · exact addsDirectories_makeDirectories _ _ t

theorem createDirectories_of_extends {t'' : FileTree}
    (h : t.createDirectories path = (t', none)) (hext : Extends t' t'') :
    t''.createDirectories path = (t'', none) := by
  have hadds := addsDirectories_createDirectories t path
  rw [h] at hadds
  have horigin : t''.origin path = t.origin path := by
    rw [origin, origin, hext.workingDirectory, hadds.workingDirectory]
  unfold createDirectories at h ⊢
  split
  · rfl
  · next hpath =>
    rw [if_neg hpath] at h
    split
    · next hfault =>
      rw [hfault] at h
      cases h
    · next hfault =>
      rw [hfault] at h
      rw [horigin]
      refine makeDirectories_of_hasDirectory fun hnames => ?_
      exact hasDirectory_of_extends hext (hasDirectory_of_makeDirectories hnames h)

end Made

end RateSweep.FileTree
