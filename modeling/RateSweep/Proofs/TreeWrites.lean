import RateSweep.Proofs.MadeDirectories
import RateSweep.Task

namespace RateSweep

namespace FileTree

variable {t t' : FileTree} {l k : Location} {e e' : Entry}

theorem at?_eq_lookupEntry (hl : l ≠ []) : t.at? l = lookupEntry l t.entries := if_neg hl

theorem put_self (hl : l ≠ []) (h : t.at? l = some e) : t.put l e = t := by
  rw [at?_eq_lookupEntry hl] at h
  unfold put
  rw [putEntry_self h]

theorem put_put (t : FileTree) (l : Location) (e e' : Entry) : (t.put l e').put l e = t.put l e := by
  unfold put
  rw [putEntry_putEntry]

theorem put_comm (hlk : l ≠ k) (hl : l ≠ []) (h : t.at? l ≠ none) :
    (t.put l e).put k e' = (t.put k e').put l e := by
  rw [at?_eq_lookupEntry hl] at h
  unfold put
  rw [putEntry_comm hlk h]

theorem extends_put (h : t.at? l ≠ some .directory) : Extends t (t.put l e) where
  workingDirectory := rfl
  directory k hk := by
    have hkl : k ≠ l := by
      rintro rfl
      exact h hk
    rw [at?_put t k e (ne_nil_of_at? h), if_neg hkl, hk]

end FileTree

open FileTree

namespace Output

def entry (o : Output) : Entry := .file (Text.encode o.text)

structure WrittenAt (o : Output) (t made : FileTree) (l : Location) : Prop where
  created : t.createDirectories o.directory = (made, none)
  place : made.locate o.path = .ok l
  not_directory : made.at? l ≠ some .directory
  not_locked : made.at? l ≠ some .locked

theorem write_eq_iff {o : Output} {t t' : FileTree} :
    o.write t = (t', none) ↔ ∃ made l, o.WrittenAt t made l ∧ t' = made.put l o.entry := by
  unfold write
  constructor
  · intro h
    split at h
    · cases h
    · next made hcreated =>
      split at h
      · cases h
      · next t₁ hwrite =>
        obtain rfl := (Prod.mk.inj h).1
        obtain ⟨l, hplace, hput⟩ := bind_eq_ok_iff.1 hwrite
        refine ⟨made, l, ⟨hcreated, hplace, ?_, ?_⟩, ?_⟩
        · intro hdirectory
          rw [hdirectory] at hput
          cases hput
        · intro hlocked
          rw [hlocked] at hput
          cases hput
        · split at hput
          · cases hput
          · cases hput
          · exact (Except.ok.inj hput).symm
  · rintro ⟨made, l, h, rfl⟩
    have hwrite : made.write o.path (Text.encode o.text) = .ok (made.put l o.entry) := by
      refine bind_eq_ok_iff.2 ⟨l, h.place, ?_⟩
      split
      · next hdirectory => exact absurd hdirectory h.not_directory
      · next hlocked => exact absurd hlocked h.not_locked
      · rfl
    rw [h.created]
    simp only [hwrite]

end Output

inductive Writes : FileTree → List (Output × Location) → FileTree → Prop where
  | nil (t : FileTree) : Writes t [] t
  | cons {t made t' : FileTree} {o : Output} {l : Location} {ps : List (Output × Location)}
      (first : o.WrittenAt t made l) (rest : Writes (made.put l o.entry) ps t') :
      Writes t ((o, l) :: ps) t'

theorem writeAll_eq_iff {t t' : FileTree} {os : List Output} :
    Output.writeAll t os = (t', none) ↔ ∃ ps, ps.map Prod.fst = os ∧ Writes t ps t' := by
  induction os generalizing t with
  | nil =>
    constructor
    · intro h
      obtain rfl := (Prod.mk.inj h).1
      exact ⟨[], rfl, .nil t⟩
    · rintro ⟨ps, hps, h⟩
      obtain rfl := List.map_eq_nil_iff.1 hps
      cases h
      rfl
  | cons o os ih =>
    rw [Output.writeAll]
    constructor
    · intro h
      split at h
      · next t₁ hwrite =>
        obtain ⟨made, l, hfirst, rfl⟩ := Output.write_eq_iff.1 hwrite
        obtain ⟨ps, rfl, hrest⟩ := ih.1 h
        exact ⟨(o, l) :: ps, rfl, .cons hfirst hrest⟩
      · cases h
    · rintro ⟨ps, hps, h⟩
      cases h with
      | nil => cases hps
      | cons hfirst hrest =>
        obtain ⟨rfl, rfl⟩ := List.cons.inj hps
        rw [Output.write_eq_iff.2 ⟨_, _, hfirst, rfl⟩]
        exact ih.2 ⟨_, rfl, hrest⟩

section Writes

variable {t t' made : FileTree} {o : Output} {l k : Location} {ps : List (Output × Location)}
  {e : Entry}

theorem Output.WrittenAt.ne_nil (h : o.WrittenAt t made l) : l ≠ [] := ne_nil_of_at? h.not_directory

theorem Output.WrittenAt.adds (h : o.WrittenAt t made l) : AddsDirectories t made := by
  have hadds := addsDirectories_createDirectories t o.directory
  rwa [h.created] at hadds

theorem Output.WrittenAt.toExtends (h : o.WrittenAt t made l) : Extends t (made.put l o.entry) :=
  h.adds.extends.trans (extends_put h.not_directory)

namespace Writes

theorem toExtends (h : Writes t ps t') : Extends t t' := by
  induction h with
  | nil t => exact .refl t
  | cons hfirst _ ih => exact hfirst.toExtends.trans ih

theorem at?_of_notMem (h : Writes t ps t') (hk : k ∉ ps.map Prod.snd) (ht : t.at? k = some e) :
    t'.at? k = some e := by
  induction h with
  | nil t => exact ht
  | @cons t made t' o l ps hfirst hrest ih =>
    obtain ⟨hkl, hkps⟩ := List.ne_and_not_mem_of_not_mem_cons hk
    apply ih hkps
    rw [at?_put made k _ hfirst.ne_nil, if_neg hkl]
    exact hfirst.adds.at? ht

theorem filter_entries (h : Writes t ps t') {q : Location × Entry → Bool}
    (hdirectory : ∀ l, q (l, .directory) = false) (hq : ∀ p ∈ ps, ∀ e, q (p.2, e) = false) :
    t'.entries.filter q = t.entries.filter q := by
  induction h with
  | nil t => rfl
  | @cons t made t' o l ps hfirst hrest ih =>
    obtain ⟨hl, hps⟩ := List.forall_mem_cons.1 hq
    obtain ⟨dirs, hmade⟩ := hfirst.adds.entries
    have hnone : (dirs.map fun l => (l, Entry.directory)).filter q = [] := by
      simp [List.filter_eq_nil_iff, hdirectory]
    calc t'.entries.filter q
      _ = (made.put l o.entry).entries.filter q := ih hps
      _ = made.entries.filter q := filter_putEntry hl o.entry made.entries
      _ = t.entries.filter q := by rw [hmade, List.filter_append, hnone, List.append_nil]

structure Settled (s : FileTree) (p : Output × Location) : Prop where
  created : s.createDirectories p.1.directory = (s, none)
  place : s.locate p.1.path = .ok p.2
  written : ∃ o : Output, s.at? p.2 = some o.entry

theorem exists_entry (h : Writes t ps t') (hl : l ∈ ps.map Prod.snd) :
    ∃ o : Output, t'.at? l = some o.entry := by
  induction h with
  | nil t => cases hl
  | @cons t made t' o k ps hfirst hrest ih =>
    by_cases hps : l ∈ ps.map Prod.snd
    · exact ih hps
    · obtain rfl : l = k := (List.mem_cons.1 hl).resolve_right hps
      refine ⟨o, hrest.at?_of_notMem hps ?_⟩
      rw [at?_put made l _ hfirst.ne_nil, if_pos rfl]

theorem settled (h : Writes t ps t') {p : Output × Location} (hp : p ∈ ps) : Settled t' p := by
  have hwritten := h.exists_entry (List.mem_map_of_mem (f := Prod.snd) hp)
  suffices hmade : t'.createDirectories p.1.directory = (t', none) ∧ t'.locate p.1.path = .ok p.2 from
    ⟨hmade.1, hmade.2, hwritten⟩
  clear hwritten
  induction h with
  | nil t => cases hp
  | @cons t made t' o l ps hfirst hrest ih =>
    rcases List.mem_cons.1 hp with rfl | hp
    · have hext : Extends made t' := (extends_put hfirst.not_directory).trans hrest.toExtends
      exact ⟨createDirectories_of_extends hfirst.created hext, locate_of_extends hext hfirst.place⟩
    · exact ih hp

end Writes

theorem Writes.Settled.ne_nil {p : Output × Location} (h : Writes.Settled t p) : p.2 ≠ [] := by
  obtain ⟨o, ho⟩ := h.written
  have hfile : t.at? p.2 ≠ some .directory := by simp [ho, Output.entry]
  exact ne_nil_of_at? hfile

theorem Writes.Settled.put {p q : Output × Location} (hp : Writes.Settled t p)
    (hq : Writes.Settled t q) (o : Output) : Writes.Settled (t.put q.2 o.entry) p := by
  obtain ⟨oq, hoq⟩ := hq.written
  have hext : Extends t (t.put q.2 o.entry) := extends_put (by simp [hoq, Output.entry])
  refine ⟨createDirectories_of_extends hp.created hext, locate_of_extends hext hp.place, ?_⟩
  rw [at?_put t p.2 _ hq.ne_nil]
  split
  · exact ⟨o, rfl⟩
  · exact hp.written

def putAll (s : FileTree) (ps : List (Output × Location)) : FileTree :=
  ps.foldl (fun s p => s.put p.2 p.1.entry) s

theorem writes_putAll {s : FileTree} (h : ∀ p ∈ ps, Writes.Settled s p) :
    Writes s ps (putAll s ps) := by
  induction ps generalizing s with
  | nil => exact .nil s
  | cons p ps ih =>
    obtain ⟨hp, hps⟩ := List.forall_mem_cons.1 h
    obtain ⟨o, ho⟩ := hp.written
    have hfirst : p.1.WrittenAt s s p.2 :=
      ⟨hp.created, hp.place, by simp [ho, Output.entry], by simp [ho, Output.entry]⟩
    exact .cons hfirst (ih fun q hq => (hps q hq).put hp p.1)

theorem putAll_put {s : FileTree} {p : Output × Location} (hp : Writes.Settled s p)
    (h : ∀ q ∈ ps, Writes.Settled s q) (o : Output) :
    putAll (s.put p.2 o.entry) ps =
      if p.2 ∈ ps.map Prod.snd then putAll s ps else (putAll s ps).put p.2 o.entry := by
  induction ps generalizing s with
  | nil => rfl
  | cons q ps ih =>
    obtain ⟨hq, hps⟩ := List.forall_mem_cons.1 h
    change putAll ((s.put p.2 o.entry).put q.2 q.1.entry) ps = _
    by_cases hpq : p.2 = q.2
    · have hmem : p.2 ∈ (q :: ps).map Prod.snd := by simp [hpq]
      rw [if_pos hmem, hpq, put_put]
      rfl
    · obtain ⟨_, hwritten⟩ := hp.written
      rw [put_comm hpq hp.ne_nil (by simp [hwritten]),
        ih (hp.put hq q.1) fun r hr => (hps r hr).put hq q.1]
      have hmem : p.2 ∈ (q :: ps).map Prod.snd ↔ p.2 ∈ ps.map Prod.snd := by simp [hpq]
      simp only [hmem]
      rfl

theorem Writes.putAll_eq (h : Writes t ps t') : putAll t' ps = t' := by
  induction h with
  | nil t => rfl
  | @cons t made t' o l ps hfirst hrest ih =>
    have hsettled : ∀ p ∈ (o, l) :: ps, Writes.Settled t' p :=
      fun _ => (Writes.cons hfirst hrest).settled
    obtain ⟨hp, hps⟩ := List.forall_mem_cons.1 hsettled
    change putAll (t'.put (o, l).2 o.entry) ps = t'
    rw [putAll_put hp hps, ih]
    split
    · rfl
    · next hl =>
      -- the last file at its place is put over itself
      refine put_self hfirst.ne_nil (hrest.at?_of_notMem hl ?_)
      rw [at?_put made l _ hfirst.ne_nil, if_pos rfl]

theorem Writes.again (h : Writes t ps t') : Writes t' ps t' := by
  -- all is settled in the tree that is left, so that nothing is made there but the files
  have hagain := writes_putAll fun _ => h.settled
  rwa [h.putAll_eq] at hagain

theorem Writes.at?_last {before after : List (Output × Location)}
    (h : Writes t (before ++ (o, l) :: after) t') (hl : l ∉ after.map Prod.snd) :
    t'.at? l = some o.entry := by
  induction before generalizing t with
  | nil =>
    cases h with
    | cons hfirst hrest =>
      refine hrest.at?_of_notMem hl ?_
      rw [at?_put _ l _ hfirst.ne_nil, if_pos rfl]
  | cons p before ih =>
    cases h with
    | cons _ hrest => exact ih hrest

end Writes

end RateSweep
