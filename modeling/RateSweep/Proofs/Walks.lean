import Mathlib
import RateSweep.Disk.FileTree
import RateSweep.Steps

namespace RateSweep

theorem Text.split_append_cons (sep : Char) (cs ds : List Char) :
    split sep (cs ++ sep :: ds) = split sep cs ++ split sep ds := by
  induction cs with
  | nil => simp [split]
  | cons c cs ih =>
    rw [List.cons_append, split_cons, split_cons, ih]
    split
    · rfl
    · cases hs : split sep cs with
      | nil => exact absurd hs (split_ne_nil sep cs)
      | cons s ss => rfl

namespace FileTree

variable {t t' : FileTree} {l l' : Location} {name path : String} {names : List String}

structure IsEntryName (name : String) : Prop where
  ne_empty : name ≠ ""
  ne_dot : name ≠ "."
  ne_dots : name ≠ ".."
  short : name.utf8ByteSize ≤ nameLimit

theorem step_eq_ok_iff :
    t.step l name = .ok l' ↔ t.at? l = some .directory ∧
      ((name = "" ∨ name = ".") ∧ l' = l ∨ name = ".." ∧ l' = l.dropLast ∨
        IsEntryName name ∧ l' = l ++ [name]) := by
  unfold step
  cases h : t.at? l with
  | none => simp
  | some e =>
    cases e with
    | file contents => simp
    | locked => simp
    | directory =>
      have hok (k : Location) : (.ok k : Except DiskError Location) = .ok l' ↔ l' = k := by
        rw [Except.ok.injEq, eq_comm]
      have hlong : nameLimit < name.utf8ByteSize → ¬ IsEntryName name :=
        fun hlt hn => absurd hn.short (Nat.not_le.2 hlt)
      simp only [Bool.or_eq_true, decide_eq_true_eq, true_and]
      split
      · next hstay =>
        have hn : ¬ IsEntryName name := fun hn => hstay.elim hn.ne_empty hn.ne_dot
        have hup : name ≠ ".." := by
          rintro rfl
          revert hstay
          decide
        simp only [hok, hstay, hn, hup, true_and, false_and, or_false]
      · next hstay =>
        split
        · next hup =>
          subst hup
          have hn : ¬ IsEntryName ".." := fun hn => hn.ne_dots rfl
          simp only [hok, hstay, hn, true_and, false_and, or_false, false_or]
        · next hup =>
          split
          · next hlt => simp [hstay, hup, hlong hlt]
          · next hlt =>
            push Not at hstay
            have hn : IsEntryName name := ⟨hstay.1, hstay.2, hup, Nat.le_of_not_lt hlt⟩
            simp only [hok, hstay.1, hstay.2, hn, hup, true_and, false_and, or_self, false_or]

theorem at?_of_step (h : t.step l name = .ok l') : t.at? l = some .directory :=
  (step_eq_ok_iff.1 h).1

theorem eq_append_of_step (hempty : name ≠ "") (hdot : name ≠ ".") (hdots : name ≠ "..")
    (h : t.step l name = .ok l') : l' = l ++ [name] := by
  obtain ⟨-, ⟨hstay, -⟩ | ⟨hup, -⟩ | ⟨-, rfl⟩⟩ := step_eq_ok_iff.1 h
  · exact absurd hstay (by simp [hempty, hdot])
  · exact absurd hup hdots
  · rfl

theorem eq_append_of_step_of_two_lt (hlong : 2 < name.length) (h : t.step l name = .ok l') :
    l' = l ++ [name] := by
  -- the steps that stay or go up have names of two characters at most
  have hne {short : String} (hshort : short.length ≤ 2) : name ≠ short := by
    rintro rfl
    omega
  apply eq_append_of_step _ _ _ h
  · exact hne (by decide)
  · exact hne (by decide)
  · exact hne (by decide)

structure Extends (t t' : FileTree) : Prop where
  workingDirectory : t'.workingDirectory = t.workingDirectory
  directory : ∀ l, t.at? l = some .directory → t'.at? l = some .directory

theorem Extends.refl (t : FileTree) : Extends t t := ⟨rfl, fun _ h => h⟩

theorem Extends.trans {t'' : FileTree} (h : Extends t t') (h' : Extends t' t'') : Extends t t'' where
  workingDirectory := h'.workingDirectory.trans h.workingDirectory
  directory l hl := h'.directory l (h.directory l hl)

theorem step_of_extends (h : Extends t t') (hs : t.step l name = .ok l') :
    t'.step l name = .ok l' := by
  obtain ⟨hl, hname⟩ := step_eq_ok_iff.1 hs
  exact step_eq_ok_iff.2 ⟨h.directory l hl, hname⟩

theorem foldlM_step_of_extends (h : Extends t t') (hw : names.foldlM t.step l = .ok l') :
    names.foldlM t'.step l = .ok l' := by
  induction names generalizing l with
  | nil => exact hw
  | cons name names ih =>
    rw [List.foldlM_cons, bind_eq_ok_iff] at hw ⊢
    obtain ⟨l₁, hstep, hrest⟩ := hw
    exact ⟨l₁, step_of_extends h hstep, ih hrest⟩

def follow (t : FileTree) (path : String) : Except DiskError Location :=
  (segments path).foldlM t.step (t.origin path)

theorem locate_eq_ok_iff :
    t.locate path = .ok l ↔ pathFault? path = none ∧ t.follow path = .ok l := by
  unfold locate follow
  cases pathFault? path <;> simp

theorem follow_of_extends (h : Extends t t') (hf : t.follow path = .ok l) :
    t'.follow path = .ok l := by
  have horigin : t'.origin path = t.origin path := by rw [origin, origin, h.workingDirectory]
  unfold follow at hf ⊢
  rw [horigin]
  exact foldlM_step_of_extends h hf

theorem locate_of_extends (h : Extends t t') (hl : t.locate path = .ok l) :
    t'.locate path = .ok l := by
  obtain ⟨hfault, hf⟩ := locate_eq_ok_iff.1 hl
  exact locate_eq_ok_iff.2 ⟨hfault, follow_of_extends h hf⟩

theorem openAt_eq_ok_file_iff {body : List UInt8} : t.openAt path = .ok (.file body) ↔
    ∃ l, t.locate path = .ok l ∧ t.at? l = some (.file body) := by
  unfold openAt
  simp only [bind_eq_ok_iff]
  refine exists_congr fun l => and_congr_right fun _ => ?_
  split
  · next h => simp [h, throw, throwThe, MonadExceptOf.throw]
  · next h => simp [h, throw, throwThe, MonadExceptOf.throw]
  · next e _ h => simp [h, pure, Except.pure]

section Join

variable {dir : String}

theorem segments_append_slash (dir : String) (hname : '/' ∉ name.toList) :
    segments (dir ++ "/" ++ name) = segments dir ++ [name] := by
  have hlist : (dir ++ "/" ++ name).toList = dir.toList ++ '/' :: name.toList := by simp
  unfold segments Text.segments
  rw [hlist, Text.split_append_cons, Text.split_of_notMem hname, List.map_append]
  simp

theorem foldlM_step_concat :
    (names ++ [name]).foldlM t.step l = .ok l' ↔
      ∃ k, names.foldlM t.step l = .ok k ∧ t.step k name = .ok l' := by
  rw [List.foldlM_append, bind_eq_ok_iff]
  simp only [List.foldlM_cons, List.foldlM_nil, bind_pure]

theorem exists_step_after_empty :
    (∃ k, (names ++ [""]).foldlM t.step l = .ok k ∧ t.step k name = .ok l') ↔
      ∃ k, names.foldlM t.step l = .ok k ∧ t.step k name = .ok l' := by
  simp only [foldlM_step_concat]
  constructor
  · rintro ⟨k, ⟨k', hw, hempty⟩, hstep⟩
    obtain ⟨-, ⟨-, rfl⟩ | ⟨hup, -⟩ | ⟨hn, -⟩⟩ := step_eq_ok_iff.1 hempty
    · exact ⟨_, hw, hstep⟩
    · exact absurd hup (by decide)
    · exact absurd rfl hn.ne_empty
  · rintro ⟨k, hw, hstep⟩
    exact ⟨k, ⟨k, hw, step_eq_ok_iff.2 ⟨at?_of_step hstep, .inl ⟨.inl rfl, rfl⟩⟩⟩, hstep⟩

theorem origin_append (hdir : dir ≠ "") (rest : String) : t.origin (dir ++ rest) = t.origin dir := by
  have hlist : dir.toList ≠ [] := by simpa using hdir
  rw [origin, origin, String.toList_append, List.head?_append_of_ne_nil _ hlist]

theorem origin_of_notMem (hname : '/' ∉ name.toList) : t.origin name = t.workingDirectory := by
  have hhead : name.toList.head? ≠ some '/' := fun h => hname (List.mem_of_head? h)
  rw [origin, if_neg hhead]

theorem exists_eq_append_slash (hslash : dir.toList.getLast? = some '/') :
    ∃ outer, dir = outer ++ "/" := by
  obtain ⟨cs, hcs⟩ := List.getLast?_eq_some_iff.1 hslash
  refine ⟨String.ofList cs, ?_⟩
  rw [← String.toList_inj, hcs]
  simp

theorem follow_join_eq_ok_iff (hname : '/' ∉ name.toList) :
    t.follow (Path.join dir name) = .ok l ↔ ∃ k, t.follow dir = .ok k ∧ t.step k name = .ok l := by
  unfold follow Path.join
  split
  · next hdir =>
    have hnone : segments "" = [] ++ [""] := by decide
    have hsegments : segments name = [] ++ [name] := by
      simp [segments, Text.segments, Text.split_of_notMem hname]
    have horigin : t.origin name = t.origin "" := by
      rw [origin_of_notMem hname, origin_of_notMem (by decide)]
    rw [hdir, hnone, exists_step_after_empty, hsegments, foldlM_step_concat, horigin]
  · next hdir =>
    split
    · next hslash =>
      have horigin := origin_append (t := t) hdir name
      obtain ⟨outer, rfl⟩ := exists_eq_append_slash hslash
      have hempty : segments (outer ++ "/") = segments outer ++ [""] := by
        simpa using segments_append_slash outer (show '/' ∉ "".toList by decide)
      rw [horigin, segments_append_slash outer hname, foldlM_step_concat, hempty,
        exists_step_after_empty]
    · have horigin : t.origin (dir ++ "/" ++ name) = t.origin dir := by
        rw [String.append_assoc, origin_append hdir]
      rw [horigin, segments_append_slash dir hname, foldlM_step_concat]

end Join

section FileName

theorem mem_names_of_fileName? (h : Path.fileName? path = some name) : name ∈ Path.names path :=
  List.mem_of_getLast? (Option.filter_eq_some_iff.1 h).1

theorem slash_notMem_of_fileName? (h : Path.fileName? path = some name) : '/' ∉ name.toList := by
  have hmem := (List.mem_filter.1 (mem_names_of_fileName? h)).1
  obtain ⟨s, hs, rfl⟩ := List.mem_map.1 hmem
  rw [String.toList_ofList]
  exact Text.notMem_of_mem_split hs

theorem exists_eq_append_of_follow (hf : t.follow path = .ok l) (hl : t.at? l ≠ some .directory)
    (hname : Path.fileName? path = some name) : ∃ outer, l = outer ++ [name] := by
  have hsegments : segments path ≠ [] := by
    simpa [segments, Text.segments] using Text.split_ne_nil '/' path.toList
  obtain ⟨init, last, hlast⟩ := (List.eq_nil_or_concat' _).resolve_left hsegments
  rw [follow, hlast, foldlM_step_concat] at hf
  obtain ⟨k, -, hstep⟩ := hf
  have hk := at?_of_step hstep
  -- a step that stays ends at a directory, and the path leads to something else
  have hstay : ¬ (last = "" ∨ last = ".") := by
    intro hstay
    obtain ⟨-, ⟨-, rfl⟩ | ⟨hup, -⟩ | ⟨hn, -⟩⟩ := step_eq_ok_iff.1 hstep
    · exact hl hk
    · rcases hstay with rfl | rfl <;> exact absurd hup (by decide)
    · exact hstay.elim hn.ne_empty hn.ne_dot
  push Not at hstay
  have hnames : (Path.names path).getLast? = some last := by
    have hfilter : Path.names path =
        (init ++ [last]).filter fun s => s ≠ "" && s ≠ "." := congrArg _ hlast
    rw [hfilter, List.filter_append]
    simp [hstay.1, hstay.2]
  obtain ⟨hsome, hdots⟩ := Option.filter_eq_some_iff.1 hname
  obtain rfl : last = name := Option.some.inj (hnames.symm.trans hsome)
  exact ⟨k, eq_append_of_step hstay.1 hstay.2 (by simpa using hdots) hstep⟩

end FileName

end FileTree

end RateSweep
