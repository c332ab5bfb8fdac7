import Mathlib
import RateSweep.Pattern.Wellformed

namespace RateSweep.Pattern

variable {m : Mode} {cs rest : List Char}

theorem skipRemarks_suffix (inside : Bool) (cs : List Char) : skipRemarks inside cs <:+ cs := by
  fun_induction skipRemarks inside cs with
  | case1 => exact List.suffix_rfl
  | case2 c cs ih => exact ih.trans (List.suffix_cons c cs)
  | case3 c cs _ ih => exact ih.trans (List.suffix_cons c cs)
  | case4 cs _ ih => exact ih.trans (List.suffix_cons '#' cs)
  | case5 => exact List.suffix_rfl

namespace Mode

theorem skip_suffix (m : Mode) (cs : List Char) : m.skip cs <:+ cs := by
  unfold skip
  split
  · exact skipRemarks_suffix false cs
  · exact List.suffix_rfl

theorem suffix_of_skip_eq_cons {c : Char} (h : m.skip cs = c :: rest) : rest <:+ cs :=
  (List.suffix_cons c rest).trans (h ▸ m.skip_suffix cs)

theorem length_lt_of_skip_eq_cons {c : Char} (h : m.skip cs = c :: rest) :
    rest.length < cs.length := by
  have hle := (m.skip_suffix cs).length_le
  rw [h, List.length_cons] at hle
  exact hle

theorem suffix_of_hexDigits {width k n : Nat} (h : m.hexDigits width k cs = some (n, rest)) :
    rest <:+ cs := by
  induction width generalizing k cs with
  | zero =>
    obtain ⟨-, rfl⟩ := Prod.mk.inj (Option.some.inj h)
    exact m.skip_suffix cs
  | succ width ih =>
    rw [hexDigits] at h
    split at h
    · next d ds hskip =>
      obtain ⟨v, -, h⟩ := Option.bind_eq_some_iff.1 h
      exact (ih h).trans (suffix_of_skip_eq_cons hskip)
    · cases h

theorem suffix_of_codePoint {width : Nat} {a : Atom} (h : m.codePoint width cs = some (a, rest)) :
    rest <:+ cs := by
  obtain ⟨⟨n, behind⟩, hdigits, h⟩ := Option.bind_eq_some_iff.1 h
  dsimp only at h
  split at h
  · obtain ⟨-, rfl⟩ := Prod.mk.inj (Option.some.inj h)
    exact suffix_of_hexDigits hdigits
  · cases h

theorem suffix_of_escape {a : Atom} (h : m.escape cs = some (a, rest)) : rest <:+ cs := by
  unfold escape at h
  split at h
  · cases h
  · obtain ⟨⟨n, behind⟩, hdigits, h⟩ := Option.bind_eq_some_iff.1 h
    obtain ⟨-, rfl⟩ := Prod.mk.inj (Option.some.inj h)
    exact (suffix_of_hexDigits hdigits).trans (List.suffix_cons _ _)
  · exact (suffix_of_codePoint h).trans (List.suffix_cons _ _)
  · exact (suffix_of_codePoint h).trans (List.suffix_cons _ _)
  · next c cs _ _ _ =>
    split at h
    · split at h
      · next hskip =>
        obtain ⟨-, rfl⟩ := Prod.mk.inj (Option.some.inj h)
        exact (m.skip_suffix _).trans ((suffix_of_skip_eq_cons hskip).trans (List.suffix_cons _ _))
      · cases h
    · split at h
      · obtain ⟨-, rfl⟩ := Prod.mk.inj (Option.some.inj h)
        exact List.suffix_cons _ _
      · split at h
        · obtain ⟨-, rfl⟩ := Prod.mk.inj (Option.some.inj h)
          exact List.suffix_cons _ _
        · cases h

theorem suffix_of_item {a : Atom} (h : m.item cs = some (a, rest)) : rest <:+ cs := by
  unfold item at h
  split at h
  · cases h
  · exact (suffix_of_escape h).trans (List.suffix_cons _ _)
  · obtain ⟨-, rfl⟩ := Prod.mk.inj (Option.some.inj h)
    exact List.suffix_cons _ _

theorem length_lt_of_item {a : Atom} (h : m.item cs = some (a, rest)) :
    rest.length < cs.length := by
  unfold item at h
  split at h
  · cases h
  · exact Nat.lt_succ_of_le (suffix_of_escape h).length_le
  · obtain ⟨-, rfl⟩ := Prod.mk.inj (Option.some.inj h)
    exact Nat.lt_succ_self _

theorem exists_item_of_range (h : m.range cs = some rest) :
    ∃ a behind, m.item cs = some (a, behind) ∧ rest <:+ behind := by
  obtain ⟨⟨first, behind⟩, hfirst, h⟩ := Option.bind_eq_some_iff.1 h
  refine ⟨first, behind, hfirst, ?_⟩
  have hskip := m.skip_suffix behind
  dsimp only at h
  split at h
  · cases h
  · next hyphen =>
    split at h
    · obtain ⟨⟨last, behind'⟩, hlast, h⟩ := Option.bind_eq_some_iff.1 h
      split at h
      · obtain rfl := Option.some.inj h
        exact (suffix_of_item hlast).trans
          ((m.skip_suffix _).trans (suffix_of_skip_eq_cons hyphen))
      · cases h
    · split at h
      · obtain rfl := Option.some.inj h
        exact hyphen ▸ hskip
      · cases h
  · split at h
    · obtain rfl := Option.some.inj h
      exact hskip
    · cases h

theorem suffix_of_range (h : m.range cs = some rest) : rest <:+ cs := by
  obtain ⟨a, behind, hitem, hrest⟩ := exists_item_of_range h
  exact hrest.trans (suffix_of_item hitem)

theorem length_lt_of_range (h : m.range cs = some rest) : rest.length < cs.length := by
  obtain ⟨a, behind, hitem, hrest⟩ := exists_item_of_range h
  exact hrest.length_le.trans_lt (length_lt_of_item hitem)

end Mode

theorem suffix_of_asciiClass? {negated : Bool} (h : asciiClass? cs = some (negated, rest)) :
    rest <:+ cs := by
  unfold asciiClass? at h
  split at h
  · next behind =>
    split at h
    next negated' cs hfront =>
    have hcs : cs <:+ behind := by
      split at hfront
      · obtain ⟨-, rfl⟩ := Prod.mk.inj hfront
        exact List.suffix_cons _ _
      · obtain ⟨-, rfl⟩ := Prod.mk.inj hfront
        exact List.suffix_rfl
    dsimp only at h
    split at h
    · next hdrop =>
      split at h
      · obtain ⟨-, rfl⟩ := Prod.mk.inj (Option.some.inj h)
        have hrest := hdrop ▸ List.drop_suffix _ cs
        exact ((List.suffix_cons _ _).trans (List.suffix_cons _ _)).trans
          (hrest.trans (hcs.trans (List.suffix_cons _ _)))
      · cases h
    · cases h
  · cases h

theorem suffix_of_leadingHyphens {fuel : Nat} {c c' : OpenClass}
    (h : leadingHyphens m fuel c cs = some (c', rest)) : rest <:+ cs := by
  induction fuel generalizing c cs with
  | zero => cases h
  | succ fuel ih =>
    have hskip := m.skip_suffix cs
    rw [leadingHyphens] at h
    split at h
    · cases h
    · next hcons => exact (ih h).trans (Mode.suffix_of_skip_eq_cons hcons)
    · next hcons =>
      split at h
      · obtain ⟨-, rfl⟩ := Prod.mk.inj (Option.some.inj h)
        exact Mode.suffix_of_skip_eq_cons hcons
      · obtain ⟨-, rfl⟩ := Prod.mk.inj (Option.some.inj h)
        exact hcons ▸ hskip
    · obtain ⟨-, rfl⟩ := Prod.mk.inj (Option.some.inj h)
      exact hskip

theorem leadingHyphens_eq_of_fuel {fuel fuel' : Nat} {c : OpenClass} (h : cs.length < fuel)
    (h' : cs.length < fuel') : leadingHyphens m fuel c cs = leadingHyphens m fuel' c cs := by
  induction fuel generalizing c cs fuel' with
  | zero => omega
  | succ fuel ih =>
    obtain ⟨fuel', rfl⟩ := Nat.exists_eq_add_one_of_ne_zero (Nat.ne_zero_of_lt h')
    rw [leadingHyphens, leadingHyphens]
    split
    · rfl
    · next hcons =>
      have hlt := Mode.length_lt_of_skip_eq_cons hcons
      exact ih (by omega) (by omega)
    · rfl
    · rfl

theorem suffix_of_openClass {c : OpenClass} (h : openClass m cs = some (c, rest)) : rest <:+ cs := by
  have hskip := m.skip_suffix cs
  unfold openClass at h
  split at h
  · next hcons =>
    split at h
    · exact (suffix_of_leadingHyphens h).trans (Mode.suffix_of_skip_eq_cons hcons)
    · cases h
  · exact (suffix_of_leadingHyphens h).trans hskip

theorem suffix_of_readClass {fuel depth : Nat} {c : OpenClass} {outer : List OpenClass}
    (h : readClass m fuel c outer cs = some (depth, rest)) : rest <:+ cs := by
  induction fuel generalizing c outer cs with
  | zero => cases h
  | succ fuel ih =>
    have hskip := m.skip_suffix cs
    rw [readClass] at h
    split at h
    · cases h
    · next hcons =>
      have hbehind := Mode.suffix_of_skip_eq_cons hcons
      split at h
      · next hclass =>
        split at h
        · exact (ih h).trans ((suffix_of_asciiClass? hclass).trans hbehind)
        · cases h
      · obtain ⟨⟨inner, behind⟩, hopen, h⟩ := Option.bind_eq_some_iff.1 h
        exact (ih h).trans ((suffix_of_openClass hopen).trans hbehind)
    · next hcons =>
      have hbehind := Mode.suffix_of_skip_eq_cons hcons
      split at h
      · obtain ⟨-, rfl⟩ := Prod.mk.inj (Option.some.inj h)
        exact hbehind
      · exact (ih h).trans hbehind
    · next hcons =>
      exact (ih h).trans ((List.suffix_cons _ _).trans (Mode.suffix_of_skip_eq_cons hcons))
    · next hcons =>
      exact (ih h).trans ((List.suffix_cons _ _).trans (Mode.suffix_of_skip_eq_cons hcons))
    · next hcons =>
      exact (ih h).trans ((List.suffix_cons _ _).trans (Mode.suffix_of_skip_eq_cons hcons))
    · obtain ⟨behind, hrange, h⟩ := Option.bind_eq_some_iff.1 h
      exact (ih h).trans ((Mode.suffix_of_range hrange).trans hskip)

theorem readClass_eq_of_fuel {fuel fuel' : Nat} {c : OpenClass} {outer : List OpenClass}
    (h : cs.length < fuel) (h' : cs.length < fuel') :
    readClass m fuel c outer cs = readClass m fuel' c outer cs := by
  induction fuel generalizing c outer cs fuel' with
  | zero => omega
  | succ fuel ih =>
    obtain ⟨fuel', rfl⟩ := Nat.exists_eq_add_one_of_ne_zero (Nat.ne_zero_of_lt h')
    have hskip := (m.skip_suffix cs).length_le
    rw [readClass, readClass]
    split
    · rfl
    · next hcons =>
      have hlt := Mode.length_lt_of_skip_eq_cons hcons
      split
      · next hclass =>
        have hle := (suffix_of_asciiClass? hclass).length_le
        split
        · exact ih (by omega) (by omega)
        · rfl
      · apply Option.bind_congr
        rintro ⟨inner, behind⟩ hopen
        have hle := (suffix_of_openClass hopen).length_le
        exact ih (by omega) (by omega)
    · next hcons =>
      have hlt := Mode.length_lt_of_skip_eq_cons hcons
      split
      · rfl
      · exact ih (by omega) (by omega)
    · next hcons =>
      have hlt := Mode.length_lt_of_skip_eq_cons hcons
      rw [List.length_cons] at hlt
      exact ih (by omega) (by omega)
    · next hcons =>
      have hlt := Mode.length_lt_of_skip_eq_cons hcons
      rw [List.length_cons] at hlt
      exact ih (by omega) (by omega)
    · next hcons =>
      have hlt := Mode.length_lt_of_skip_eq_cons hcons
      rw [List.length_cons] at hlt
      exact ih (by omega) (by omega)
    · apply Option.bind_congr
      intro behind hrange
      have hlt := Mode.length_lt_of_range hrange
      exact ih (by omega) (by omega)

theorem suffix_of_bracket {depth : Nat} (h : m.bracket cs = some (depth, rest)) : rest <:+ cs := by
  obtain ⟨⟨c, behind⟩, hopen, h⟩ := Option.bind_eq_some_iff.1 h
  exact (suffix_of_readClass h).trans (suffix_of_openClass hopen)

theorem suffix_of_groupName? {name : List Char} (h : groupName? cs = some (name, rest)) :
    rest <:+ cs := by
  unfold groupName? at h
  dsimp only at h
  split at h
  · next hdrop =>
    split at h
    · obtain ⟨-, rfl⟩ := Prod.mk.inj (Option.some.inj h)
      exact (List.suffix_cons _ _).trans (hdrop ▸ List.drop_suffix _ cs)
    · cases h
  · cases h

theorem suffix_of_readFlags {m' : Mode} {seen : List Char} {some? : Bool}
    (h : readFlags m seen cs = some (m', some?, rest)) : rest <:+ cs := by
  induction cs generalizing m seen with
  | nil => cases h
  | cons c cs ih =>
    rw [readFlags] at h
    split at h
    · split at h
      · cases h
      · obtain ⟨-, h⟩ := Prod.mk.inj (Option.some.inj h)
        obtain ⟨-, rfl⟩ := Prod.mk.inj h
        exact List.suffix_rfl
    · split at h
      · cases h
      · split at h
        · exact (ih h).trans (List.suffix_cons _ _)
        · split at h
          · exact (ih h).trans (List.suffix_cons _ _)
          · cases h

theorem Mode.suffix_of_opening {o : Opening} (h : m.opening cs = some (o, rest)) : rest <:+ cs := by
  have hskip := m.skip_suffix cs
  refine List.IsSuffix.trans ?_ hskip
  unfold opening at h
  dsimp only at h
  split at h
  · cases h
  · cases h
  · cases h
  · cases h
  · next hcons =>
    obtain ⟨⟨name, behind⟩, hname, h⟩ := Option.bind_eq_some_iff.1 h
    obtain ⟨-, rfl⟩ := Prod.mk.inj (Option.some.inj h)
    exact hcons ▸ (suffix_of_groupName? hname).trans (List.suffix_append ['?', 'P', '<'] _)
  · next hcons =>
    obtain ⟨⟨name, behind⟩, hname, h⟩ := Option.bind_eq_some_iff.1 h
    obtain ⟨-, rfl⟩ := Prod.mk.inj (Option.some.inj h)
    exact hcons ▸ (suffix_of_groupName? hname).trans (List.suffix_append ['?', '<'] _)
  · next hcons =>
    rw [hcons]
    split at h
    · next hflags =>
      obtain ⟨-, rfl⟩ := Prod.mk.inj (Option.some.inj h)
      exact (List.suffix_cons _ _).trans ((suffix_of_readFlags hflags).trans (List.suffix_cons _ _))
    · next hflags =>
      obtain ⟨-, rfl⟩ := Prod.mk.inj (Option.some.inj h)
      exact (List.suffix_cons _ _).trans ((suffix_of_readFlags hflags).trans (List.suffix_cons _ _))
    · cases h
  · obtain ⟨-, rfl⟩ := Prod.mk.inj (Option.some.inj h)
    exact List.suffix_rfl

def isOperator (c : Char) : Bool :=
  ['(', ')', '|', '[', '\x7b', '\\', '.', '^', '$', '?', '*', '+'].contains c

namespace Reading

variable {r r' : Reading}

theorem suffix_of_part {c : Char} (h : r.part c cs = some (r', rest)) : rest <:+ cs := by
  unfold part at h
  split at h
  case h_1 =>
    obtain ⟨⟨o, behind⟩, hopening, h⟩ := Option.bind_eq_some_iff.1 h
    refine List.IsSuffix.trans ?_ (Mode.suffix_of_opening hopening)
    cases o with
    | group name inside =>
      obtain ⟨r₁, -, h⟩ := Option.bind_eq_some_iff.1 h
      obtain ⟨-, rfl⟩ := Prod.mk.inj (Option.some.inj h)
      exact List.suffix_rfl
    | setting mode =>
      obtain ⟨-, rfl⟩ := Prod.mk.inj (Option.some.inj h)
      exact List.suffix_rfl
  case h_3 =>
    obtain ⟨-, rfl⟩ := Prod.mk.inj (Option.some.inj h)
    exact List.suffix_rfl
  case h_4 =>
    obtain ⟨⟨depth, behind⟩, hbracket, h⟩ := Option.bind_eq_some_iff.1 h
    obtain ⟨-, rfl⟩ := Prod.mk.inj (Option.some.inj h)
    exact suffix_of_bracket hbracket
  case h_5 => cases h
  case h_6 =>
    obtain ⟨⟨a, behind⟩, hescape, h⟩ := Option.bind_eq_some_iff.1 h
    obtain ⟨r₁, -, h⟩ := Option.bind_eq_some_iff.1 h
    obtain ⟨-, rfl⟩ := Prod.mk.inj (Option.some.inj h)
    exact Mode.suffix_of_escape hescape
  case h_10 =>
    split at h
    · obtain ⟨body, -, h⟩ := Option.bind_eq_some_iff.1 h
      obtain ⟨-, rfl⟩ := Prod.mk.inj (Option.some.inj h)
      split
      · exact List.tail_suffix cs
      · exact List.suffix_rfl
    · obtain ⟨r₁, -, h⟩ := Option.bind_eq_some_iff.1 h
      obtain ⟨-, rfl⟩ := Prod.mk.inj (Option.some.inj h)
      exact List.suffix_rfl
  all_goals
    obtain ⟨r₁, -, h⟩ := Option.bind_eq_some_iff.1 h
    obtain ⟨-, rfl⟩ := Prod.mk.inj (Option.some.inj h)
    exact List.suffix_rfl

/-- The parts of a pattern one after the other, and how deep what they make is nested. -/
inductive Reads : Reading → List Char → Nat → Prop
  | done {r : Reading} {cs : List Char} (hend : r.mode.skip cs = []) (hclosed : r.outer = []) :
      Reads r cs r.body.depth
  | part {r r' : Reading} {c : Char} {cs behind rest : List Char} {n : Nat}
      (hnext : r.mode.skip cs = c :: behind) (hpart : r.part c behind = some (r', rest))
      (hreads : Reads r' rest n) : Reads r cs n

theorem reads_of_depth? {fuel n : Nat} (h : depth? fuel r cs = some n) : Reads r cs n := by
  induction fuel generalizing r cs with
  | zero => cases h
  | succ fuel ih =>
    rw [depth?] at h
    split at h
    · next hend =>
      split at h
      · next hclosed =>
        obtain rfl := Option.some.inj h
        exact .done hend (List.isEmpty_iff.1 hclosed)
      · cases h
    · next hnext =>
      obtain ⟨⟨r', rest⟩, hpart, h⟩ := Option.bind_eq_some_iff.1 h
      exact .part hnext hpart (ih h)

theorem Reads.depth?_eq {n : Nat} (h : Reads r cs n) {fuel : Nat} (hfuel : cs.length < fuel) :
    depth? fuel r cs = some n := by
  induction h generalizing fuel with
  | @done r cs hend hclosed =>
    obtain ⟨fuel, rfl⟩ := Nat.exists_eq_add_one_of_ne_zero (Nat.ne_zero_of_lt hfuel)
    simp [depth?, hend, hclosed]
  | @part r r' c cs behind rest n hnext hpart hreads ih =>
    obtain ⟨fuel, rfl⟩ := Nat.exists_eq_add_one_of_ne_zero (Nat.ne_zero_of_lt hfuel)
    have hlt := Mode.length_lt_of_skip_eq_cons hnext
    have hle := (suffix_of_part hpart).length_le
    have hrest : depth? fuel r' rest = some n := ih (by omega)
    rw [depth?, hnext]
    dsimp only
    rw [hpart]
    exact hrest

theorem depth?_eq_some_iff {fuel n : Nat} (hfuel : cs.length < fuel) :
    depth? fuel r cs = some n ↔ Reads r cs n :=
  ⟨reads_of_depth?, fun h => h.depth?_eq hfuel⟩

theorem part_of_not_operator {c : Char} (hc : isOperator c = false) (cs : List Char) :
    r.part c cs = some (r.add (.matching 0), cs) := by
  unfold part
  split
  case h_10 =>
    split
    · next hrepeat =>
      rw [Bool.or_eq_true, Bool.or_eq_true, decide_eq_true_eq, decide_eq_true_eq,
        decide_eq_true_eq] at hrepeat
      rcases hrepeat with (rfl | rfl) | rfl <;> cases hc
    · rfl
  all_goals cases hc

def addCharacters (r : Reading) (n : Nat) : Reading :=
  { r with body := { r.body with pieces := List.replicate n (.matching 0) ++ r.body.pieces } }

theorem add_addCharacters (r : Reading) (n : Nat) :
    (r.add (.matching 0)).addCharacters n = r.addCharacters (n + 1) := by
  simp [add, addCharacters, Body.add, List.replicate_succ']

theorem reads_of_not_operator (hmode : r.mode.verbose = false) (hclosed : r.outer = [])
    (h : ∀ c ∈ cs, isOperator c = false) : Reads r cs (r.addCharacters cs.length).body.depth := by
  have hskip (cs : List Char) : r.mode.skip cs = cs := by simp [Mode.skip, hmode]
  induction cs generalizing r with
  | nil => exact .done (hskip []) hclosed
  | cons c cs ih =>
    obtain ⟨hc, hcs⟩ := List.forall_mem_cons.1 h
    have hreads := @ih (r.add (.matching 0)) hmode hclosed hcs hskip
    rw [add_addCharacters] at hreads
    exact .part (hskip _) (part_of_not_operator hc cs) hreads

theorem depth_addCharacters_le (n : Nat) : (addCharacters {} n).body.depth ≤ 1 := by
  have hmax : ((List.replicate n (Piece.matching 0)).map Piece.depth).foldr max 0 = 0 := by
    induction n with
    | zero => rfl
    | succ n ih => simpa [List.replicate_succ, Piece.depth] using ih
  match n with
  | 0 => decide
  | 1 => decide
  | n + 2 =>
    simp only [addCharacters, List.append_nil]
    exact Nat.succ_le_succ hmax.le

end Reading

theorem isWellformed_iff : isWellformed cs = true ↔ ∃ n ≤ nestingLimit, Reading.Reads {} cs n := by
  rw [isWellformed, Option.any_eq_true]
  simp only [Reading.depth?_eq_some_iff (Nat.lt_succ_self _), decide_eq_true_eq, and_comm]

theorem isWellformed_of_not_operator (h : ∀ c ∈ cs, isOperator c = false) :
    isWellformed cs = true :=
  isWellformed_iff.2 ⟨_, (Reading.depth_addCharacters_le cs.length).trans (by decide),
    Reading.reads_of_not_operator rfl rfl h⟩

end RateSweep.Pattern
