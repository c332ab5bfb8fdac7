import RateSweep.Log.Queue
import RateSweep.Proofs.TrimmedText
import RateSweep.Text.Segments

namespace RateSweep

open Text

namespace QueueSnapshot

/-- The second text is the first without some of its blanks, none of which keeps two digits apart.
The flag tells that a digit stands right before both. -/
inductive Loosens : Bool → List Char → List Char → Prop
  | nil (d : Bool) : Loosens d [] []
  | keep (d : Bool) (c : Char) {xs ys : List Char} (h : Loosens c.isDigit xs ys) :
    Loosens d (c :: xs) (c :: ys)
  | drop {d : Bool} {b : Char} {xs ys : List Char} (hb : isBlank b = true)
    (hapart : d = true → ∀ c ∈ ys.head?, c.isDigit = false) (h : Loosens d xs ys) :
    Loosens d (b :: xs) ys

theorem isDigit_of_isBlank {c : Char} (h : isBlank c = true) : c.isDigit = false := by
  by_contra hdigit
  rw [Bool.not_eq_false, Char.isDigit_iff_toNat] at hdigit
  simp only [isBlank, Bool.or_eq_true, Bool.and_eq_true, decide_eq_true_eq, beq_iff_eq] at h
  simp at hdigit
  omega

namespace Loosens

variable {d : Bool} {xs ys : List Char}

inductive Meets : List Char → List Char → Prop
  | nil : Meets [] []
  | cons (c : Char) {xs ys : List Char} (h : Loosens c.isDigit xs ys) : Meets (c :: xs) (c :: ys)

theorem trimStart (h : Loosens d xs ys) : Meets (trimStart xs) (trimStart ys) := by
  induction h with
  | nil d => exact .nil
  | keep d c h ih =>
    by_cases hc : isBlank c = true
    · rw [Text.trimStart, Text.trimStart, List.dropWhile_cons_of_pos hc,
        List.dropWhile_cons_of_pos hc]
      exact ih
    · rw [Text.trimStart, Text.trimStart, List.dropWhile_cons_of_neg hc,
        List.dropWhile_cons_of_neg hc]
      exact .cons c h
  | drop hb hapart h ih =>
    rw [Text.trimStart, List.dropWhile_cons_of_pos hb]
    exact ih

theorem digits (h : Loosens true xs ys) :
    xs.takeWhile Char.isDigit = ys.takeWhile Char.isDigit ∧
      ∃ d, Loosens d (xs.dropWhile Char.isDigit) (ys.dropWhile Char.isDigit) := by
  generalize hd : true = d at h
  induction h with
  | nil d => exact ⟨rfl, d, .nil d⟩
  | keep d c h ih =>
    by_cases hc : c.isDigit = true
    · obtain ⟨hsame, hbehind⟩ := ih hc.symm
      simp only [List.takeWhile_cons_of_pos hc, List.dropWhile_cons_of_pos hc, hsame]
      exact ⟨trivial, hbehind⟩
    · simp only [List.takeWhile_cons_of_neg hc, List.dropWhile_cons_of_neg hc]
      exact ⟨trivial, d, .keep d c h⟩
  | @drop d b xs ys hb hapart h ih =>
    have hnodigit : ¬ b.isDigit = true := by simp [isDigit_of_isBlank hb]
    rw [List.takeWhile_cons_of_neg hnodigit, List.dropWhile_cons_of_neg hnodigit]
    cases ys with
    | nil => exact ⟨rfl, d, .drop hb hapart h⟩
    | cons c ys =>
      have hc : ¬ c.isDigit = true := by simp [hapart hd.symm c rfl]
      rw [List.takeWhile_cons_of_neg hc, List.dropWhile_cons_of_neg hc]
      exact ⟨rfl, d, .drop hb hapart h⟩

end Loosens

open Loosens (Meets)

section Reading

variable {d : Bool} {xs ys : List Char}

theorem readCount_loosens (h : Loosens d xs ys) :
    Option.Rel (fun p q => p.1 = q.1 ∧ Meets p.2 q.2) (readCount xs) (readCount ys) := by
  have hstart := h.trimStart
  simp only [readCount]
  generalize trimStart xs = us at hstart ⊢
  generalize trimStart ys = vs at hstart ⊢
  cases hstart with
  | nil => exact .none
  | cons c h =>
    by_cases hc : c.isDigit = true
    · rw [hc] at h
      obtain ⟨hsame, d, hbehind⟩ := h.digits
      simp only [List.takeWhile_cons_of_pos hc, List.dropWhile_cons_of_pos hc, hsame]
      split
      · exact .some ⟨rfl, hbehind.trimStart⟩
      · exact .none
    · rw [List.takeWhile_cons_of_neg hc, List.takeWhile_cons_of_neg hc]
      exact .none

def readCountBefore (mark : Char) (cs : List Char) : Option (UInt32 × List Char) :=
  match readCount cs with
  | some (n, c :: cs) => if c = mark then some (n, cs) else none
  | _ => none

theorem readPair_eq (cs : List Char) :
    readPair cs = (readCountBefore ',' cs).bind fun node =>
      (readCountBefore ')' node.2).map fun depth => (⟨node.1, depth.1⟩, depth.2) := by
  unfold readPair readCountBefore
  rcases readCount cs with _ | ⟨node, _ | ⟨c, cs⟩⟩
  · rfl
  · rfl
  · by_cases hc : c = ','
    · subst hc
      simp only [↓reduceIte, Option.bind_some]
      rcases readCount cs with _ | ⟨depth, _ | ⟨c, cs⟩⟩
      · rfl
      · rfl
      · by_cases hc : c = ')' <;> simp [hc]
    · simp [hc]

theorem readCountBefore_loosens (mark : Char) (hmark : mark.isDigit = false)
    (h : Loosens d xs ys) :
    Option.Rel (fun p q => p.1 = q.1 ∧ Loosens false p.2 q.2) (readCountBefore mark xs)
      (readCountBefore mark ys) := by
  have hcount := readCount_loosens h
  unfold readCountBefore
  generalize readCount xs = p at hcount ⊢
  generalize readCount ys = q at hcount ⊢
  cases hcount with
  | none => exact .none
  | @some p q hpq =>
    obtain ⟨n, us⟩ := p
    obtain ⟨n', vs⟩ := q
    obtain ⟨hn, hmeets⟩ := hpq
    cases hmeets with
    | nil => exact .none
    | @cons c us vs hbehind =>
      by_cases hc : c = mark
      · subst hc
        rw [hmark] at hbehind
        simpa using! Option.Rel.some ⟨hn, hbehind⟩
      · simp only [hc, ↓reduceIte]
        exact .none

theorem readPair_loosens (h : Loosens d xs ys) :
    Option.Rel (fun p q => p.1 = q.1 ∧ Loosens false p.2 q.2) (readPair xs) (readPair ys) := by
  have hnode := readCountBefore_loosens ',' (by decide) h
  rw [readPair_eq, readPair_eq]
  generalize readCountBefore ',' xs = p at hnode ⊢
  generalize readCountBefore ',' ys = q at hnode ⊢
  cases hnode with
  | none => exact .none
  | @some p q hpq =>
    have hdepth := readCountBefore_loosens ')' (by decide) hpq.2
    simp only [Option.bind_some]
    generalize readCountBefore ')' p.2 = p' at hdepth ⊢
    generalize readCountBefore ')' q.2 = q' at hdepth ⊢
    cases hdepth with
    | none => exact .none
    | some hpq' => exact .some ⟨by simp only [hpq.1, hpq'.1], hpq'.2⟩

theorem isGap_of_isBlank {c : Char} (h : isBlank c = true) : isGap c = true := by simp [isGap, h]

theorem readEntries_cons (c : Char) (cs : List Char) :
    readEntries (c :: cs) =
      if isGap c then readEntries cs
      else if c = '(' then (readPair cs).bind fun p => (readEntries p.2).map (p.1 :: ·)
      else none := by
  conv => lhs; unfold readEntries
  dsimp only
  refine if_congr Iff.rfl rfl (if_congr Iff.rfl ?_ rfl)
  split
  · next h => rw [h]; rfl
  · next h => rw [h]; rfl

theorem readEntries_loosens (h : Loosens d xs ys) : readEntries xs = readEntries ys := by
  -- on the length, since a pair takes more than one character
  induction hn : xs.length using Nat.strong_induction_on generalizing d xs ys with
  | h n ih =>
    cases h with
    | nil => rfl
    | @drop _ b xs ys hb hapart h =>
      rw [readEntries_cons, if_pos (isGap_of_isBlank hb)]
      exact ih _ (by simp [← hn]) h rfl
    | @keep _ c xs ys h =>
      rw [readEntries_cons, readEntries_cons, ih _ (by simp [← hn]) h rfl]
      split
      · rfl
      · split
        · have hpair := readPair_loosens h
          have hlt : ∀ p, readPair xs = some p → p.2.length < n := fun p hp => by
            have := length_of_readPair hp
            simp only [← hn, List.length_cons]
            omega
          generalize readPair xs = p at hpair hlt ⊢
          generalize readPair ys = q at hpair ⊢
          cases hpair with
          | none => rfl
          | @some p q hpq =>
            simp only [Option.bind_some]
            rw [hpq.1, ih _ (hlt p rfl) hpq.2 rfl]
        · rfl

end Reading

section Ends

variable {xs ys : List Char}

theorem loosens_trimEnd (d : Bool) (cs : List Char) : Loosens d cs (trimEnd cs) := by
  induction cs generalizing d with
  | nil => exact .nil d
  | cons c cs ih =>
    rw [trimEnd_cons]
    split
    · next h =>
      have hempty := ih d
      rw [h.1] at hempty
      exact .drop h.2 (by simp) hempty
    · exact .keep d c (ih c.isDigit)

theorem loosens_trimChars (cs : List Char) : Loosens false cs (trimChars cs) := by
  induction cs with
  | nil => exact .nil false
  | cons c cs ih =>
    by_cases hc : isBlank c = true
    · rw [trimChars, trimStart, List.dropWhile_cons_of_pos hc]
      exact .drop hc (by simp) ih
    · rw [trimChars, trimStart, List.dropWhile_cons_of_neg hc]
      exact loosens_trimEnd false (c :: cs)

theorem Loosens.comma_append {d : Bool} {us vs : List Char} (h : Loosens d xs ys)
    (hbehind : Loosens false us vs) : Loosens d (xs ++ ',' :: us) (ys ++ ',' :: vs) := by
  induction h with
  | nil d => exact .keep d ',' hbehind
  | keep d c h ih => exact .keep d c ih
  | @drop d b xs ys hb hapart h ih =>
    refine .drop hb (fun hd c hc => ?_) ih
    cases ys with
    | nil =>
      obtain rfl : ',' = c := by simpa using hc
      decide
    | cons y ys => exact hapart hd c hc

theorem loosens_join (ss : List (List Char)) :
    Loosens false (join ',' ss) (join ',' (ss.map trimChars)) := by
  induction ss with
  | nil => exact .nil false
  | cons s ss ih =>
    cases ss with
    | nil => exact loosens_trimChars s
    | cons t ss =>
      rw [List.map_cons, join_cons _ s (by simp), join_cons _ (trimChars s) (by simp)]
      exact (loosens_trimChars s).comma_append ih

def tight (cs : List Char) : List Char := join ',' ((split ',' cs).map trimChars)

theorem loosens_tight (cs : List Char) : Loosens false cs (tight cs) := by
  have h := loosens_join (split ',' cs)
  rwa [join_split] at h

theorem readEntries_trimChars (cs : List Char) : readEntries (trimChars cs) = readEntries cs :=
  (readEntries_loosens (loosens_trimChars cs)).symm

theorem readEntries_tight (cs : List Char) : readEntries (tight cs) = readEntries cs :=
  (readEntries_loosens (loosens_tight cs)).symm

end Ends

section Tight

theorem mem_of_mem_trimChars {c : Char} {cs : List Char} (h : c ∈ trimChars cs) : c ∈ cs := by
  have hstart := (List.dropWhile_sublist isBlank).mem (List.mem_reverse.1 h)
  exact (List.dropWhile_sublist isBlank).mem (List.mem_reverse.1 hstart)

theorem split_tight (cs : List Char) : split ',' (tight cs) = (split ',' cs).map trimChars := by
  refine split_join (by simp [split_ne_nil]) fun s hs => ?_
  obtain ⟨s', hs', rfl⟩ := List.mem_map.1 hs
  exact fun hm => notMem_of_mem_split hs' (mem_of_mem_trimChars hm)

theorem tight_tight (cs : List Char) : tight (tight cs) = tight cs := by
  rw [tight, split_tight, List.map_map, tight]
  congr 1
  exact List.map_congr_left fun s _ => trimChars_trimChars s

theorem tight_of_notMem {cs : List Char} (h : ',' ∉ cs) : tight cs = trimChars cs := by
  rw [tight, split_of_notMem h]
  rfl

theorem Loosens.mem_iff {d : Bool} {xs ys : List Char} (h : Loosens d xs ys) {c : Char}
    (hc : isBlank c = false) : c ∈ xs ↔ c ∈ ys := by
  induction h with
  | nil d => rfl
  | keep d c' h ih => simp [ih]
  | drop hb hapart h ih =>
    rw [List.mem_cons, ih]
    refine or_iff_right ?_
    rintro rfl
    rw [hb] at hc
    cases hc

theorem trimChars_eq_nil_iff_tight (cs : List Char) : trimChars cs = [] ↔ tight cs = [] := by
  have htrim := (loosens_trimChars cs).mem_iff (c := ',') (by decide)
  have htight := (loosens_tight cs).mem_iff (c := ',') (by decide)
  by_cases hcomma : ',' ∈ cs
  · exact iff_of_false (List.ne_nil_of_mem (htrim.1 hcomma)) (List.ne_nil_of_mem (htight.1 hcomma))
  · rw [tight_of_notMem hcomma]

theorem map_trimChars_split_trimStart (cs : List Char) :
    (split ',' (trimStart cs)).map trimChars = (split ',' cs).map trimChars := by
  induction cs with
  | nil => rfl
  | cons c cs ih =>
    by_cases hc : isBlank c = true
    · have hcomma : c ≠ ',' := by
        rintro rfl
        exact absurd hc (by decide)
      have hfront (s : List Char) : trimChars (c :: s) = trimChars s := by
        rw [trimChars, trimStart, List.dropWhile_cons_of_pos hc]
        rfl
      rw [trimStart, List.dropWhile_cons_of_pos hc, split_cons, if_neg hcomma]
      refine ih.trans ?_
      cases split ',' cs with
      | nil => rfl
      | cons s ss => simp [hfront]
    · rw [trimStart, List.dropWhile_cons_of_neg hc]

theorem map_trimEnd_modifyHead (c : Char) (ss : List (List Char)) :
    (ss.modifyHead (c :: ·)).map trimEnd =
      (ss.map trimEnd).modifyHead fun s => trimEnd (c :: s) := by
  cases ss with
  | nil => rfl
  | cons s ss => simp [trimEnd_cons, trimEnd_trimEnd]

theorem map_trimEnd_split_trimEnd (cs : List Char) :
    (split ',' (trimEnd cs)).map trimEnd = (split ',' cs).map trimEnd := by
  induction cs with
  | nil => rfl
  | cons c cs ih =>
    by_cases hcomma : c = ','
    · have hblank : isBlank ',' = false := by decide
      subst hcomma
      simp [trimEnd_cons, hblank, split_cons, ih]
    · rw [split_cons, if_neg hcomma, map_trimEnd_modifyHead, ← ih, trimEnd_cons]
      split
      · next h =>
        rw [h.1]
        simp [split, trimEnd, h.2]
      · rw [split_cons, if_neg hcomma, map_trimEnd_modifyHead]

theorem map_trimChars_split_trimEnd (cs : List Char) :
    (split ',' (trimEnd cs)).map trimChars = (split ',' cs).map trimChars := by
  have hend : trimChars ∘ trimEnd = trimChars :=
    funext fun s => trimChars_dropWhile_reverse (fun _ h => h) s
  rw [← hend, ← List.map_map, map_trimEnd_split_trimEnd, List.map_map]

theorem tight_trimChars (cs : List Char) : tight (trimChars cs) = tight cs := by
  rw [tight, trimChars, map_trimChars_split_trimEnd, map_trimChars_split_trimStart, tight]

end Tight

end QueueSnapshot

end RateSweep
