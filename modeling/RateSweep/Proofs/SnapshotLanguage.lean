import RateSweep.Proofs.NameSegments
import RateSweep.Proofs.SnapshotSpacing

/-!
The language of snapshots: pairs of decimal numbers with nothing but gaps around them
(`readEntries_eq_some_iff`). A search for pairs from the left, which takes each match away and looks
at what is left over, finds the same snapshots, whichever further digits it knows of
(`readEntries_eq_of_finds`).
-/

namespace RateSweep

open Text

/-- The digits that a search for pairs knows of: those of ASCII, and outside of ASCII any that are
no blanks. -/
structure DigitClass where
  holds : Char → Bool
  ascii : ∀ c : Char, c.toNat < 128 → holds c = c.isDigit
  apart : ∀ c, isBlank c = true → holds c = false

namespace DigitClass

def decimal : DigitClass where
  holds := Char.isDigit
  ascii _ _ := rfl
  apart _ := QueueSnapshot.isDigit_of_isBlank

variable (d : DigitClass)

inductive Padded (digits : List Char) : List Char → Prop
  | intro {before behind : List Char} (hbefore : ∀ c ∈ before, isBlank c = true)
    (hne : digits ≠ []) (hdigits : ∀ c ∈ digits, d.holds c = true)
    (hbehind : ∀ c ∈ behind, isBlank c = true) : Padded digits (before ++ digits ++ behind)

inductive IsPair (captured : List Char × List Char) : List Char → Prop
  | intro {xs ys : List Char} (hnode : d.Padded captured.1 xs) (hdepth : d.Padded captured.2 ys) :
    IsPair captured ('(' :: (xs ++ ',' :: (ys ++ [')'])))

def BeginsWithPair (cs : List Char) : Prop :=
  ∃ captured p rest, d.IsPair captured p ∧ cs = p ++ rest

inductive Finds : List Char → List (List Char × List Char) → List Char → Prop
  | ends : Finds [] [] []
  | pass {c : Char} {cs : List Char} {found : List (List Char × List Char)} {left : List Char}
    (hno : ¬ d.BeginsWithPair (c :: cs)) (h : Finds cs found left) :
    Finds (c :: cs) found (c :: left)
  | take {captured : List Char × List Char} {p cs : List Char}
    {found : List (List Char × List Char)} {left : List Char} (hp : d.IsPair captured p)
    (h : Finds cs found left) : Finds (p ++ cs) (captured :: found) left

variable {d}

theorem isDigit_of_holds {c : Char} (hc : c.toNat < 128) (h : d.holds c = true) :
    c.isDigit = true := by
  rwa [d.ascii c hc] at h

theorem holds_of_isDigit {c : Char} (h : c.isDigit = true) : d.holds c = true := by
  have hc := Char.isDigit_iff_toNat.1 h
  simp at hc
  rw [d.ascii c (by omega), h]

theorem isBlank_of_holds {c : Char} (h : d.holds c = true) : isBlank c = false := by
  by_contra hblank
  rw [d.apart c (by simpa using hblank)] at h
  cases h

theorem Padded.holds {digits cs : List Char} (h : d.Padded digits cs) :
    ∀ c ∈ digits, d.holds c = true := by
  cases h with
  | intro _ _ hdigits _ => exact hdigits

theorem Padded.of_decimal {digits cs : List Char} (h : decimal.Padded digits cs) :
    d.Padded digits cs := by
  cases h with
  | intro hbefore hne hdigits hbehind =>
    exact .intro hbefore hne (fun c hc => holds_of_isDigit (hdigits c hc)) hbehind

theorem IsPair.of_decimal {captured : List Char × List Char} {p : List Char}
    (h : decimal.IsPair captured p) : d.IsPair captured p := by
  cases h with
  | intro hnode hdepth => exact .intro hnode.of_decimal hdepth.of_decimal

theorem IsPair.ne_nil {captured : List Char × List Char} {p : List Char}
    (h : d.IsPair captured p) : p ≠ [] := by
  cases h
  exact List.cons_ne_nil _ _

variable (d) in
theorem exists_finds (cs : List Char) : ∃ found left, d.Finds cs found left := by
  -- on the length, since a pair takes more than one character
  induction hn : cs.length using Nat.strong_induction_on generalizing cs with
  | h n ih =>
    cases cs with
    | nil => exact ⟨[], [], .ends⟩
    | cons c cs =>
      by_cases hbegins : d.BeginsWithPair (c :: cs)
      · obtain ⟨captured, p, rest, hp, heq⟩ := hbegins
        have hlen : rest.length < n := by
          have := List.length_pos_iff.2 hp.ne_nil
          rw [← hn, heq, List.length_append]
          omega
        obtain ⟨found, left, h⟩ := ih _ hlen rest rfl
        rw [heq]
        exact ⟨captured :: found, left, .take hp h⟩
      · obtain ⟨found, left, h⟩ := ih _ (by simp [← hn]) cs rfl
        exact ⟨found, c :: left, .pass hbegins h⟩

end DigitClass

namespace QueueSnapshot

def WritesEntry (e : QueueEntry) (p : List Char) : Prop :=
  ∃ captured, DigitClass.decimal.IsPair captured p ∧
    WritesCount (String.ofList captured.1) e.node ∧ WritesCount (String.ofList captured.2) e.depth

inductive Lists : List Char → List QueueEntry → Prop
  | gap {g : List Char} (hg : ∀ c ∈ g, isGap c = true) : Lists g []
  | entry {g p rest : List Char} {e : QueueEntry} {es : List QueueEntry}
    (hg : ∀ c ∈ g, isGap c = true) (hp : WritesEntry e p) (h : Lists rest es) :
    Lists (g ++ p ++ rest) (e :: es)

def ofCaptured? (captured : List Char × List Char) : Option QueueEntry := do
  let node ← Number.readU32 (String.ofList captured.1)
  let depth ← Number.readU32 (String.ofList captured.2)
  return ⟨node, depth⟩

def ofFound? (found : List (List Char × List Char)) (left : List Char) (clusterSize : Nat) :
    Except QueueError QueueSnapshot :=
  match found.mapM ofCaptured? with
  | none => .error .malformed
  | some entries =>
    if entries.isEmpty || !left.all isGap then .error .malformed
    else if entries.length ≠ clusterSize then .error (.length clusterSize entries.length)
    else .ok ⟨entries⟩

section Counts

variable {d : DigitClass} {digits xs rest : List Char} {mark : Char}

theorem trimStart_append_of_blank {before : List Char} (h : ∀ c ∈ before, isBlank c = true)
    (cs : List Char) : trimStart (before ++ cs) = trimStart cs := by
  rw [trimStart, trimStart, List.dropWhile_append_of_pos h]

theorem trimStart_cons_of_apart {c : Char} (h : isBlank c = false) (cs : List Char) :
    trimStart (c :: cs) = c :: cs := by
  rw [trimStart, List.dropWhile_cons_of_neg (by simp [h])]

theorem readU32_eq_readCount (h : ∀ c ∈ digits, d.holds c = true) :
    Number.readU32 (String.ofList digits) = Experiment.readCount (String.ofList digits) := by
  have hplus : d.holds '+' = false := d.ascii '+' (by decide)
  unfold Number.readU32 Number.readUnsigned Experiment.readCount
  split
  · next heq =>
    rw [String.toList_ofList] at heq
    have := h '+' (by simp [heq])
    rw [hplus] at this
    cases this
  · rfl

theorem readCount_eq (cs : List Char) :
    readCount cs = ((Number.readDigits ((trimStart cs).takeWhile Char.isDigit)).filter
      (· < UInt32.size)).map fun n => (UInt32.ofNat n,
        trimStart ((trimStart cs).dropWhile Char.isDigit)) := by
  unfold readCount
  dsimp only
  split
  · next h => rw [h]; rfl
  · next h => rw [h]; rfl

theorem trimStart_padded (h : d.Padded digits xs) (rest : List Char) :
    ∃ behind, (∀ c ∈ behind, isBlank c = true) ∧
      trimStart (xs ++ rest) = digits ++ (behind ++ rest) := by
  cases h with
  | @intro before behind hbefore hne hdigits hbehind =>
    refine ⟨behind, hbehind, ?_⟩
    rw [List.append_assoc, List.append_assoc, trimStart_append_of_blank hbefore]
    cases digits with
    | nil => exact absurd rfl hne
    | cons c cs =>
      exact trimStart_cons_of_apart (DigitClass.isBlank_of_holds (hdigits c (by simp))) _

theorem takeWhile_append_cons {us : List Char} {c : Char} (hus : ∀ u ∈ us, u.isDigit = true)
    (hc : c.isDigit = false) (rest : List Char) :
    (us ++ c :: rest).takeWhile Char.isDigit = us ∧
      (us ++ c :: rest).dropWhile Char.isDigit = c :: rest := by
  rw [List.takeWhile_append_of_pos hus, List.dropWhile_append_of_pos hus,
    List.takeWhile_cons_of_neg (by simp [hc]), List.dropWhile_cons_of_neg (by simp [hc])]
  simp

theorem readCountBefore_of_decimal {cs behind : List Char}
    (hstart : trimStart cs = digits ++ (behind ++ mark :: rest))
    (hall : ∀ c ∈ digits, c.isDigit = true) (hbehind : ∀ c ∈ behind, isBlank c = true)
    (hdigit : mark.isDigit = false) (hblank : isBlank mark = false) :
    readCountBefore mark cs = (Experiment.readCount (String.ofList digits)).map (·, rest) := by
  have hend : trimStart (behind ++ mark :: rest) = mark :: rest := by
    rw [trimStart_append_of_blank hbehind, trimStart_cons_of_apart hblank]
  obtain ⟨c, us, hus, hc⟩ : ∃ c us, behind ++ mark :: rest = c :: us ∧ c.isDigit = false := by
    cases behind with
    | nil => exact ⟨mark, rest, rfl, hdigit⟩
    | cons b bs => exact ⟨b, bs ++ mark :: rest, rfl, isDigit_of_isBlank (hbehind b (by simp))⟩
  obtain ⟨htake, hdrop⟩ := takeWhile_append_cons hall hc us
  rw [readCountBefore, readCount_eq, hstart, hus, htake, hdrop, ← hus, hend, Experiment.readCount,
    String.toList_ofList]
  cases (Number.readDigits digits).filter (· < UInt32.size) <;> simp

theorem readCountBefore_of_not_decimal {cs behind : List Char}
    (hstart : trimStart cs = digits ++ (behind ++ mark :: rest))
    (hdigits : ∀ c ∈ digits, d.holds c = true) (hall : ¬ ∀ c ∈ digits, c.isDigit = true)
    (hmark : mark.toNat < 128) (hdigit : mark.isDigit = false) :
    readCountBefore mark cs = none ∧ Experiment.readCount (String.ofList digits) = none := by
  obtain ⟨c, hfind⟩ : ∃ c, digits.find? (! ·.isDigit) = some c := by
    simpa [← Option.isSome_iff_exists] using hall
  obtain ⟨hc, us, vs, hsplit, hus⟩ := List.find?_eq_some_iff_append.1 hfind
  have hmem : c ∈ digits := by simp [hsplit]
  have hc : c.isDigit = false := by simpa using hc
  have hother : c ≠ mark := by
    rintro rfl
    have hascii := DigitClass.isDigit_of_holds hmark (hdigits c hmem)
    rw [hdigit] at hascii
    cases hascii
  obtain ⟨htake, hdrop⟩ :=
    takeWhile_append_cons (by simpa using hus) hc (vs ++ (behind ++ mark :: rest))
  constructor
  · rw [readCountBefore, readCount_eq, hstart, hsplit, List.append_assoc, List.cons_append, htake,
      hdrop, trimStart_cons_of_apart (DigitClass.isBlank_of_holds (hdigits c hmem))]
    cases (Number.readDigits us).filter (· < UInt32.size) <;> simp [hother]
  · simp [Experiment.readCount, Number.readDigits, hsplit, hc]

theorem readCountBefore_padded (h : d.Padded digits xs) (hmark : mark.toNat < 128)
    (hdigit : mark.isDigit = false) (hblank : isBlank mark = false) :
    readCountBefore mark (xs ++ mark :: rest) =
      (Number.readU32 (String.ofList digits)).map (·, rest) := by
  obtain ⟨behind, hbehind, hstart⟩ := trimStart_padded h (mark :: rest)
  rw [readU32_eq_readCount h.holds]
  by_cases hall : ∀ c ∈ digits, c.isDigit = true
  · exact readCountBefore_of_decimal hstart hall hbehind hdigit hblank
  · obtain ⟨hread, hcount⟩ := readCountBefore_of_not_decimal hstart h.holds hall hmark hdigit
    rw [hread, hcount]
    rfl

theorem exists_padded_of_readCount {cs : List Char} {n : UInt32}
    (h : readCount cs = some (n, rest)) :
    ∃ digits xs, DigitClass.decimal.Padded digits xs ∧ WritesCount (String.ofList digits) n ∧
      cs = xs ++ rest := by
  rw [readCount_eq] at h
  obtain ⟨m, hm, hpair⟩ := Option.map_eq_some_iff.1 h
  obtain ⟨hn, hrest⟩ := Prod.mk.inj hpair
  set digits := (trimStart cs).takeWhile Char.isDigit
  have hwrites : WritesCount (String.ofList digits) n := by
    rw [← Experiment.readCount_eq_some_iff, Experiment.readCount, String.toList_ofList, hm,
      Option.map_some, hn]
  have hblanks : ∀ us : List Char, us.takeWhile isBlank ++ trimStart us = us := fun us =>
    List.takeWhile_append_dropWhile
  have hpadded : DigitClass.decimal.Padded digits (cs.takeWhile isBlank ++ digits ++
      ((trimStart cs).dropWhile Char.isDigit).takeWhile isBlank) :=
    .intro (fun c hc => List.mem_takeWhile_imp hc) (by simpa using hwrites.nonempty)
      (fun c hc => List.mem_takeWhile_imp hc) (fun c hc => List.mem_takeWhile_imp hc)
  refine ⟨digits, _, hpadded, hwrites, ?_⟩
  rw [← hrest, List.append_assoc, List.append_assoc, hblanks, List.takeWhile_append_dropWhile,
    hblanks]

theorem exists_padded_of_readCountBefore {cs : List Char} {n : UInt32}
    (h : readCountBefore mark cs = some (n, rest)) :
    ∃ digits xs, DigitClass.decimal.Padded digits xs ∧ WritesCount (String.ofList digits) n ∧
      cs = xs ++ mark :: rest := by
  unfold readCountBefore at h
  split at h
  · next m c cs' hread =>
    split at h
    · next hc =>
      cases h
      rw [← hc]
      exact exists_padded_of_readCount hread
    · cases h
  · cases h

end Counts

section Pairs

variable {d : DigitClass} {captured : List Char × List Char} {p : List Char}

theorem readPair_isPair (h : d.IsPair captured p) (rest : List Char) :
    ∃ cs, p ++ rest = '(' :: cs ∧ readPair cs = (ofCaptured? captured).map (·, rest) := by
  cases h with
  | @intro xs ys hnode hdepth =>
    refine ⟨xs ++ ',' :: (ys ++ ')' :: rest), by simp, ?_⟩
    rw [readPair_eq, readCountBefore_padded hnode (by decide) (by decide) (by decide), ofCaptured?]
    cases Number.readU32 (String.ofList captured.1) with
    | none => rfl
    | some node =>
      simp only [Option.map_some, Option.bind_some, Option.bind_eq_bind]
      rw [readCountBefore_padded hdepth (by decide) (by decide) (by decide)]
      cases Number.readU32 (String.ofList captured.2) <;> rfl

theorem exists_writesEntry_of_readPair {cs rest : List Char} {e : QueueEntry}
    (h : readPair cs = some (e, rest)) : ∃ p, WritesEntry e p ∧ '(' :: cs = p ++ rest := by
  rw [readPair_eq] at h
  simp only [Option.bind_eq_some_iff, Option.map_eq_some_iff, Prod.mk.injEq] at h
  obtain ⟨⟨node, mid⟩, hnode, ⟨depth, rest'⟩, hdepth, rfl, rfl⟩ := h
  obtain ⟨ds, xs, hxs, hds, rfl⟩ := exists_padded_of_readCountBefore hnode
  obtain ⟨ds', ys, hys, hds', rfl⟩ := exists_padded_of_readCountBefore hdepth
  exact ⟨_, ⟨(ds, ds'), .intro hxs hys, hds, hds'⟩, by simp⟩

theorem ofCaptured?_of_writes {e : QueueEntry} (h : DigitClass.decimal.IsPair captured p)
    (hnode : WritesCount (String.ofList captured.1) e.node)
    (hdepth : WritesCount (String.ofList captured.2) e.depth) : ofCaptured? captured = some e := by
  cases h with
  | intro hxs hys =>
    rw [ofCaptured?, readU32_eq_readCount hxs.holds, readU32_eq_readCount hys.holds,
      Experiment.readCount_eq_some_iff.2 hnode, Experiment.readCount_eq_some_iff.2 hdepth]
    rfl

end Pairs

section Entries

variable {d : DigitClass} {p cs : List Char} {es : List QueueEntry}

theorem readEntries_nil : readEntries [] = some [] := by
  unfold readEntries
  rfl

theorem readEntries_gap {g : List Char} (hg : ∀ c ∈ g, isGap c = true) (cs : List Char) :
    readEntries (g ++ cs) = readEntries cs := by
  induction g with
  | nil => rfl
  | cons c g ih =>
    rw [List.cons_append, readEntries_cons, if_pos (hg c (by simp))]
    exact ih fun c hc => hg c (by simp [hc])

theorem readEntries_isPair {captured : List Char × List Char} (h : d.IsPair captured p)
    (rest : List Char) :
    readEntries (p ++ rest) =
      (ofCaptured? captured).bind fun e => (readEntries rest).map (e :: ·) := by
  obtain ⟨cs, heq, hread⟩ := readPair_isPair h rest
  have hgap : ¬ isGap '(' = true := by decide
  rw [heq, readEntries_cons, if_neg hgap, if_pos rfl, hread]
  cases ofCaptured? captured <;> rfl

theorem readEntries_of_not_begins {c : Char} (h : ¬ d.BeginsWithPair (c :: cs)) :
    readEntries (c :: cs) = if isGap c then readEntries cs else none := by
  rw [readEntries_cons]
  refine if_congr Iff.rfl rfl (ite_eq_right_iff.2 fun hc => ?_)
  cases hpair : readPair cs with
  | none => rfl
  | some r =>
    obtain ⟨p, ⟨captured, hp, -⟩, heq⟩ := exists_writesEntry_of_readPair hpair
    rw [← hc] at heq
    exact absurd ⟨captured, p, r.2, hp.of_decimal, heq⟩ h

theorem readEntries_eq_of_finds {found : List (List Char × List Char)} {left : List Char}
    (h : d.Finds cs found left) :
    readEntries cs = if left.all isGap then found.mapM ofCaptured? else none := by
  induction h with
  | ends => simp [readEntries_nil]
  | @pass c cs found left hno h ih =>
    rw [readEntries_of_not_begins hno, ih, List.all_cons]
    cases isGap c <;> simp
  | @take captured p cs found left hp h ih =>
    rw [readEntries_isPair hp, ih, List.mapM_cons]
    cases ofCaptured? captured with
    | none => simp
    | some e =>
      split
      · cases found.mapM ofCaptured? <;> rfl
      · rfl

theorem Lists.cons_gap {c : Char} (hc : isGap c = true) (h : Lists cs es) :
    Lists (c :: cs) es := by
  cases h with
  | gap hg => exact .gap (by simpa [hc] using hg)
  | @entry g p rest e es hg hp h => exact .entry (g := c :: g) (by simpa [hc] using hg) hp h

theorem readEntries_eq_some_iff : readEntries cs = some es ↔ Lists cs es := by
  constructor
  · intro h
    -- on the length, since a pair takes more than one character
    induction hn : cs.length using Nat.strong_induction_on generalizing cs es with
    | h n ih =>
      cases cs with
      | nil =>
        obtain rfl : [] = es := by simpa [readEntries_nil] using h
        exact .gap (by simp)
      | cons c cs =>
        rw [readEntries_cons] at h
        split at h
        · next hc => exact (ih _ (by simp [← hn]) h rfl).cons_gap hc
        · split at h
          · next hc =>
            obtain ⟨⟨e, rest⟩, hpair, hrest⟩ := Option.bind_eq_some_iff.1 h
            obtain ⟨es, hes, rfl⟩ := Option.map_eq_some_iff.1 hrest
            obtain ⟨p, hp, heq⟩ := exists_writesEntry_of_readPair hpair
            have hlen := length_of_readPair hpair
            rw [hc, heq]
            refine .entry (g := []) (by simp) hp (ih _ ?_ hes rfl)
            rw [← hn, List.length_cons]
            omega
          · cases h
  · intro h
    induction h with
    | @gap g hg => simpa [readEntries_nil] using readEntries_gap hg []
    | @entry g p rest e es hg hp h ih =>
      obtain ⟨captured, hpair, hnode, hdepth⟩ := hp
      rw [List.append_assoc, readEntries_gap hg, readEntries_isPair hpair,
        ofCaptured?_of_writes hpair hnode hdepth, ih]
      rfl

end Entries

section Texts

variable {text : String} {clusterSize : Nat}

theorem ofText?_of_lists {es : List QueueEntry} (h : Lists text.toList es) (hne : es ≠ []) :
    ofText? text clusterSize =
      if es.length = clusterSize then .ok ⟨es⟩ else .error (.length clusterSize es.length) := by
  rw [ofText?, readEntries_eq_some_iff.2 h]
  cases es with
  | nil => exact absurd rfl hne
  | cons e es => rfl

theorem ofText?_of_not_lists (h : ∀ es, Lists text.toList es → es = []) :
    ofText? text clusterSize = .error .malformed := by
  unfold ofText?
  split
  · rfl
  · rfl
  · next es hne hes => exact absurd (h es (readEntries_eq_some_iff.1 hes)) hne

theorem ofText?_eq_ok_iff {q : QueueSnapshot} :
    ofText? text clusterSize = .ok q ↔
      Lists text.toList q.entries ∧ q.entries.length = clusterSize ∧ 1 ≤ clusterSize := by
  constructor
  · intro h
    by_cases hlists : ∃ es, Lists text.toList es ∧ es ≠ []
    · obtain ⟨es, hes, hne⟩ := hlists
      rw [ofText?_of_lists hes hne] at h
      split at h
      · next hlen =>
        cases h
        exact ⟨hes, hlen, hlen ▸ List.length_pos_iff.2 hne⟩
      · cases h
    · rw [ofText?_of_not_lists (by simpa using hlists)] at h
      cases h
  · rintro ⟨hes, hlen, hpos⟩
    rw [ofText?_of_lists hes (List.length_pos_iff.1 (hlen ▸ hpos)), if_pos hlen]

theorem ofText?_eq_length_iff {expected found : Nat} :
    ofText? text clusterSize = .error (.length expected found) ↔
      expected = clusterSize ∧ found ≠ clusterSize ∧ 1 ≤ found ∧
        ∃ es, Lists text.toList es ∧ es.length = found := by
  constructor
  · intro h
    by_cases hlists : ∃ es, Lists text.toList es ∧ es ≠ []
    · obtain ⟨es, hes, hne⟩ := hlists
      rw [ofText?_of_lists hes hne] at h
      split at h
      · cases h
      · next hlen =>
        cases h
        exact ⟨rfl, hlen, List.length_pos_iff.2 hne, es, hes, rfl⟩
    · rw [ofText?_of_not_lists (by simpa using hlists)] at h
      cases h
  · rintro ⟨rfl, hlen, hpos, es, hes, rfl⟩
    rw [ofText?_of_lists hes (List.length_pos_iff.1 hpos), if_neg hlen]

theorem ofText?_eq_malformed_iff :
    ofText? text clusterSize = .error .malformed ↔
      ¬ ∃ es, Lists text.toList es ∧ 1 ≤ es.length := by
  constructor
  · rintro h ⟨es, hes, hpos⟩
    rw [ofText?_of_lists hes (List.length_pos_iff.1 hpos)] at h
    split at h <;> cases h
  · intro h
    refine ofText?_of_not_lists fun es hes => ?_
    by_contra hne
    exact h ⟨es, hes, List.length_pos_iff.2 hne⟩

theorem ofText?_eq_ofFound? {d : DigitClass} {found : List (List Char × List Char)}
    {left : List Char} (h : d.Finds text.toList found left) :
    ofText? text clusterSize = ofFound? found left clusterSize := by
  rw [ofText?, ofFound?, readEntries_eq_of_finds h]
  rcases found.mapM ofCaptured? with _ | _ | ⟨e, es⟩ <;> cases left.all isGap
  · rfl
  · rfl
  · rfl
  · rfl
  · rfl
  · by_cases hlen : (e :: es).length = clusterSize <;> simp [hlen]

end Texts

/-- A text is accepted if it lists the nodes' entries, one each for the cluster's size; it has the
wrong length if it lists another number of them, and is malformed otherwise. The search for pairs
that takes them out of the text and looks at the rest says the same. -/
theorem ofText?_follows_language (text : String) (clusterSize : Nat) :
    (∀ q, ofText? text clusterSize = .ok q ↔
      Lists text.toList q.entries ∧ q.entries.length = clusterSize ∧ 1 ≤ clusterSize) ∧
    (∀ expected found, ofText? text clusterSize = .error (.length expected found) ↔
      expected = clusterSize ∧ found ≠ clusterSize ∧ 1 ≤ found ∧
        ∃ es, Lists text.toList es ∧ es.length = found) ∧
    (ofText? text clusterSize = .error .malformed ↔
      ¬ ∃ es, Lists text.toList es ∧ 1 ≤ es.length) ∧
    ∀ d : DigitClass, (∃ found left, d.Finds text.toList found left) ∧
      ∀ found left, d.Finds text.toList found left →
        ofText? text clusterSize = ofFound? found left clusterSize :=
  ⟨fun _ => ofText?_eq_ok_iff, fun _ _ => ofText?_eq_length_iff, ofText?_eq_malformed_iff,
    fun d => ⟨d.exists_finds text.toList, fun _ _ h => ofText?_eq_ofFound? h⟩⟩

end QueueSnapshot

end RateSweep
