import RateSweep.Proofs.RecordScan

namespace RateSweep.Csv

namespace Mode

def next (b : UInt8) (mode : Mode) : Mode :=
  match action b mode with
  | .keep next => next
  | .skip next => next
  | .stop _ => .start

def after (mode : Mode) (bs : List UInt8) : Mode := bs.foldl (fun mode b => mode.next b) mode

theorem after_cons (mode : Mode) (b : UInt8) (bs : List UInt8) :
    mode.after (b :: bs) = (mode.next b).after bs := rfl

end Mode

def EndsLineFrom (mode : Mode) (bs : List UInt8) : Prop :=
  ∃ text b, bs = text ++ [b] ∧ isTerminator b = true ∧ mode.after text ≠ .quoted

theorem scan_of_endsLine {mode : Mode} {bs : List UInt8} (h : EndsLineFrom mode bs) :
    ∃ field ending extent rest, (rest = [] ∧ ending = .terminator ∨ EndsLineFrom .start rest) ∧
      rest.length < bs.length ∧
      ∀ behind, scan mode (bs ++ behind) = ⟨field, ending, extent, rest ++ behind⟩ := by
  obtain ⟨text, b, rfl, hb, hmode⟩ := h
  induction text generalizing mode with
  | nil =>
    have haction : action b mode = .stop .terminator := action_terminator hb hmode
    refine ⟨[], .terminator, Extent.zero.step b, [], .inl ⟨rfl, rfl⟩, by simp, fun behind => ?_⟩
    simp only [List.nil_append, List.singleton_append, scan, haction]
  | cons c text ih =>
    cases haction : action c mode with
    | keep next =>
      have hnext : mode.next c = next := by rw [Mode.next, haction]
      rw [Mode.after_cons, hnext] at hmode
      obtain ⟨field, ending, extent, rest, hrest, hlt, hscan⟩ := ih hmode
      refine ⟨c :: field, ending, extent.step c, rest, hrest, by simp at hlt ⊢; omega,
        fun behind => ?_⟩
      simp only [List.cons_append, scan, haction, hscan]
    | skip next =>
      have hnext : mode.next c = next := by rw [Mode.next, haction]
      rw [Mode.after_cons, hnext] at hmode
      obtain ⟨field, ending, extent, rest, hrest, hlt, hscan⟩ := ih hmode
      refine ⟨field, ending, extent.step c, rest, hrest, by simp at hlt ⊢; omega,
        fun behind => ?_⟩
      simp only [List.cons_append, scan, haction, hscan]
    | stop ending =>
      have hnext : mode.next c = .start := by rw [Mode.next, haction]
      rw [Mode.after_cons, hnext] at hmode
      refine ⟨[], ending, Extent.zero.step c, text ++ [b], .inr ⟨text, b, rfl, hb, hmode⟩,
        by simp, fun behind => ?_⟩
      simp only [List.cons_append, scan, haction]

theorem scanRecord_of_endsLine {bs : List UInt8} (h : EndsLineFrom .start bs) :
    ∃ fields extent rest, (rest = [] ∨ EndsLineFrom .start rest) ∧ rest.length < bs.length ∧
      ∀ behind, scanRecord (bs ++ behind) = ⟨fields, extent, rest ++ behind⟩ := by
  induction hn : bs.length using Nat.strong_induction_on generalizing bs with
  | h n ih =>
    obtain ⟨field, ending, extent, rest, hrest, hlt, hscan⟩ := scan_of_endsLine h
    by_cases hending : ending = .delimiter
    · have hrest : EndsLineFrom .start rest := by
        rcases hrest with ⟨-, hterminator⟩ | hrest
        · rw [hending] at hterminator
          cases hterminator
        · exact hrest
      obtain ⟨fields, extent', rest', hrest', hlt', hrecord⟩ := ih _ (hn ▸ hlt) hrest rfl
      refine ⟨field :: fields, extent.append extent', rest', hrest', by omega, fun behind => ?_⟩
      rw [scanRecord_of_scan (hscan behind), if_pos hending, hrecord]
    · refine ⟨[field], extent, rest, hrest.imp And.left id, by omega, fun behind => ?_⟩
      rw [scanRecord_of_scan (hscan behind), if_neg hending]

theorem endsLineFrom_of_blank {b : UInt8} {bs : List UInt8} (hb : isTerminator b = true)
    (hne : bs ≠ []) (h : EndsLineFrom .start (b :: bs)) : EndsLineFrom .start bs := by
  obtain ⟨text, b', heq, hb', hmode⟩ := h
  cases text with
  | nil => exact absurd (List.cons.inj heq).2 hne
  | cons c text =>
    obtain ⟨rfl, rfl⟩ := List.cons.inj heq
    have hnext : Mode.start.next b = .start := by
      rw [Mode.next, action_terminator hb (by decide)]
    rw [Mode.after_cons, hnext] at hmode
    exact ⟨text, b', rfl, hb', hmode⟩

theorem endsLineFrom_dropWhile {bs : List UInt8} (hne : bs.dropWhile isTerminator ≠ [])
    (h : EndsLineFrom .start bs) : EndsLineFrom .start (bs.dropWhile isTerminator) := by
  induction bs with
  | nil => exact h
  | cons b bs ih =>
    by_cases hb : isTerminator b = true
    · rw [List.dropWhile_cons_of_pos hb] at hne ⊢
      have hbs : bs ≠ [] := by
        rintro rfl
        exact hne rfl
      exact ih hne (endsLineFrom_of_blank hb hbs h)
    · rwa [List.dropWhile_cons_of_neg hb]

theorem recordsFrom_of_endsLine {front : List UInt8} (h : EndsLineFrom .start front)
    (hne : front.dropWhile isTerminator ≠ []) (start : Position) :
    ∃ fields reached rest, (rest = [] ∨ EndsLineFrom .start rest) ∧ rest.length < front.length ∧
      ∀ behind, recordsFrom start (front ++ behind) =
        ⟨start, fields⟩ :: recordsFrom reached (rest ++ behind) := by
  obtain ⟨fields, extent, rest, hrest, hlt, hrecord⟩ :=
    scanRecord_of_endsLine (endsLineFrom_dropWhile hne h)
  have hle := (List.dropWhile_sublist (l := front) isTerminator).length_le
  refine ⟨fields,
    { (start.advance (.of (front.takeWhile isTerminator))).advance extent with
      record := start.record + 1 }, rest, hrest, by omega, fun behind => ?_⟩
  have hlength : (front.takeWhile isTerminator).length ≠ front.length := fun hlength => by
    have hsplit := congrArg List.length (List.takeWhile_append_dropWhile (p := isTerminator)
      (l := front))
    rw [List.length_append, hlength, Nat.add_eq_left] at hsplit
    exact hne (List.length_eq_zero_iff.1 hsplit)
  rw [recordsFrom]
  simp only [List.dropWhile_append, List.isEmpty_iff, if_neg hne, List.takeWhile_append,
    if_neg hlength, hrecord]
  rw [dif_neg (by simp [hne])]

theorem recordsFrom_append {front : List UInt8} (h : front = [] ∨ EndsLineFrom .start front)
    (start : Position) :
    ∃ reached blank, (∀ b ∈ blank, isTerminator b = true) ∧ ∀ behind,
      recordsFrom start (front ++ behind) =
        recordsFrom start front ++ recordsFrom reached (blank ++ behind) := by
  induction hn : front.length using Nat.strong_induction_on generalizing front start with
  | h n ih =>
    by_cases hne : front.dropWhile isTerminator = []
    · refine ⟨start, front, List.dropWhile_eq_nil_iff.1 hne, fun behind => ?_⟩
      have hnone : recordsFrom start front = [] := by
        rw [recordsFrom]
        simp [hne]
      rw [hnone, List.nil_append]
    · have h : EndsLineFrom .start front := h.resolve_left fun hempty => hne (by rw [hempty]; rfl)
      obtain ⟨fields, next, rest, hrest, hlt, hread⟩ := recordsFrom_of_endsLine h hne start
      obtain ⟨reached, blank, hblank, hsplit⟩ := ih _ (hn ▸ hlt) hrest next rfl
      refine ⟨reached, blank, hblank, fun behind => ?_⟩
      have hfront := hread []
      rw [List.append_nil, List.append_nil] at hfront
      rw [hread, hsplit, hfront, List.cons_append]

def withoutMark (bs : List UInt8) : List UInt8 :=
  if byteOrderMark.isPrefixOf bs then bs.drop byteOrderMark.length else bs

def EndsLine (bs : List UInt8) : Prop := EndsLineFrom .start (withoutMark bs)

theorem byteOrderMark_isPrefixOf_append {front : List UInt8} (h : EndsLineFrom .start front)
    (behind : List UInt8) :
    byteOrderMark.isPrefixOf (front ++ behind) = byteOrderMark.isPrefixOf front := by
  rw [Bool.eq_iff_iff, List.isPrefixOf_iff_prefix, List.isPrefixOf_iff_prefix]
  refine ⟨fun hmark => ?_, fun hmark => hmark.trans (List.prefix_append front behind)⟩
  rcases List.prefix_or_prefix_of_prefix hmark (List.prefix_append front behind) with hmark | hfront
  · exact hmark
  · obtain ⟨text, b, rfl, hb, -⟩ := h
    have hnone : ∀ b ∈ byteOrderMark, isTerminator b = false := by
      simp [byteOrderMark, isTerminator, lineFeed, carriageReturn]
    rw [hnone b (hfront.mem (by simp))] at hb
    cases hb

theorem records_append {front : List UInt8} (h : EndsLine front) (hne : records front ≠ []) :
    ∃ reached blank, (∀ b ∈ blank, isTerminator b = true) ∧ ∀ behind,
      records (front ++ behind) = records front ++ recordsFrom reached (blank ++ behind) := by
  unfold EndsLine withoutMark at h
  by_cases hmark : byteOrderMark.isPrefixOf front = true
  · rw [if_pos hmark] at h
    have hbegins := List.isPrefixOf_iff_prefix.1 hmark
    obtain ⟨reached, blank, hblank, hsplit⟩ :=
      recordsFrom_append (.inr h) (Position.first.advance (.of byteOrderMark))
    refine ⟨reached, blank, hblank, fun behind => ?_⟩
    have hmark' : byteOrderMark.isPrefixOf (front ++ behind) = true :=
      List.isPrefixOf_iff_prefix.2 (hbegins.trans (List.prefix_append front behind))
    unfold records at hne ⊢
    simp only [if_pos hmark, if_pos hmark', List.drop_append_of_le_length hbegins.length_le,
      hsplit] at hne ⊢
    split at hne
    · exact absurd rfl hne
    · next hread =>
      rw [hread]
      rfl
  · rw [if_neg hmark] at h
    obtain ⟨reached, blank, hblank, hsplit⟩ := recordsFrom_append (.inr h) .first
    rw [Bool.not_eq_true] at hmark
    refine ⟨reached, blank, hblank, fun behind => ?_⟩
    rw [records_eq_recordsFrom hmark, records_eq_recordsFrom, hsplit]
    rw [byteOrderMark_isPrefixOf_append h, hmark]

end RateSweep.Csv
