import RateSweep.Csv.Writer
import RateSweep.Proofs.EncodedText

namespace RateSweep.Csv

inductive Ends : List UInt8 → Ending → List UInt8 → Prop
  | delimiter (rest : List UInt8) : Ends (comma :: rest) .delimiter rest
  | terminator {b : UInt8} (h : isTerminator b = true) (rest : List UInt8) :
    Ends (b :: rest) .terminator rest
  | input : Ends [] .input []

def ScansTo (mode : Mode) (bs : List UInt8) (field : Field) (ending : Ending)
    (rest : List UInt8) : Prop :=
  ∃ extent, scan mode bs = ⟨field, ending, extent, rest⟩

theorem action_terminator {mode : Mode} {b : UInt8} (hb : isTerminator b = true)
    (hmode : mode ≠ .quoted) : action b mode = .stop .terminator := by
  have hcomma : b ≠ comma := by
    rintro rfl
    cases hb
  have hquote : b ≠ quote := by
    rintro rfl
    cases hb
  cases mode <;> simp_all [action, bareAction]

namespace ScansTo

variable {mode : Mode} {b : UInt8} {bs rest text : List UInt8} {field : Field}
  {ending : Ending}

theorem keep (next : Mode) (ha : action b mode = .keep next)
    (h : ScansTo next bs field ending rest) :
    ScansTo mode (b :: bs) (b :: field) ending rest := by
  obtain ⟨extent, h⟩ := h
  exact ⟨extent.step b, by simp only [scan, ha, h]⟩

theorem skip (next : Mode) (ha : action b mode = .skip next)
    (h : ScansTo next bs field ending rest) :
    ScansTo mode (b :: bs) field ending rest := by
  obtain ⟨extent, h⟩ := h
  exact ⟨extent.step b, by simp only [scan, ha, h]⟩

theorem of_ends (mode : Mode) (hmode : mode ≠ .quoted) (h : Ends bs ending rest) :
    ScansTo mode bs [] ending rest := by
  cases h with
  | delimiter rest =>
    refine ⟨Extent.zero.step comma, ?_⟩
    cases mode <;> first | exact absurd rfl hmode | rfl
  | @terminator b hb rest =>
    exact ⟨Extent.zero.step b, by simp only [scan, action_terminator hb hmode]⟩
  | input => exact ⟨.zero, rfl⟩

theorem bare_append (htext : ∀ b ∈ text, b ≠ comma ∧ isTerminator b = false)
    (h : ScansTo .bare bs field ending rest) :
    ScansTo .bare (text ++ bs) (text ++ field) ending rest := by
  induction text with
  | nil => exact h
  | cons b text ih =>
    obtain ⟨⟨hcomma, hterminator⟩, htext⟩ := List.forall_mem_cons.1 htext
    exact keep .bare (by simp [action, bareAction, hcomma, hterminator]) (ih htext)

theorem quoted_append (htext : quote ∉ text) (h : ScansTo .quoted bs field ending rest) :
    ScansTo .quoted (text ++ bs) (text ++ field) ending rest := by
  induction text with
  | nil => exact h
  | cons b text ih =>
    obtain ⟨hb, htext⟩ := not_or.1 (mt List.mem_cons.2 htext)
    exact keep .quoted (by simp [action, Ne.symm hb]) (ih htext)

end ScansTo

def Spells (text : List UInt8) (field : Field) : Prop :=
  ∀ {bs : List UInt8} {ending : Ending} {rest : List UInt8}, Ends bs ending rest →
    ScansTo .start (text ++ bs) field ending rest

section Spelling

variable {cs : List Char}

theorem needsQuotes_eq_false_iff :
    needsQuotes cs = false ↔ ∀ c ∈ [',', '"', '\r', '\n'], c ∉ cs := by
  simp only [needsQuotes, List.any_eq_false, Bool.or_eq_true, decide_eq_true_eq]
  constructor
  · rintro h c hspecial hc
    exact h c hc (by simpa [or_assoc] using hspecial)
  · intro h c hc hspecial
    exact h c (by simpa [or_assoc] using hspecial) hc

theorem bytes_plain (h : needsQuotes cs = false) :
    quote ∉ Text.bytes cs ∧ ∀ b ∈ Text.bytes cs, b ≠ comma ∧ isTerminator b = false := by
  have habsent := needsQuotes_eq_false_iff.1 h
  refine ⟨Text.notMem_bytes (by decide) (habsent '"' (by simp)), fun b hb => ⟨?_, ?_⟩⟩
  · rintro rfl
    exact Text.notMem_bytes (by decide) (habsent ',' (by simp)) hb
  · simp only [isTerminator, Bool.or_eq_false_iff, beq_eq_false_iff_ne]
    constructor
    · rintro rfl
      exact Text.notMem_bytes (by decide) (habsent '\n' (by simp)) hb
    · rintro rfl
      exact Text.notMem_bytes (by decide) (habsent '\r' (by simp)) hb

theorem spells_bare (h : needsQuotes cs = false) : Spells (Text.bytes cs) (Text.bytes cs) := by
  obtain ⟨hquote, hplain⟩ := bytes_plain h
  intro bs ending rest hends
  cases htext : Text.bytes cs with
  | nil => exact .of_ends .start (by decide) hends
  | cons b text =>
    rw [htext] at hquote hplain
    obtain ⟨⟨hcomma, hterminator⟩, hplain⟩ := List.forall_mem_cons.1 hplain
    have hb : b ≠ quote := fun e => hquote (e ▸ List.mem_cons_self)
    have hbehind := (ScansTo.of_ends .bare (by decide) hends).bare_append hplain
    rw [List.append_nil] at hbehind
    exact .keep .bare (by simp [action, bareAction, hb, hcomma, hterminator]) hbehind

theorem scansTo_doubleQuotes {bs field rest : List UInt8} {ending : Ending} (cs : List Char)
    (h : ScansTo .quoted bs field ending rest) :
    ScansTo .quoted (Text.bytes (doubleQuotes cs) ++ bs) (Text.bytes cs ++ field) ending rest := by
  induction cs with
  | nil => exact h
  | cons c cs ih =>
    by_cases hc : c = '"'
    · subst hc
      have hquote : String.utf8EncodeChar '"' = [quote] := by decide
      have hdouble : doubleQuotes ('"' :: cs) = '"' :: '"' :: doubleQuotes cs := by
        simp [doubleQuotes]
      rw [hdouble]
      simp only [Text.bytes_cons, hquote, List.cons_append]
      exact .skip .closing (by decide) (.keep .quoted (by decide) ih)
    · have hsingle : doubleQuotes (c :: cs) = c :: doubleQuotes cs := by simp [doubleQuotes, hc]
      have hquote : quote ∉ String.utf8EncodeChar c := by
        have hc' : '"' ∉ [c] := fun hm => hc (List.mem_singleton.1 hm).symm
        simpa using Text.notMem_bytes (b := quote) (by decide) hc'
      rw [hsingle]
      simp only [Text.bytes_cons, List.append_assoc]
      exact ih.quoted_append hquote

theorem doubleQuotes_of_notMem {cs : List Char} (h : '"' ∉ cs) : doubleQuotes cs = cs := by
  induction cs with
  | nil => rfl
  | cons c cs ih =>
    obtain ⟨hc, hcs⟩ := not_or.1 (mt List.mem_cons.2 h)
    have hsingle : doubleQuotes (c :: cs) = c :: doubleQuotes cs := by
      simp [doubleQuotes, Ne.symm hc]
    rw [hsingle, ih hcs]

theorem spells_quoted (cs : List Char) :
    Spells (Text.bytes ('"' :: doubleQuotes cs ++ ['"'])) (Text.bytes cs) := by
  intro bs ending rest hends
  have hquote : String.utf8EncodeChar '"' = [quote] := by decide
  have hclosed : ScansTo .quoted (quote :: bs) [] ending rest :=
    .skip .closing (by decide) (.of_ends .closing (by decide) hends)
  have hbody := scansTo_doubleQuotes cs hclosed
  simp only [Text.bytes_cons, Text.bytes_append, Text.bytes_nil, hquote, List.cons_append,
    List.nil_append, List.append_nil, List.append_assoc] at hbody ⊢
  exact .skip .quoted (by decide) hbody

theorem spells_writeField (cs : List Char) : Spells (Text.bytes (writeField cs)) (Text.bytes cs) := by
  unfold writeField
  split
  · exact spells_quoted cs
  · next h => exact spells_bare (by simpa using h)

end Spelling

section Line

variable {texts : List (List UInt8)} {fields : List Field} {bs rest : List UInt8} {ending : Ending}

def line (texts : List (List UInt8)) : List UInt8 := [comma].intercalate texts

theorem line_ne_nil {texts : List (List UInt8)} (h : 1 < texts.length) : line texts ≠ [] := by
  match texts, h with
  | _ :: _ :: _, _ => simp [line, List.intercalate_cons_cons]

theorem scanRecord_of_scan {field : Field} {extent : Extent}
    (h : scan .start bs = ⟨field, ending, extent, rest⟩) :
    scanRecord bs =
      if ending = .delimiter then
        ⟨field :: (scanRecord rest).fields, extent.append (scanRecord rest).extent,
          (scanRecord rest).rest⟩
      else ⟨[field], extent, rest⟩ := by
  rw [scanRecord]
  split
  · next h' =>
    obtain ⟨rfl, rfl, rfl, rfl⟩ := Scan.mk.inj (h.symm.trans h')
    rfl
  · next hne h' =>
    obtain ⟨rfl, rfl, rfl, rfl⟩ := Scan.mk.inj (h.symm.trans h')
    exact (if_neg hne).symm

theorem scanRecord_line (h : List.Forall₂ Spells texts fields) (hne : texts ≠ [])
    (hends : Ends bs ending rest) (hending : ending ≠ .delimiter) :
    ∃ extent, scanRecord (line texts ++ bs) = ⟨fields, extent, rest⟩ := by
  induction h with
  | nil => exact absurd rfl hne
  | @cons text field texts fields hspells hall ih =>
    cases hall with
    | nil =>
      obtain ⟨extent, hscan⟩ := hspells hends
      rw [line, List.intercalate_singleton, scanRecord_of_scan hscan, if_neg hending]
      exact ⟨extent, rfl⟩
    | @cons text' field' texts fields hspells' hall =>
      obtain ⟨extent, hrest⟩ := ih (by simp)
      obtain ⟨extent', hscan⟩ := hspells (.delimiter (line (text' :: texts) ++ bs))
      have hline := scanRecord_of_scan hscan
      rw [if_pos rfl, hrest] at hline
      rw [line, List.intercalate_cons_cons]
      exact ⟨_, by simpa [line] using hline⟩

theorem Spells.head {b : UInt8} {text : List UInt8} {field : Field}
    (h : Spells (b :: text) field) : isTerminator b = false := by
  by_contra hb
  rw [Bool.not_eq_false] at hb
  have hquote : b ≠ quote := by
    rintro rfl
    cases hb
  have hcomma : b ≠ comma := by
    rintro rfl
    cases hb
  obtain ⟨extent, h⟩ := h (.delimiter [])
  simp [scan, action, bareAction, hquote, hcomma, hb] at h

theorem head_line (h : List.Forall₂ Spells texts fields) (hne : line texts ≠ []) :
    ∃ b text, line texts = b :: text ∧ isTerminator b = false := by
  cases h with
  | nil => exact absurd rfl hne
  | @cons text field texts fields hspells hall =>
    cases text with
    | cons b text =>
      cases texts with
      | nil => exact ⟨b, text, by simp [line], hspells.head⟩
      | cons text' texts => exact ⟨b, _, by rw [line, List.intercalate_cons_cons]; rfl, hspells.head⟩
    | nil =>
      cases texts with
      | nil => exact absurd (by simp [line]) hne
      | cons text' texts =>
        exact ⟨comma, line (text' :: texts), by simp [line, List.intercalate_cons_cons], by decide⟩

theorem recordsFrom_line (blank : List UInt8) (hblank : ∀ b ∈ blank, isTerminator b = true)
    (h : List.Forall₂ Spells texts fields) (hne : line texts ≠ []) (hends : Ends bs ending rest)
    (hending : ending ≠ .delimiter) (start : Position) :
    ∃ reached, recordsFrom start (blank ++ (line texts ++ bs)) =
      ⟨start, fields⟩ :: recordsFrom reached rest := by
  have htexts : texts ≠ [] := by
    rintro rfl
    exact hne rfl
  obtain ⟨extent, hscan⟩ := scanRecord_line h htexts hends hending
  obtain ⟨b, text, hline, hb⟩ := head_line h hne
  rw [recordsFrom]
  have hdrop : (blank ++ (line texts ++ bs)).dropWhile isTerminator = line texts ++ bs := by
    rw [List.dropWhile_append_of_pos hblank, hline, List.cons_append,
      List.dropWhile_cons_of_neg (by simp [hb])]
  simp only [hdrop, hscan]
  rw [dif_neg (by simp [hline])]
  exact ⟨_, rfl⟩

end Line

theorem records_eq_recordsFrom {bs : List UInt8} (h : byteOrderMark.isPrefixOf bs = false) :
    records bs = recordsFrom .first bs := by
  simp [records, h]

end RateSweep.Csv
