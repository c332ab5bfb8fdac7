import RateSweep.Log.Body
import RateSweep.Proofs.RecordScan

namespace RateSweep

namespace Csv

theorem bytes_intercalate (texts : List (List Char)) :
    Text.bytes ([','].intercalate texts) = line (texts.map Text.bytes) := by
  have hcomma : Text.bytes [','] = [comma] := by decide
  induction texts with
  | nil => rfl
  | cons text texts ih =>
    cases texts with
    | nil => simp [line]
    | cons text' texts =>
      rw [List.intercalate_cons_cons, Text.bytes_append, Text.bytes_append, ih, hcomma]
      simp [line, List.intercalate_cons_cons]

theorem encode_intercalate (texts : List String) :
    Text.encode (",".intercalate texts) = line (texts.map Text.encode) := by
  have hencode : texts.map Text.encode = (texts.map String.toList).map Text.bytes := by
    rw [List.map_map]
    exact List.map_congr_left fun s _ => Text.encode_eq_bytes s
  rw [Text.encode_eq_bytes, String.toList_intercalate, hencode]
  exact bytes_intercalate _

theorem writeFields_eq (fields : List (List Char)) :
    writeFields fields = [','].intercalate (fields.map writeField) := by
  induction fields with
  | nil => rfl
  | cons f fields ih =>
    cases fields with
    | nil => simp [writeFields]
    | cons g fields =>
      rw [writeFields, ih]
      · simp [List.intercalate_cons_cons]
      · simp

theorem eq_nil_of_writeField {f : List Char} (h : writeField f = []) : f = [] := by
  unfold writeField at h
  split at h
  · cases h
  · exact h

theorem eq_singleton_of_writeFields {fields : List (List Char)} (hne : fields ≠ [])
    (h : writeFields fields = []) : fields = [[]] := by
  match fields, hne with
  | [f], _ => rw [eq_nil_of_writeField h]
  | f :: g :: fields, _ => simp [writeFields] at h

theorem exists_line {fields : List (List Char)} (hne : fields ≠ []) :
    ∃ texts, List.Forall₂ Spells texts (fields.map Text.bytes) ∧ line texts ≠ [] ∧
      Text.bytes (writeRecord fields) = line texts ++ [lineFeed] := by
  have hfeed : Text.bytes ['\n'] = [lineFeed] := by decide
  by_cases hempty : writeFields fields = []
  · obtain rfl := eq_singleton_of_writeFields hne hempty
    exact ⟨[[quote, quote]], .cons (spells_quoted []) .nil, by decide, by decide⟩
  · refine ⟨(fields.map writeField).map Text.bytes, ?_, ?_, ?_⟩
    · rw [List.map_map, List.forall₂_map_left_iff, List.forall₂_map_right_iff]
      exact List.forall₂_same.2 fun f _ => spells_writeField f
    · rw [← bytes_intercalate, ← writeFields_eq]
      obtain ⟨c, cs, hcs⟩ := List.exists_cons_of_ne_nil hempty
      rw [hcs]
      simp
    · rw [writeRecord, ← bytes_intercalate, ← writeFields_eq]
      simp [hempty, hfeed]

theorem fields_recordsFrom_writeRecord {rows : List (List (List Char))}
    (hne : ∀ r ∈ rows, r ≠ []) (start : Position) :
    (recordsFrom start (Text.bytes (rows.flatMap writeRecord))).map Record.fields =
      rows.map (·.map Text.bytes) := by
  induction rows generalizing start with
  | nil =>
    rw [List.flatMap_nil, Text.bytes_nil, recordsFrom]
    rfl
  | cons r rows ih =>
    obtain ⟨hr, hrows⟩ := List.forall_mem_cons.1 hne
    obtain ⟨texts, hspells, hline, hbytes⟩ := exists_line hr
    obtain ⟨reached, hread⟩ := recordsFrom_line [] (by simp) hspells hline
      (.terminator (b := lineFeed) (by decide) (Text.bytes (rows.flatMap writeRecord))) (by decide) start
    rw [List.flatMap_cons, Text.bytes_append, hbytes, List.append_assoc, List.singleton_append,
      ← List.nil_append (line texts ++ _), hread, List.map_cons, ih hrows, List.map_cons]

theorem writeRecord_cons (f : List Char) (fields : List (List Char)) :
    ∃ c behind, c ≠ '\uFEFF' ∧ writeRecord (f :: fields) = writeField f ++ c :: behind := by
  cases fields with
  | nil =>
    by_cases hf : writeField f = []
    · exact ⟨'"', ['"', '\n'], by decide, by simp [writeRecord, writeFields, hf]⟩
    · exact ⟨'\n', [], by decide, by simp [writeRecord, writeFields, hf]⟩
  | cons g fields =>
    exact ⟨',', writeFields (g :: fields) ++ ['\n'], by decide, by simp [writeRecord, writeFields]⟩

theorem head?_of_writeRecord {f : List Char} {fields : List (List Char)} {behind : List Char}
    (h : (writeRecord (f :: fields) ++ behind).head? = some '\uFEFF') :
    f.head? = some '\uFEFF' := by
  obtain ⟨c, text, hc, hrecord⟩ := writeRecord_cons f fields
  rw [hrecord, List.append_assoc, List.cons_append] at h
  unfold writeField at h
  split at h
  · simp at h
  · cases f with
    | nil => exact absurd (Option.some.inj h) hc
    | cons d ds => exact h

theorem encode_write (records : List (List String)) :
    Text.encode (write records) =
      Text.bytes ((records.map (·.map String.toList)).flatMap writeRecord) := by
  rw [write, Text.encode_ofList, List.flatMap_map]

theorem fields_recordsFrom_write {rows : List (List String)} (hne : ∀ r ∈ rows, r ≠ [])
    (start : Position) : (recordsFrom start (Text.encode (write rows))).map Record.fields =
      rows.map (·.map Text.encode) := by
  rw [encode_write, fields_recordsFrom_writeRecord, List.map_map]
  · refine List.map_congr_left fun r _ => ?_
    rw [Function.comp_apply, List.map_map]
    exact List.map_congr_left fun s _ => (Text.encode_eq_bytes s).symm
  · intro r hr
    obtain ⟨r', hr', rfl⟩ := List.mem_map.1 hr
    simpa using hne r' hr'

theorem fields_records_write {header : List String} {rows : List (List String)}
    (hheader : header ≠ []) (hrows : ∀ r ∈ rows, r ≠ [])
    (hmark : ∀ f ∈ header.head?, f.toList.head? ≠ some '\uFEFF') :
    (records (Text.encode (write (header :: rows)))).map Record.fields =
      (header :: rows).map (·.map Text.encode) := by
  have hnomark : byteOrderMark.isPrefixOf (Text.encode (write (header :: rows))) = false := by
    obtain ⟨f, fields, rfl⟩ := List.exists_cons_of_ne_nil hheader
    by_contra h
    rw [encode_write, Bool.not_eq_false] at h
    have hhead := Text.head?_of_byteOrderMark h
    rw [List.map_cons, List.map_cons, List.flatMap_cons] at hhead
    exact hmark f rfl (head?_of_writeRecord hhead)
  rw [records_eq_recordsFrom hnomark]
  exact fields_recordsFrom_write (List.forall_mem_cons.2 ⟨hheader, hrows⟩) _

/-- Read without regard to a byte order mark, every text gives back its records, so that no two lists
of them have the same. -/
theorem write_inj {rows rows' : List (List String)} (hne : ∀ r ∈ rows, r ≠ [])
    (hne' : ∀ r ∈ rows', r ≠ []) (h : write rows = write rows') : rows = rows' := by
  have hencoded : rows.map (·.map Text.encode) = rows'.map (·.map Text.encode) := by
    rw [← fields_recordsFrom_write hne .first, h, fields_recordsFrom_write hne' .first]
  have hinj : Function.Injective Text.encode := fun _ _ => Text.encode_inj
  exact hinj.list_map.list_map hencoded

end Csv

namespace Log

theorem decodeFields_encode (position : Csv.Position) (index : Nat) (fields : List String) :
    ∃ texts, decodeFields position index ((fields.map Text.encode).map Text.trimBytes) =
      .ok texts ∧ texts.map Text.trim = fields.map Text.trim := by
  induction fields generalizing index with
  | nil => exact ⟨[], rfl, rfl⟩
  | cons f fields ih =>
    obtain ⟨t, hdecode, htrim⟩ := Text.trim_decode_trimBytes f
    obtain ⟨texts, hread, htexts⟩ := ih (index + 1)
    refine ⟨t :: texts, ?_, by rw [List.map_cons, List.map_cons, htrim, htexts]⟩
    simp only [List.map_cons, decodeFields, hdecode, hread, Except.map]

theorem rowAt_encode {r : Csv.Record} {fields : List String}
    (h : r.fields = fields.map Text.encode) (position : Csv.Position) :
    rowAt position r = .ok ⟨r.start.line, fields.map Text.trim⟩ := by
  obtain ⟨texts, hread, htexts⟩ := decodeFields_encode position 0 fields
  rw [rowAt, h, hread, ← htexts]
  rfl

theorem exists_map_rowAt {rs : List Csv.Record} {rows : List (List String)}
    (h : List.Forall₂ (fun r fields => r.fields = fields.map Text.encode) rs rows) :
    ∃ out : List Row, rs.map (fun r => rowAt r.start r) = out.map .ok ∧
      out.map Row.fields = rows.map (·.map Text.trim) := by
  induction h with
  | nil => exact ⟨[], rfl, rfl⟩
  | @cons r fields rs rows hr _ ih =>
    obtain ⟨out, hout, hfields⟩ := ih
    exact ⟨⟨r.start.line, fields.map Text.trim⟩ :: out,
      by rw [List.map_cons, List.map_cons, rowAt_encode hr, hout],
      by rw [List.map_cons, List.map_cons, hfields]⟩

theorem exists_rows_write {header : List String} {rows : List (List String)}
    (hrows : ∀ r ∈ rows, r ≠ [])
    (hmark : ∀ f ∈ header.head?, f.toList.head? ≠ some '\uFEFF') (use : HeaderUse) :
    ∃ out : List Row, Log.rows use (Text.encode (Csv.write (header :: rows))) = out.map .ok ∧
      out.map Row.fields = rows.map (·.map Text.trim) := by
  -- an empty header is written as an empty field is
  obtain ⟨fields, hne, hwrite, hmark⟩ : ∃ fields : List String, fields ≠ [] ∧
      Csv.write (header :: rows) = Csv.write (fields :: rows) ∧
      ∀ f ∈ fields.head?, f.toList.head? ≠ some '\uFEFF' := by
    cases header with
    | nil => exact ⟨[""], by simp, rfl, by simp⟩
    | cons f fields => exact ⟨f :: fields, by simp, rfl, hmark⟩
  rw [hwrite]
  have hrecords := Csv.fields_records_write hne hrows hmark
  unfold Log.rows
  cases hread : Csv.records (Text.encode (Csv.write (fields :: rows))) with
  | nil => simp [hread] at hrecords
  | cons first rs =>
    rw [hread, List.map_cons, List.map_cons, List.cons.injEq] at hrecords
    have hall : List.Forall₂ (fun r fields => r.fields = fields.map Text.encode) rs rows := by
      have := hrecords.2
      rwa [← List.forall₂_eq_eq_eq, List.forall₂_map_left_iff, List.forall₂_map_right_iff] at this
    cases hall with
    | nil => exact ⟨[], rfl, rfl⟩
    | @cons r fields rs rows hr hall =>
      obtain ⟨out, hout, hfields⟩ := exists_map_rowAt hall
      refine ⟨⟨r.start.line, fields.map Text.trim⟩ :: out, ?_, ?_⟩
      · simp only [List.drop_succ_cons, List.drop_zero, List.map_cons, rowAt_encode hr, hout]
      · rw [List.map_cons, List.map_cons, hfields]

end Log

end RateSweep
