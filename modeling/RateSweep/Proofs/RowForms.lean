import RateSweep.Proofs.LineEnds
import RateSweep.Proofs.RowReading
import RateSweep.Proofs.SnapshotSpacing
import RateSweep.Proofs.WrittenRecords

namespace RateSweep

open QueueSnapshot (tight)

/-- Alike, but that a malformed snapshot may differ in the blanks next to commas and at its ends. -/
inductive ReadsAlike {α : Type} : Except RecordError α → Except RecordError α → Prop
  | same (x : Except RecordError α) : ReadsAlike x x
  | malformed (line : Nat) {s t : String} (h : tight s.toList = tight t.toList) :
    ReadsAlike (.error (.malformedQueue line s)) (.error (.malformedQueue line t))

theorem ReadsAlike.bind {α β : Type} {x y : Except RecordError α}
    {f g : α → Except RecordError β} (h : ReadsAlike x y) (hfg : ∀ a, f a = g a) :
    ReadsAlike (x >>= f) (y >>= g) := by
  obtain rfl : f = g := funext hfg
  cases h with
  | same => exact .same _
  | malformed line h => exact .malformed line h

section Snapshot

variable (clusterSize : Nat) (snapshot : String)

theorem join_eq_intercalate (sep : Char) (ss : List (List Char)) :
    Text.join sep ss = [sep].intercalate ss := by
  induction ss with
  | nil => rfl
  | cons s ss ih =>
    cases ss with
    | nil => simp [Text.join]
    | cons t ss => rw [Text.join_cons _ s (by simp), ih, List.intercalate_cons_cons]; simp

def spread : String := ",".intercalate ((Text.segments ',' snapshot).map Text.trim)

theorem toList_spread : (spread snapshot).toList = tight snapshot.toList := by
  have hparts : ((Text.segments ',' snapshot).map Text.trim).map String.toList =
      (Text.split ',' snapshot.toList).map Text.trimChars := by
    simp [Text.segments, Function.comp_def, Text.toList_trim]
  rw [spread, String.toList_intercalate, hparts, tight, join_eq_intercalate]
  rfl

theorem trim_eq_empty_iff : Text.trim snapshot = "" ↔ spread snapshot = "" := by
  rw [← String.toList_inj, ← String.toList_inj, Text.toList_trim, toList_spread]
  exact QueueSnapshot.trimChars_eq_nil_iff_tight snapshot.toList

theorem tight_trim_eq_spread :
    tight (Text.trim snapshot).toList = tight (spread snapshot).toList := by
  rw [Text.toList_trim, toList_spread, QueueSnapshot.tight_trimChars, QueueSnapshot.tight_tight]

theorem ofText?_trim_eq_spread :
    QueueSnapshot.ofText? (Text.trim snapshot) clusterSize =
      QueueSnapshot.ofText? (spread snapshot) clusterSize := by
  rw [QueueSnapshot.ofText?, QueueSnapshot.ofText?, Text.toList_trim, toList_spread,
    QueueSnapshot.readEntries_trimChars, QueueSnapshot.readEntries_tight]

theorem queueOfRow?_alike {r s : Row} (hline : r.line = s.line)
    (hr : r.rest BalancerRecord.queueColumn = Text.trim snapshot)
    (hs : s.rest BalancerRecord.queueColumn = spread snapshot) :
    ReadsAlike (BalancerRecord.queueOfRow? clusterSize r)
      (BalancerRecord.queueOfRow? clusterSize s) := by
  unfold BalancerRecord.queueOfRow?
  simp only [hr, hs, hline, trim_eq_empty_iff, ofText?_trim_eq_spread]
  split
  · exact .same _
  · split
    · exact .same _
    · exact .malformed s.line (tight_trim_eq_spread snapshot)
    · exact .same _

theorem ofRow?_alike {r s : Row} (hline : r.line = s.line)
    (hr : r.rest BalancerRecord.queueColumn = Text.trim snapshot)
    (hs : s.rest BalancerRecord.queueColumn = spread snapshot)
    (hrwidth : ¬ r.width ≤ BalancerRecord.queueColumn)
    (hswidth : ¬ s.width ≤ BalancerRecord.queueColumn)
    (htext : ∀ i < BalancerRecord.queueColumn, r.text i = s.text i) :
    ReadsAlike (BalancerRecord.ofRow? clusterSize r) (BalancerRecord.ofRow? clusterSize s) := by
  have h0 := htext 0 (by decide)
  have hqueue := queueOfRow?_alike clusterSize snapshot hline hr hs
  rw [BalancerRecord.ofRow?, if_neg hrwidth, BalancerRecord.ofRow?, if_neg hswidth, h0]
  by_cases hempty : s.text 0 = ""
  · rw [if_pos hempty, if_pos hempty]
    simp only [Row.invalid, hline]
    exact .same _
  · rw [if_neg hempty, if_neg hempty]
    refine ReadsAlike.bind hqueue fun queue => ?_
    rw [Row.parse_congr _ hline (htext 1 (by decide)), Row.parse_congr _ hline (htext 3 (by decide)),
      Row.parse_congr _ hline (htext 4 (by decide)), Row.parse_congr _ hline (htext 5 (by decide)),
      htext 2 (by decide)]

theorem forms_alike (line : Nat) {lead : List String}
    (hsix : lead.length = BalancerRecord.queueColumn) :
    ReadsAlike (BalancerRecord.ofRow? clusterSize ⟨line, (lead ++ [snapshot]).map Text.trim⟩)
      (BalancerRecord.ofRow? clusterSize
        ⟨line, (lead ++ Text.segments ',' snapshot).map Text.trim⟩) := by
  have hlead : (lead.map Text.trim).length = BalancerRecord.queueColumn := by simp [hsix]
  have hsegments : 0 < (Text.segments ',' snapshot).length := by
    simp [Text.segments, List.length_pos_iff, Text.split_ne_nil]
  apply ofRow?_alike clusterSize snapshot
  · rfl
  · rw [Row.rest, List.map_append, List.drop_left' hlead]
    simp
  · rw [Row.rest, List.map_append, List.drop_left' hlead, spread]
  · simp [Row.width, hsix]
  · simp only [Row.width, List.length_map, List.length_append, hsix]
    omega
  · intro i hi
    have hi' : i < (lead.map Text.trim).length := by omega
    simp only [Row.text, List.map_append, List.getD_append _ _ _ _ hi']

end Snapshot

section Lines

open Csv

theorem exists_rows_append_line {front : List UInt8} (hfront : EndsLine front)
    (hheader : records front ≠ []) (use : Log.HeaderUse) :
    ∃ number, ∀ {texts : List (List UInt8)} {fields : List String} {behind : List UInt8},
      List.Forall₂ Spells texts (fields.map Text.encode) → line texts ≠ [] →
      (∀ b ∈ behind.head?, isTerminator b = true) →
      ∃ others, Log.rows use (front ++ (line texts ++ behind)) =
        Log.rows use front ++ .ok ⟨number, fields.map Text.trim⟩ :: others := by
  obtain ⟨reached, blank, hblank, hsplit⟩ := records_append hfront hheader
  refine ⟨reached.line, fun {texts fields behind} hspells hne hbehind => ?_⟩
  obtain ⟨ending, rest, hends, hending⟩ : ∃ ending rest, Ends behind ending rest ∧
      ending ≠ .delimiter := by
    cases behind with
    | nil => exact ⟨.input, [], .input, by decide⟩
    | cons b rest => exact ⟨.terminator, rest, .terminator (hbehind b rfl) rest, by decide⟩
  obtain ⟨next, hrecord⟩ := recordsFrom_line blank hblank hspells hne hends hending reached
  have hrow (position : Position) := Log.rowAt_encode
    (r := ⟨reached, fields.map Text.encode⟩) rfl position
  unfold Log.rows
  rw [hsplit, hrecord]
  -- only a row right behind the header is read from elsewhere, and a text reads alike from anywhere
  rcases hread : records front with _ | ⟨header, _ | ⟨first, rs⟩⟩
  · exact absurd hread hheader
  · exact ⟨(recordsFrom next rest).map fun r => Log.rowAt r.start r, by simp [hrow]⟩
  · exact ⟨(recordsFrom next rest).map fun r => Log.rowAt r.start r, by simp [hrow]⟩

end Lines

def quotedRow (lead : List String) (snapshot : String) : String :=
  ",".intercalate (lead ++ ["\"" ++ snapshot ++ "\""])

def bareRow (lead : List String) (snapshot : String) : String :=
  ",".intercalate (lead ++ [snapshot])

section Forms

open Csv

variable {lead : List String} {snapshot : String}

theorem spells_lead (hlead : ∀ s ∈ lead, ∀ c ∈ [',', '"', '\r', '\n'], c ∉ s.toList) :
    List.Forall₂ Spells (lead.map Text.encode) (lead.map Text.encode) := by
  rw [List.forall₂_same]
  intro text htext
  obtain ⟨s, hs, rfl⟩ := List.mem_map.1 htext
  rw [Text.encode_eq_bytes]
  exact spells_bare (needsQuotes_eq_false_iff.2 (hlead s hs))

theorem spells_quotedRow (hlead : ∀ s ∈ lead, ∀ c ∈ [',', '"', '\r', '\n'], c ∉ s.toList)
    (hquote : '"' ∉ snapshot.toList) :
    List.Forall₂ Spells ((lead ++ ["\"" ++ snapshot ++ "\""]).map Text.encode)
      ((lead ++ [snapshot]).map Text.encode) := by
  have htext : Text.encode ("\"" ++ snapshot ++ "\"") =
      Text.bytes ('"' :: doubleQuotes snapshot.toList ++ ['"']) := by
    rw [doubleQuotes_of_notMem hquote, Text.encode_eq_bytes]
    simp
  rw [List.map_append, List.map_append]
  refine List.rel_append (spells_lead hlead) (.cons ?_ .nil)
  rw [htext, Text.encode_eq_bytes]
  exact spells_quoted snapshot.toList

theorem intercalate_append_intercalate {α : Type} (sep : List α) {fields : List (List α)}
    (hne : fields ≠ []) (lead : List (List α)) :
    sep.intercalate (lead ++ [sep.intercalate fields]) = sep.intercalate (lead ++ fields) := by
  induction lead with
  | nil => simp
  | cons s lead ih =>
    rw [List.cons_append, List.cons_append, List.intercalate_cons_of_ne_nil (by simp), ih,
      List.intercalate_cons_of_ne_nil (by simp [hne])]

theorem bareRow_eq (lead : List String) (snapshot : String) :
    bareRow lead snapshot = ",".intercalate (lead ++ Text.segments ',' snapshot) := by
  have hwhole : (lead ++ [snapshot]).map String.toList =
      lead.map String.toList ++ [[','].intercalate (Text.split ',' snapshot.toList)] := by
    simp [← join_eq_intercalate]
  have hparts : (lead ++ Text.segments ',' snapshot).map String.toList =
      lead.map String.toList ++ Text.split ',' snapshot.toList := by
    simp [Text.segments, Function.comp_def]
  rw [bareRow, ← String.toList_inj, String.toList_intercalate, String.toList_intercalate, hwhole,
    hparts]
  exact intercalate_append_intercalate [','] (Text.split_ne_nil _ _) _

theorem spells_bareRow (hlead : ∀ s ∈ lead, ∀ c ∈ [',', '"', '\r', '\n'], c ∉ s.toList)
    (hplain : ∀ c ∈ ['"', '\r', '\n'], c ∉ snapshot.toList) :
    List.Forall₂ Spells ((lead ++ Text.segments ',' snapshot).map Text.encode)
      ((lead ++ Text.segments ',' snapshot).map Text.encode) := by
  apply spells_lead
  intro s hs
  rcases List.mem_append.1 hs with hs | hs
  · exact hlead s hs
  · obtain ⟨text, htext, rfl⟩ := List.mem_map.1 hs
    intro c hspecial hc
    rw [String.toList_ofList] at hc
    rcases List.mem_cons.1 hspecial with rfl | hspecial
    · exact Text.notMem_of_mem_split htext hc
    · exact hplain c hspecial (Text.mem_of_mem_split htext hc)

end Forms

theorem balancer_forms_read_alike (clusterSize : Nat) (use : Log.HeaderUse)
    (front behind : List UInt8) (lead : List String) (snapshot : String)
    (hfront : Csv.EndsLine front) (hheader : Csv.records front ≠ [])
    (hbehind : ∀ b ∈ behind.head?, Csv.isTerminator b = true) (hsix : lead.length = 6)
    (hlead : ∀ s ∈ lead, ∀ c ∈ [',', '"', '\r', '\n'], c ∉ s.toList)
    (hsnapshot : ∀ c ∈ ['"', '\r', '\n'], c ∉ snapshot.toList) :
    ∃ quoted bare behindQuoted behindBare,
      Log.rows use (front ++ (Text.encode (quotedRow lead snapshot) ++ behind)) =
        Log.rows use front ++ .ok quoted :: behindQuoted ∧
      Log.rows use (front ++ (Text.encode (bareRow lead snapshot) ++ behind)) =
        Log.rows use front ++ .ok bare :: behindBare ∧
      ReadsAlike (BalancerRecord.ofRow? clusterSize quoted)
        (BalancerRecord.ofRow? clusterSize bare) := by
  obtain ⟨number, hrows⟩ := exists_rows_append_line hfront hheader use
  have hlength (s : String) : 1 < ((lead ++ [s]).map Text.encode).length := by simp [hsix]
  obtain ⟨behindQuoted, hquoted⟩ := hrows
    (spells_quotedRow hlead (hsnapshot _ (by simp))) (Csv.line_ne_nil (hlength _)) hbehind
  obtain ⟨behindBare, hbare⟩ := hrows (spells_bareRow hlead hsnapshot)
    (Csv.line_ne_nil (by simp; omega)) hbehind
  rw [← Csv.encode_intercalate] at hquoted hbare
  rw [← bareRow_eq] at hbare
  exact ⟨_, _, behindQuoted, behindBare, hquoted, hbare,
    forms_alike clusterSize snapshot number hsix⟩

def headerLine : List UInt8 := Text.encode "event,node_id\n"

def leadOfJoin : List String := ["user-joined", "1", "p", "10", "5", "7"]

theorem balancer_forms_read_alike_spacedPairs :
    quotedRow leadOfJoin " [(0 ,3) , (1,0)]" = "user-joined,1,p,10,5,7,\" [(0 ,3) , (1,0)]\"" ∧
      bareRow leadOfJoin " [(0 ,3) , (1,0)]" = "user-joined,1,p,10,5,7, [(0 ,3) , (1,0)]" ∧
      Csv.EndsLine headerLine ∧ Csv.records headerLine ≠ [] ∧
      ∃ quoted bare behindQuoted behindBare,
        Log.rows .passedOver
            (headerLine ++ (Text.encode (quotedRow leadOfJoin " [(0 ,3) , (1,0)]") ++ [])) =
          Log.rows .passedOver headerLine ++ .ok quoted :: behindQuoted ∧
        Log.rows .passedOver
            (headerLine ++ (Text.encode (bareRow leadOfJoin " [(0 ,3) , (1,0)]") ++ [])) =
          Log.rows .passedOver headerLine ++ .ok bare :: behindBare ∧
        ReadsAlike (BalancerRecord.ofRow? 2 quoted) (BalancerRecord.ofRow? 2 bare) := by
  have hline : Csv.EndsLine headerLine :=
    ⟨Text.encode "event,node_id", Csv.lineFeed, by decide +kernel, by decide, by decide +kernel⟩
  have hheader : Csv.records headerLine ≠ [] := by decide +kernel
  exact ⟨by decide +kernel, by decide +kernel, hline, hheader,
    balancer_forms_read_alike 2 .passedOver headerLine [] leadOfJoin " [(0 ,3) , (1,0)]" hline
      hheader (by simp) rfl (by simp [leadOfJoin]) (by simp)⟩

end RateSweep
