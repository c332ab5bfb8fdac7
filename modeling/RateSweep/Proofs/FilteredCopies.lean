import RateSweep.Proofs.FilteredRows
import RateSweep.Proofs.RefusedInput

namespace RateSweep

namespace Log

structure Holds (body : List UInt8) (names : List String) (rows : List Row) : Prop where
  header : Log.header body = .ok names
  rows : ∀ use, Log.rows use body = rows.map .ok

/-- The names of a header that was written: an empty header comes back with one field. -/
def writtenNames (names : List String) : List String := if names = [] then [""] else names

theorem write_writtenNames (names : List String) (rows : List (List String)) :
    Csv.write (writtenNames names :: rows) = Csv.write (names :: rows) := by
  cases names <;> rfl

theorem writtenNames_ne_nil (names : List String) : writtenNames names ≠ [] := by
  cases names <;> simp [writtenNames]

theorem trimmed_of_header {body : List UInt8} {names : List String}
    (h : Log.header body = .ok names) : names.map Text.trim = names := by
  unfold Log.header at h
  split at h
  · cases h
    rfl
  · next r _ _ =>
    cases hd : decodeFields r.start 0 r.fields with
    | error e =>
      rw [hd] at h
      cases h
    | ok texts =>
      rw [hd] at h
      obtain rfl := Except.ok.inj h
      rw [List.map_map]
      exact List.map_congr_left fun s _ => Text.trim_trim s

theorem rows_eq_of_kept {body : List UInt8} {rows : List Row}
    (h : Log.rows .kept body = rows.map .ok) (use : HeaderUse) :
    Log.rows use body = rows.map .ok := by
  cases use with
  | kept => exact h
  | passedOver =>
    rcases Log.rows_cases body with ⟨-, hsame⟩ | ⟨r, field, n, others, -, -, -, hkept, -⟩
    · rw [hsame, h]
    · rw [h] at hkept
      cases rows <;> cases hkept

section Written

variable {names : List String} {rows : List (List String)}

theorem decodeFields_map_encode (position : Csv.Position) (index : Nat) (fields : List String) :
    decodeFields position index (fields.map Text.encode) = .ok fields := by
  induction fields generalizing index with
  | nil => rfl
  | cons f fields ih => simp only [List.map_cons, decodeFields, Text.decode_encode, ih, Except.map]

theorem header_write (htrimmed : names.map Text.trim = names) (hrows : ∀ r ∈ rows, r ≠ [])
    (hmark : ∀ name ∈ names.head?, name.toList.head? ≠ some '\uFEFF') :
    Log.header (Text.encode (Csv.write (names :: rows))) = .ok (writtenNames names) := by
  have htrimmed : (writtenNames names).map Text.trim = writtenNames names := by
    unfold writtenNames
    split
    · decide
    · exact htrimmed
  have hmark : ∀ name ∈ (writtenNames names).head?, name.toList.head? ≠ some '\uFEFF' := by
    unfold writtenNames
    split
    · simp
    · exact hmark
  have hrecords := Csv.fields_records_write (writtenNames_ne_nil names) hrows hmark
  rw [write_writtenNames] at hrecords
  unfold Log.header
  cases hread : Csv.records (Text.encode (Csv.write (names :: rows))) with
  | nil => simp [hread] at hrecords
  | cons first rs =>
    rw [hread, List.map_cons, List.map_cons, List.cons.injEq] at hrecords
    simp only [hrecords.1, decodeFields_map_encode, Except.map, htrimmed]

theorem holds_write (htrimmed : names.map Text.trim = names)
    (htrimmedRows : rows.map (·.map Text.trim) = rows) (hrows : ∀ r ∈ rows, r ≠ [])
    (hmark : ∀ name ∈ names.head?, name.toList.head? ≠ some '\uFEFF') :
    ∃ copies, Holds (Text.encode (Csv.write (names :: rows))) (writtenNames names) copies ∧
      copies.map Row.fields = rows := by
  obtain ⟨copies, hcopies, hfields⟩ := exists_rows_write hrows hmark .kept
  exact ⟨copies, ⟨header_write htrimmed hrows hmark, rows_eq_of_kept hcopies⟩,
    hfields.trans htrimmedRows⟩

end Written

section Decoding

variable {α : Type} {read : Row → Except RecordError α}

theorem exists_rows_of_failure {xs : List (Except RecordError Row)}
    (h : (decodeRows read xs).failure = none) :
    ∃ rows : List Row, xs = rows.map .ok ∧ ∀ row ∈ rows, ∃ a, read row = .ok a := by
  induction xs with
  | nil => exact ⟨[], rfl, by simp⟩
  | cons x xs ih =>
    cases x with
    | error e => cases h
    | ok row =>
      rw [decodeRows] at h
      cases hr : read row with
      | error e =>
        rw [hr] at h
        cases h
      | ok a =>
        rw [hr] at h
        obtain ⟨rows, rfl, hrows⟩ := ih h
        exact ⟨row :: rows, rfl, List.forall_mem_cons.2 ⟨⟨a, hr⟩, hrows⟩⟩

def picks (read : Row → Except RecordError α) (keep : α → Bool) (fields : List String) : Bool :=
  (read ⟨0, fields⟩).toOption.any keep

theorem picks_fields (hread : ReadsFields read) (keep : α → Bool) {row : Row} {a : α}
    (h : read row = .ok a) : picks read keep row.fields = keep a := by
  have hsame : (read ⟨0, row.fields⟩).toOption = some a :=
    (hread.congr (r := ⟨0, row.fields⟩) (s := row) rfl).trans (toOption_eq_some_iff.2 h)
  rw [picks, hsame]
  rfl

theorem decodeRows_picks (hread : ReadsFields read) (keep : α → Bool) {rows : List Row}
    (h : ∀ row ∈ rows, ∃ a, read row = .ok a) :
    (decodeRows read (rows.map .ok)).failure = none ∧
      ((decodeRows read (rows.map .ok)).rows.filter fun row => keep row.2).map (·.1.fields) =
        (rows.map Row.fields).filter (picks read keep) := by
  induction rows with
  | nil => exact ⟨rfl, rfl⟩
  | cons row rows ih =>
    obtain ⟨⟨a, ha⟩, hrows⟩ := List.forall_mem_cons.1 h
    obtain ⟨hfailure, hpicked⟩ := ih hrows
    have hdecode : decodeRows read ((row :: rows).map .ok) =
        (decodeRows read (rows.map .ok)).cons (row, a) := by
      rw [List.map_cons, decodeRows, ha]
    rw [hdecode, List.map_cons, List.filter_cons, picks_fields hread keep ha]
    refine ⟨hfailure, ?_⟩
    rw [Decoded.cons, List.filter_cons]
    split <;> simp [hpicked]

end Decoding

end Log

section Filtered

variable {α : Type} {read : Row → Except RecordError α} {keep : α → Bool} {body : List UInt8}
  {l : FilteredLog}

open Log (Holds picks writtenNames)

theorem ofRows?_eq_ok_iff_holds (hread : ReadsFields read) :
    FilteredLog.ofRows? read keep body = .ok l ↔
      ∃ rows, Holds body l.header rows ∧ (∀ row ∈ rows, ∃ a, read row = .ok a) ∧
        l.rows = (rows.map Row.fields).filter (picks read keep) := by
  rw [ofRows?_eq_ok_iff]
  constructor
  · rintro ⟨hheader, hfailure, hrows⟩
    obtain ⟨rows, hkept, hreads⟩ := Log.exists_rows_of_failure hfailure
    refine ⟨rows, ⟨hheader, Log.rows_eq_of_kept hkept⟩, hreads, ?_⟩
    rw [hrows, hkept, (Log.decodeRows_picks hread keep hreads).2]
  · rintro ⟨rows, hholds, hreads, hrows⟩
    obtain ⟨hfailure, hpicked⟩ := Log.decodeRows_picks hread keep hreads
    rw [hholds.rows, hpicked]
    exact ⟨hholds.header, hfailure, hrows⟩

theorem exists_copies (hread : ReadsFields read) (h : FilteredLog.ofRows? read keep body = .ok l)
    (hmark : ∀ name ∈ l.header.head?, name.toList.head? ≠ some '\uFEFF') :
    ∃ copies, Holds (Text.encode l.text) (writtenNames l.header) copies ∧
      copies.map Row.fields = l.rows ∧ ∀ row ∈ copies, ∃ a, read row = .ok a := by
  have htrimmed := Log.trimmed_of_header (ofRows?_eq_ok_iff.1 h).1
  obtain ⟨copies, hcopies, hfields⟩ :=
    Log.holds_write htrimmed (map_trim_rows h) (ne_nil_of_mem_rows hread h) hmark
  refine ⟨copies, hcopies, hfields, fun copy hcopy => ?_⟩
  have hmem : copy.fields ∈ l.rows := by
    rw [← hfields]
    exact List.mem_map.2 ⟨copy, hcopy, rfl⟩
  obtain ⟨row, a, -, ha, hsame⟩ := exists_row_of_mem h hmem
  exact ⟨a, toOption_eq_some_iff.1 ((hread.congr hsame).symm.trans (toOption_eq_some_iff.2 ha))⟩

theorem ofRows?_encode_text (hread : ReadsFields read)
    (h : FilteredLog.ofRows? read keep body = .ok l)
    (hmark : ∀ name ∈ l.header.head?, name.toList.head? ≠ some '\uFEFF') (keep' : α → Bool) :
    FilteredLog.ofRows? read keep' (Text.encode l.text) =
      .ok ⟨writtenNames l.header, l.rows.filter (picks read keep')⟩ := by
  obtain ⟨copies, hcopies, hfields, hreads⟩ := exists_copies hread h hmark
  exact (ofRows?_eq_ok_iff_holds hread).2 ⟨copies, hcopies, hreads, by rw [hfields]⟩

end Filtered

def LogFilter.Wants (f : LogFilter) (clusterSize : Nat) (kind : LogKind) (row : Row) : Prop :=
  match kind with
  | .client => f.node = none ∧ f.since = none
  | .balancer => ∃ r ∈ (BalancerRecord.ofRow? clusterSize row).toOption,
    r.event = .userJoined ∧ (∀ n ∈ f.node, r.node = n) ∧ ∀ t ∈ f.since, t ≤ r.start
  | .cluster => ∃ r ∈ (ClusterRecord.ofRow? row).toOption,
    r.event = .healthCheck ∧ (∀ n ∈ f.node, r.node = n) ∧ ∀ t ∈ f.since, t ≤ r.timestamp

instance (f : LogFilter) (clusterSize : Nat) (kind : LogKind) (row : Row) :
    Decidable (f.Wants clusterSize kind row) :=
  match kind with
  | .client => inferInstanceAs (Decidable (f.node = none ∧ f.since = none))
  | .balancer => inferInstanceAs (Decidable (∃ r ∈ (BalancerRecord.ofRow? clusterSize row).toOption,
    r.event = .userJoined ∧ (∀ n ∈ f.node, r.node = n) ∧ ∀ t ∈ f.since, t ≤ r.start))
  | .cluster => inferInstanceAs (Decidable (∃ r ∈ (ClusterRecord.ofRow? row).toOption,
    r.event = .healthCheck ∧ (∀ n ∈ f.node, r.node = n) ∧ ∀ t ∈ f.since, t ≤ r.timestamp))

theorem accepts_iff (f : LogFilter) (node : UInt32) (t : Nanos) :
    f.accepts node t = true ↔ (∀ n ∈ f.node, node = n) ∧ ∀ since ∈ f.since, since ≤ t := by
  simp [LogFilter.accepts, Option.all_eq_true, eq_comm (b := node)]

open Log (Holds picks writtenNames)

/-- What a filtered log is to the body it was taken from: it reads as the body's header and wanted
rows, another filter may go before or behind, and the same filter again changes nothing. -/
structure IsCopy (clusterSize : Nat) (kind : LogKind) (f : LogFilter) (body : List UInt8)
    (l : FilteredLog) : Prop where
  reads : ∃ rows copies, Holds body l.header rows ∧
    Holds (Text.encode l.text) (writtenNames l.header) copies ∧
    copies.map Row.fields = (rows.filter fun row => f.Wants clusterSize kind row).map Row.fields ∧
    l.rows.length = copies.length ∧ ¬ kind.HasBadRow clusterSize (Text.encode l.text)
  swaps : ∀ g : LogFilter, ∃ l' first second,
    FilteredLog.ofBody? clusterSize kind g body = .ok l' ∧
    FilteredLog.ofBody? clusterSize kind g (Text.encode l.text) = .ok first ∧
    FilteredLog.ofBody? clusterSize kind f (Text.encode l'.text) = .ok second ∧
    first.text = second.text
  repeats : ∃ again, FilteredLog.ofBody? clusterSize kind f (Text.encode l.text) = .ok again ∧
    again.text = l.text

section Kinds

variable {α : Type} {read : Row → Except RecordError α} {keep : LogFilter → α → Bool}
  {clusterSize : Nat} {kind : LogKind} {f : LogFilter} {body : List UInt8} {l : FilteredLog}

theorem isCopy_of_ofRows? (hread : ReadsFields read)
    (hkind : ∀ f body, FilteredLog.ofBody? clusterSize kind f body =
      FilteredLog.ofRows? read (keep f) body)
    (hwants : ∀ row a, read row = .ok a → (keep f a = true ↔ f.Wants clusterSize kind row))
    (h : FilteredLog.ofBody? clusterSize kind f body = .ok l)
    (hmark : ∀ name ∈ l.header.head?, name.toList.head? ≠ some '\uFEFF') :
    IsCopy clusterSize kind f body l := by
  rw [hkind] at h
  obtain ⟨rows, hholds, hreads, hrows⟩ := (ofRows?_eq_ok_iff_holds hread).1 h
  have hbehind := fun g => (hkind g _).trans (ofRows?_encode_text hread h hmark (keep g))
  refine ⟨?_, fun g => ?_, ?_⟩
  · obtain ⟨copies, hcopies, hfields, -⟩ := exists_copies hread h hmark
    refine ⟨rows, copies, hholds, hcopies, ?_, by rw [← hfields, List.length_map],
      ((filtered_ok_iff _ _ kind f).1 ⟨_, hbehind f⟩).2⟩
    rw [hfields, hrows, List.filter_map]
    refine congrArg _ (List.filter_congr fun row hrow => ?_)
    obtain ⟨a, ha⟩ := hreads row hrow
    rw [Function.comp_apply, Log.picks_fields hread _ ha, Bool.eq_iff_iff, decide_eq_true_iff]
    exact hwants row a ha
  · have hother : FilteredLog.ofRows? read (keep g) body =
        .ok ⟨l.header, (rows.map Row.fields).filter (picks read (keep g))⟩ :=
      (ofRows?_eq_ok_iff_holds hread).2 ⟨rows, hholds, hreads, rfl⟩
    refine ⟨_, _, _, (hkind g _).trans hother, hbehind g,
      (hkind f _).trans (ofRows?_encode_text hread hother hmark (keep f)), ?_⟩
    rw [hrows, List.filter_comm]
  · have hsame : l.rows.filter (picks read (keep f)) = l.rows := by
      rw [hrows, List.filter_filter]
      simp
    refine ⟨_, hbehind f, ?_⟩
    rw [FilteredLog.text, hsame, Log.write_writtenNames]
    rfl

end Kinds

theorem isCopy_of_filtered (clusterSize : Nat) (kind : LogKind) (f : LogFilter)
    (body : List UInt8) (l : FilteredLog)
    (h : FilteredLog.ofBody? clusterSize kind f body = .ok l)
    (hmark : ∀ name ∈ l.header.head?, name.toList.head? ≠ some '\uFEFF') :
    IsCopy clusterSize kind f body l := by
  cases kind with
  | balancer =>
    refine isCopy_of_ofRows? (readsFields_balancer clusterSize) (fun _ _ => rfl)
      (fun row r hr => ?_) h hmark
    simp [LogFilter.Wants, hr, Except.toOption, LogFilter.keepsBalancer, accepts_iff]
  | cluster =>
    refine isCopy_of_ofRows? readsFields_cluster (fun _ _ => rfl) (fun row r hr => ?_) h hmark
    simp [LogFilter.Wants, hr, Except.toOption, LogFilter.keepsCluster, accepts_iff]
  | client =>
    refine isCopy_of_ofRows? readsFields_client (fun _ _ => rfl) (fun row r hr => ?_) h hmark
    simp [LogFilter.Wants, LogFilter.keepsClient, LogFilter.isUnconstrained]

def bodyOfChecks : List UInt8 :=
  Text.encode ("node-id, event\n" ++ "1,0,healthcheck,lb,90,1,0\n" ++
    "1,0,healthcheck,\" \"\"lb,\",100,1,0,3\n" ++ "0,0,healthcheck,lb,110,1,0,1\n")

def rowsOfChecks : FilteredLog where
  header := ["node-id", "event"]
  rows := [["1", "0", "healthcheck", "\"lb,", "100", "1", "0", "3"]]

theorem isCopy_of_filtered_checks :
    FilteredLog.ofBody? 2 .cluster ⟨some 1, some 100⟩ bodyOfChecks = .ok rowsOfChecks ∧
      rowsOfChecks.text = "node-id,event\n" ++ "1,0,healthcheck,\"\"\"lb,\",100,1,0,3\n" ∧
      IsCopy 2 .cluster ⟨some 1, some 100⟩ bodyOfChecks rowsOfChecks := by
  have hfilter : FilteredLog.ofBody? 2 .cluster ⟨some 1, some 100⟩ bodyOfChecks =
      .ok rowsOfChecks := by
    decide +kernel
  exact ⟨hfilter, by decide +kernel,
    isCopy_of_filtered 2 .cluster _ bodyOfChecks rowsOfChecks hfilter (by decide)⟩

end RateSweep
