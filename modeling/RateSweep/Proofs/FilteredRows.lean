import RateSweep.Inspection.Connections
import RateSweep.Inspection.Focus
import RateSweep.Inspection.QueueSeries
import RateSweep.Proofs.CountedFolds
import RateSweep.Proofs.FirstRow
import RateSweep.Proofs.RowReading
import RateSweep.Proofs.WrittenRecords

namespace RateSweep

namespace Log

variable {α : Type} {read : Row → Except RecordError α}

theorem decodeRows_map_ok {rs : List Row} {as : List α}
    (h : List.Forall₂ (fun r a => read r = .ok a) rs as) :
    decodeRows read (rs.map .ok) = ⟨rs.zip as, none⟩ := by
  induction h with
  | nil => rfl
  | @cons r a rs as hr _ ih => rw [List.map_cons, decodeRows, hr, ih]; rfl

theorem mem_decodeRows {rs : List (Except RecordError Row)} {p : Row × α}
    (h : p ∈ (decodeRows read rs).rows) : .ok p.1 ∈ rs ∧ read p.1 = .ok p.2 := by
  induction rs with
  | nil => cases h
  | cons x rs ih =>
    cases x with
    | error e => cases h
    | ok r =>
      rw [decodeRows] at h
      cases hr : read r with
      | error e =>
        rw [hr] at h
        cases h
      | ok a =>
        rw [hr] at h
        rcases List.mem_cons.1 h with rfl | h
        · exact ⟨by simp, hr⟩
        · exact ⟨List.mem_cons_of_mem _ (ih h).1, (ih h).2⟩

theorem trimmed_of_rowAt {position : Csv.Position} {r : Csv.Record} {row : Row}
    (h : rowAt position r = .ok row) : row.fields.map Text.trim = row.fields := by
  rw [rowAt] at h
  cases hd : decodeFields position 0 (r.fields.map Text.trimBytes) with
  | error e =>
    rw [hd] at h
    cases h
  | ok texts =>
    rw [hd] at h
    obtain rfl := Except.ok.inj h
    rw [List.map_map]
    exact List.map_congr_left fun s _ => Text.trim_trim s

theorem trimmed_of_mem_rows {use : HeaderUse} {body : List UInt8} {row : Row}
    (h : .ok row ∈ rows use body) : row.fields.map Text.trim = row.fields := by
  obtain ⟨position, r, -, hrow⟩ := exists_rowAt_of_mem_rows h
  exact trimmed_of_rowAt hrow

end Log

section Filtered

variable {α : Type} {read : Row → Except RecordError α} {keep : α → Bool} {body : List UInt8}
  {l : FilteredLog}

theorem all?_eq_ok_iff {d : Decoded α} {rows : List (Row × α)} :
    d.all? = .ok rows ↔ d.failure = none ∧ d.rows = rows := by
  unfold Decoded.all?
  cases d.failure <;> simp

theorem ofRows?_eq_ok_iff :
    FilteredLog.ofRows? read keep body = .ok l ↔ Log.header body = .ok l.header ∧
      (Log.decodeRows read (Log.rows .kept body)).failure = none ∧
      l.rows = ((Log.decodeRows read (Log.rows .kept body)).rows.filter
        fun row => keep row.2).map (·.1.fields) := by
  unfold FilteredLog.ofRows?
  constructor
  · intro h
    cases hheader : Log.header body with
    | error e =>
      rw [hheader] at h
      cases h
    | ok header =>
      cases hrows : (Log.decodeRows read (Log.rows .kept body)).all? with
      | error e =>
        rw [hheader, hrows] at h
        cases h
      | ok rows =>
        rw [hheader, hrows] at h
        obtain rfl := Except.ok.inj h
        obtain ⟨hfailure, rfl⟩ := all?_eq_ok_iff.1 hrows
        exact ⟨rfl, hfailure, rfl⟩
  · rintro ⟨hheader, hfailure, hrows⟩
    rw [hheader, all?_eq_ok_iff.2 ⟨hfailure, rfl⟩]
    change Except.ok _ = Except.ok _
    rw [← hrows]

theorem eq_of_ofRows? (h : FilteredLog.ofRows? read keep body = .ok l) :
    (Log.decode read body).failure = none ∧
      l.rows = ((Log.decode read body).rows.filter fun row => keep row.2).map (·.1.fields) := by
  obtain ⟨-, hfailure, hrows⟩ := ofRows?_eq_ok_iff.1 h
  rcases Log.rows_cases body with ⟨-, hsame⟩ | ⟨r, field, n, others, -, -, -, hkept, -⟩
  · rw [Log.decode, hsame]
    exact ⟨hfailure, hrows⟩
  · rw [hkept] at hfailure
    cases hfailure

theorem exists_row_of_mem (h : FilteredLog.ofRows? read keep body = .ok l) {fields : List String}
    (hfields : fields ∈ l.rows) :
    ∃ row a, .ok row ∈ Log.rows .passedOver body ∧ read row = .ok a ∧ row.fields = fields := by
  rw [(eq_of_ofRows? h).2] at hfields
  obtain ⟨p, hp, rfl⟩ := List.mem_map.1 hfields
  obtain ⟨hrow, hread⟩ := Log.mem_decodeRows (List.mem_filter.1 hp).1
  exact ⟨p.1, p.2, hrow, hread, rfl⟩

theorem ne_nil_of_mem_rows (hread : ReadsFields read)
    (h : FilteredLog.ofRows? read keep body = .ok l) : ∀ fields ∈ l.rows, fields ≠ [] := by
  intro fields hfields hempty
  obtain ⟨row, a, -, ha, rfl⟩ := exists_row_of_mem h hfields
  have hnone := hread.nonempty hempty
  rw [ha] at hnone
  cases hnone

theorem map_trim_rows (h : FilteredLog.ofRows? read keep body = .ok l) :
    l.rows.map (·.map Text.trim) = l.rows := by
  refine (List.map_congr_left fun fields hfields => ?_).trans (List.map_id _)
  obtain ⟨row, -, hrow, -, rfl⟩ := exists_row_of_mem h hfields
  exact Log.trimmed_of_mem_rows hrow

theorem forall₂_read (hread : ReadsFields read) {out : List Row} {kept : List (Row × α)}
    (hfields : out.map Row.fields = kept.map (·.1.fields))
    (hkept : ∀ p ∈ kept, read p.1 = .ok p.2) :
    List.Forall₂ (fun r a => read r = .ok a) out (kept.map Prod.snd) := by
  induction kept generalizing out with
  | nil =>
    obtain rfl := List.map_eq_nil_iff.1 hfields
    exact .nil
  | cons p kept ih =>
    obtain ⟨r, out, rfl, hr, hout⟩ := List.map_eq_cons_iff.1 hfields
    obtain ⟨hp, hkept⟩ := List.forall_mem_cons.1 hkept
    refine .cons ?_ (ih hout hkept)
    rw [← toOption_eq_some_iff, hread.congr hr, hp]
    rfl

theorem records_filtered (hread : ReadsFields read)
    (h : FilteredLog.ofRows? read keep body = .ok l)
    (hmark : ∀ f ∈ l.header.head?, f.toList.head? ≠ some '\uFEFF') :
    (Log.decode read (Text.encode l.text)).failure = none ∧
      (Log.decode read (Text.encode l.text)).records =
        (Log.decode read body).records.filter keep := by
  obtain ⟨-, hrows⟩ := eq_of_ofRows? h
  obtain ⟨out, hout, hfields⟩ :=
    Log.exists_rows_write (ne_nil_of_mem_rows hread h) hmark .passedOver
  rw [map_trim_rows h, hrows] at hfields
  have hall := forall₂_read hread hfields fun p hp =>
    (Log.mem_decodeRows (List.mem_filter.1 hp).1).2
  rw [Log.decode, FilteredLog.text, hout, Log.decodeRows_map_ok hall]
  refine ⟨rfl, ?_⟩
  rw [Decoded.records, List.map_snd_zip hall.length_eq.ge, Decoded.records, List.filter_map]
  rfl

theorem length_rows_filtered (h : FilteredLog.ofRows? read keep body = .ok l) :
    l.rows.length = ((Log.decode read body).records.filter keep).length := by
  rw [(eq_of_ofRows? h).2, Decoded.records, List.filter_map, List.length_map, List.length_map]
  rfl

end Filtered

section Unconstrained

def unconstrained : LogFilter := {}

theorem keepsBalancer_unconstrained (r : BalancerRecord) :
    unconstrained.keepsBalancer r = decide (r.event = .userJoined) := by
  simp [unconstrained, LogFilter.keepsBalancer, LogFilter.accepts]

theorem keepsCluster_unconstrained (r : ClusterRecord) :
    unconstrained.keepsCluster r = decide (r.event = .healthCheck) := by
  simp [unconstrained, LogFilter.keepsCluster, LogFilter.accepts]

theorem ofRecords_userJoined (rs : List BalancerRecord) :
    BalancerTally.ofRecords (rs.filter unconstrained.keepsBalancer) =
      BalancerTally.ofRecords rs := by
  rw [BalancerTally.ofRecords, BalancerTally.ofRecords, List.foldl_filter]
  congr 1
  funext t r
  by_cases hr : r.event = .userJoined <;>
    simp [keepsBalancer_unconstrained, BalancerTally.add, hr]

theorem totalRequests_foldl (rs : List BalancerRecord) (t : BalancerTally) :
    (rs.foldl BalancerTally.add t).totalRequests =
      t.totalRequests + (rs.filter unconstrained.keepsBalancer).length := by
  induction rs generalizing t with
  | nil => rfl
  | cons r rs ih =>
    rw [List.foldl_cons, ih]
    by_cases hr : r.event = .userJoined
    · simp [keepsBalancer_unconstrained, BalancerTally.add, hr]
      omega
    · simp [keepsBalancer_unconstrained, BalancerTally.add, hr]

theorem totalRequests_ofRecords (rs : List BalancerRecord) :
    (BalancerTally.ofRecords rs).totalRequests =
      (rs.filter unconstrained.keepsBalancer).length := by
  rw [BalancerTally.ofRecords, totalRequests_foldl, BalancerTally.empty, Nat.zero_add]

theorem queueSeries_userJoined (clusterSize : Nat) (rs : List BalancerRecord) :
    QueueSeries.ofRecords clusterSize (rs.filter unconstrained.keepsBalancer) =
      QueueSeries.ofRecords clusterSize rs := by
  rw [QueueSeries.ofRecords, QueueSeries.ofRecords, List.filterMap_filter]
  congr 2
  funext r
  by_cases hr : r.event = .userJoined <;>
    simp [keepsBalancer_unconstrained, QueueSeries.row?, hr]

theorem connections_healthCheck (rs : List ClusterRecord) :
    Connections.ofRecords (rs.filter unconstrained.keepsCluster) = Connections.ofRecords rs := by
  rw [Connections.ofRecords, Connections.ofRecords, List.filterMap_filter]
  congr 3
  funext r
  by_cases hr : r.event = .healthCheck <;>
    simp [keepsCluster_unconstrained, ConnectionSample.ofRecord?, hr]

end Unconstrained

theorem result_ofBalancer (e : Experiment) {d : Decoded BalancerRecord} (h : d.failure = none) :
    (FileFold.ofBalancer e d).result =
      .ok (.summary (.balancer ((BalancerTally.ofRecords d.records).summary e))) := by
  simp [FileFold.ofBalancer, h]

theorem exists_outcome_ofClient (e : Experiment) (rs : List ClientRecord) :
    ∃ o, ∀ d : Decoded ClientRecord, d.failure = none → d.records = rs →
      (FileFold.ofClient e d).result = .ok o := by
  cases hs : (ClientTally.ofRecords rs).summary e with
  | ok s =>
    refine ⟨.summary (.client s), ?_⟩
    rintro d hd rfl
    simp [FileFold.ofClient, hd, hs]
  | error v =>
    refine ⟨.noValidRecords v, ?_⟩
    rintro d hd rfl
    simp [FileFold.ofClient, hd, hs]

theorem queueSeries_of_failure {clusterSize : Nat} {body : List UInt8}
    (h : (Log.decode (BalancerRecord.ofRow? clusterSize) body).failure = none) :
    QueueSeries.ofBody? clusterSize body = .ok (QueueSeries.ofRecords clusterSize
      (Log.decode (BalancerRecord.ofRow? clusterSize) body).records) := by
  simp [QueueSeries.ofBody?, h]

theorem connections_of_failure {body : List UInt8}
    (h : (Log.decode ClusterRecord.ofRow? body).failure = none) :
    Connections.ofBody? body =
      .ok (Connections.ofRecords (Log.decode ClusterRecord.ofRow? body).records) := by
  simp [Connections.ofBody?, h]

def AnalysesAgree (session : Session) (file : String) (e : Experiment) (body filtered : List UInt8)
    (count : Nat) : LogKind → Prop
  | .balancer =>
    (∃ s, (session.fold file .balancer e filtered).1 = .ok (.summary (.balancer s)) ∧
      (session.fold file .balancer e body).1 = .ok (.summary (.balancer s)) ∧
      count = s.totalRequests) ∧
    ∃ series, QueueSeries.ofBody? session.clusterSize filtered = .ok series ∧
      QueueSeries.ofBody? session.clusterSize body = .ok series
  | .cluster => ∃ c, Connections.ofBody? filtered = .ok c ∧ Connections.ofBody? body = .ok c
  | .client => ∃ o, (session.fold file .client e filtered).1 = .ok o ∧
      (session.fold file .client e body).1 = .ok o

theorem filter_keeps_analyses (session : Session) (file : String) (e : Experiment) (kind : LogKind)
    (body : List UInt8) (l : FilteredLog)
    (h : FilteredLog.ofBody? session.clusterSize kind unconstrained body = .ok l)
    (hmark : ∀ f ∈ l.header.head?, f.toList.head? ≠ some '\uFEFF') :
    AnalysesAgree session file e body (Text.encode l.text) l.rows.length kind := by
  simp only [AnalysesAgree, Session.fold_fst]
  cases kind with
  | balancer =>
    have hbody := (eq_of_ofRows? h).1
    obtain ⟨hfiltered, hrecords⟩ := records_filtered (readsFields_balancer _) h hmark
    refine ⟨⟨_, result_ofBalancer e hfiltered, ?_, ?_⟩, _, queueSeries_of_failure hfiltered, ?_⟩
    · rw [hrecords, ofRecords_userJoined]
      exact result_ofBalancer e hbody
    · rw [hrecords, ofRecords_userJoined, length_rows_filtered h]
      exact (totalRequests_ofRecords _).symm
    · rw [hrecords, queueSeries_userJoined]
      exact queueSeries_of_failure hbody
  | cluster =>
    have hbody := (eq_of_ofRows? h).1
    obtain ⟨hfiltered, hrecords⟩ := records_filtered readsFields_cluster h hmark
    refine ⟨_, connections_of_failure hfiltered, ?_⟩
    rw [hrecords, connections_healthCheck]
    exact connections_of_failure hbody
  | client =>
    have hbody := (eq_of_ofRows? h).1
    obtain ⟨hfiltered, hrecords⟩ := records_filtered readsFields_client h hmark
    have hall : (Log.decode ClientRecord.ofRow? body).records.filter unconstrained.keepsClient =
        (Log.decode ClientRecord.ofRow? body).records := List.filter_eq_self.2 fun _ _ => rfl
    obtain ⟨o, ho⟩ := exists_outcome_ofClient e (Log.decode ClientRecord.ofRow? body).records
    exact ⟨o, ho _ hfiltered (hrecords.trans hall), ho _ hbody rfl⟩

def bodyOfJoins : List UInt8 :=
  Text.encode ("event,node_id\n" ++ "user-joined, 1 ,p,10,5,7,[(0,3), (1,0)]\n" ++
    "health-check,0,,20,5,7,\n" ++ "user-joined,0,\"a,\"\"b\",30,5,7,\n")

def rowsOfJoins : FilteredLog where
  header := ["event", "node_id"]
  rows := [["user-joined", "1", "p", "10", "5", "7", "[(0", "3)", "(1", "0)]"],
    ["user-joined", "0", "a,\"b", "30", "5", "7", ""]]

theorem filter_keeps_analyses_joins :
    FilteredLog.ofBody? 2 .balancer unconstrained bodyOfJoins = .ok rowsOfJoins ∧
      rowsOfJoins.text = "event,node_id\n" ++ "user-joined,1,p,10,5,7,[(0,3),(1,0)]\n" ++
        "user-joined,0,\"a,\"\"b\",30,5,7,\n" ∧
      AnalysesAgree (.start 2 4) "lb.csv" ⟨.roundRobin, 0, true, 20, .small, 10⟩ bodyOfJoins
        (Text.encode rowsOfJoins.text) 2 .balancer := by
  have hfilter : FilteredLog.ofBody? 2 .balancer unconstrained bodyOfJoins = .ok rowsOfJoins := by
    decide +kernel
  exact ⟨hfilter, by decide +kernel,
    filter_keeps_analyses (.start 2 4) "lb.csv" _ .balancer bodyOfJoins rowsOfJoins hfilter
      (by decide)⟩

end RateSweep
