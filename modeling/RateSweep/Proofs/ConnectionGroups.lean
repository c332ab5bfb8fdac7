import RateSweep.Inspection.Connections
import RateSweep.Proofs.FoldedRows
import RateSweep.Proofs.Report
import RateSweep.Proofs.RowReading
import RateSweep.Proofs.StableSort

namespace RateSweep

def Row.node? (r : Row) : Option UInt32 := Number.readU32 (r.text 0)

namespace Log

/-- Logs that have the same rows for each node, in the same order. Rows that name no node are compared
as those of one more. -/
def SameByNode (body body' : List UInt8) : Prop :=
  ∃ rows rows' : List Row, Log.rows .passedOver body = rows.map .ok ∧
    Log.rows .passedOver body' = rows'.map .ok ∧
    ∀ node : Option UInt32, (rows'.filter (·.node? = node)).map Row.fields =
      (rows.filter (·.node? = node)).map Row.fields

end Log

namespace ClusterRecord

def reportsConnections (r : ClusterRecord) : Bool :=
  r.event = .healthCheck && r.activeConnections.isSome

theorem node?_of_ofRow? {row : Row} {r : ClusterRecord} (h : ofRow? row = .ok r) :
    row.node? = some r.node := by
  rw [← toOption_eq_some_iff] at h
  simp only [ofRow?, toOption_bind, toOption_throw, toOption_ite, Row.toOption_parse,
    Row.toOption_parseOptional, Row.toOption_expectWidth, Option.bind_eq_some_iff,
    Option.bind_none, Option.ite_none_left_eq_some] at h
  obtain ⟨_, -, -, node, hnode, _, -, _, -, _, -, _, -, _, -, hr⟩ := h
  obtain rfl := Option.some.inj hr
  exact hnode

def ofFields? (fields : List String) : Option ClusterRecord := (ofRow? ⟨0, fields⟩).toOption

theorem ofFields?_fields {row : Row} {r : ClusterRecord} (h : ofRow? row = .ok r) :
    ofFields? row.fields = some r := by
  rw [ofFields?, ← toOption_eq_some_iff.2 h]
  exact readsFields_cluster.congr rfl

end ClusterRecord

section SameByNode

variable {rows rows' : List Row} {rs : List ClusterRecord}

theorem recordsOf_of_reads (h : Log.Reads ClusterRecord.ofRow? (rows.map .ok) rs) (node : UInt32) :
    recordsOf node rs =
      ((rows.filter (·.node? = some node)).map Row.fields).filterMap ClusterRecord.ofFields? := by
  rw [Log.reads_map_ok_iff] at h
  induction h with
  | nil => rfl
  | @cons row r rows rs hr _ ih =>
    have hnode := ClusterRecord.node?_of_ofRow? hr
    rw [recordsOf] at ih ⊢
    by_cases heq : r.node = node
    · rw [List.filter_cons_of_pos (by simpa using heq),
        List.filter_cons_of_pos (by simpa [hnode] using heq), List.map_cons,
        List.filterMap_cons_some (ClusterRecord.ofFields?_fields hr), ih]
    · rw [List.filter_cons_of_neg (by simpa using heq),
        List.filter_cons_of_neg (by simpa [hnode] using heq), ih]

theorem Log.SameByNode.exists_reads {body body' : List UInt8} (h : Log.SameByNode body body')
    (hreads : Log.Reads ClusterRecord.ofRow? (Log.rows .passedOver body) rs) :
    ∃ rs', Log.Reads ClusterRecord.ofRow? (Log.rows .passedOver body') rs' ∧
      ∀ node, recordsOf node rs' = recordsOf node rs := by
  obtain ⟨rows, rows', hrows, hrows', hsame⟩ := h
  rw [hrows] at hreads
  have hread : ∀ row' ∈ rows', ∃ r, ClusterRecord.ofRow? row' = .ok r := by
    intro row' hrow'
    have hmem : row'.fields ∈ (rows'.filter (·.node? = row'.node?)).map Row.fields :=
      List.mem_map_of_mem (List.mem_filter.2 ⟨hrow', by simp⟩)
    rw [hsame] at hmem
    obtain ⟨row, hrow, hfields⟩ := List.mem_map.1 hmem
    obtain ⟨r, -, hr⟩ := exists_right_of_forall₂ (Log.reads_map_ok_iff.1 hreads)
      (List.mem_filter.1 hrow).1
    refine ⟨r, ?_⟩
    rw [← toOption_eq_some_iff, ← readsFields_cluster.congr hfields, hr]
    rfl
  obtain ⟨rs', hreads'⟩ := Log.exists_reads hread
  rw [hrows']
  refine ⟨rs', hreads', fun node => ?_⟩
  rw [recordsOf_of_reads hreads, recordsOf_of_reads hreads', hsame]

end SameByNode

namespace ConnectionSample

structure IsOf (r : ClusterRecord) (s : ConnectionSample) : Prop where
  node : s.node = r.node
  timestamp : s.timestamp = r.timestamp
  connections : r.activeConnections = some s.connections

theorem isOf_of_ofRecord? {r : ClusterRecord} {s : ConnectionSample} (h : ofRecord? r = some s) :
    IsOf r s := by
  unfold ofRecord? at h
  split at h
  · obtain ⟨connections, hconnections, rfl⟩ := Option.map_eq_some_iff.1 h
    exact ⟨rfl, rfl, hconnections⟩
  · cases h

theorem isSome_ofRecord? (r : ClusterRecord) : (ofRecord? r).isSome = r.reportsConnections := by
  unfold ofRecord? ClusterRecord.reportsConnections
  split
  · next hevent => simp [hevent]
  · next hevent => simp [hevent]

theorem forall₂_isOf (rs : List ClusterRecord) :
    List.Forall₂ IsOf (rs.filter (·.reportsConnections)) (rs.filterMap ofRecord?) := by
  have h := forall₂_filter_filterMap ofRecord? rs fun _ _ _ h => isOf_of_ofRecord? h
  simpa only [isSome_ofRecord?] using h

theorem filter_node_filterMap (node : UInt32) (rs : List ClusterRecord) :
    (rs.filterMap ofRecord?).filter (·.node = node) =
      (recordsOf node rs).filterMap ofRecord? := by
  rw [recordsOf, List.filter_filterMap, List.filterMap_filter]
  refine List.filterMap_congr fun r _ => ?_
  cases hs : ofRecord? r with
  | none => simp
  | some s => by_cases hr : r.node = node <;> simp [Option.filter, (isOf_of_ofRecord? hs).node, hr]

end ConnectionSample

namespace Connections

structure Groups (taken samples : List ConnectionSample) : Prop where
  perm : samples.Perm taken
  ascending : samples.Pairwise (·.node ≤ ·.node)
  inOrder : ∀ node, samples.filter (·.node = node) = taken.filter (·.node = node)
  concatenated : ∃ nodes : List UInt32, nodes.Pairwise (· < ·) ∧
    (∀ node, node ∈ nodes ↔ node ∈ taken.map ConnectionSample.node) ∧
    samples = nodes.flatMap fun node => taken.filter (·.node = node)

theorem groups_mergeSort (taken : List ConnectionSample) :
    Groups taken (taken.mergeSort ConnectionSample.nodeLe) where
  perm := List.mergeSort_perm taken ConnectionSample.nodeLe
  ascending := pairwise_key_mergeSort ConnectionSample.node taken
  inOrder node := filter_key_mergeSort ConnectionSample.node node taken
  concatenated := by
    obtain ⟨nodes, hnodes, hmem⟩ := exists_keys ConnectionSample.node taken
    refine ⟨nodes, hnodes, hmem, ?_⟩
    have hcover : ∀ s ∈ taken.mergeSort ConnectionSample.nodeLe, s.node ∈ nodes := fun s hs =>
      (hmem _).2 (List.mem_map_of_mem (List.mem_mergeSort.1 hs))
    have hgroups := eq_flatMap_filter (pairwise_key_mergeSort ConnectionSample.node taken) hnodes
      hcover
    simp only [filter_key_mergeSort] at hgroups
    exact hgroups

theorem ofBody?_eq_ok_iff {body : List UInt8} {c : Connections} : ofBody? body = .ok c ↔
    ∃ records, Log.Reads ClusterRecord.ofRow? (Log.rows .passedOver body) records ∧
      c = ofRecords records :=
  Log.ok_iff_reads _ ofRecords

theorem ofRecords_congr {rs rs' : List ClusterRecord}
    (h : ∀ node, recordsOf node rs' = recordsOf node rs) : ofRecords rs' = ofRecords rs := by
  rw [ofRecords, ofRecords, Connections.mk.injEq]
  have hgroups := groups_mergeSort (rs.filterMap ConnectionSample.ofRecord?)
  have hgroups' := groups_mergeSort (rs'.filterMap ConnectionSample.ofRecord?)
  refine eq_of_groups hgroups'.ascending hgroups.ascending fun node => ?_
  rw [hgroups.inOrder, hgroups'.inOrder, ConnectionSample.filter_node_filterMap,
    ConnectionSample.filter_node_filterMap, h]

structure Regroups (body : List UInt8) (c : Connections) : Prop where
  samples : ∃ records taken,
    Log.Reads ClusterRecord.ofRow? (Log.rows .passedOver body) records ∧
      List.Forall₂ ConnectionSample.IsOf (records.filter (·.reportsConnections)) taken ∧
      Groups taken c.samples
  interleaved : ∀ body', Log.SameByNode body body' → ofBody? body' = .ok c

theorem regroups_of_ofBody? (body : List UInt8) (c : Connections) (h : ofBody? body = .ok c) :
    Regroups body c := by
  obtain ⟨records, hreads, rfl⟩ := ofBody?_eq_ok_iff.1 h
  refine ⟨⟨records, _, hreads, ConnectionSample.forall₂_isOf records, groups_mergeSort _⟩, ?_⟩
  intro body' hsame
  obtain ⟨records', hreads', hrecords⟩ := hsame.exists_reads hreads
  exact ofBody?_eq_ok_iff.2 ⟨records', hreads', (ofRecords_congr hrecords).symm⟩

def rowsInTurns : List Row :=
  [⟨2, ["1", "10", "healthcheck", "lb", "100", "1", "0", "3"]⟩,
    ⟨3, ["0", "10", "healthcheck", "lb", "110", "1", "0", "1"]⟩,
    ⟨4, ["1", "10", "healthcheck", "lb", "130", "1", "0", "4"]⟩,
    ⟨5, ["0", "10", "file-transfer", "lb", "120", "1", "50", "7"]⟩,
    ⟨6, ["1", "10", "healthcheck", "lb", "140", "1", "0"]⟩]

def rowsNodeByNode : List Row :=
  [⟨2, ["1", "10", "healthcheck", "lb", "100", "1", "0", "3"]⟩,
    ⟨3, ["1", "10", "healthcheck", "lb", "130", "1", "0", "4"]⟩,
    ⟨4, ["1", "10", "healthcheck", "lb", "140", "1", "0"]⟩,
    ⟨5, ["0", "10", "healthcheck", "lb", "110", "1", "0", "1"]⟩,
    ⟨6, ["0", "10", "file-transfer", "lb", "120", "1", "50", "7"]⟩]

def bodyInTurns : List UInt8 :=
  Text.encode ("node-id\n" ++ "1,10,healthcheck,lb,100,1,0,3\n" ++ "0,10,healthcheck,lb,110,1,0,1\n" ++
    "1,10,healthcheck,lb,130,1,0,4\n" ++ "0,10,file-transfer,lb,120,1,50,7\n" ++
    "1,10,healthcheck,lb,140,1,0\n")

def bodyNodeByNode : List UInt8 :=
  Text.encode ("node-id\n" ++ "1,10,healthcheck,lb,100,1,0,3\n" ++ "1,10,healthcheck,lb,130,1,0,4\n" ++
    "1,10,healthcheck,lb,140,1,0\n" ++ "0,10,healthcheck,lb,110,1,0,1\n" ++
    "0,10,file-transfer,lb,120,1,50,7\n")

theorem sameByNode_turns : Log.SameByNode bodyInTurns bodyNodeByNode := by
  refine ⟨rowsInTurns, rowsNodeByNode, by decide +kernel, by decide +kernel, fun node => ?_⟩
  have hnodes : ∀ row ∈ rowsInTurns ++ rowsNodeByNode, row.node? = some 0 ∨ row.node? = some 1 := by
    decide +kernel
  by_cases hzero : node = some 0
  · subst hzero
    decide +kernel
  · by_cases hone : node = some 1
    · subst hone
      decide +kernel
    · have hnone : ∀ row ∈ rowsInTurns ++ rowsNodeByNode, row.node? ≠ node := by
        rintro row hrow rfl
        exact (hnodes row hrow).elim hzero hone
      obtain ⟨hturns, hbyNode⟩ := List.forall_mem_append.1 hnone
      rw [List.filter_eq_nil_iff.2 (by simpa using hbyNode),
        List.filter_eq_nil_iff.2 (by simpa using hturns)]

theorem regroups_of_ofBody?_turns :
    ofBody? bodyInTurns = .ok ⟨[⟨0, 110, 1⟩, ⟨1, 100, 3⟩, ⟨1, 130, 4⟩]⟩ ∧
      Regroups bodyInTurns ⟨[⟨0, 110, 1⟩, ⟨1, 100, 3⟩, ⟨1, 130, 4⟩]⟩ ∧
      ofBody? bodyNodeByNode = .ok ⟨[⟨0, 110, 1⟩, ⟨1, 100, 3⟩, ⟨1, 130, 4⟩]⟩ := by
  have hfailure : (Log.decode ClusterRecord.ofRow? bodyInTurns).failure = none := by
    decide +kernel
  have htaken : (Log.decode ClusterRecord.ofRow? bodyInTurns).records.filterMap
      ConnectionSample.ofRecord? = [⟨1, 100, 3⟩, ⟨0, 110, 1⟩, ⟨1, 130, 4⟩] := by
    decide +kernel
  have hbody : ofBody? bodyInTurns = .ok ⟨[⟨0, 110, 1⟩, ⟨1, 100, 3⟩, ⟨1, 130, 4⟩]⟩ := by
    refine ofBody?_eq_ok_iff.2 ⟨_, Log.reads_of_failure hfailure, ?_⟩
    rw [Log.decode] at htaken
    rw [ofRecords, htaken]
    cbv
  have hregroups := regroups_of_ofBody? _ _ hbody
  exact ⟨hbody, hregroups, hregroups.interleaved _ sameByNode_turns⟩

end Connections

end RateSweep
