import RateSweep.Proofs.NodeHistory
import RateSweep.Proofs.SessionRuns
import RateSweep.Table.RequestCounts

namespace RateSweep

namespace NodeActivity

theorem sums_of_run? {rs : List ClusterRecord} {a : NodeActivity} (h : blank.run? rs = .ok a) :
    NodeHistory.Sums rs a := by
  induction rs using List.reverseRecOn generalizing a with
  | nil =>
    cases h
    exact ⟨rfl, rfl, rfl, rfl⟩
  | append_singleton rs r ih =>
    rw [run?_append] at h
    cases hrs : blank.run? rs with
    | error e =>
      rw [hrs] at h
      cases h
    | ok b =>
      rw [hrs] at h
      obtain ⟨c, hc, hnil⟩ := run?_cons_eq_ok h
      cases hnil
      exact (ih hrs).concat (applied_of_apply hc)

end NodeActivity

structure CountsTransfers (rs : List ClusterRecord) (rows : List NodeCount) : Prop where
  nodes : ∀ node, node ∈ rows.map NodeCount.node ↔ ∃ r ∈ transfersOf rs, r.node = node
  once : (rows.map NodeCount.node).Nodup
  count : ∀ c ∈ rows, c.count = (transfersOf (recordsOf c.node rs)).length
  overhead : ∀ c ∈ rows,
    (transfersOf (recordsOf c.node rs)).getLast?.map ClusterRecord.overhead = some c.overhead
  total : (rows.map NodeCount.count).sum = (transfersOf rs).length
  ascending : rows.Pairwise fun b c =>
    b.overhead < c.overhead ∨ b.overhead = c.overhead ∧ b.node < c.node

section Counts

variable {rs : List ClusterRecord} {nodes : List NodeFigures} {cs : List NodeCount}

theorem transfersOf_recordsOf (node : UInt32) (rs : List ClusterRecord) :
    transfersOf (recordsOf node rs) = recordsOf node (transfersOf rs) := by
  simp [transfersOf, recordsOf, List.filter_filter, Bool.and_comm]

theorem mem_transfersOf_recordsOf {node : UInt32} {r : ClusterRecord} :
    r ∈ transfersOf (recordsOf node rs) ↔ r ∈ transfersOf rs ∧ r.node = node := by
  rw [transfersOf_recordsOf]
  simp [recordsOf]

theorem count_node_transfersOf (node : UInt32) (rs : List ClusterRecord) :
    ((transfersOf rs).map ClusterRecord.node).count node =
      (transfersOf (recordsOf node rs)).length := by
  rw [transfersOf_recordsOf, List.count, List.countP_map, List.countP_eq_length_filter]
  rfl

theorem ofFigures?_of_showsNodes (h : ShowsNodes rs nodes) {f : NodeFigures} (hf : f ∈ nodes) :
    NodeCount.ofFigures? f = (transfersOf (recordsOf f.node rs)).getLast?.map fun r =>
      ⟨f.node, (transfersOf (recordsOf f.node rs)).length, r.overhead⟩ := by
  obtain ⟨a, hrun, -, htransfers, hoverhead⟩ := h.2.2 f hf
  have hsums := NodeActivity.sums_of_run? hrun
  rw [NodeCount.ofFigures?, htransfers, hoverhead, hsums.transfers, hsums.overhead]
  cases hlast : (transfersOf (recordsOf f.node rs)).getLast? with
  | none =>
    rw [List.getLast?_eq_none_iff] at hlast
    simp [hlast]
  | some r =>
    have hne : (transfersOf (recordsOf f.node rs)).length ≠ 0 := by
      intro hzero
      rw [List.length_eq_zero_iff.1 hzero] at hlast
      cases hlast
    rw [if_neg hne]
    rfl

theorem node_of_ofFigures? {f : NodeFigures} {c : NodeCount} (h : NodeCount.ofFigures? f = some c) :
    c.node = f.node := by
  unfold NodeCount.ofFigures? at h
  split at h
  · cases h
  · obtain ⟨_, _, rfl⟩ := Option.map_eq_some_iff.1 h
    rfl

theorem NodeCount.le_iff (b c : NodeCount) : b.le c = true ↔
    b.overhead < c.overhead ∨ b.overhead = c.overhead ∧ b.node ≤ c.node := by
  simp [le]

theorem NodeCount.pairwise_mergeSort (cs : List NodeCount) :
    (cs.mergeSort le).Pairwise fun b c => b.le c = true := by
  apply List.pairwise_mergeSort
  · intro b c d
    simp only [le_iff, Int64.lt_iff_toInt_lt, ← Int64.toInt_inj, UInt32.le_iff_toNat_le]
    omega
  · intro b c
    simp only [Bool.or_eq_true, le_iff, Int64.lt_iff_toInt_lt, ← Int64.toInt_inj,
      UInt32.le_iff_toNat_le]
    omega

theorem nodup_nodes_of_showsNodes (h : ShowsNodes rs nodes) :
    ((nodes.filterMap NodeCount.ofFigures?).map NodeCount.node).Nodup := by
  rw [List.Nodup, List.pairwise_map]
  refine h.1.filterMap _ fun f g hlt b hb c hc => ?_
  rw [node_of_ofFigures? hb, node_of_ofFigures? hc]
  exact UInt32.ne_of_lt hlt

theorem mem_nodes_iff_of_showsNodes (h : ShowsNodes rs nodes) (node : UInt32) :
    node ∈ (nodes.filterMap NodeCount.ofFigures?).map NodeCount.node ↔
      ∃ r ∈ transfersOf rs, r.node = node := by
  simp only [List.mem_map, List.mem_filterMap]
  constructor
  · rintro ⟨c, ⟨f, hf, hc⟩, rfl⟩
    rw [node_of_ofFigures? hc]
    rw [ofFigures?_of_showsNodes h hf] at hc
    obtain ⟨r, hlast, -⟩ := Option.map_eq_some_iff.1 hc
    exact ⟨r, mem_transfersOf_recordsOf.1 (List.mem_of_getLast? hlast)⟩
  · rintro ⟨r, hr, rfl⟩
    have hid : r.node ∈ rs.map ClusterRecord.node :=
      List.mem_map_of_mem (List.mem_filter.1 hr).1
    obtain ⟨f, hf, hnode⟩ := List.mem_map.1 ((h.2.1 r.node).2 hid)
    have hown : r ∈ transfersOf (recordsOf f.node rs) :=
      mem_transfersOf_recordsOf.2 ⟨hr, hnode.symm⟩
    obtain ⟨last, hlast⟩ := Option.isSome_iff_exists.1
      (List.getLast?_isSome.2 (List.ne_nil_of_mem hown))
    have hcount := ofFigures?_of_showsNodes h hf
    rw [hlast] at hcount
    exact ⟨_, ⟨f, hf, hcount⟩, hnode⟩

theorem sum_counts (hnodup : (cs.map NodeCount.node).Nodup)
    (hnodes : ∀ node, node ∈ cs.map NodeCount.node ↔ ∃ r ∈ transfersOf rs, r.node = node)
    (hcount : ∀ c ∈ cs, c.count = (transfersOf (recordsOf c.node rs)).length) :
    (cs.map NodeCount.count).sum = (transfersOf rs).length := by
  let ids := (transfersOf rs).map ClusterRecord.node
  have hperm : (cs.map NodeCount.node).Perm ids.dedup := by
    rw [List.perm_ext_iff_of_nodup hnodup ids.nodup_dedup]
    intro node
    rw [hnodes, List.mem_dedup, List.mem_map]
  calc (cs.map NodeCount.count).sum
    _ = (cs.map fun c => ids.count c.node).sum := by
      congr 1
      apply List.map_congr_left
      intro c hc
      rw [hcount c hc, count_node_transfersOf]
    _ = ((cs.map NodeCount.node).map fun node => ids.count node).sum := by
      rw [List.map_map]
      rfl
    _ = (ids.dedup.map fun node => ids.count node).sum := (hperm.map _).sum_eq
    _ = (transfersOf rs).length := by rw [List.sum_map_count_dedup_eq_length, List.length_map]

theorem countsTransfers_of_showsNodes (e : Experiment) (h : ShowsNodes rs nodes) :
    CountsTransfers rs (RequestCounts.ofSummary ⟨e, nodes⟩).rows := by
  let rows := (RequestCounts.ofSummary ⟨e, nodes⟩).rows
  have hperm : rows.Perm (nodes.filterMap NodeCount.ofFigures?) := List.mergeSort_perm _ _
  have hids := hperm.map NodeCount.node
  have honce : (rows.map NodeCount.node).Nodup := hids.nodup_iff.2 (nodup_nodes_of_showsNodes h)
  have hnodes (node : UInt32) :
      node ∈ rows.map NodeCount.node ↔ ∃ r ∈ transfersOf rs, r.node = node := by
    rw [hids.mem_iff, mem_nodes_iff_of_showsNodes h]
  have hrow : ∀ c ∈ rows, ∃ r, (transfersOf (recordsOf c.node rs)).getLast? = some r ∧
      ⟨c.node, (transfersOf (recordsOf c.node rs)).length, r.overhead⟩ = c := by
    intro c hc
    obtain ⟨f, hf, hfc⟩ := List.mem_filterMap.1 (hperm.mem_iff.1 hc)
    have hnode := node_of_ofFigures? hfc
    rw [ofFigures?_of_showsNodes h hf, ← hnode] at hfc
    exact Option.map_eq_some_iff.1 hfc
  have hcount : ∀ c ∈ rows, c.count = (transfersOf (recordsOf c.node rs)).length := by
    intro c hc
    obtain ⟨r, -, hrc⟩ := hrow c hc
    exact congrArg NodeCount.count hrc.symm
  refine ⟨hnodes, honce, hcount, fun c hc => ?_, sum_counts honce hnodes hcount, ?_⟩
  · obtain ⟨r, hlast, hrc⟩ := hrow c hc
    rw [hlast, Option.map_some, ← hrc]
  · have hsorted : rows.Pairwise fun b c => b.le c = true := NodeCount.pairwise_mergeSort _
    have hdistinct : rows.Pairwise fun b c => b.node ≠ c.node := List.pairwise_map.1 honce
    refine (hsorted.and hdistinct).imp fun {b c} hbc => ?_
    rcases (NodeCount.le_iff b c).1 hbc.1 with hlt | ⟨heq, hle⟩
    · exact .inl hlt
    · exact .inr ⟨heq, UInt32.lt_of_le_of_ne hle hbc.2⟩

end Counts

theorem requestCounts_of_fold (session : Session) (file : String) (e : Experiment)
    (body : List UInt8) (o : Outcome) (h : (session.fold file .cluster e body).1 = .ok o) :
    ∃ s rs, o = .summary (.cluster s) ∧ s.experiment = e ∧
      Log.Reads ClusterRecord.ofRow? (Log.rows .passedOver body) rs ∧
      CountsTransfers rs (RequestCounts.ofSummary s).rows := by
  rw [Session.fold_fst] at h
  obtain ⟨nodes, rfl, hshows⟩ := showsNodes_of_ofCluster e h
  have hreads := Log.reads_of_failure (FileFold.failure_of_ofCluster e h)
  exact ⟨_, _, rfl, rfl, hreads, countsTransfers_of_showsNodes e hshows⟩

def bodyOfTransfers : List UInt8 :=
  Text.encode ("node-id,overhead\n" ++ "2,300,file-transfer,,6,1,10\n" ++
    "1,700,file-transfer,lb,7,5,10\n" ++ "3,1,healthcheck,lb,7,1,0\n" ++
    "1,300,file-transfer,lb,20,5,10\n")

def Outcome.nodes : Outcome → List NodeFigures
  | .summary (.cluster s) => s.nodes
  | _ => []

theorem requestCounts_of_fold_sharedOverhead :
    ∃ s rs, ((Session.start 4 10).fold "c.csv" .cluster ⟨.roundRobin, 0, true, 20, .small, 10⟩
        bodyOfTransfers).1 = .ok (.summary (.cluster s)) ∧
      Log.Reads ClusterRecord.ofRow? (Log.rows .passedOver bodyOfTransfers) rs ∧
      CountsTransfers rs (RequestCounts.ofSummary s).rows ∧
      (RequestCounts.ofSummary s).rows = [⟨1, 2, 300⟩, ⟨2, 1, 300⟩] := by
  let result := ((Session.start 4 10).fold "c.csv" .cluster ⟨.roundRobin, 0, true, 20, .small, 10⟩
    bodyOfTransfers).1
  have hnodes : result.map Outcome.nodes =
      .ok [⟨1, some 8, 2, some 300⟩, ⟨2, none, 1, some 300⟩, ⟨3, some 0, 0, none⟩] := by
    decide +kernel
  cases hresult : result with
  | error e =>
    rw [hresult] at hnodes
    cases hnodes
  | ok o =>
    obtain ⟨s, rs, rfl, -, hreads, hcounts⟩ := requestCounts_of_fold _ _ _ _ o hresult
    rw [hresult] at hnodes
    have hs : s.nodes =
        [⟨1, some 8, 2, some 300⟩, ⟨2, none, 1, some 300⟩, ⟨3, some 0, 0, none⟩] :=
      Except.ok.inj hnodes
    have hrows : (RequestCounts.ofSummary s).rows =
        (s.nodes.filterMap NodeCount.ofFigures?).mergeSort NodeCount.le := rfl
    refine ⟨s, rs, hresult, hreads, hcounts, ?_⟩
    rw [hrows, hs]
    cbv

end RateSweep
