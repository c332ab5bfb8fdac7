import RateSweep.Inspection.QueueSeries
import RateSweep.Proofs.FoldedRows
import RateSweep.Proofs.RowReading
import RateSweep.Proofs.SnapshotLanguage

/-!
The columns of a queue series. Each row stands for a user that joined with a snapshot of the queues
(`QueueSeries.forall₂_rows_iff`), and a column shows the first entry for its node, or 0. A snapshot has
as many entries as there are columns, but it may repeat a node or name one that has no column: it is
shown in full exactly if its nodes are those of the columns, and otherwise some column shows a depth
that nobody reported (`QueueSeries.showsSnapshots_iff_perm`).
-/

namespace RateSweep

namespace QueueSnapshot

def nodes (q : QueueSnapshot) : List Nat := q.entries.map (·.node.toNat)

inductive Says (entries : List QueueEntry) (i : Nat) : UInt32 → Prop
  | listed {front back : List QueueEntry} {e : QueueEntry} (hsplit : entries = front ++ e :: back)
    (hnode : e.node.toNat = i) (hfirst : ∀ x ∈ front, x.node.toNat ≠ i) : Says entries i e.depth
  | unlisted (hnone : ∀ x ∈ entries, x.node.toNat ≠ i) : Says entries i 0

section Says

variable {entries : List QueueEntry} {i : Nat} {d d' : UInt32}

theorem Says.eq_find? (h : Says entries i d) :
    d = ((entries.find? (·.node.toNat = i)).map QueueEntry.depth).getD 0 := by
  cases h with
  | @listed front back e hsplit hnode hfirst =>
    have hfront : front.find? (·.node.toNat = i) = none := by simpa using hfirst
    rw [hsplit, List.find?_append, hfront]
    simp [hnode]
  | unlisted hnone =>
    have hfind : entries.find? (·.node.toNat = i) = none := by simpa using hnone
    rw [hfind]
    rfl

theorem Says.unique (h : Says entries i d) (h' : Says entries i d') : d = d' :=
  h.eq_find?.trans h'.eq_find?.symm

theorem node_beq_iff (e : QueueEntry) (hi : i < UInt32.size) :
    (e.node == UInt32.ofNat i) = true ↔ e.node.toNat = i := by
  rw [beq_iff_eq, ← UInt32.toNat_inj, UInt32.toNat_ofNat_of_lt' hi]

end Says

variable (q : QueueSnapshot)

def column (i : Nat) : UInt32 :=
  if i < UInt32.size then (q.depthOf? (UInt32.ofNat i)).getD 0 else 0

theorem says_column (i : Nat) : Says q.entries i (q.column i) := by
  unfold column depthOf?
  split
  · next hi =>
    cases hfind : q.entries.find? (·.node == UInt32.ofNat i) with
    | none =>
      refine .unlisted fun x hx hnode => ?_
      exact List.find?_eq_none.1 hfind x hx ((node_beq_iff x hi).2 hnode)
    | some e =>
      obtain ⟨he, front, back, hsplit, hfront⟩ := List.find?_eq_some_iff_append.1 hfind
      refine .listed hsplit ((node_beq_iff e hi).1 he) fun x hx hnode => ?_
      have := hfront x hx
      rw [(node_beq_iff x hi).2 hnode] at this
      cases this
  · next hi =>
    refine .unlisted fun x _ hnode => hi ?_
    rw [← hnode]
    exact x.node.toNat_lt

theorem depths_eq (clusterSize : Nat) :
    q.depths clusterSize = (List.range clusterSize).map q.column := rfl

theorem length_depths (clusterSize : Nat) : (q.depths clusterSize).length = clusterSize := by
  simp [depths_eq]

theorem getElem?_depths_eq_some_iff {clusterSize i : Nat} {d : UInt32} :
    (q.depths clusterSize)[i]? = some d ↔ i < clusterSize ∧ Says q.entries i d := by
  rw [depths_eq, List.getElem?_map]
  by_cases hi : i < clusterSize
  · rw [List.getElem?_range hi, Option.map_some, Option.some.injEq]
    constructor
    · rintro rfl
      exact ⟨hi, q.says_column i⟩
    · rintro ⟨-, h⟩
      exact (q.says_column i).unique h
  · rw [List.getElem?_eq_none (by simpa using hi)]
    simp [hi]

/-- The entries are those of so many nodes, each is found in the column of its node, and a column at 0
has an entry that says so. -/
structure ShownIn (clusterSize : Nat) (depths : List UInt32) : Prop where
  count : q.entries.length = clusterSize
  distinct : q.nodes.Nodup
  shown : ∀ e ∈ q.entries, depths[e.node.toNat]? = some e.depth
  reported : ∀ i : Nat, depths[i]? = some 0 → ∃ e ∈ q.entries, e.node.toNat = i ∧ e.depth = 0

variable {q} {clusterSize : Nat}

theorem mem_nodes_iff {i : Nat} : i ∈ q.nodes ↔ ∃ e ∈ q.entries, e.node.toNat = i := List.mem_map

theorem says_of_mem (hdistinct : q.nodes.Nodup) {e : QueueEntry} (he : e ∈ q.entries) :
    Says q.entries e.node.toNat e.depth := by
  obtain ⟨front, back, hsplit⟩ := List.append_of_mem he
  refine .listed hsplit rfl fun x hx hnode => ?_
  rw [nodes, hsplit, List.map_append, List.map_cons] at hdistinct
  exact (List.nodup_append.1 hdistinct).2.2 _ (List.mem_map_of_mem hx) _ (by simp) hnode

theorem unlisted_of_not_mem {i : Nat} (hi : i < clusterSize) (h : i ∉ q.nodes) :
    (q.depths clusterSize)[i]? = some 0 :=
  q.getElem?_depths_eq_some_iff.2
    ⟨hi, .unlisted fun x hx hnode => h (mem_nodes_iff.2 ⟨x, hx, hnode⟩)⟩

theorem perm_range_of_subset (hcount : q.entries.length = clusterSize)
    (h : ∀ i < clusterSize, i ∈ q.nodes) : q.nodes.Perm (List.range clusterSize) := by
  have hsub : (List.range clusterSize).Subperm q.nodes :=
    List.nodup_range.subperm fun i hi => h i (List.mem_range.1 hi)
  exact (hsub.perm_of_length_le (by simp [nodes, hcount])).symm

theorem shownIn_depths_iff (hcount : q.entries.length = clusterSize) :
    q.ShownIn clusterSize (q.depths clusterSize) ↔ q.nodes.Perm (List.range clusterSize) := by
  constructor
  · intro h
    have hsub : q.nodes.Subperm (List.range clusterSize) := by
      refine h.distinct.subperm fun i hi => ?_
      obtain ⟨e, he, rfl⟩ := mem_nodes_iff.1 hi
      exact List.mem_range.2 (q.getElem?_depths_eq_some_iff.1 (h.shown e he)).1
    exact hsub.perm_of_length_le (by simp [nodes, hcount])
  · intro h
    have hdistinct : q.nodes.Nodup := h.nodup_iff.2 List.nodup_range
    refine ⟨hcount, hdistinct, fun e he => ?_, fun i hi => ?_⟩
    · have hmem : e.node.toNat ∈ List.range clusterSize :=
        h.mem_iff.1 (mem_nodes_iff.2 ⟨e, he, rfl⟩)
      exact q.getElem?_depths_eq_some_iff.2 ⟨List.mem_range.1 hmem, says_of_mem hdistinct he⟩
    · obtain ⟨hlt, hsays⟩ := q.getElem?_depths_eq_some_iff.1 hi
      obtain ⟨e, he, rfl⟩ := mem_nodes_iff.1 (h.mem_iff.2 (List.mem_range.2 hlt))
      exact ⟨e, he, rfl, (says_of_mem hdistinct he).unique hsays⟩

end QueueSnapshot

namespace BalancerRecord

def withQueue? (r : Row) (queue : Option QueueSnapshot) : Option BalancerRecord := do
  let node ← Number.readU32 (r.text 1)
  let start ← Number.readI64 (r.text 3)
  let duration ← Number.readI64 (r.text 4)
  let bytes ← Number.readU64 (r.text 5)
  return ⟨.ofLabel (r.text 0), node, r.text 2, start, duration, bytes, queue⟩

theorem toOption_ofRow? (clusterSize : Nat) (r : Row) :
    (ofRow? clusterSize r).toOption =
      if r.width ≤ queueColumn ∨ r.text 0 = "" then none
      else (queueOfRow? clusterSize r).toOption.bind (withQueue? r) := by
  by_cases hwidth : r.width ≤ queueColumn
  · rw [ofRow?, if_pos hwidth, if_pos (Or.inl hwidth), toOption_bind, toOption_throw]
    rfl
  · by_cases hempty : r.text 0 = ""
    · rw [ofRow?, if_neg hwidth, if_pos hempty, if_pos (Or.inr hempty)]
      rfl
    · rw [ofRow?, if_neg hwidth, if_neg hempty, if_neg (not_or.2 ⟨hwidth, hempty⟩)]
      simp only [toOption_bind, Row.toOption_parse]
      rfl

theorem ofRow?_eq_ok_iff {clusterSize : Nat} {r : Row} {a : BalancerRecord} :
    ofRow? clusterSize r = .ok a ↔ queueColumn < r.width ∧ r.text 0 ≠ "" ∧
      queueOfRow? clusterSize r = .ok a.queue ∧ withQueue? r a.queue = some a := by
  have hqueue (queue : Option QueueSnapshot) (h : withQueue? r queue = some a) :
      a.queue = queue := by
    simp only [withQueue?, Option.bind_eq_bind, Option.bind_eq_some_iff, Option.pure_def,
      Option.some.injEq] at h
    obtain ⟨_, -, _, -, _, -, _, -, rfl⟩ := h
    rfl
  rw [← toOption_eq_some_iff, toOption_ofRow?, Option.ite_none_left_eq_some, not_or,
    Option.bind_eq_some_iff, and_assoc, Nat.not_le, ← toOption_eq_some_iff]
  refine and_congr_right fun _ => and_congr_right fun _ => ⟨?_, fun h => ⟨_, h⟩⟩
  rintro ⟨queue, hread, h⟩
  rw [hqueue queue h]
  exact ⟨hread, h⟩

theorem queueOfRow?_eq_some_iff {clusterSize : Nat} {r : Row} {q : QueueSnapshot} :
    queueOfRow? clusterSize r = .ok (some q) ↔ r.rest queueColumn ≠ "" ∧
      QueueSnapshot.Lists (r.rest queueColumn).toList q.entries ∧
      q.entries.length = clusterSize ∧ 1 ≤ clusterSize := by
  rw [← toOption_eq_some_iff, toOption_queueOfRow?, ← QueueSnapshot.ofText?_eq_ok_iff]
  split
  · next hempty => simp [hempty]
  · next hne =>
    simp [hne, ← toOption_eq_some_iff]

def showsQueues (r : BalancerRecord) : Bool := r.event = .userJoined && r.queue.isSome

theorem showsQueues_iff {r : BalancerRecord} :
    r.showsQueues = true ↔ r.event = .userJoined ∧ ∃ q, r.queue = some q := by
  simp [showsQueues, Option.isSome_iff_exists]

end BalancerRecord

namespace QueueSeries

variable {clusterSize : Nat} {body : List UInt8} {series : QueueSeries}

theorem ofBody?_eq_ok_iff : ofBody? clusterSize body = .ok series ↔
    ∃ records, Log.Reads (BalancerRecord.ofRow? clusterSize) (Log.rows .passedOver body) records ∧
      series = ofRecords clusterSize records :=
  Log.ok_iff_reads _ (ofRecords clusterSize)

theorem row?_eq_some {r : BalancerRecord} {q : QueueSnapshot} (hevent : r.event = .userJoined)
    (hq : r.queue = some q) : row? clusterSize r = some (r.start, q.depths clusterSize) := by
  rw [row?, if_pos hevent, hq]
  rfl

theorem row?_eq_none {r : BalancerRecord} (h : ¬ r.showsQueues = true) :
    row? clusterSize r = none := by
  unfold row?
  split
  · next hevent =>
    cases hq : r.queue with
    | none => rfl
    | some q => simp [BalancerRecord.showsQueues, hevent, hq] at h
  · rfl

theorem forall₂_rows_iff {records : List BalancerRecord}
    {R : BalancerRecord → Nanos × List UInt32 → Prop} :
    List.Forall₂ R (records.filter (·.showsQueues)) (ofRecords clusterSize records).rows ↔
      ∀ r ∈ records, r.event = .userJoined → ∀ q, r.queue = some q →
        R r (r.start, q.depths clusterSize) := by
  rw [ofRecords]
  induction records with
  | nil => simp
  | cons r records ih =>
    rw [List.forall_mem_cons, ← ih]
    by_cases h : r.showsQueues = true
    · obtain ⟨hevent, q, hq⟩ := BalancerRecord.showsQueues_iff.1 h
      rw [List.filter_cons_of_pos h, List.filterMap_cons_some (row?_eq_some hevent hq),
        List.forall₂_cons]
      refine and_congr_left fun _ => ⟨fun hr _ q' hq' => ?_, fun hr => hr hevent q hq⟩
      rwa [← Option.some.inj (hq.symm.trans hq')]
    · rw [List.filter_cons_of_neg h, List.filterMap_cons_none (row?_eq_none h)]
      refine (and_iff_right fun hevent q hq => ?_).symm
      exact absurd (BalancerRecord.showsQueues_iff.2 ⟨hevent, q, hq⟩) h

theorem length_entries_of_reads {rows : List (Except RecordError Row)}
    {records : List BalancerRecord} (h : Log.Reads (BalancerRecord.ofRow? clusterSize) rows records)
    {r : BalancerRecord} (hr : r ∈ records) {q : QueueSnapshot} (hq : r.queue = some q) :
    q.entries.length = clusterSize := by
  obtain ⟨row, -, hrow⟩ := h.exists_row hr
  obtain ⟨-, -, hqueue, -⟩ := BalancerRecord.ofRow?_eq_ok_iff.1 hrow
  rw [hq] at hqueue
  exact (BalancerRecord.queueOfRow?_eq_some_iff.1 hqueue).2.2.1

def ShowsSnapshots (clusterSize : Nat) (body : List UInt8) (series : QueueSeries) : Prop :=
  ∃ records, Log.Reads (BalancerRecord.ofRow? clusterSize) (Log.rows .passedOver body) records ∧
    List.Forall₂ (fun r row => ∃ q, r.queue = some q ∧ q.ShownIn clusterSize row.2)
      (records.filter (·.showsQueues)) series.rows

/-- A row shows all of its snapshot exactly if the nodes in it are those of the columns. Otherwise it
shows a depth of 0 for a node that the snapshot does not name. -/
theorem showsSnapshots_iff_perm (clusterSize : Nat) (body : List UInt8) (series : QueueSeries)
    (h : ofBody? clusterSize body = .ok series) :
    ∃ records, Log.Reads (BalancerRecord.ofRow? clusterSize) (Log.rows .passedOver body) records ∧
      List.Forall₂ (fun r row => ∃ q, r.queue = some q ∧
        (q.ShownIn clusterSize row.2 ↔ q.nodes.Perm (List.range clusterSize)) ∧
        (q.ShownIn clusterSize row.2 ∨ ∃ i < clusterSize, i ∉ q.nodes ∧ row.2[i]? = some 0))
        (records.filter (·.showsQueues)) series.rows ∧
      (ShowsSnapshots clusterSize body series ↔
        ∀ r ∈ records, r.event = .userJoined → ∀ q, r.queue = some q →
          q.nodes.Perm (List.range clusterSize)) := by
  obtain ⟨records, hreads, rfl⟩ := ofBody?_eq_ok_iff.1 h
  have hshown : ∀ r ∈ records, ∀ q, r.queue = some q →
      (q.ShownIn clusterSize (q.depths clusterSize) ↔ q.nodes.Perm (List.range clusterSize)) :=
    fun r hr q hq => QueueSnapshot.shownIn_depths_iff (length_entries_of_reads hreads hr hq)
  refine ⟨records, hreads, forall₂_rows_iff.2 fun r hr _ q hq => ?_, ?_, fun hperm => ?_⟩
  · refine ⟨q, hq, hshown r hr q hq, or_iff_not_imp_left.2 fun hno => ?_⟩
    rw [hshown r hr q hq] at hno
    by_contra hall
    refine hno (QueueSnapshot.perm_range_of_subset (length_entries_of_reads hreads hr hq) ?_)
    intro i hi
    by_contra hnot
    exact hall ⟨i, hi, hnot, QueueSnapshot.unlisted_of_not_mem hi hnot⟩
  · rintro ⟨records', hreads', hall⟩ r hr hevent q hq
    obtain rfl := hreads'.unique hreads
    obtain ⟨q', hq', hshows⟩ := forall₂_rows_iff.1 hall r hr hevent q hq
    obtain rfl := Option.some.inj (hq'.symm.trans hq)
    exact (hshown r hr q' hq').1 hshows
  · exact ⟨records, hreads, forall₂_rows_iff.2 fun r hr hevent q hq =>
      ⟨q, hq, (hshown r hr q hq).2 (hperm r hr hevent q hq)⟩⟩

def bodyOfJoin (snapshot : String) : List UInt8 :=
  Text.encode ("event,node_id,peer_id,start_time,duration,bytes,queue\n" ++
    "user-joined,0,u1,100,5,10,\"" ++ snapshot ++ "\"\n")

def recordOfJoin (entries : List QueueEntry) : BalancerRecord where
  event := .userJoined
  node := 0
  peer := "u1"
  start := 100
  duration := 5
  bytes := 10
  queue := some ⟨entries⟩

theorem reads_bodyOfJoin {snapshot : String} (entries : List QueueEntry)
    (h : (Log.decode (BalancerRecord.ofRow? 2) (bodyOfJoin snapshot)).failure = none ∧
      (Log.decode (BalancerRecord.ofRow? 2) (bodyOfJoin snapshot)).records =
        [recordOfJoin entries]) :
    Log.Reads (BalancerRecord.ofRow? 2) (Log.rows .passedOver (bodyOfJoin snapshot))
      [recordOfJoin entries] :=
  h.2 ▸ Log.reads_of_failure h.1

theorem showsSnapshots_iff_perm_swapped :
    ofBody? 2 (bodyOfJoin "(1,4),(0,2)") = .ok ⟨2, [(100, [2, 4])]⟩ ∧
      ShowsSnapshots 2 (bodyOfJoin "(1,4),(0,2)") ⟨2, [(100, [2, 4])]⟩ := by
  have hbody : ofBody? 2 (bodyOfJoin "(1,4),(0,2)") = .ok ⟨2, [(100, [2, 4])]⟩ := by
    decide +kernel
  obtain ⟨records, hreads, -, hiff⟩ := showsSnapshots_iff_perm 2 _ _ hbody
  obtain rfl := hreads.unique (reads_bodyOfJoin [⟨1, 4⟩, ⟨0, 2⟩] (by decide +kernel))
  refine ⟨hbody, hiff.2 fun r hr _ q hq => ?_⟩
  obtain rfl := List.mem_singleton.1 hr
  obtain rfl := Option.some.inj hq
  decide

/-- Both entries are for one node: the second is lost, and the other node shows 0. -/
theorem not_showsSnapshots : ¬ ∀ clusterSize body series,
    ofBody? clusterSize body = .ok series → ShowsSnapshots clusterSize body series := by
  intro hall
  have hbody : ofBody? 2 (bodyOfJoin "(0,1),(0,2)") = .ok ⟨2, [(100, [1, 0])]⟩ := by decide +kernel
  obtain ⟨records, hreads, hrows⟩ := hall _ _ _ hbody
  obtain rfl := hreads.unique (reads_bodyOfJoin [⟨0, 1⟩, ⟨0, 2⟩] (by decide +kernel))
  obtain ⟨row, -, q, hq, hshown⟩ := exists_right_of_forall₂ hrows
    (x := recordOfJoin [⟨0, 1⟩, ⟨0, 2⟩]) (by decide)
  obtain rfl := Option.some.inj hq
  exact absurd hshown.distinct (by decide)

end QueueSeries

end RateSweep
