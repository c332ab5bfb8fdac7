import RateSweep.Proofs.FilteredRows
import RateSweep.Proofs.QueueColumns

namespace RateSweep

namespace Csv

/-- A writer that takes records of one width only, that of the first. -/
def writeEven? : Option Nat → List (List String) → Option String
  | _, [] => some ""
  | width, r :: rs =>
    if width.getD r.length = r.length then
      (writeEven? (some r.length) rs).map (String.ofList (writeRecord (r.map String.toList)) ++ ·)
    else none

theorem writeEven?_eq_write {records : List (List String)} {n : Nat}
    (h : ∀ r ∈ records, r.length = n) {width : Option Nat} (hwidth : ∀ w ∈ width, w = n) :
    writeEven? width records = some (write records) := by
  induction records generalizing width with
  | nil => rfl
  | cons r records ih =>
    obtain ⟨hr, hrecords⟩ := List.forall_mem_cons.1 h
    have hsame : width.getD r.length = r.length := by
      cases width with
      | none => rfl
      | some w => exact (hwidth w rfl).trans hr.symm
    have hnext : ∀ w ∈ some r.length, w = n := by simp [hr]
    rw [writeEven?, if_pos hsame, ih hrecords hnext, Option.map_some]
    simp [write]

end Csv

structure Row.Reordered (r s : Row) : Prop where
  lead : ∀ i < BalancerRecord.queueColumn, r.text i = s.text i
  pairs : ∃ es es' : List QueueEntry, es ≠ [] ∧ es.Perm es' ∧ (es.map QueueEntry.node).Nodup ∧
    QueueSnapshot.Lists (r.rest BalancerRecord.queueColumn).toList es ∧
    QueueSnapshot.Lists (s.rest BalancerRecord.queueColumn).toList es'

inductive Row.Alike : Except RecordError Row → Except RecordError Row → Prop
  | same {r s : Row} (hfields : r.fields = s.fields) : Alike (.ok r) (.ok s)
  | reordered {r s : Row} (h : r.Reordered s) : Alike (.ok r) (.ok s)

namespace QueueSnapshot

theorem Lists.unique {cs : List Char} {es es' : List QueueEntry} (h : Lists cs es)
    (h' : Lists cs es') : es = es' :=
  Option.some.inj ((readEntries_eq_some_iff.2 h).symm.trans (readEntries_eq_some_iff.2 h'))

theorem nodup_nodes {q : QueueSnapshot} (h : (q.entries.map QueueEntry.node).Nodup) :
    q.nodes.Nodup := by
  have hnodes : q.nodes = (q.entries.map QueueEntry.node).map UInt32.toNat := by
    simp [nodes]
  rw [hnodes]
  exact h.map fun _ _ => UInt32.toNat_inj.1

theorem says_of_perm {q q' : QueueSnapshot} (hperm : q.entries.Perm q'.entries)
    (hdistinct : q.nodes.Nodup) {i : Nat} {d : UInt32} (h : Says q.entries i d) :
    Says q'.entries i d := by
  have hdistinct' : q'.nodes.Nodup := (hperm.map _).nodup_iff.1 hdistinct
  cases h with
  | @listed front back e hsplit hnode _ =>
    rw [← hnode]
    exact says_of_mem hdistinct' (hperm.mem_iff.1 (by simp [hsplit]))
  | unlisted hnone => exact .unlisted fun x hx => hnone x (hperm.mem_iff.2 hx)

theorem depths_of_perm {q q' : QueueSnapshot} (hperm : q.entries.Perm q'.entries)
    (hdistinct : q.nodes.Nodup) (clusterSize : Nat) :
    q.depths clusterSize = q'.depths clusterSize := by
  rw [depths_eq, depths_eq]
  refine List.map_congr_left fun i _ => ?_
  exact (says_of_perm hperm hdistinct (q.says_column i)).unique (q'.says_column i)

end QueueSnapshot

namespace BalancerRecord

theorem withQueue?_congr {r s : Row} (h : ∀ i < queueColumn, r.text i = s.text i) :
    withQueue? r = withQueue? s := by
  funext queue
  rw [withQueue?, withQueue?, h 0 (by decide), h 1 (by decide), h 2 (by decide), h 3 (by decide),
    h 4 (by decide), h 5 (by decide)]

theorem withQueue?_eq_some {r : Row} {queue : Option QueueSnapshot} {a : BalancerRecord}
    (h : withQueue? r queue = some a) (queue' : Option QueueSnapshot) :
    withQueue? r queue' = some { a with queue := queue' } := by
  simp only [withQueue?, Option.bind_eq_bind, Option.bind_eq_some_iff, Option.pure_def,
    Option.some.injEq] at h ⊢
  obtain ⟨node, hnode, start, hstart, duration, hduration, bytes, hbytes, rfl⟩ := h
  exact ⟨node, hnode, start, hstart, duration, hduration, bytes, hbytes, rfl⟩

theorem queueOfRow?_eq_none_iff {clusterSize : Nat} {r : Row} :
    queueOfRow? clusterSize r = .ok none ↔ r.rest queueColumn = "" := by
  rw [← toOption_eq_some_iff, toOption_queueOfRow?]
  split
  · next hempty => simp [hempty]
  · next hne => simp [hne]

theorem rest_ne_empty {r : Row} {es : List QueueEntry} (hne : es ≠ [])
    (h : QueueSnapshot.Lists (r.rest queueColumn).toList es) : r.rest queueColumn ≠ "" := by
  intro hempty
  rw [hempty] at h
  exact hne (h.unique (.gap (by simp)))

theorem width_of_rest {r : Row} (h : r.rest queueColumn ≠ "") : queueColumn < r.width := by
  by_contra hwidth
  apply h
  rw [Row.rest, List.drop_eq_nil_of_le (Nat.not_lt.1 hwidth)]
  rfl

theorem exists_row?_of_reordered {clusterSize : Nat} {r s : Row} (h : r.Reordered s)
    {a : BalancerRecord} (ha : ofRow? clusterSize r = .ok a) :
    ∃ b, ofRow? clusterSize s = .ok b ∧
      QueueSeries.row? clusterSize b = QueueSeries.row? clusterSize a := by
  obtain ⟨es, es', hne, hperm, hdistinct, hlists, hlists'⟩ := h.pairs
  obtain ⟨-, hevent, hqueue, hwith⟩ := ofRow?_eq_ok_iff.1 ha
  have hrest := rest_ne_empty hne hlists
  have hrest' : s.rest queueColumn ≠ "" :=
    rest_ne_empty (fun hnil => hne (List.Perm.eq_nil (hnil ▸ hperm))) hlists'
  obtain ⟨q, hq⟩ : ∃ q, a.queue = some q := by
    cases hnone : a.queue with
    | some q => exact ⟨q, rfl⟩
    | none => exact absurd (queueOfRow?_eq_none_iff.1 (hnone ▸ hqueue)) hrest
  rw [hq] at hqueue
  obtain ⟨-, hentries, hcount, hsize⟩ := queueOfRow?_eq_some_iff.1 hqueue
  obtain rfl := hlists.unique hentries
  refine ⟨{ a with queue := some ⟨es'⟩ }, ofRow?_eq_ok_iff.2 ⟨width_of_rest hrest', ?_, ?_, ?_⟩, ?_⟩
  · rwa [← h.lead 0 (by decide)]
  · exact queueOfRow?_eq_some_iff.2 ⟨hrest', hlists', hperm.length_eq.symm.trans hcount, hsize⟩
  · rw [← withQueue?_congr h.lead]
    exact withQueue?_eq_some hwith _
  · have hperm' : q.entries.Perm (QueueSnapshot.mk es').entries := hperm
    have hdepths := QueueSnapshot.depths_of_perm hperm' (QueueSnapshot.nodup_nodes hdistinct)
      clusterSize
    simp [QueueSeries.row?, hq, hdepths]

end BalancerRecord

namespace QueueSeries

structure IsRow (clusterSize : Nat) (r : BalancerRecord) (row : Nanos × List UInt32) : Prop where
  start : row.1 = r.start
  width : row.2.length = clusterSize
  columns : ∃ q, r.queue = some q ∧
    ∀ (i : Nat) d, row.2[i]? = some d → QueueSnapshot.Says q.entries i d

structure Tabulates (clusterSize : Nat) (body : List UInt8) (series : QueueSeries) : Prop where
  rows : ∃ records,
    Log.Reads (BalancerRecord.ofRow? clusterSize) (Log.rows .passedOver body) records ∧
      List.Forall₂ (IsRow clusterSize) (records.filter (·.showsQueues)) series.rows
  requests : ∀ (session : Session) file e, session.clusterSize = clusterSize →
    ∃ s, (session.fold file .balancer e body).1 = .ok (.summary (.balancer s)) ∧
      series.rows.length ≤ s.totalRequests
  even : Csv.writeEven? none (series.header :: series.rows.map rowText) = some series.csv
  records : (Csv.records (Text.encode series.csv)).length = series.rows.length + 1 ∧
    ∀ r ∈ Csv.records (Text.encode series.csv), r.fields.length = clusterSize + 1
  reordered : ∀ body',
    List.Forall₂ Row.Alike (Log.rows .passedOver body) (Log.rows .passedOver body') →
      ofBody? clusterSize body' = .ok series

variable {clusterSize : Nat} {body body' : List UInt8} {series : QueueSeries}
  {rows rows' : List (Except RecordError Row)} {records : List BalancerRecord}

theorem forall₂_isRow (records : List BalancerRecord) :
    List.Forall₂ (IsRow clusterSize) (records.filter (·.showsQueues))
      (ofRecords clusterSize records).rows :=
  forall₂_rows_iff.2 fun _ _ _ q hq =>
    ⟨rfl, q.length_depths clusterSize, q, hq, fun _ _ h => (q.getElem?_depths_eq_some_iff.1 h).2⟩

theorem length_rows_le (records : List BalancerRecord) :
    (ofRecords clusterSize records).rows.length ≤
      (BalancerTally.ofRecords records).totalRequests := by
  rw [totalRequests_ofRecords, ← (forall₂_isRow records).length_eq]
  refine (List.monotone_filter_right records fun r hr => ?_).length_le
  rw [keepsBalancer_unconstrained, decide_eq_true_iff]
  exact (BalancerRecord.showsQueues_iff.1 hr).1

theorem exists_fold (h : Log.Reads (BalancerRecord.ofRow? clusterSize) (Log.rows .passedOver body)
    records) {session : Session} (hsize : session.clusterSize = clusterSize) (file : String)
    (e : Experiment) : (session.fold file .balancer e body).1 =
      .ok (.summary (.balancer ((BalancerTally.ofRecords records).summary e))) := by
  obtain ⟨hfailure, hrecords⟩ := h.decodeRows
  subst hsize
  rw [← hrecords, Session.fold_fst]
  exact result_ofBalancer e hfailure

theorem length_rowText (row : Nanos × List UInt32) : (rowText row).length = row.2.length + 1 := by
  simp [rowText]

theorem length_header (s : QueueSeries) : s.header.length = s.clusterSize + 1 := by
  simp [header]

theorem length_of_mem_table {r : List String}
    (hr : r ∈ (ofRecords clusterSize records).header ::
      (ofRecords clusterSize records).rows.map rowText) : r.length = clusterSize + 1 := by
  rcases List.mem_cons.1 hr with rfl | hr
  · exact length_header _
  · obtain ⟨row, hrow, rfl⟩ := List.mem_map.1 hr
    obtain ⟨a, -, ha⟩ := exists_left_of_forall₂ (forall₂_isRow records) hrow
    rw [length_rowText, ha.width]

theorem fields_records_csv (s : QueueSeries) :
    (Csv.records (Text.encode s.csv)).map Csv.Record.fields =
      (s.header :: s.rows.map rowText).map (·.map Text.encode) := by
  refine Csv.fields_records_write (by simp [header]) (fun r hr => ?_) fun f hf => ?_
  · obtain ⟨row, -, rfl⟩ := List.mem_map.1 hr
    simp [rowText]
  · obtain rfl := Option.some.inj hf
    decide

theorem exists_reads_of_alike (h : List.Forall₂ Row.Alike rows rows')
    (hreads : Log.Reads (BalancerRecord.ofRow? clusterSize) rows records) :
    ∃ records', Log.Reads (BalancerRecord.ofRow? clusterSize) rows' records' ∧
      ofRecords clusterSize records' = ofRecords clusterSize records := by
  induction h generalizing records with
  | nil =>
    cases hreads
    exact ⟨[], .nil, rfl⟩
  | @cons x y rows rows' hrow _ ih =>
    cases hreads with
    | @cons _ a _ records ha hreads =>
      obtain ⟨records', hreads', hrecords⟩ := ih hreads
      obtain ⟨b, hb, hshown⟩ : ∃ b, (y >>= BalancerRecord.ofRow? clusterSize) = .ok b ∧
          row? clusterSize b = row? clusterSize a := by
        cases hrow with
        | @same r s hfields =>
          have hsame := (readsFields_balancer clusterSize).congr hfields
          rw [show BalancerRecord.ofRow? clusterSize r = .ok a from ha] at hsame
          exact ⟨a, toOption_eq_some_iff.1 hsame.symm, rfl⟩
        | reordered h => exact BalancerRecord.exists_row?_of_reordered h ha
      refine ⟨b :: records', .cons hb hreads', ?_⟩
      simp only [ofRecords, QueueSeries.mk.injEq, true_and] at hrecords ⊢
      rw [List.filterMap_cons, List.filterMap_cons, hshown, hrecords]

theorem tabulates_of_ofBody? (clusterSize : Nat) (body : List UInt8) (series : QueueSeries)
    (h : ofBody? clusterSize body = .ok series) : Tabulates clusterSize body series := by
  obtain ⟨records, hreads, rfl⟩ := ofBody?_eq_ok_iff.1 h
  have hfields := fields_records_csv (ofRecords clusterSize records)
  refine ⟨⟨records, hreads, forall₂_isRow records⟩, fun session file e hsize => ?_, ?_, ⟨?_, ?_⟩, ?_⟩
  · exact ⟨_, exists_fold hreads hsize file e, length_rows_le records⟩
  · exact Csv.writeEven?_eq_write (fun r hr => length_of_mem_table hr) (by simp)
  · have hlength := congrArg List.length hfields
    simpa using hlength
  · intro r hr
    have hmem := List.mem_map_of_mem (f := Csv.Record.fields) hr
    rw [hfields] at hmem
    obtain ⟨texts, htexts, heq⟩ := List.mem_map.1 hmem
    rw [← heq, List.length_map, length_of_mem_table htexts]
  · intro body' hsame
    obtain ⟨records', hreads', hrecords⟩ := exists_reads_of_alike hsame hreads
    exact ofBody?_eq_ok_iff.2 ⟨records', hreads', hrecords.symm⟩

def rowOfJoin (snapshot : String) : Row :=
  ⟨2, ["user-joined", "0", "u1", "100", "5", "10", snapshot]⟩

theorem tabulates_of_ofBody?_swapped :
    ofBody? 2 (bodyOfJoin "(1,4),(0,2)") = .ok ⟨2, [(100, [2, 4])]⟩ ∧
      Tabulates 2 (bodyOfJoin "(1,4),(0,2)") ⟨2, [(100, [2, 4])]⟩ ∧
      ofBody? 2 (bodyOfJoin "[(0,2), (1,4)]") = .ok ⟨2, [(100, [2, 4])]⟩ := by
  have hbody : ofBody? 2 (bodyOfJoin "(1,4),(0,2)") = .ok ⟨2, [(100, [2, 4])]⟩ := by
    decide +kernel
  have htabulates := tabulates_of_ofBody? 2 _ _ hbody
  refine ⟨hbody, htabulates, htabulates.reordered _ ?_⟩
  have hrows : Log.rows .passedOver (bodyOfJoin "(1,4),(0,2)") =
      [.ok (rowOfJoin "(1,4),(0,2)")] := by
    decide +kernel
  have hrows' : Log.rows .passedOver (bodyOfJoin "[(0,2), (1,4)]") =
      [.ok (rowOfJoin "[(0,2), (1,4)]")] := by
    decide +kernel
  rw [hrows, hrows']
  refine .cons (.reordered ⟨by decide, [⟨1, 4⟩, ⟨0, 2⟩], [⟨0, 2⟩, ⟨1, 4⟩], by decide, by decide,
    by decide, ?_, ?_⟩) .nil
  · exact QueueSnapshot.readEntries_eq_some_iff.1 (by decide +kernel)
  · exact QueueSnapshot.readEntries_eq_some_iff.1 (by decide +kernel)

end QueueSeries

end RateSweep
