import RateSweep.Breakdown
import RateSweep.Proofs.FoldedRows
import RateSweep.Proofs.ReaderAgreement
import RateSweep.Proofs.RowLengths
import RateSweep.Proofs.SnapshotLanguage

namespace RateSweep

theorem fitsMemory_eq_true_iff {count bytes : Nat} :
    fitsMemory count bytes = true ↔ count * bytes ≤ memoryLimit := decide_eq_true_iff

theorem fitsMemory_eq_false_iff {count bytes : Nat} :
    fitsMemory count bytes = false ↔ memoryLimit < count * bytes := by
  rw [← Bool.not_eq_true, fitsMemory_eq_true_iff, Nat.not_le]

namespace QueueSnapshot

theorem length_le_of_padded {d : DigitClass} {digits cs : List Char} (h : d.Padded digits cs) :
    1 ≤ cs.length := by
  obtain ⟨-, hne, -, -⟩ := h
  have hpos := List.length_pos_iff.2 hne
  simp only [List.length_append]
  omega

theorem length_le_of_lists {cs : List Char} {es : List QueueEntry} (h : Lists cs es) :
    5 * es.length ≤ cs.length := by
  induction h with
  | gap => simp
  | entry _ hp _ ih =>
    obtain ⟨captured, ⟨hnode, hdepth⟩, -⟩ := hp
    have hx := length_le_of_padded hnode
    have hy := length_le_of_padded hdepth
    simp only [List.length_cons, List.length_append, List.length_nil]
    omega

theorem mul_le_length_of_ofText? {text : String} {n : Nat} {q : QueueSnapshot}
    (h : ofText? text n = .ok q) : 5 * n ≤ text.length := by
  obtain ⟨hlists, rfl, -⟩ := ofText?_eq_ok_iff.1 h
  exact text.length_toList ▸ length_le_of_lists hlists

theorem exists_error_of_not_fits {n : Nat} (hfits : fits n = false) (text : String)
    (htext : 2 * text.length ≤ memoryLimit) : ∃ e, ofText? text n = .error e := by
  cases h : ofText? text n with
  | error e => exact ⟨e, rfl⟩
  | ok q =>
    have hlength := mul_le_length_of_ofText? h
    have hsize := fitsMemory_eq_false_iff.1 hfits
    omega

end QueueSnapshot

structure Row.ReachesSnapshot (r : Row) : Prop where
  wide : BalancerRecord.queueColumn < r.width
  event : r.text 0 ≠ ""
  snapshot : r.rest BalancerRecord.queueColumn ≠ ""

namespace BalancerRecord

variable {clusterSize : Nat} {r : Row} {err : RecordError}

theorem isOfSnapshot_of_queueOfRow? (h : queueOfRow? clusterSize r = .error err) :
    err.isOfSnapshot = true := by
  unfold queueOfRow? at h
  dsimp only at h
  split at h
  · cases h
  · split at h <;> cases h <;> rfl

theorem exists_error_of_reachesSnapshot (h : r.ReachesSnapshot)
    (hno : ∀ q, QueueSnapshot.ofText? (r.rest queueColumn) clusterSize ≠ .ok q) :
    ∃ err, ofRow? clusterSize r = .error err ∧ err.isOfSnapshot = true := by
  have hqueue : ∃ err, queueOfRow? clusterSize r = .error err := by
    unfold queueOfRow?
    simp only [h.snapshot, if_false]
    split
    · next q hq => exact absurd hq (hno q)
    · exact ⟨_, rfl⟩
    · exact ⟨_, rfl⟩
  obtain ⟨err, herr⟩ := hqueue
  refine ⟨err, ?_, isOfSnapshot_of_queueOfRow? herr⟩
  simp only [ofRow?, Nat.not_le.2 h.wide, h.event, herr, if_false]
  rfl

theorem not_isOfSnapshot_of_parse {α : Type} {read : String → Option α} {index : Nat}
    {column kind : String} (h : r.parse read index column kind = .error err) :
    err.isOfSnapshot = false := by
  unfold Row.parse at h
  split at h
  · cases h
  · cases h
    rfl

theorem reachesSnapshot_of_isOfSnapshot (h : ofRow? clusterSize r = .error err)
    (ho : err.isOfSnapshot = true) : r.ReachesSnapshot := by
  have hparsed {α : Type} {read : String → Option α} {index : Nat} {column kind : String} :
      r.parse read index column kind ≠ .error err := by
    intro hparse
    rw [not_isOfSnapshot_of_parse hparse] at ho
    cases ho
  by_cases hwide : r.width ≤ queueColumn
  · simp only [ofRow?, hwide, if_true] at h
    cases h
    cases ho
  by_cases hevent : r.text 0 = ""
  · simp only [ofRow?, hwide, hevent, if_true, if_false] at h
    cases h
    cases ho
  simp only [ofRow?, hwide, hevent, if_false] at h
  refine ⟨Nat.lt_of_not_le hwide, hevent, fun hempty => ?_⟩
  have hqueue : queueOfRow? clusterSize r = .ok none := by simp [queueOfRow?, hempty]
  rw [hqueue] at h
  rcases bind_eq_error_iff.1 h with h | ⟨_, -, h⟩
  · cases h
  rcases bind_eq_error_iff.1 h with h | ⟨_, -, h⟩
  · exact hparsed h
  rcases bind_eq_error_iff.1 h with h | ⟨_, -, h⟩
  · exact hparsed h
  rcases bind_eq_error_iff.1 h with h | ⟨_, -, h⟩
  · exact hparsed h
  rcases bind_eq_error_iff.1 h with h | ⟨_, -, h⟩
  · exact hparsed h
  · cases h

end BalancerRecord

namespace Log

variable {clusterSize : Nat} {rows : List (Except RecordError Row)}

def ReachesSnapshot (clusterSize : Nat) (rows : List (Except RecordError Row)) : Prop :=
  ∃ before r after records, rows = before ++ .ok r :: after ∧
    Reads (BalancerRecord.ofRow? clusterSize) before records ∧ r.ReachesSnapshot

theorem reachesSnapshot_cons_iff {x : Except RecordError Row} :
    ReachesSnapshot clusterSize (x :: rows) ↔ (∃ r, x = .ok r ∧ r.ReachesSnapshot) ∨
      (∃ a, (x >>= BalancerRecord.ofRow? clusterSize) = .ok a) ∧ ReachesSnapshot clusterSize rows := by
  constructor
  · rintro ⟨before, r, after, records, hsplit, hreads, hr⟩
    cases before with
    | nil => exact .inl ⟨r, (List.cons.inj hsplit).1, hr⟩
    | cons y before =>
      obtain ⟨rfl, rfl⟩ := List.cons.inj hsplit
      cases hreads with
      | cons hx hreads => exact .inr ⟨⟨_, hx⟩, before, r, after, _, rfl, hreads, hr⟩
  · rintro (⟨r, rfl, hr⟩ | ⟨⟨a, hx⟩, before, r, after, records, rfl, hreads, hr⟩)
    · exact ⟨[], r, rows, [], rfl, .nil, hr⟩
    · exact ⟨x :: before, r, after, a :: records, rfl, .cons hx hreads, hr⟩

theorem failure_isOfSnapshot_iff
    (hno : ∀ r, .ok r ∈ rows → ∀ q,
      QueueSnapshot.ofText? (r.rest BalancerRecord.queueColumn) clusterSize ≠ .ok q)
    (hrows : ∀ e, .error e ∈ rows → e.isOfSnapshot = false) :
    (decodeRows (BalancerRecord.ofRow? clusterSize) rows).failure.any RecordError.isOfSnapshot =
      true ↔ ReachesSnapshot clusterSize rows := by
  induction rows with
  | nil => simp [decodeRows, ReachesSnapshot]
  | cons x rows ih =>
    rw [reachesSnapshot_cons_iff]
    cases x with
    | error e =>
      have hbind : ¬ ∃ a, ((.error e : Except RecordError Row) >>=
          BalancerRecord.ofRow? clusterSize) = .ok a := by
        rintro ⟨a, ha⟩
        cases ha
      simp [decodeRows, hbind, hrows e List.mem_cons_self]
    | ok r =>
      have ih := ih (fun r hr => hno r (List.mem_cons_of_mem _ hr))
        fun e he => hrows e (List.mem_cons_of_mem _ he)
      have hr := hno r List.mem_cons_self
      change _ ↔ _ ∨ (∃ a, BalancerRecord.ofRow? clusterSize r = .ok a) ∧ _
      cases hread : BalancerRecord.ofRow? clusterSize r with
      | error err =>
        have hiff : err.isOfSnapshot = true ↔ r.ReachesSnapshot := by
          refine ⟨BalancerRecord.reachesSnapshot_of_isOfSnapshot hread, fun h => ?_⟩
          obtain ⟨err', herr', hof⟩ := BalancerRecord.exists_error_of_reachesSnapshot h hr
          rw [hread] at herr'
          exact Except.error.inj herr' ▸ hof
        simp [decodeRows, hread, hiff]
      | ok a =>
        have hnot : ¬ r.ReachesSnapshot := by
          intro h
          obtain ⟨err, herr, -⟩ := BalancerRecord.exists_error_of_reachesSnapshot h hr
          rw [hread] at herr
          cases herr
        simp [decodeRows, hread, hnot, Decoded.cons, ih]

theorem not_isOfSnapshot_of_mem_rows {use : HeaderUse} {body : List UInt8} {e : RecordError}
    (h : .error e ∈ Log.rows use body) : e.isOfSnapshot = false := by
  obtain ⟨position, r, -, hrow⟩ := exists_rowAt_of_mem_rows h
  rcases rowAt_cases r with ⟨row, hok⟩ | ⟨field, n, hfault⟩
  · rw [hok] at hrow
    cases hrow
  · rw [hfault] at hrow
    obtain rfl := Except.error.inj hrow
    rfl

theorem not_isOfSnapshot_of_header {body : List UInt8} {e : RecordError}
    (h : Log.header body = .error e) : e.isOfSnapshot = false := by
  unfold Log.header at h
  split at h
  · cases h
  · next r _ _ =>
    rcases decodeFields_cases 0 r.fields with ⟨texts, hok⟩ | ⟨field, n, hfault⟩
    · rw [hok] at h
      cases h
    · rw [hfault] at h
      obtain rfl := Except.error.inj h
      rfl

variable {body : List UInt8}

theorem failure_rows_iff (hfits : QueueSnapshot.fits clusterSize = false)
    (hbody : 2 * body.length ≤ memoryLimit) (use : HeaderUse) :
    (decodeRows (BalancerRecord.ofRow? clusterSize) (Log.rows use body)).failure.any
      RecordError.isOfSnapshot = true ↔ ReachesSnapshot clusterSize (Log.rows use body) := by
  refine failure_isOfSnapshot_iff (fun r hr q hq => ?_) fun e he => not_isOfSnapshot_of_mem_rows he
  have hlength := length_rest_le hr BalancerRecord.queueColumn
  obtain ⟨e, he⟩ := QueueSnapshot.exists_error_of_not_fits hfits
    (r.rest BalancerRecord.queueColumn) (by omega)
  rw [hq] at he
  cases he

end Log

theorem stopsAtSnapshot_eq {α : Type} (x : Except RecordError α) :
    Task.stopsAtSnapshot x = (faultOf x).any RecordError.isOfSnapshot := by
  cases x <;> rfl

namespace Task

variable {clusterSize : Nat} {body : List UInt8} {source : String} {files : List (String × Entry)}

theorem showsSnapshot_iff (hfits : QueueSnapshot.fits clusterSize = false)
    (hbody : 2 * body.length ≤ memoryLimit) : showsSnapshot clusterSize body = true ↔
      Log.ReachesSnapshot clusterSize (Log.rows .passedOver body) := by
  rw [showsSnapshot, stopsAtSnapshot_eq, faultOf_all?, Log.decode, Log.failure_rows_iff hfits hbody]

theorem seriesStops_iff (hfits : QueueSnapshot.fits clusterSize = false)
    (hbody : 2 * body.length ≤ memoryLimit) :
    stopsAtSnapshot (QueueSeries.ofBody? clusterSize body) = true ↔
      Log.ReachesSnapshot clusterSize (Log.rows .passedOver body) := by
  rw [stopsAtSnapshot_eq, faultOf_queueSeries, Log.decode, Log.failure_rows_iff hfits hbody]

theorem filterStops_iff (hfits : QueueSnapshot.fits clusterSize = false)
    (hbody : 2 * body.length ≤ memoryLimit) (f : LogFilter) :
    stopsAtSnapshot (FilteredLog.ofBody? clusterSize .balancer f body) = true ↔
      (∃ header, Log.header body = .ok header) ∧
        Log.ReachesSnapshot clusterSize (Log.rows .kept body) := by
  rw [stopsAtSnapshot_eq, FilteredLog.ofBody?]
  cases hheader : Log.header body with
  | error e =>
    have hof := Log.not_isOfSnapshot_of_header hheader
    have hfault : faultOf (FilteredLog.ofRows? (BalancerRecord.ofRow? clusterSize) f.keepsBalancer
        body) = some e := by
      rw [FilteredLog.ofRows?, hheader]
      rfl
    simp [hfault, hof]
  | ok header =>
    rw [faultOf_ofRows? _ _ _ hheader, Log.failure_rows_iff hfits hbody]
    simp

end Task

end RateSweep
