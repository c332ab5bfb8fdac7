import RateSweep.Inspection.Connections
import RateSweep.Inspection.Focus
import RateSweep.Inspection.QueueSeries
import RateSweep.Proofs.CountedFolds
import RateSweep.Proofs.FirstRow

/-!
The readers of a body find the same fault in it. The only exception is a first row that is no text:
the filter, which reads the header before, reports where the row starts, and the others report the
start of the body (`readers_agree_iff`).
-/

namespace RateSweep

def faultOf {ε α : Type} : Except ε α → Option ε
  | .ok _ => none
  | .error e => some e

/-- The fault that a reader finds and that which a filter finds. They differ where the first row is
no text, and there in the position alone. -/
structure AgreeOnFault (body : List UInt8) (read filtered : Option RecordError) : Prop where
  iff : read = filtered ↔ Log.FirstRowIsText body
  moved : ¬ Log.FirstRowIsText body → ∃ r field n, (Csv.records body)[1]? = some r ∧
    r.start ≠ .first ∧ Log.rowAt r.start r = .error (.notUtf8 r.start field n) ∧
    read = some (.notUtf8 .first field n) ∧ filtered = some (.notUtf8 r.start field n)

section Faults

variable {α : Type} (read : Row → Except RecordError α) (body : List UInt8)

theorem agreeOnFault_decode :
    AgreeOnFault body (Log.decode read body).failure
      (Log.decodeRows read (Log.rows .kept body)).failure := by
  unfold Log.decode
  rcases Log.rows_cases body with ⟨htext, hrows⟩ |
    ⟨r, field, n, others, hget, hstart, hfault, hkept, hpassed⟩
  · rw [hrows]
    exact ⟨iff_of_true rfl htext, fun hno => absurd htext hno⟩
  · have hno : ¬ Log.FirstRowIsText body := by
      intro htext
      obtain ⟨row, hrow⟩ := htext r hget
      rw [hfault] at hrow
      cases hrow
    rw [hkept, hpassed]
    refine ⟨iff_of_false ?_ hno, fun _ => ⟨r, field, n, hget, hstart, hfault, rfl, rfl⟩⟩
    intro heq
    injection heq with heq
    injection heq with hpos
    exact hstart hpos.symm

theorem faultOf_all? (d : Decoded α) : faultOf d.all? = d.failure := by
  unfold Decoded.all?
  cases d.failure <;> rfl

theorem faultOf_ofRows? (keep : α → Bool) {header : List String}
    (hheader : Log.header body = .ok header) :
    faultOf (FilteredLog.ofRows? read keep body) =
      (Log.decodeRows read (Log.rows .kept body)).failure := by
  rw [← faultOf_all?]
  unfold FilteredLog.ofRows?
  rw [hheader]
  cases (Log.decodeRows read (Log.rows .kept body)).all? <;> rfl

end Faults

theorem faultOf_queueSeries (clusterSize : Nat) (body : List UInt8) :
    faultOf (QueueSeries.ofBody? clusterSize body) =
      (Log.decode (BalancerRecord.ofRow? clusterSize) body).failure := by
  unfold QueueSeries.ofBody?
  simp only
  cases (Log.decode (BalancerRecord.ofRow? clusterSize) body).failure <;> rfl

theorem faultOf_connections (body : List UInt8) :
    faultOf (Connections.ofBody? body) = (Log.decode ClusterRecord.ofRow? body).failure := by
  unfold Connections.ofBody?
  simp only
  cases (Log.decode ClusterRecord.ofRow? body).failure <;> rfl

namespace FileFold

variable (e : Experiment)

theorem faultOf_ofBalancer (d : Decoded BalancerRecord) :
    faultOf (ofBalancer e d).result = d.failure.map .record := by
  unfold ofBalancer
  cases d.failure <;> rfl

theorem faultOf_ofClient (d : Decoded ClientRecord) :
    faultOf (ofClient e d).result = d.failure.map .record := by
  unfold ofClient
  cases d.failure with
  | some err => rfl
  | none =>
    dsimp only
    split <;> rfl

theorem failure_of_ofCluster {d : Decoded ClusterRecord} {o : Outcome}
    (h : (ofCluster e d).result = .ok o) : d.failure = none := by
  unfold ofCluster at h
  split at h
  · cases h
  · cases hd : d.failure with
    | none => rfl
    | some err =>
      rw [hd] at h
      cases h

theorem failure_of_ofCluster_error {d : Decoded ClusterRecord} {err : RecordError}
    (h : (ofCluster e d).result = .error (.record err)) : d.failure = some err := by
  unfold ofCluster at h
  split at h
  · cases h
  · cases hd : d.failure with
    | none =>
      rw [hd] at h
      dsimp only at h
      split at h <;> cases h
    | some err' =>
      rw [hd] at h
      obtain rfl : err' = err := by simpa [failed] using h
      rfl

end FileFold

theorem readers_agree_iff (session : Session) (file : String) (e : Experiment) (f : LogFilter)
    (body : List UInt8) (hheader : faultOf (Log.header body) = none) :
    (faultOf (session.fold file .balancer e body).1 =
        (faultOf (QueueSeries.ofBody? session.clusterSize body)).map .record ∧
      AgreeOnFault body (faultOf (QueueSeries.ofBody? session.clusterSize body))
        (faultOf (FilteredLog.ofBody? session.clusterSize .balancer f body))) ∧
    (∃ fault, faultOf (session.fold file .client e body).1 = fault.map .record ∧
      AgreeOnFault body fault
        (faultOf (FilteredLog.ofBody? session.clusterSize .client f body))) ∧
    AgreeOnFault body (faultOf (Connections.ofBody? body))
      (faultOf (FilteredLog.ofBody? session.clusterSize .cluster f body)) ∧
    (∀ o, (session.fold file .cluster e body).1 = .ok o →
      faultOf (Connections.ofBody? body) = none) ∧
    ∀ err, (session.fold file .cluster e body).1 = .error (.record err) →
      faultOf (Connections.ofBody? body) = some err := by
  obtain ⟨header, hheader⟩ : ∃ header, Log.header body = .ok header := by
    cases h : Log.header body with
    | ok header => exact ⟨header, rfl⟩
    | error err =>
      rw [h] at hheader
      cases hheader
  simp only [Session.fold_fst]
  refine ⟨⟨?_, ?_⟩, ⟨(Log.decode ClientRecord.ofRow? body).failure, ?_, ?_⟩, ?_, fun o ho => ?_,
    fun err herr => ?_⟩
  · rw [faultOf_queueSeries]
    exact FileFold.faultOf_ofBalancer e _
  · rw [faultOf_queueSeries, FilteredLog.ofBody?, faultOf_ofRows? _ _ _ hheader]
    exact agreeOnFault_decode _ body
  · exact FileFold.faultOf_ofClient e _
  · rw [FilteredLog.ofBody?, faultOf_ofRows? _ _ _ hheader]
    exact agreeOnFault_decode _ body
  · rw [faultOf_connections, FilteredLog.ofBody?, faultOf_ofRows? _ _ _ hheader]
    exact agreeOnFault_decode _ body
  · rw [faultOf_connections]
    exact FileFold.failure_of_ofCluster e ho
  · rw [faultOf_connections]
    exact FileFold.failure_of_ofCluster_error e herr

def bodyOfStrayByte : List UInt8 := [0x68, 0x0A, 0xFF, 0x0A]

theorem readers_agree_iff_strayByte :
    faultOf (Log.header bodyOfStrayByte) = none ∧ ¬ Log.FirstRowIsText bodyOfStrayByte ∧
      faultOf (QueueSeries.ofBody? 2 bodyOfStrayByte) = some (.notUtf8 .first 0 0) ∧
      faultOf (FilteredLog.ofBody? 2 .balancer {} bodyOfStrayByte) =
        some (.notUtf8 ⟨1, 2, 2⟩ 0 0) := by
  have hheader : faultOf (Log.header bodyOfStrayByte) = none := by decide +kernel
  obtain ⟨⟨-, hagree⟩, -⟩ := readers_agree_iff (.start 2 4) "lb.csv"
    ⟨.roundRobin, 0, true, 20, .small, 10⟩ {} bodyOfStrayByte hheader
  have hread : faultOf (QueueSeries.ofBody? 2 bodyOfStrayByte) = some (.notUtf8 .first 0 0) := by
    decide +kernel
  have hfiltered : faultOf (FilteredLog.ofBody? 2 .balancer {} bodyOfStrayByte) =
      some (.notUtf8 ⟨1, 2, 2⟩ 0 0) := by decide +kernel
  refine ⟨hheader, fun htext => ?_, hread, hfiltered⟩
  have hsame := hagree.iff.2 htext
  rw [show (Session.start 2 4).clusterSize = 2 from rfl, hread, hfiltered] at hsame
  cases hsame

theorem not_readers_agree : ¬ ∀ (clusterSize : Nat) (f : LogFilter) (body : List UInt8),
    faultOf (Log.header body) = none → faultOf (QueueSeries.ofBody? clusterSize body) =
      faultOf (FilteredLog.ofBody? clusterSize .balancer f body) := by
  intro h
  have hsame := h 2 {} bodyOfStrayByte (by decide +kernel)
  revert hsame
  decide +kernel

end RateSweep
