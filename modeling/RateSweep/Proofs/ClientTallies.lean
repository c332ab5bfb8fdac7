import RateSweep.Proofs.FiniteQuotients
import RateSweep.Proofs.RowReading
import RateSweep.Summary.Client

namespace RateSweep

namespace ClientTally

def succeeded (rs : List ClientRecord) : List ClientRecord := rs.filter fun r => !r.isError

theorem countP_add_length_succeeded (rs : List ClientRecord) :
    rs.countP ClientRecord.isError + (succeeded rs).length = rs.length := by
  rw [List.countP_eq_length_filter]
  exact (List.length_eq_length_filter_add ClientRecord.isError).symm

structure Tallies (rs : List ClientRecord) (t : ClientTally) : Prop where
  records : t.records = rs.length
  errors : t.errors = rs.countP ClientRecord.isError
  serviceTimes : t.serviceTimes.toList = (succeeded rs).map serviceTime

variable {rs : List ClientRecord} {t : ClientTally}

theorem Tallies.concat (h : Tallies rs t) (r : ClientRecord) : Tallies (rs ++ [r]) (t.add r) := by
  cases hr : r.isError with
  | true =>
    have hadd : t.add r = { t with records := t.records + 1, errors := t.errors + 1 } := by
      rw [add, if_pos hr]
    rw [hadd]
    exact ⟨by simp [h.records], by simp [h.errors, hr], by simp [h.serviceTimes, succeeded, hr]⟩
  | false =>
    rw [add, if_neg (by simp [hr])]
    exact ⟨by simp [h.records], by simp [h.errors, hr], by simp [h.serviceTimes, succeeded, hr]⟩

theorem ofRecords_concat (rs : List ClientRecord) (r : ClientRecord) :
    ofRecords (rs ++ [r]) = (ofRecords rs).add r := by
  simp [ofRecords]

theorem tallies_ofRecords (rs : List ClientRecord) : Tallies rs (ofRecords rs) := by
  induction rs using List.reverseRecOn with
  | nil => exact ⟨rfl, rfl, rfl⟩
  | append_singleton rs r ih =>
    rw [ofRecords_concat]
    exact ih.concat r

end ClientTally

structure ClientSummary.Describes (c : ClientSummary) (e : Experiment) (rs : List ClientRecord) :
    Prop where
  experiment : c.experiment = e
  records : c.records = rs.length
  errors : c.errors = rs.countP ClientRecord.isError
  serviceTimes : c.serviceTimes = (ClientTally.succeeded rs).map ClientTally.serviceTime

theorem ClientTally.summary_cases (rs : List ClientRecord) (e : Experiment) :
    (succeeded rs = [] ∧ (ofRecords rs).summary e = .error ⟨rs.length⟩) ∨
      (succeeded rs ≠ [] ∧ ∃ c, (ofRecords rs).summary e = .ok c ∧ c.Describes e rs) := by
  have h := tallies_ofRecords rs
  have hvalid : (ofRecords rs).records - (ofRecords rs).errors = (succeeded rs).length := by
    rw [h.records, h.errors, ← countP_add_length_succeeded rs, Nat.add_sub_cancel_left]
  unfold summary
  dsimp only
  rw [hvalid]
  by_cases hnil : succeeded rs = []
  · rw [if_pos (by simp [hnil]), h.records]
    exact .inl ⟨hnil, rfl⟩
  · rw [if_neg (by simpa using hnil)]
    exact .inr ⟨hnil, _, rfl, rfl, h.records, h.errors, h.serviceTimes⟩

theorem ClientRecord.isFinite_duration {row : Row} {r : ClientRecord} (h : ofRow? row = .ok r) :
    r.duration.isFinite = true := by
  rw [← toOption_eq_some_iff] at h
  simp only [ofRow?, toOption_bind, Row.toOption_parse, Row.toOption_parseFinite,
    Option.bind_eq_some_iff, Option.filter_eq_some_iff] at h
  obtain ⟨-, -, duration, ⟨-, hfinite⟩, bytes, -, hr⟩ := h
  obtain rfl := Option.some.inj hr
  exact hfinite

theorem ClientTally.isFinite_serviceTime {r : ClientRecord} (h : r.duration.isFinite = true) :
    (serviceTime r).isFinite = true :=
  isFinite_div_thousand h

end RateSweep
