import RateSweep.Proofs.ClientTallies
import RateSweep.Summary.File

namespace RateSweep

section Zero

open Float.Model Float.Model.UnpackedFloat

namespace Binary64

theorem beq_zero_iff {u : UnpackedFloat} {s : Sign} :
    u.beq (.zero s) = true ↔ ∃ s', u = .zero s' := by
  cases u with
  | zero s' => exact iff_of_true rfl ⟨s', rfl⟩
  | infinity s' => cases s' <;> simp [UnpackedFloat.beq, UnpackedFloat.compare]
  | notANumber => simp [UnpackedFloat.beq, UnpackedFloat.compare]
  | finite s' m e hm => cases s' <;> simp [UnpackedFloat.beq, UnpackedFloat.compare]

theorem toNat_of_unpack_zero {b : BitVec Format.binary64.numBits} {s : Sign}
    (h : unpack Format.binary64 b = .zero s) : b.toNat = 0 ∨ b.toNat = 2 ^ 63 := by
  unfold UnpackedFloat.unpack at h
  dsimp only at h
  split at h
  · split at h <;> cases h
  · split at h
    · next hexponent =>
      split at h
      · next hmantissa =>
        have hlt : b.toNat < 2 ^ 64 := b.isLt
        have he : b.toNat / 2 ^ 52 % 2 ^ 11 = 0 := by
          have := congrArg BitVec.toNat hexponent
          simpa [unpackExponent, Nat.shiftRight_eq_div_pow] using this
        have hm : b.toNat % 2 ^ 52 = 0 := by
          have := congrArg BitVec.toNat hmantissa
          simpa [unpackMantissa] using this
        omega
      · cases h
    · cases h

end Binary64

theorem beq_zero_iff (x : Float) : (x == 0.0) = true ↔ x = 0.0 ∨ x = -0.0 := by
  constructor
  · intro h
    obtain ⟨s, hs⟩ := Binary64.beq_zero_iff.1 h
    rcases x with ⟨⟨bits, valid⟩⟩
    rcases Binary64.toNat_of_unpack_zero hs with hzero | hzero
    · obtain rfl : bits = 0 := UInt64.toNat_inj.1 hzero
      exact .inl rfl
    · obtain rfl : bits = 0x8000000000000000 := UInt64.toNat_inj.1 hzero
      exact .inr rfl
  · rintro (rfl | rfl) <;> rfl

end Zero

namespace ClientRecord

/-- No duration, under either sign, and no bytes. -/
def Failed (r : ClientRecord) : Prop := (r.duration = 0.0 ∨ r.duration = -0.0) ∧ r.bytes = 0

theorem isError_iff (r : ClientRecord) : r.isError = true ↔ r.Failed := by
  rw [isError, Bool.and_eq_true, beq_zero_iff, beq_iff_eq, Failed]

instance (r : ClientRecord) : Decidable r.Failed := decidable_of_iff _ r.isError_iff

theorem decide_failed (r : ClientRecord) : decide r.Failed = r.isError := by
  rw [Bool.eq_iff_iff, decide_eq_true_iff, isError_iff]

inductive Interspersed : List ClientRecord → List ClientRecord → Prop
  | nil : Interspersed [] []
  | keep (r : ClientRecord) {rs rs' : List ClientRecord} (h : Interspersed rs rs') :
    Interspersed (r :: rs) (r :: rs')
  | insert {r : ClientRecord} (hr : r.Failed) {rs rs' : List ClientRecord}
    (h : Interspersed rs rs') : Interspersed rs (r :: rs')

end ClientRecord

namespace ClientTally

theorem succeeded_eq (rs : List ClientRecord) : succeeded rs = rs.filter (¬ ·.Failed) := by
  rw [succeeded]
  refine List.filter_congr fun r _ => ?_
  rw [decide_not, r.decide_failed]

theorem succeeded_eq_nil_iff {rs : List ClientRecord} :
    succeeded rs = [] ↔ ∀ r ∈ rs, r.Failed := by
  simp [succeeded_eq, List.filter_eq_nil_iff]

theorem succeeded_of_interspersed {rs rs' : List ClientRecord}
    (h : ClientRecord.Interspersed rs rs') : succeeded rs' = succeeded rs := by
  rw [succeeded_eq, succeeded_eq]
  induction h with
  | nil => rfl
  | keep r _ ih => rw [List.filter_cons, List.filter_cons, ih]
  | insert hr _ ih => rw [List.filter_cons_of_neg (by simpa using hr), ih]

structure Sums (rs : List ClientRecord) (t : ClientTally) : Prop where
  total : t.total = ((succeeded rs).map serviceTime).foldl (· + ·) 0.0
  byteSize : t.byteSize = (succeeded rs).getLast?.elim 0 ClientRecord.bytes

theorem Sums.concat {rs : List ClientRecord} {t : ClientTally} (h : Sums rs t) (r : ClientRecord) :
    Sums (rs ++ [r]) (t.add r) := by
  cases hr : r.isError with
  | true =>
    rw [add, if_pos hr]
    exact ⟨by simp [h.total, succeeded, hr], by simp [h.byteSize, succeeded, hr]⟩
  | false =>
    rw [add, if_neg (by simp [hr])]
    exact ⟨by simp [h.total, succeeded, hr], by simp [succeeded, hr]⟩

theorem sums_ofRecords (rs : List ClientRecord) : Sums rs (ofRecords rs) := by
  induction rs using List.reverseRecOn with
  | nil => exact ⟨rfl, rfl⟩
  | append_singleton rs r ih =>
    rw [ofRecords_concat]
    exact ih.concat r

theorem eq_of_summary {t : ClientTally} {e : Experiment} {c : ClientSummary}
    (h : t.summary e = .ok c) :
    c = ⟨e, t.byteSize, t.total / Float.ofNat (t.records - t.errors),
      Float.ofNat t.errors / Float.ofNat t.records, t.records, t.errors, t.serviceTimes.toList⟩ := by
  unfold summary at h
  dsimp only at h
  split at h
  · cases h
  · exact (Except.ok.inj h).symm

end ClientTally

structure ClientSummary.Accounts (c : ClientSummary) (e : Experiment) (rs : List ClientRecord) :
    Prop where
  experiment : c.experiment = e
  records : c.records = rs.length
  errors : c.errors = rs.countP (·.Failed)
  errors_le : c.errors ≤ c.records
  serviceTimes : c.serviceTimes = (rs.filter (¬ ·.Failed)).map (·.duration / 1000.0)
  length : c.serviceTimes.length = c.records - c.errors
  byteSize : ((rs.filter (¬ ·.Failed)).getLast?).map ClientRecord.bytes = some c.byteSize
  meanServiceTime : c.meanServiceTime =
    c.serviceTimes.foldl (· + ·) 0.0 / Float.ofNat c.serviceTimes.length
  errorFraction : c.errorFraction = Float.ofNat c.errors / Float.ofNat c.records

theorem ClientTally.accounts_of_summary {rs : List ClientRecord} {e : Experiment}
    {c : ClientSummary} (hne : succeeded rs ≠ []) (h : (ofRecords rs).summary e = .ok c) :
    c.Accounts e rs := by
  obtain rfl := eq_of_summary h
  have htallies := tallies_ofRecords rs
  have hsums := sums_ofRecords rs
  have hcount := countP_add_length_succeeded rs
  have herrors : (ofRecords rs).errors = rs.countP (·.Failed) := by
    rw [htallies.errors]
    exact List.countP_congr fun r _ => by rw [r.decide_failed]
  have hlength : (ofRecords rs).serviceTimes.toList.length =
      (ofRecords rs).records - (ofRecords rs).errors := by
    rw [htallies.serviceTimes, htallies.records, htallies.errors, List.length_map]
    omega
  refine ⟨rfl, htallies.records, herrors, ?_, ?_, hlength, ?_, ?_, rfl⟩
  · rw [htallies.records, htallies.errors]
    exact List.countP_le_length
  · rw [htallies.serviceTimes, succeeded_eq]
    rfl
  · rw [← succeeded_eq, hsums.byteSize, List.getLast?_eq_some_getLast hne]
    rfl
  · rw [hsums.total, ← htallies.serviceTimes, hlength]

inductive Outcome.SameTimes : Outcome → Outcome → Prop
  | noValidRecords (v v' : NoValidRecords) : SameTimes (.noValidRecords v) (.noValidRecords v')
  | summary (c : ClientSummary) (records errors : Nat) (errorFraction : Float) :
    SameTimes (.summary (.client c)) (.summary (.client { c with records, errors, errorFraction }))

theorem ClientSummary.Accounts.sameTimes {e : Experiment} {rs rs' : List ClientRecord}
    {c c' : ClientSummary} (hc : c.Accounts e rs) (hc' : c'.Accounts e rs')
    (h : ClientTally.succeeded rs' = ClientTally.succeeded rs) :
    Outcome.SameTimes (.summary (.client c)) (.summary (.client c')) := by
  rw [ClientTally.succeeded_eq, ClientTally.succeeded_eq] at h
  have hbytes : c'.byteSize = c.byteSize := by
    have hlast := hc'.byteSize
    rw [h, hc.byteSize] at hlast
    exact (Option.some.inj hlast).symm
  have htimes : c'.serviceTimes = c.serviceTimes := by
    rw [hc'.serviceTimes, h, hc.serviceTimes]
  have hmean : c'.meanServiceTime = c.meanServiceTime := by
    rw [hc'.meanServiceTime, htimes, hc.meanServiceTime]
  have heq : c' = { c with
      records := c'.records, errors := c'.errors, errorFraction := c'.errorFraction } := by
    rw [← hbytes, ← htimes, ← hmean, hc.experiment, ← hc'.experiment]
  rw [heq]
  exact .summary c _ _ _

namespace FileFold

variable (e : Experiment) (rows : List (Row × ClientRecord))

theorem result_ofClient_cases :
    ((∀ r ∈ rows.map Prod.snd, r.Failed) ∧
      (ofClient e ⟨rows, none⟩).result = .ok (.noValidRecords ⟨rows.length⟩)) ∨
    ((∃ r ∈ rows.map Prod.snd, ¬ r.Failed) ∧
      ∃ c, (ofClient e ⟨rows, none⟩).result = .ok (.summary (.client c)) ∧
        c.Accounts e (rows.map Prod.snd)) := by
  rcases ClientTally.summary_cases (rows.map Prod.snd) e with ⟨hnil, hs⟩ | ⟨hne, c, hs, -⟩
  · refine .inl ⟨ClientTally.succeeded_eq_nil_iff.1 hnil, ?_⟩
    simp [ofClient, Decoded.records, hs]
  · refine .inr ⟨by simpa [ClientTally.succeeded_eq_nil_iff] using hne, c, ?_,
      ClientTally.accounts_of_summary hne hs⟩
    simp [ofClient, Decoded.records, hs]

theorem sameTimes_of_interspersed {others : List (Row × ClientRecord)}
    (h : ClientRecord.Interspersed (rows.map Prod.snd) (others.map Prod.snd)) :
    ∃ o o', (ofClient e ⟨rows, none⟩).result = .ok o ∧ (ofClient e ⟨others, none⟩).result = .ok o' ∧
      Outcome.SameTimes o o' := by
  have hsucceeded := ClientTally.succeeded_of_interspersed h
  have hfailed : (∀ r ∈ others.map Prod.snd, r.Failed) ↔ ∀ r ∈ rows.map Prod.snd, r.Failed := by
    rw [← ClientTally.succeeded_eq_nil_iff, ← ClientTally.succeeded_eq_nil_iff, hsucceeded]
  rcases result_ofClient_cases e rows with ⟨hall, hrows⟩ | ⟨⟨r, hr, hnot⟩, c, hrows, hc⟩
  · rcases result_ofClient_cases e others with ⟨-, hothers⟩ | ⟨⟨r, hr, hnot⟩, -⟩
    · exact ⟨_, _, hrows, hothers, .noValidRecords _ _⟩
    · exact absurd (hfailed.2 hall r hr) hnot
  · rcases result_ofClient_cases e others with ⟨hall, -⟩ | ⟨-, c', hothers, hc'⟩
    · exact absurd (hfailed.1 hall r hr) hnot
    · exact ⟨_, _, hrows, hothers, hc.sameTimes hc' hsucceeded⟩

/-- All requests failed exactly if there is no summary but the number of records; otherwise the summary
accounts for all of them. Failed requests in between change no more than counts and fraction. -/
theorem client_accounts :
    (∀ v, (ofClient e ⟨rows, none⟩).result = .ok (.noValidRecords v) ↔
        v = ⟨rows.length⟩ ∧ ∀ r ∈ rows.map Prod.snd, r.Failed) ∧
      ((∃ r ∈ rows.map Prod.snd, ¬ r.Failed) →
        ∃ c, (ofClient e ⟨rows, none⟩).result = .ok (.summary (.client c)) ∧
          c.Accounts e (rows.map Prod.snd)) ∧
      ∀ others : List (Row × ClientRecord),
        ClientRecord.Interspersed (rows.map Prod.snd) (others.map Prod.snd) →
        ∃ o o', (ofClient e ⟨rows, none⟩).result = .ok o ∧
          (ofClient e ⟨others, none⟩).result = .ok o' ∧ Outcome.SameTimes o o' := by
  refine ⟨fun v => ?_, fun hsome => ?_, fun others h => sameTimes_of_interspersed e rows h⟩
  · rcases result_ofClient_cases e rows with ⟨hall, hrows⟩ | ⟨⟨r, hr, hnot⟩, c, hrows, -⟩
    · rw [hrows]
      constructor
      · intro h
        cases h
        exact ⟨rfl, hall⟩
      · rintro ⟨rfl, -⟩
        rfl
    · rw [hrows]
      constructor
      · intro h
        cases h
      · rintro ⟨-, hall⟩
        exact absurd (hall r hr) hnot
  · rcases result_ofClient_cases e rows with ⟨hall, -⟩ | ⟨-, c, hrows, hc⟩
    · obtain ⟨r, hr, hnot⟩ := hsome
      exact absurd (hall r hr) hnot
    · exact ⟨c, hrows, hc⟩

def halfFailed : List (Row × ClientRecord) :=
  [(⟨2, ["2000", "100"]⟩, ⟨2000.0, 100⟩), (⟨3, ["0", "0"]⟩, ⟨0.0, 0⟩),
    (⟨4, ["4000", "200"]⟩, ⟨4000.0, 200⟩), (⟨5, ["-0", "0"]⟩, ⟨-0.0, 0⟩)]

theorem client_accounts_halfFailed : (∃ r ∈ halfFailed.map Prod.snd, ¬ r.Failed) ∧
    ∃ c, (ofClient ⟨.roundRobin, 0, true, 20, .small, 10⟩ ⟨halfFailed, none⟩).result =
        .ok (.summary (.client c)) ∧
      c.Accounts ⟨.roundRobin, 0, true, 20, .small, 10⟩ (halfFailed.map Prod.snd) ∧
      c.errors = 2 ∧ c.byteSize = 200 ∧ c.meanServiceTime = 3.0 ∧ c.errorFraction = 0.5 := by
  have hsome : ∃ r ∈ halfFailed.map Prod.snd, ¬ r.Failed := by decide +kernel
  obtain ⟨c, hresult, hc⟩ :=
    (client_accounts ⟨.roundRobin, 0, true, 20, .small, 10⟩ halfFailed).2.1 hsome
  have herrors : c.errors = 2 := hc.errors.trans (by decide +kernel)
  have htimes : c.serviceTimes = [2.0, 4.0] := hc.serviceTimes.trans (by decide +kernel)
  refine ⟨hsome, c, hresult, hc, herrors, ?_, ?_, ?_⟩
  · exact Option.some.inj (hc.byteSize.symm.trans (by decide +kernel))
  · rw [hc.meanServiceTime, htimes]
    decide +kernel
  · rw [hc.errorFraction, hc.records, herrors]
    decide +kernel

end FileFold

end RateSweep
