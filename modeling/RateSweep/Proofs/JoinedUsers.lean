import RateSweep.Proofs.FilteredRows

namespace RateSweep

namespace Nanos

def clamp (n : Int) : Int := max Int64.minValue.toInt (min Int64.maxValue.toInt n)

theorem toInt_ofIntClamp (n : Int) : (Int64.ofIntClamp n).toInt = clamp n := by
  have hrange : Int64.minValue.toInt ≤ Int64.maxValue.toInt := by decide
  unfold Int64.ofIntClamp clamp
  split
  · next hl =>
    split
    · next hr =>
      rw [Int64.toInt_ofIntLE]
      omega
    · omega
  · omega

theorem toInt_addClamped (a b : Nanos) : (a.addClamped b).toInt = clamp (a.toInt + b.toInt) :=
  toInt_ofIntClamp _

theorem toInt_subClamped (a b : Nanos) : (a.subClamped b).toInt = clamp (a.toInt - b.toInt) :=
  toInt_ofIntClamp _

theorem toInt_min (a b : Nanos) : (min a b).toInt = min a.toInt b.toInt := by
  change (if a ≤ b then a else b).toInt = _
  split
  · next h =>
    rw [Int64.le_iff_toInt_le] at h
    omega
  · next h =>
    rw [Int64.le_iff_toInt_le] at h
    omega

theorem toInt_max (a b : Nanos) : (max a b).toInt = max a.toInt b.toInt := by
  change (if a ≤ b then b else a).toInt = _
  split
  · next h =>
    rw [Int64.le_iff_toInt_le] at h
    omega
  · next h =>
    rw [Int64.le_iff_toInt_le] at h
    omega

def span (w v : Nanos × Nanos) : Nanos × Nanos := (min w.1 v.1, max w.2 v.2)

theorem span_comm (w v : Nanos × Nanos) : span w v = span v w := by
  simp only [span, Prod.mk.injEq, ← Int64.toInt_inj, toInt_min, toInt_max]
  omega

theorem span_assoc (u v w : Nanos × Nanos) : span (span u v) w = span u (span v w) := by
  simp only [span, Prod.mk.injEq, ← Int64.toInt_inj, toInt_min, toInt_max]
  omega

instance : Std.Commutative span := ⟨span_comm⟩

instance : Std.Associative span := ⟨span_assoc⟩

end Nanos

def requestsOf (rs : List BalancerRecord) : List BalancerRecord := rs.filter (·.event = .userJoined)

/-- From the first start to the last end of some requests, which is nothing if there are none. An
end past the range counts as the end of the range. -/
inductive Spans (requests : List BalancerRecord) : Option (Nanos × Nanos) → Prop
  | nothing (h : requests = []) : Spans requests none
  | window (first last : Nanos)
    (least : IsLeast {t | ∃ r ∈ requests, r.start.toInt = t} first.toInt)
    (greatest : IsGreatest {t | ∃ r ∈ requests, Nanos.clamp (r.start.toInt + r.duration.toInt) = t}
      last.toInt) : Spans requests (some (first, last))

theorem requestsOf_eq (rs : List BalancerRecord) :
    requestsOf rs = rs.filter unconstrained.keepsBalancer :=
  List.filter_congr fun r _ => (keepsBalancer_unconstrained r).symm

theorem Spans.concat {requests : List BalancerRecord} {window : Option (Nanos × Nanos)}
    (h : Spans requests window) (r : BalancerRecord) :
    Spans (requests ++ [r]) (some (BalancerTally.widen window r.start r.finish)) := by
  have hfinish : r.finish.toInt = Nanos.clamp (r.start.toInt + r.duration.toInt) :=
    Nanos.toInt_addClamped _ _
  cases h with
  | nothing h =>
    subst h
    refine .window _ _ ⟨⟨r, by simp, rfl⟩, ?_⟩ ⟨⟨r, by simp, hfinish.symm⟩, ?_⟩
    · rintro _ ⟨s, hs, rfl⟩
      rw [List.mem_singleton.1 hs]
    · rintro _ ⟨s, hs, rfl⟩
      rw [List.mem_singleton.1 hs, hfinish]
  | window first last least greatest =>
    have hmem (p : BalancerRecord → Int) : {t | ∃ s ∈ requests ++ [r], p s = t} =
        insert (p r) {t | ∃ s ∈ requests, p s = t} := by
      ext t
      simp [or_comm, eq_comm]
    refine .window _ _ ?_ ?_
    · rw [hmem, Nanos.toInt_min, min_comm]
      exact least.insert _
    · rw [hmem, Nanos.toInt_max, max_comm, hfinish]
      exact greatest.insert _

namespace BalancerTally

def join (t u : BalancerTally) : BalancerTally :=
  ⟨t.totalRequests + u.totalRequests, Option.merge Nanos.span t.window u.window⟩

theorem join_empty (t : BalancerTally) : t.join empty = t := by
  simp [join, empty]

theorem join_comm (t u : BalancerTally) : t.join u = u.join t := by
  rw [join, join, Nat.add_comm, (Option.commutative_merge Nanos.span).comm]

theorem join_assoc (t u v : BalancerTally) : (t.join u).join v = t.join (u.join v) := by
  simp only [join, Nat.add_assoc, (Option.associative_merge Nanos.span).assoc]

theorem add_eq_join (t : BalancerTally) (r : BalancerRecord) : t.add r = t.join (empty.add r) := by
  by_cases hr : r.event = .userJoined
  · cases hw : t.window with
    | none => simp [add, hr, join, empty, widen, hw]
    | some w => simp [add, hr, join, empty, widen, hw, Nanos.span]
  · simp [add, hr, join_empty]

theorem foldl_add (t : BalancerTally) (rs : List BalancerRecord) :
    rs.foldl add t = t.join (ofRecords rs) := by
  induction rs generalizing t with
  | nil => exact (join_empty t).symm
  | cons r rs ih =>
    calc (r :: rs).foldl add t
      _ = (t.add r).join (ofRecords rs) := ih _
      _ = t.join ((empty.add r).join (ofRecords rs)) := by rw [add_eq_join, join_assoc]
      _ = t.join (ofRecords (r :: rs)) := by rw [← ih]; rfl

theorem ofRecords_append (rs ts : List BalancerRecord) :
    ofRecords (rs ++ ts) = (ofRecords rs).join (ofRecords ts) := by
  rw [ofRecords, List.foldl_append, foldl_add]
  rfl

theorem add_right_comm (t : BalancerTally) (r s : BalancerRecord) :
    (t.add r).add s = (t.add s).add r := by
  rw [add_eq_join (t.add r), add_eq_join t, add_eq_join (t.add s), add_eq_join t, join_assoc,
    join_assoc, join_comm (empty.add r)]

theorem ofRecords_perm {rs ts : List BalancerRecord} (h : rs.Perm ts) :
    ofRecords rs = ofRecords ts :=
  h.foldl_eq' (fun r _ s _ t => add_right_comm t r s) empty

theorem ofRecords_requestsOf (rs : List BalancerRecord) :
    ofRecords (requestsOf rs) = ofRecords rs := by
  rw [requestsOf_eq, ofRecords_userJoined]

theorem spans_ofRecords (rs : List BalancerRecord) :
    Spans (requestsOf rs) (ofRecords rs).window := by
  induction rs using List.reverseRecOn with
  | nil => exact .nothing rfl
  | append_singleton rs r ih =>
    have hadd : ofRecords (rs ++ [r]) = (ofRecords rs).add r := by simp [ofRecords]
    by_cases hr : r.event = .userJoined
    · have hrequests : requestsOf (rs ++ [r]) = requestsOf rs ++ [r] := by simp [requestsOf, hr]
      rw [hadd, hrequests, add, if_pos hr]
      exact ih.concat r
    · have hrequests : requestsOf (rs ++ [r]) = requestsOf rs := by simp [requestsOf, hr]
      rw [hadd, hrequests, add, if_neg hr]
      exact ih

end BalancerTally

structure BalancerSummary.Describes (s : BalancerSummary) (requests : List BalancerRecord)
    (window : Option (Nanos × Nanos)) : Prop where
  totalRequests : s.totalRequests = requests.length
  noUserJoined_iff : s.condition = some .noUserJoined ↔ requests = []
  emptyWindow_iff : s.condition = some .emptyWindow ↔
    ∃ first last, window = some (first, last) ∧ last.toInt ≤ first.toInt
  throughput : ∀ first last, window = some (first, last) → first.toInt < last.toInt →
    s.condition = none ∧ ∃ length : Nanos, length.toInt = Nanos.clamp (last.toInt - first.toInt) ∧
      s.requestsPerSecond = Float.ofNat requests.length / (length.toFloat / 1e9)
  idle : s.condition ≠ none → s.requestsPerSecond = 0.0

theorem BalancerTally.describes_summary (e : Experiment) {t : BalancerTally}
    {requests : List BalancerRecord} (htotal : t.totalRequests = requests.length)
    (hspans : Spans requests t.window) : (t.summary e).Describes requests t.window := by
  obtain ⟨total, window⟩ := t
  subst htotal
  cases hspans with
  | nothing h =>
    subst h
    constructor <;> simp [summary, throughput]
  | window first last least greatest =>
    have hne : requests ≠ [] := by
      rintro rfl
      obtain ⟨r, hr, -⟩ := least.1
      cases hr
    by_cases hlt : first < last
    · have hint := Int64.lt_iff_toInt_lt.1 hlt
      constructor
      · rfl
      · simp [summary, throughput, hlt, hne]
      · simp only [summary, throughput, hlt, if_true, reduceCtorEq, Option.some.injEq, false_iff]
        rintro ⟨f, l, ⟨rfl, rfl⟩, hle⟩
        omega
      · rintro f l ⟨⟩ -
        refine ⟨by simp [summary, throughput, hlt], last.subClamped first,
          Nanos.toInt_subClamped _ _, ?_⟩
        simp [summary, throughput, hlt, seconds]
      · simp [summary, throughput, hlt]
    · have hint := mt Int64.lt_iff_toInt_lt.2 hlt
      constructor
      · rfl
      · simp [summary, throughput, hlt, hne]
      · simp only [summary, throughput, hlt, if_false, true_iff]
        exact ⟨first, last, rfl, by omega⟩
      · rintro f l ⟨⟩ hlt'
        exact absurd hlt' hint
      · simp [summary, throughput, hlt]

theorem summary_of_joined_users (e : Experiment) (rows : List (Row × BalancerRecord)) :
    let rs := rows.map Prod.snd
    Spans (requestsOf rs) (BalancerTally.ofRecords rs).window ∧
      (∃ s, (FileFold.ofBalancer e ⟨rows, none⟩).result = .ok (.summary (.balancer s)) ∧
        s.experiment = e ∧ s.Describes (requestsOf rs) (BalancerTally.ofRecords rs).window ∧
        ∀ others : List (Row × BalancerRecord),
          (requestsOf (others.map Prod.snd)).Perm (requestsOf rs) →
          (FileFold.ofBalancer e ⟨others, none⟩).result = .ok (.summary (.balancer s))) ∧
      ∀ front back, rs = front ++ back → BalancerTally.ofRecords rs =
        (BalancerTally.ofRecords front).join (BalancerTally.ofRecords back) := by
  intro rs
  have hspans := BalancerTally.spans_ofRecords rs
  refine ⟨hspans, ⟨(BalancerTally.ofRecords rs).summary e, ?_, rfl, ?_, ?_⟩, ?_⟩
  · exact result_ofBalancer e rfl
  · apply BalancerTally.describes_summary e _ hspans
    rw [totalRequests_ofRecords, requestsOf_eq]
  · intro others hperm
    rw [← BalancerTally.ofRecords_requestsOf rs, ← BalancerTally.ofRecords_perm hperm,
      BalancerTally.ofRecords_requestsOf]
    exact result_ofBalancer e rfl
  · intro front back hsplit
    rw [hsplit, BalancerTally.ofRecords_append]

end RateSweep
